import GuardedCnf.Proofs.Printing
import Mathlib.Algebra.GroupWithZero.Nat
/-! # Nesting — how many signs stand above each other

    A branch of an expression goes from its root to a leaf.  The limit of nesting
    bounds the negations on a branch and the implications on it, since an operand
    behind a negation and the parts of an implication come one level deeper,
    sooner or later.

    It does not bound the equivalences in the same way.  A chain of them is
    grouped to the left, so that all its signs come to stand above its first
    operand, but that operand has been read at the depth of the chain itself.
    If it is a chain in parentheses, it has the room of one level less, and not
    what the signs above it have left.  The bound on a branch is the sum of the
    rooms of all levels.  It is reached by a chain of the longest chains, each in
    parentheses at the front of the one around it. -/

namespace GuardedCnf

open Reader (maxNesting)

/-! ## Branches. -/

/-- What an expression can have at an inner node. -/
inductive Connective where
  | not
  | and
  | or
  | implies
  | iff
  deriving DecidableEq

/-- The connective of operands with a joint between them. -/
def Joint.connective : Joint → Connective
  | .and => .and
  | .or => .or
  | .iff => .iff

namespace Expr

/-- The connectives on a way from the root of an expression to a leaf. -/
inductive Branch : Expr → List Connective → Prop where
  | const (b : Bool) : Branch (.const b) []
  | var (name : String) : Branch (.var name) []
  | not {e : Expr} {p : List Connective} (below : Branch e p) : Branch (.not e) (.not :: p)
  | noConjunct : Branch (.and []) [.and]
  | conjunct {e : Expr} {es : List Expr} {p : List Connective} (he : e ∈ es)
      (below : Branch e p) : Branch (.and es) (.and :: p)
  | noDisjunct : Branch (.or []) [.or]
  | disjunct {e : Expr} {es : List Expr} {p : List Connective} (he : e ∈ es)
      (below : Branch e p) : Branch (.or es) (.or :: p)
  | premise {a b : Expr} {p : List Connective} (below : Branch a p) :
      Branch (.implies a b) (.implies :: p)
  | conclusion {a b : Expr} {p : List Connective} (below : Branch b p) :
      Branch (.implies a b) (.implies :: p)
  | left {a b : Expr} {p : List Connective} (below : Branch a p) :
      Branch (.iff a b) (.iff :: p)
  | right {a b : Expr} {p : List Connective} (below : Branch b p) :
      Branch (.iff a b) (.iff :: p)

namespace Branch

variable {e : Expr} {es : List Expr} {p : List Connective} {j : Joint}

/-- A name has no branches. -/
theorem eq_nil_of_ofName {s : String} (h : (Reader.ofName s).Branch p) : p = [] := by
  unfold Reader.ofName at h
  split at h
  · cases h
    rfl
  · split at h
    · cases h
      rfl
    · cases h
      rfl

/-- The branches that begin with signs of a chain and go on below one of its
    operands.  All signs of a chain of equivalences can be on a branch, but only
    one of another chain. -/
inductive ThroughChain (j : Joint) (e : Expr) (es : List Expr) : List Connective → Prop where
  | intro {member : Expr} {below : List Connective} (signs : Nat) (mem : member ∈ e :: es)
      (branch : member.Branch below) (signs_le : signs ≤ es.length)
      (one_sign : j ≠ .iff → signs ≤ 1) :
      ThroughChain j e es (List.replicate signs j.connective ++ below)

/-- An operand that is alone has no sign above it. -/
theorem throughSingle (h : e.Branch p) : ThroughChain j e [] p :=
  .intro 0 (List.mem_singleton_self e) h (Nat.le_refl 0) fun _ => Nat.zero_le 1

/-- A branch of a chain of equivalences goes through some of its signs and an operand.
    -/
theorem throughEquivalences (h : (es.foldl .iff e).Branch p) : ThroughChain .iff e es p := by
  induction es generalizing e with
  | nil => exact throughSingle h
  | cons e' es ih =>
      obtain ⟨signs, hmem, hbelow, hsigns, -⟩ := ih h
      have hother : Joint.iff ≠ .iff → signs + 1 ≤ 1 := fun h => absurd rfl h
      rcases List.mem_cons.mp hmem with rfl | hmem
      -- What the further operands are folded onto is the sign between the first two.
      · have hrepeat (q : List Connective) : List.replicate signs Joint.iff.connective ++ .iff :: q
            = List.replicate (signs + 1) Joint.iff.connective ++ q := by
          rw [List.replicate_succ', List.append_assoc]
          rfl
        have hlength : signs + 1 ≤ (e' :: es).length := Nat.succ_le_succ hsigns
        cases hbelow with
        | left hbelow =>
            rw [hrepeat]
            exact .intro _ (List.mem_cons_self ..) hbelow hlength hother
        | right hbelow =>
            rw [hrepeat]
            exact .intro _ (List.mem_cons_of_mem _ (List.mem_cons_self ..)) hbelow hlength hother
      · have hmem' := List.mem_cons_of_mem e (List.mem_cons_of_mem e' hmem)
        exact .intro signs hmem' hbelow (Nat.le_succ_of_le hsigns) fun h => absurd rfl h

/-- A branch of a chain goes on below one of its operands. -/
theorem throughChain (h : (j.node e es).Branch p) : ThroughChain j e es p := by
  have hone (es : List Expr) (e' : Expr) : 1 ≤ (e' :: es).length := Nat.succ_le_succ (Nat.zero_le _)
  cases j with
  | iff => exact throughEquivalences h
  | and =>
      cases es with
      | nil => exact throughSingle h
      | cons e' es =>
          cases h with
          | conjunct hmem hbelow => exact .intro 1 hmem hbelow (hone es e') fun _ => Nat.le_refl 1
  | or =>
      cases es with
      | nil => exact throughSingle h
      | cons e' es =>
          cases h with
          | disjunct hmem hbelow => exact .intro 1 hmem hbelow (hone es e') fun _ => Nat.le_refl 1

end Branch

end Expr

/-! ## Capacities. -/

/-- What a level of nesting has to have room for, when a branch has at most so
    many of a connective in a phrase at a depth. -/
structure Capacity (c : Connective) (limit : Nat) (most : Phrase → Nat → Nat) : Prop where
  not : ∀ depth < limit, [Connective.not].count c + most .operand (depth + 1) ≤ most .operand depth
  parentheses : ∀ depth < limit, most (.chain .iff) (depth + 1) ≤ most .operand depth
  disjunction : ∀ depth, most (.chain .or) depth ≤ most .implication depth
  premise : ∀ depth < limit,
    [Connective.implies].count c + most (.chain .or) depth ≤ most .implication depth
  conclusion : ∀ depth < limit,
    [Connective.implies].count c + most .implication (depth + 1) ≤ most .implication depth
  chain : ∀ j depth signs, (j = .iff → depth + signs ≤ limit) → (j ≠ .iff → signs ≤ 1) →
    (List.replicate signs j.connective).count c + most j.operand depth ≤ most (.chain j) depth

namespace Derivation

variable {c : Connective} {limit depth : Nat} {most : Phrase → Nat → Nat} {cs rest : List Char}

/-- What is within the limit begins within it. -/
theorem depth_le {p : Phrase} {cs rest : List Char} {e : Expr} {depth : Nat} :
    (d : Derivation (.phrase p) cs rest e) → d.Admissible limit depth → depth ≤ limit
  | .name _, h => h
  | .not _ _, h => h.1
  | .parentheses _ _ _, h => h.1
  | .disjunction d, h => d.depth_le h
  | .implies premise _ _, h => premise.depth_le h.1
  | .chain _ first _, h => first.depth_le h.1

/-- The branches of what a part at a depth stands for have at most so many of a
    connective. -/
def Bounded (c : Connective) (most : Phrase → Nat → Nat) (depth : Nat) :
    (p : Part) → p.Meaning → Prop
  | .phrase p, e => ∀ q, e.Branch q → q.count c ≤ most p depth
  | .further j, es => ∀ e ∈ es, ∀ q, e.Branch q → q.count c ≤ most j.operand depth

/-- What a branch has is in front of a place, or behind it. -/
theorem count_append_le {signs p : List Connective} {a b : Nat} (hsigns : signs.count c + a ≤ b)
    (hp : p.count c ≤ a) : (signs ++ p).count c ≤ b := by
  rw [List.count_append]
  omega

/-- **BRANCHES STAY WITHIN CAPACITIES** wherever a derivation stays within the
    limit. -/
theorem bounded (hmost : Capacity c limit most) {p : Part} {m : p.Meaning}
    (d : Derivation p cs rest m) (h : d.Admissible limit depth) : Bounded c most depth p m := by
  induction d generalizing depth with
  | name lexeme =>
      intro q hq
      rw [hq.eq_nil_of_ofName]
      exact Nat.zero_le _
  | not sign negated ih =>
      intro q hq
      have hlevel := hmost.not depth (negated.depth_le h.2)
      cases hq with
      | not hq => exact count_append_le hlevel (ih h.2 _ hq)
  | parentheses opening inner closing ih =>
      intro q hq
      exact Nat.le_trans (ih h.2 q hq) (hmost.parentheses depth (inner.depth_le h.2))
  | disjunction alone ih =>
      intro q hq
      exact Nat.le_trans (ih h q hq) (hmost.disjunction depth)
  | implies premise sign conclusion ih ih' =>
      intro q hq
      have hbelow := conclusion.depth_le h.2
      cases hq with
      | premise hq => exact count_append_le (hmost.premise depth hbelow) (ih h.1 _ hq)
      | conclusion hq => exact count_append_le (hmost.conclusion depth hbelow) (ih' h.2 _ hq)
  | chain j first others ih ih' =>
      intro q hq
      obtain ⟨signs, hmem, hbelow, hsigns, hone⟩ := hq.throughChain
      -- The operand has been read at this depth, not at that below the signs.
      have hmember := List.forall_mem_cons.mpr ⟨ih h.1, ih' h.2.1⟩ _ hmem _ hbelow
      have hroom (hj : j = .iff) : depth + signs ≤ limit := by
        have hall := h.2.2 hj
        omega
      exact count_append_le (hmost.chain j depth signs hroom hone) hmember
  | done j cs => exact fun e he => nomatch he
  | more sign next others ih ih' =>
      exact List.forall_mem_cons.mpr ⟨ih h.1, ih' h.2⟩

end Derivation

/-- The signs of chains are no others. -/
theorem Joint.count_signs {c : Connective} (j : Joint) (signs : Nat) (h : j.connective ≠ c) :
    (List.replicate signs j.connective).count c = 0 :=
  List.count_eq_zero.mpr fun hmem => h (List.eq_of_mem_replicate hmem).symm

/-- Negations take a level each. -/
theorem capacity_not (limit : Nat) : Capacity .not limit fun _ depth => limit - depth where
  not depth hdepth := by
    rw [List.count_singleton_self]
    omega
  parentheses depth _ := by omega
  disjunction _ := Nat.le_refl _
  premise depth _ := Nat.le_of_eq (Nat.zero_add _)
  conclusion depth _ := by
    show 0 + _ ≤ _
    omega
  chain j depth signs _ _ := by
    rw [j.count_signs signs (by cases j <;> decide)]
    omega

/-- How many implications there can be: a phrase that is not an implication
    itself has them in parentheses only. -/
def mostImplications (limit : Nat) : Phrase → Nat → Nat
  | .implication, depth => limit - depth
  | .chain .iff, depth => limit - depth
  | _, depth => limit - (depth + 1)

/-- Implications take a level each. -/
theorem capacity_implies (limit : Nat) : Capacity .implies limit (mostImplications limit) where
  not depth _ := by
    show 0 + (limit - (depth + 1 + 1)) ≤ limit - (depth + 1)
    omega
  parentheses depth _ := Nat.le_refl _
  disjunction depth := by
    show limit - (depth + 1) ≤ limit - depth
    omega
  premise depth hdepth := by
    show 1 + (limit - (depth + 1)) ≤ limit - depth
    omega
  conclusion depth hdepth := by
    show 1 + (limit - (depth + 1)) ≤ limit - depth
    omega
  chain j depth signs _ _ := by
    rw [j.count_signs signs (by cases j <;> decide), Nat.zero_add]
    cases j <;> exact Nat.le_refl _

/-- The numbers down from one to 1: the lengths of the longest chains when each
    is in parentheses at the front of the one before. -/
def countdown : Nat → List Nat
  | 0 => []
  | n + 1 => (n + 1) :: countdown n

/-- The numbers from n down to 1 have the sum of Gauss. -/
theorem sum_countdown (n : Nat) : (countdown n).sum = n * (n + 1) / 2 := by
  have hdouble : 2 * (countdown n).sum = n * (n + 1) := by
    induction n with
    | zero => rfl
    | succ n ih =>
        rw [countdown, List.sum_cons, Nat.mul_add, ih, ← Nat.add_mul, Nat.add_comm 2,
          Nat.mul_comm]
  omega

/-- How many equivalences there can be: a phrase that is no chain of them has
    them in parentheses only. -/
def mostEquivalences (limit : Nat) : Phrase → Nat → Nat
  | .chain .iff, depth => (countdown (limit - depth)).sum
  | _, depth => (countdown (limit - (depth + 1))).sum

/-- One level down there is less room by one chain. -/
theorem sum_countdown_level {limit depth signs : Nat} (h : depth + signs ≤ limit) :
    signs + (countdown (limit - (depth + 1))).sum ≤ (countdown (limit - depth)).sum := by
  rcases Nat.eq_or_lt_of_le (Nat.le_of_add_right_le h) with rfl | hlt
  · have hnone : signs = 0 := by omega
    have hroom : depth - (depth + 1) = depth - depth := by omega
    rw [hnone, hroom, Nat.zero_add]
  · have hroom : limit - depth = limit - (depth + 1) + 1 := by omega
    rw [hroom, countdown, List.sum_cons]
    omega

/-- A chain of equivalences takes what is left of the limit, and leaves to its
    operands all that is left one level down. -/
theorem capacity_iff (limit : Nat) : Capacity .iff limit (mostEquivalences limit) where
  not depth hdepth := sum_countdown_level hdepth
  parentheses depth _ := Nat.le_refl _
  disjunction depth := Nat.le_refl _
  premise depth _ := Nat.le_of_eq (Nat.zero_add _)
  conclusion depth hdepth := sum_countdown_level hdepth
  chain j depth signs hlimit _ := by
    rw [List.count_replicate]
    cases j with
    | and => exact Nat.le_of_eq (Nat.zero_add _)
    | or => exact Nat.le_of_eq (Nat.zero_add _)
    | iff => exact sum_countdown_level (hlimit rfl)

/-! ## Chains at the front of chains. -/

/-- The signs of so many further operands of a chain, which are all the same
    name. -/
def furtherText (n : Nat) : List Char :=
  (List.replicate n (Joint.iff.operator ++ "a").toList).flatten

/-- Chains with so many signs, each in parentheses at the front of the one
    before. -/
def chainsText : List Nat → List Char
  | [] => "a".toList
  | n :: ns => '(' :: (chainsText ns ++ ')' :: furtherText n)

/-- The expression of chains at the front of chains. -/
def Expr.chains : List Nat → Expr
  | [] => Reader.ofName "a"
  | n :: ns => (List.replicate n (Reader.ofName "a")).foldl .iff (chains ns)

/-- Whether each chain has the room that is left at its depth. -/
def ChainsFit (limit : Nat) : Nat → List Nat → Prop
  | depth, [] => depth ≤ limit
  | depth, n :: ns => depth + n ≤ limit ∧ ChainsFit limit (depth + 1) ns


/-- The name as an operand of a chain of equivalences. -/
theorem derivable_a {limit depth : Nat} {rest : List Char} (hdepth : depth ≤ limit)
    (hrest : ∀ c ∈ rest.head?, Token.isNameChar c = false) :
    Derivable limit depth (.phrase .implication) ("a".toList ++ rest) rest
      (Reader.ofName "a") := by
  have hname : ∀ c ∈ "a".toList, Token.isNameChar c = true :=
    List.forall_mem_singleton.mpr rfl
  exact (Derivable.name (by decide) hname hrest hdepth).operandOf .iff hdepth

/-- The operands after the first of a chain of names. -/
theorem derivable_furtherText {limit depth : Nat} {rest : List Char} (n : Nat)
    (hdepth : depth ≤ limit) (hrest : ∀ c ∈ rest.head?, Token.isNameChar c = false) :
    Derivable limit depth (.further .iff) (furtherText n ++ rest) rest
      (List.replicate n (Reader.ofName "a")) := by
  induction n with
  | zero => exact ⟨.done .iff rest, trivial⟩
  | succ n ih =>
      have hfollows : ∀ c ∈ (furtherText n ++ rest).head?, Token.isNameChar c = false := by
        cases n with
        | zero => exact hrest
        | succ n =>
            rintro c ⟨⟩
            rfl
      obtain ⟨next, hnext⟩ := derivable_a hdepth hfollows
      obtain ⟨others, hothers⟩ := ih
      exact ⟨.more (Joint.iff.lexeme _) next others, hnext, hothers⟩

/-- Chains within chains are derived from the inside out. -/
theorem derivable_chainsText {limit depth : Nat} {ns : List Nat} {rest : List Char}
    (h : ChainsFit limit depth ns) (hrest : ∀ c ∈ rest.head?, Token.isNameChar c = false) :
    Derivable limit depth (.phrase (.chain .iff)) (chainsText ns ++ rest) rest
      (Expr.chains ns) := by
  induction ns generalizing depth rest with
  | nil => exact (derivable_a h hrest).single (j := .iff) h
  | cons n ns ih =>
      obtain ⟨hroom, hbelow⟩ := h
      have hdepth : depth ≤ limit := Nat.le_of_add_right_le hroom
      have htext : chainsText (n :: ns) ++ rest
          = '(' :: (chainsText ns ++ ')' :: (furtherText n ++ rest)) := by
        rw [chainsText, List.cons_append, List.append_assoc, List.cons_append]
      -- a closing parenthesis follows the inner chains
      have hclosing : ∀ c ∈ (')' :: (furtherText n ++ rest)).head?, Token.isNameChar c = false := by
        rintro c ⟨⟩
        rfl
      have hinner := ih hbelow hclosing
      obtain ⟨first, hfirst⟩ := (hinner.parentheses hdepth).operandOf .iff hdepth
      obtain ⟨others, hothers⟩ := derivable_furtherText n hdepth hrest
      rw [htext]
      refine ⟨.chain .iff first others, hfirst, hothers, fun _ => ?_⟩
      rw [List.length_replicate]
      exact hroom

/-- Each chain within another one has one sign less, as the check of its depth wants it.
    -/
theorem chainsFit_countdown {limit depth n : Nat} (h : depth + n ≤ limit) :
    ChainsFit limit depth (countdown n) := by
  induction n generalizing depth with
  | zero => exact h
  | succ n ih => exact ⟨h, ih (by omega)⟩

namespace Expr

variable {line : List Char} {e : Expr}

/-- The first operand of a chain of equivalences lies below all its signs. -/
theorem Branch.ofEquivalences {es : List Expr} {p : List Connective} (h : e.Branch p) :
    (es.foldl .iff e).Branch (List.replicate es.length .iff ++ p) := by
  induction es generalizing e p with
  | nil => exact h
  | cons e' es ih =>
      have hbranch := ih (h.left (b := e'))
      rw [List.length_cons, List.replicate_succ', List.append_assoc]
      exact hbranch

/-- The signs of all chains stand above the name in the innermost parentheses. -/
theorem branch_chains (ns : List Nat) : (chains ns).Branch (List.replicate ns.sum .iff) := by
  induction ns with
  | nil => exact .var "a"
  | cons n ns ih =>
      have hbranch : (chains (n :: ns)).Branch
          (List.replicate (List.replicate n (Reader.ofName "a")).length .iff ++
            List.replicate ns.sum .iff) := ih.ofEquivalences
      rw [List.length_replicate, List.replicate_append_replicate] at hbranch
      exact hbranch

/-- **CHAINS AT THE FRONT OF CHAINS ARE READ** when each has the room that is
    left at its depth, whatever the signs above it are. -/
theorem ofLine_chainsText {ns : List Nat} (h : ChainsFit maxNesting 0 ns) :
    Expr.ofLine (chainsText ns) = .ok (chains ns) := by
  have hderivable : Derivable maxNesting 0 (.phrase (.chain .iff)) (chainsText ns ++ []) []
      (chains ns) := derivable_chainsText h fun c hc => nomatch hc
  rw [List.append_nil] at hderivable
  obtain ⟨d, hd⟩ := hderivable
  exact Expr.ofLine_of_admissible d hd

/-! ## The bounds. -/

/-- **NESTING IS BOUNDED**.  On every branch of an expression that has been read,
    there are no more negations than the limit of nesting, and no more
    implications.  There are no more equivalences than the longest chains at the
    front of each other have together. -/
theorem nesting_is_bounded (h : Expr.ofLine line = .ok e) :
    ∀ p, e.Branch p →
      p.count .not ≤ maxNesting ∧ p.count .implies ≤ maxNesting ∧
        p.count .iff ≤ maxNesting * (maxNesting + 1) / 2 := by
  obtain ⟨d, hd⟩ := exists_admissible_of_ofLine h
  intro p hp
  have hiff := d.bounded (capacity_iff maxNesting) hd p hp
  refine ⟨d.bounded (capacity_not maxNesting) hd p hp,
    d.bounded (capacity_implies maxNesting) hd p hp, ?_⟩
  rw [← sum_countdown]
  exact hiff

/-- The bound on equivalences is reached on the line of the longest chains. -/
theorem nesting_is_bounded_countdown :
    Expr.ofLine (chainsText (countdown 128)) = .ok (chains (countdown 128)) ∧
      ∃ p, (chains (countdown 128)).Branch p ∧ p.count .not ≤ 128 ∧ p.count .implies ≤ 128 ∧
        p.count .iff ≤ 8256 ∧ p.count .iff = 8256 := by
  have hread := ofLine_chainsText (chainsFit_countdown (n := 128) (Nat.le_refl maxNesting))
  have hbranch := branch_chains (countdown 128)
  obtain ⟨hnot, himplies, hiff⟩ := nesting_is_bounded hread _ hbranch
  refine ⟨hread, _, hbranch, hnot, himplies, hiff, ?_⟩
  rw [List.count_replicate_self, sum_countdown]

/-- The limit of nesting does not bound the equivalences: a chain of 65 signs in
    parentheses, at the front of one of 64 signs, is read. -/
theorem equivalences_exceed_limit :
    ¬∀ (line : List Char) (e : Expr), Expr.ofLine line = .ok e → ∀ p, e.Branch p →
      p.count .not ≤ maxNesting ∧ p.count .implies ≤ maxNesting ∧ p.count .iff ≤ maxNesting := by
  intro h
  have hfit : ChainsFit maxNesting 0 [64, 65] :=
    ⟨by decide, by decide, show 2 ≤ maxNesting by decide⟩
  obtain ⟨-, -, hle⟩ := h _ _ (ofLine_chainsText hfit) _ (branch_chains [64, 65])
  rw [List.count_replicate_self] at hle
  exact absurd hle (by decide)

end Expr

end GuardedCnf
