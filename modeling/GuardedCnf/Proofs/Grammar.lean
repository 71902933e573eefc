import GuardedCnf.Expression.Reader
import GuardedCnf.Proofs.Lexemes
/-! # Grammar — the lines that are expressions

    A line is read as a chain of equivalences, whose operands are implications,
    whose premises are disjunctions of conjunctions of operands.  A derivation
    says how a text is made up in this way, and which expression it stands for.
    It has no bound on how deep it nests; a line is accepted if its derivation
    stays within the bound.

    The reader is compared with derivations in both directions.  A derivation
    within the bound is read as its expression, and one beyond it is refused as
    too deep: this goes by induction on the derivation, where the reader has to
    be kept from taking more than the derivation has.  What a reader takes has a
    derivation within the bound: this goes level by level. -/

namespace GuardedCnf

open Token (Lexeme Trimmed ofText)

/-! ## Derivations. -/

/-- What joins any number of operands. -/
inductive Joint where
  | and
  | or
  | iff

/-- What a piece of text can be, apart from being a line. -/
inductive Phrase where
  /-- A name, a negation or an expression in parentheses. -/
  | operand
  /-- A disjunction, or an implication with a disjunction as premise. -/
  | implication
  /-- Operands with a joint between them. -/
  | chain (j : Joint)

namespace Joint

/-- The token of a joint. -/
def sign : Joint → Token
  | .and => .and
  | .or => .or
  | .iff => .iff

/-- What is joined. -/
def operand : Joint → Phrase
  | .and => .operand
  | .or => .chain .and
  | .iff => .implication

/-- Operands as one node, unless there is just one. -/
def flat (node : List Expr → Expr) (e : Expr) : List Expr → Expr
  | [] => e
  | e' :: es => node (e :: e' :: es)

/-- The expression of joined operands, where equivalences are grouped to the
    left. -/
def node : Joint → Expr → List Expr → Expr
  | .and => flat .and
  | .or => flat .or
  | .iff => List.foldl .iff

end Joint

/-- What is derived: a phrase, or the operands after the first of a chain. -/
inductive Part where
  | phrase (p : Phrase)
  | further (j : Joint)

/-- What a part stands for. -/
@[reducible] def Part.Meaning : Part → Type
  | .phrase _ => Expr
  | .further _ => List Expr

/-- A derivation of a part from the front of a text, which leaves a rest. -/
inductive Derivation : (p : Part) → List Char → List Char → p.Meaning → Type where
  | name {cs rest : List Char} {s : String} (lexeme : Lexeme (.name s) cs rest) :
      Derivation (.phrase .operand) cs rest (Reader.ofName s)
  | not {cs start rest : List Char} {e : Expr} (sign : Lexeme .not cs start)
      (negated : Derivation (.phrase .operand) start rest e) :
      Derivation (.phrase .operand) cs rest (.not e)
  | parentheses {cs start stop rest : List Char} {e : Expr} (opening : Lexeme .opening cs start)
      (inner : Derivation (.phrase (.chain .iff)) start stop e)
      (closing : Lexeme .closing stop rest) : Derivation (.phrase .operand) cs rest e
  | disjunction {cs rest : List Char} {e : Expr}
      (alone : Derivation (.phrase (.chain .or)) cs rest e) :
      Derivation (.phrase .implication) cs rest e
  | implies {cs stop start rest : List Char} {a b : Expr}
      (premise : Derivation (.phrase (.chain .or)) cs stop a) (sign : Lexeme .implies stop start)
      (conclusion : Derivation (.phrase .implication) start rest b) :
      Derivation (.phrase .implication) cs rest (.implies a b)
  | chain {cs stop rest : List Char} {e : Expr} {es : List Expr} (j : Joint)
      (first : Derivation (.phrase j.operand) cs stop e)
      (others : Derivation (.further j) stop rest es) :
      Derivation (.phrase (.chain j)) cs rest (j.node e es)
  | done (j : Joint) (cs : List Char) : Derivation (.further j) cs cs []
  | more {cs start stop rest : List Char} {e : Expr} {es : List Expr} {j : Joint}
      (sign : Lexeme j.sign cs start) (next : Derivation (.phrase j.operand) start stop e)
      (others : Derivation (.further j) stop rest es) :
      Derivation (.further j) cs rest (e :: es)

namespace Derivation

/-- Whether a derivation at some depth stays within a limit.  Parentheses,
    negations and the conclusions of implications are one deeper, and a chain of
    equivalences needs room for its signs. -/
def Admissible (limit : Nat) {p : Part} {cs rest : List Char} {m : p.Meaning} :
    Derivation p cs rest m → Nat → Prop
  | .name _, depth => depth ≤ limit
  | .not _ e, depth => depth ≤ limit ∧ e.Admissible limit (depth + 1)
  | .parentheses _ e _, depth => depth ≤ limit ∧ e.Admissible limit (depth + 1)
  | .disjunction e, depth => e.Admissible limit depth
  | .implies a _ b, depth => a.Admissible limit depth ∧ b.Admissible limit (depth + 1)
  | @chain _ _ _ _ es j e others, depth =>
      e.Admissible limit depth ∧ others.Admissible limit depth ∧
        (j = .iff → depth + es.length ≤ limit)
  | .done _ _, _ => True
  | .more _ e others, depth => e.Admissible limit depth ∧ others.Admissible limit depth

end Derivation

/-! ## The readers at a depth. -/

namespace Reader

/-- The reader of a level for a phrase. -/
def Level.phrase (l : Level) : Phrase → Reader
  | .operand => l.operand
  | .implication => l.implication
  | .chain .and => Reader.chain l.operand .and .and
  | .chain .or => Reader.chain (Reader.chain l.operand .and .and) .or .or
  | .chain .iff => l.equivalence

/-- The readers that are left at a depth, when nesting has a limit. -/
def atDepth (limit depth : Nat) : Level := level (limit + 1 - depth)

variable {limit depth : Nat}

theorem atDepth_of_lt (h : limit < depth) : atDepth limit depth = level 0 := by
  rw [atDepth, Nat.sub_eq_zero_of_le h]

/-- Within the limit a level is made of the level below it, which is the one a step
    deeper. -/
theorem atDepth_of_le (h : depth ≤ limit) :
    atDepth limit depth =
      ⟨operandAbove (atDepth limit (depth + 1)),
        implicationAbove (operandAbove (atDepth limit (depth + 1)))
          (atDepth limit (depth + 1)).implication,
        equivalenceOf (implicationAbove (operandAbove (atDepth limit (depth + 1)))
          (atDepth limit (depth + 1)).implication) (limit + 1 - depth)⟩ := by
  have hroom : limit + 1 - depth = limit + 1 - (depth + 1) + 1 := by omega
  rw [atDepth, atDepth, hroom]
  rfl

/-- The reader of operands goes to the level below for what stands behind a sign or in
    parentheses. -/
theorem operand_atDepth (h : depth ≤ limit) :
    (atDepth limit depth).operand = operandAbove (atDepth limit (depth + 1)) := by
  rw [atDepth_of_le h]

/-- Beyond the limit no operand is read, whatever the tokens are. -/
theorem operand_atDepth_of_lt (h : limit < depth) (ts : List Token) :
    (atDepth limit depth).operand ts = .tooDeep := by
  rw [atDepth_of_lt h]
  rfl

/-- Beyond the limit everything is too deep, as it is for the readers that are
    made of one that finds everything too deep. -/
theorem implication_atDepth (limit depth : Nat) :
    (atDepth limit depth).implication =
      implicationAbove (atDepth limit depth).operand (atDepth limit (depth + 1)).implication := by
  rcases Nat.lt_or_ge limit depth with h | h
  · rw [atDepth_of_lt h]
    rfl
  · rw [atDepth_of_le h]

/-- The reader of equivalences stays at its depth for their operands; only their number
    is bounded by the room. -/
theorem equivalence_atDepth (limit depth : Nat) :
    (atDepth limit depth).equivalence =
      equivalenceOf (atDepth limit depth).implication (limit + 1 - depth) := by
  rcases Nat.lt_or_ge limit depth with h | h
  · rw [atDepth_of_lt h]
    rfl
  · rw [atDepth_of_le h]

/-- A reading is what it should be of a text that begins with an expression: the
    expression when this is admissible, and too deep when not. -/
structure Outcome (admissible : Prop) (e : Expr) (rest : List Token) (r : Reading) : Prop where
  read : admissible → r = .read e rest
  refused : ¬admissible → r = .tooDeep

/-- The same of the operands after the first of a chain. -/
structure Outcomes (admissible : Prop) (es : List Expr) (rest : List Token)
    (r : Option (List Expr × List Token)) : Prop where
  read : admissible → r = some (es, rest)
  refused : ¬admissible → r = none

/-! ## Chains. -/

variable {p q : Prop} {operand : Reader} {sign : Token} {ts middle rest : List Token} {e : Expr}
  {es : List Expr}

theorem Outcome.congr {r : Reading} (h : Outcome p e rest r) (hpq : q ↔ p) :
    Outcome q e rest r :=
  ⟨fun hq => h.read (hpq.mp hq), fun hq => h.refused fun hp => hq (hpq.mpr hp)⟩

/-- The operands of a chain end before a token that is not its sign, however many were
    still allowed. -/
theorem Outcomes.nil (operand : Reader) {n : Nat} (h : ts.head? ≠ some sign) :
    Outcomes True [] ts (operands operand sign n ts) := by
  refine ⟨fun _ => ?_, fun hfalse => absurd trivial hfalse⟩
  cases n with
  | zero => rfl
  | succ n =>
      cases ts with
      | nil => rfl
      | cons t ts => exact if_neg fun ht => h (congrArg some ht)

/-- The sign and an operand come before the operands after them, and all have to be
    admissible. -/
theorem Outcomes.cons {n : Nat} (hfirst : Outcome p e middle (operand ts))
    (hothers : Outcomes q es rest (operands operand sign n middle)) :
    Outcomes (p ∧ q) (e :: es) rest (operands operand sign (n + 1) (sign :: ts)) := by
  rw [operands, if_pos rfl]
  by_cases hp : p
  · rw [hfirst.read hp]
    refine ⟨fun h => ?_, fun h => ?_⟩
    · simp only [hothers.read h.2, Option.map_some]
    · simp only [hothers.refused fun hq => h ⟨hp, hq⟩, Option.map_none]
  · rw [hfirst.refused hp]
    exact ⟨fun h => absurd h.1 hp, fun _ => rfl⟩

/-- A chain is read from its first operand and the others; an operand that nests too
    deep makes the chain too deep. -/
theorem Outcome.chain (node : List Expr → Expr) (hfirst : Outcome p e middle (operand ts))
    (hothers : Outcomes q es rest (operands operand sign middle.length middle)) :
    Outcome (p ∧ q) (Joint.flat node e es) rest (chain operand sign node ts) := by
  unfold Reader.chain
  by_cases hp : p
  · rw [hfirst.read hp]
    refine ⟨fun h => ?_, fun h => ?_⟩
    · simp only [hothers.read h.2]
      cases es <;> rfl
    · simp only [hothers.refused fun hq => h ⟨hp, hq⟩]
  · rw [hfirst.refused hp]
    exact ⟨fun h => absurd h.1 hp, fun _ => rfl⟩

/-- A chain of equivalences needs fewer signs than there is room besides. -/
theorem Outcome.equivalence (room : Nat) (hfirst : Outcome p e middle (operand ts))
    (hothers : Outcomes q es rest (operands operand .iff middle.length middle)) :
    Outcome (p ∧ q ∧ es.length < room) (es.foldl .iff e) rest
      (equivalenceOf operand room ts) := by
  unfold equivalenceOf
  by_cases hp : p
  · rw [hfirst.read hp]
    by_cases hq : q
    · simp only [hothers.read hq]
      refine ⟨fun h => if_neg (Nat.not_le.mpr h.2.2), fun h => if_pos ?_⟩
      exact Nat.le_of_not_lt fun hlt => h ⟨hp, hq, hlt⟩
    · simp only [hothers.refused hq]
      exact ⟨fun h => absurd h.2.1 hq, fun _ => rfl⟩
  · rw [hfirst.refused hp]
    exact ⟨fun h => absurd h.1 hp, fun _ => rfl⟩

/-- A chain at a depth is read from its first operand and the others. -/
theorem Outcome.chain_atDepth (j : Joint)
    (hfirst : Outcome p e middle ((atDepth limit depth).phrase j.operand ts))
    (hothers : Outcomes q es rest
      (operands ((atDepth limit depth).phrase j.operand) j.sign middle.length middle)) :
    Outcome (p ∧ q ∧ (j = .iff → depth + es.length ≤ limit)) (j.node e es) rest
      ((atDepth limit depth).phrase (.chain j) ts) := by
  cases j with
  | and => exact (hfirst.chain .and hothers).congr (by simp)
  | or => exact (hfirst.chain .or hothers).congr (by simp)
  | iff =>
      have hequivalence := hfirst.equivalence (limit + 1 - depth) hothers
      have hroom : es.length < limit + 1 - depth ↔ depth + es.length ≤ limit := by omega
      have heq : (atDepth limit depth).phrase (.chain .iff) ts =
          equivalenceOf ((atDepth limit depth).phrase .implication) (limit + 1 - depth) ts :=
        congrFun (equivalence_atDepth limit depth) ts
      rw [heq]
      exact hequivalence.congr (by simp [hroom])

/-! ## Operands. -/

/-- An operand needs its depth to be within the limit, and then is what the level below
    makes of it. -/
theorem Outcome.operand_atDepth
    (h : depth ≤ limit → Outcome p e rest (operandAbove (atDepth limit (depth + 1)) ts)) :
    Outcome (depth ≤ limit ∧ p) e rest ((atDepth limit depth).phrase .operand ts) := by
  show Outcome _ _ _ ((atDepth limit depth).operand ts)
  rcases Nat.lt_or_ge limit depth with hlt | hle
  · rw [operand_atDepth_of_lt hlt]
    exact ⟨fun hp => absurd hp.1 (Nat.not_le.mpr hlt), fun _ => rfl⟩
  · rw [Reader.operand_atDepth hle]
    exact (h hle).congr (and_iff_right hle)

/-- A name is an operand that nests nothing. -/
theorem Outcome.name (below : Level) (s : String) (ts : List Token) :
    Outcome True (ofName s) ts (operandAbove below (.name s :: ts)) :=
  ⟨fun _ => rfl, fun h => absurd trivial h⟩

/-- A negation is admissible as the operand behind its sign is. -/
theorem Outcome.not {below : Level} (h : Outcome p e rest (below.operand ts)) :
    Outcome p (.not e) rest (operandAbove below (.not :: ts)) := by
  unfold operandAbove
  refine ⟨fun hp => ?_, fun hp => ?_⟩
  · simp only [h.read hp]
  · simp only [h.refused hp]

/-- An expression in parentheses is the equivalence before the closing one. -/
theorem Outcome.parentheses {below : Level}
    (h : Outcome p e (.closing :: rest) (below.equivalence ts)) :
    Outcome p e rest (operandAbove below (.opening :: ts)) := by
  unfold operandAbove
  refine ⟨fun hp => ?_, fun hp => ?_⟩
  · simp only [h.read hp]
  · simp only [h.refused hp]

/-! ## Implications. -/

/-- The implications of a depth, by the readers of operands there and of conclusions one
    deeper. -/
theorem Outcome.implication_atDepth
    (h : Outcome p e rest (implicationAbove (atDepth limit depth).operand
      (atDepth limit (depth + 1)).implication ts)) :
    Outcome p e rest ((atDepth limit depth).phrase .implication ts) := by
  rw [← Reader.implication_atDepth] at h
  exact h

/-- A disjunction before no arrow is read as itself. -/
theorem Outcome.disjunction {l : Level} {conclusion : Reader}
    (h : Outcome p e rest (l.phrase (.chain .or) ts)) (hrest : rest.head? ≠ some .implies) :
    Outcome p e rest (implicationAbove l.operand conclusion ts) := by
  have hchain : l.phrase (.chain .or) ts =
      Reader.chain (Reader.chain l.operand .and .and) .or .or ts := rfl
  rw [hchain] at h
  unfold implicationAbove
  refine ⟨fun hp => ?_, fun hp => ?_⟩
  · rw [h.read hp]
    split
    · next heq =>
        obtain ⟨-, hts⟩ := Reading.read.inj heq
        exact absurd (congrArg List.head? hts) hrest
    · rfl
  · rw [h.refused hp]

/-- A premise before an arrow takes the conclusion behind it, which goes one level down.
    -/
theorem Outcome.implies {l : Level} {conclusion : Reader} {e' : Expr}
    (h : Outcome p e (.implies :: middle) (l.phrase (.chain .or) ts))
    (h' : Outcome q e' rest (conclusion middle)) :
    Outcome (p ∧ q) (.implies e e') rest (implicationAbove l.operand conclusion ts) := by
  have hchain : l.phrase (.chain .or) ts =
      Reader.chain (Reader.chain l.operand .and .and) .or .or ts := rfl
  rw [hchain] at h
  unfold implicationAbove
  by_cases hp : p
  · rw [h.read hp]
    refine ⟨fun hpq => ?_, fun hpq => ?_⟩
    · simp only [h'.read hpq.2]
    · simp only [h'.refused fun hq => hpq ⟨hp, hq⟩]
  · rw [h.refused hp]
    exact ⟨fun hpq => absurd hpq.1 hp, fun _ => rfl⟩

end Reader

/-! ## What stops a phrase. -/

/-- How loosely a phrase holds together. -/
def Phrase.looseness : Phrase → Nat
  | .operand => 0
  | .chain .and => 1
  | .chain .or => 2
  | .implication => 3
  | .chain .iff => 4

/-- The looseness of the phrases that a token makes longer. -/
def Token.looseness : Token → Nat
  | .and => 1
  | .or => 2
  | .implies => 3
  | .iff => 4
  | _ => 5

/-- Tokens that make a phrase no longer. -/
def Phrase.Stops (p : Phrase) (ts : List Token) : Prop :=
  ∀ t ∈ ts.head?, p.looseness < t.looseness

namespace Phrase.Stops

variable {p q : Phrase} {t : Token} {ts : List Token} {j : Joint}

/-- What stops a loose phrase stops a tighter one. -/
theorem mono (h : p.Stops ts) (hle : q.looseness ≤ p.looseness) : q.Stops ts :=
  fun t ht => Nat.lt_of_le_of_lt hle (h t ht)

/-- A token that only looser phrases can use stops a phrase, whatever follows it. -/
theorem cons (h : p.looseness < t.looseness) (ts : List Token) : p.Stops (t :: ts) := by
  rintro _ ⟨⟩
  exact h

/-- The tokens that stop a phrase do not begin with one that goes on with it. -/
theorem head?_ne (h : p.Stops ts) (ht : t.looseness ≤ p.looseness) : ts.head? ≠ some t :=
  fun heq => Nat.not_lt.mpr ht (h t heq)

end Phrase.Stops

/-- The sign of a joint lengthens the chains with that joint, and no tighter phrase. -/
theorem Joint.looseness_sign (j : Joint) : j.sign.looseness = (Phrase.chain j).looseness := by
  cases j <;> rfl

/-- What is joined is tighter than the chain. -/
theorem Joint.looseness_operand_lt (j : Joint) :
    j.operand.looseness < (Phrase.chain j).looseness := by
  cases j <;> decide

theorem Joint.sign_ne_stray (j : Joint) (c : Char) : j.sign ≠ .stray c := by
  cases j <;> exact fun h => nomatch h

theorem Joint.sign_ne_not (j : Joint) : j.sign ≠ .not := by
  cases j <;> exact fun h => nomatch h

namespace Derivation

open Reader (Outcome Outcomes atDepth)

variable {cs rest : List Char} {e : Expr} {es : List Expr} {j : Joint}

/-- An operand cannot be mistaken for the end of an arrow. -/
theorem head?_ne (d : Derivation (.phrase .operand) cs rest e) : cs.head? ≠ some '>' := by
  cases d with
  | name lexeme =>
      refine lexeme.head?_ne rfl fun w hw => ?_
      obtain ⟨hne, hw, -⟩ := hw
      cases w with
      | nil => exact absurd rfl hne
      | cons c w =>
          refine ⟨c, rfl, fun hc => ?_⟩
          have hname := hw c (List.mem_cons_self ..)
          rw [hc] at hname
          exact nomatch hname
  | not sign _ =>
      refine sign.head?_ne rfl fun w hw => ?_
      rcases hw with rfl | rfl | rfl <;> exact ⟨_, rfl, by decide⟩
  | parentheses opening _ _ =>
      refine opening.head?_ne rfl fun w hw => ?_
      rw [show w = ['('] from hw]
      exact ⟨_, rfl, by decide⟩

/-- Where a chain stops, so does its last operand; within the chain its sign stops each
    of them. -/
theorem stops_operand (d : Derivation (.further j) cs rest es)
    (h : (Phrase.chain j).Stops (ofText rest)) : j.operand.Stops (ofText cs) := by
  cases d with
  | done => exact h.mono (Nat.le_of_lt j.looseness_operand_lt)
  | more sign _ _ =>
      rw [sign.ofText_eq fun hnot => absurd hnot j.sign_ne_not]
      exact Phrase.Stops.cons (j.looseness_sign ▸ j.looseness_operand_lt) _

/-- A derivation takes its tokens from the front. -/
theorem length_ofText_le {p : Part} {m : p.Meaning} (d : Derivation p cs rest m) :
    (ofText rest).length ≤ (ofText cs).length := by
  induction d with
  | name lexeme =>
      rw [lexeme.ofText_eq fun h => nomatch h]
      exact Nat.le_succ _
  | not sign negated ih =>
      rw [sign.ofText_eq fun _ => negated.head?_ne]
      exact Nat.le_succ_of_le ih
  | parentheses opening inner closing ih =>
      rw [closing.ofText_eq fun h => nomatch h] at ih
      rw [opening.ofText_eq fun h => nomatch h]
      exact Nat.le_succ_of_le (Nat.le_of_succ_le ih)
  | disjunction alone ih => exact ih
  | implies premise sign conclusion ih ih' =>
      rw [sign.ofText_eq fun h => nomatch h] at ih
      exact Nat.le_trans ih' (Nat.le_of_succ_le ih)
  | chain j first others ih ih' => exact Nat.le_trans ih' ih
  | done j cs => exact Nat.le_refl _
  | more sign next others ih ih' =>
      rw [sign.ofText_eq fun hnot => absurd hnot (Joint.sign_ne_not _)]
      exact Nat.le_succ_of_le (Nat.le_trans ih' ih)

/-- What the reader of a depth makes of a text with a derivation, when what
    follows does not make it longer. -/
def IsRead (limit depth : Nat) :
    (p : Part) → {cs rest : List Char} → {m : p.Meaning} → Derivation p cs rest m → Prop
  | .phrase p, cs, rest, e, d => p.Stops (ofText rest) →
      Outcome (d.Admissible limit depth) e (ofText rest)
        ((atDepth limit depth).phrase p (ofText cs))
  | .further j, cs, rest, es, d => (Phrase.chain j).Stops (ofText rest) →
      ∀ n, (ofText cs).length ≤ n →
        Outcomes (d.Admissible limit depth) es (ofText rest)
          (Reader.operands ((atDepth limit depth).phrase j.operand) j.sign n (ofText cs))

/-- **DERIVATIONS ARE READ**: within the limit as what they stand for, beyond it
    as too deep. -/
theorem isRead (limit : Nat) {p : Part} {m : p.Meaning} (d : Derivation p cs rest m)
    (depth : Nat) : d.IsRead limit depth := by
  induction d generalizing depth with
  | name lexeme =>
      intro _
      -- a name needs no more than its own depth
      rw [lexeme.ofText_eq fun h => nomatch h]
      exact (Outcome.operand_atDepth fun _ => Outcome.name _ _ _).congr (and_iff_left trivial).symm
  | not sign negated ih =>
      intro hstops
      rw [sign.ofText_eq fun _ => negated.head?_ne]
      exact Outcome.operand_atDepth fun _ => (ih (depth + 1) hstops).not
  | parentheses opening inner closing ih =>
      intro hstops
      rw [opening.ofText_eq fun h => nomatch h]
      refine Outcome.operand_atDepth fun _ => Outcome.parentheses ?_
      rw [← closing.ofText_eq fun h => nomatch h]
      -- the closing parenthesis keeps the inner expression from going on
      refine ih (depth + 1) ?_
      rw [closing.ofText_eq fun h => nomatch h]
      exact Phrase.Stops.cons (by decide) _
  | disjunction alone ih =>
      intro hstops
      refine Outcome.implication_atDepth (Outcome.disjunction (ih depth ?_) ?_)
      · exact hstops.mono (by decide)
      · exact hstops.head?_ne (by decide)
  | implies premise sign conclusion ih ih' =>
      intro hstops
      refine Outcome.implication_atDepth (Outcome.implies ?_ (ih' (depth + 1) hstops))
      rw [← sign.ofText_eq fun h => nomatch h]
      -- the arrow keeps the premise from going on
      refine ih depth ?_
      rw [sign.ofText_eq fun h => nomatch h]
      exact Phrase.Stops.cons (by decide) _
  | chain j first others ih ih' =>
      intro hstops
      -- as many operands may be taken as there are tokens
      exact Outcome.chain_atDepth j (ih depth (others.stops_operand hstops))
        (ih' depth hstops _ (Nat.le_refl _))
  | done j cs =>
      intro hstops n _
      exact Outcomes.nil _ (hstops.head?_ne (Nat.le_of_eq j.looseness_sign))
  | more sign next others ih ih' =>
      intro hstops n hn
      rw [sign.ofText_eq fun hnot => absurd hnot (Joint.sign_ne_not _)] at hn ⊢
      cases n with
      | zero => exact nomatch hn
      | succ n =>
          have hlength := Nat.le_trans next.length_ofText_le (Nat.le_of_succ_le_succ hn)
          exact Outcomes.cons (ih depth (others.stops_operand hstops))
            (ih' depth hstops n hlength)

end Derivation

/-! ## What readers take. -/

namespace Reader

variable {operand conclusion : Reader} {sign : Token} {ts rest : List Token} {e : Expr}
  {es : List Expr}

/-- Further operands are none, or one after a sign and others after it. -/
theorem operands_some {n : Nat} (h : operands operand sign (n + 1) ts = some (es, rest)) :
    (es = [] ∧ rest = ts) ∨ ∃ ts' e middle others, ts = sign :: ts' ∧ es = e :: others ∧
      operand ts' = .read e middle ∧ operands operand sign n middle = some (others, rest) := by
  cases ts with
  | nil =>
      obtain ⟨rfl, rfl⟩ := Prod.mk.inj (Option.some.inj h)
      exact Or.inl ⟨rfl, rfl⟩
  | cons t ts' =>
      rw [operands] at h
      split at h
      · next ht =>
          split at h
          · next e middle hread =>
              obtain ⟨⟨others, rest'⟩, hothers, heq⟩ := Option.map_eq_some_iff.mp h
              obtain ⟨rfl, rfl⟩ := Prod.mk.inj heq
              exact Or.inr ⟨ts', e, middle, others, by rw [ht], rfl, hread, hothers⟩
          · obtain ⟨rfl, rfl⟩ := Prod.mk.inj (Option.some.inj h)
            exact Or.inl ⟨rfl, rfl⟩
          · exact nomatch h
      · obtain ⟨rfl, rfl⟩ := Prod.mk.inj (Option.some.inj h)
        exact Or.inl ⟨rfl, rfl⟩

/-- What a chain was read from: its first operand, and the operands behind it. -/
theorem chain_read {node : List Expr → Expr} (h : chain operand sign node ts = .read e rest) :
    ∃ first middle es, operand ts = .read first middle ∧
      operands operand sign middle.length middle = some (es, rest) ∧
      e = Joint.flat node first es := by
  unfold chain at h
  split at h
  · next first middle hfirst =>
      refine ⟨first, middle, ?_⟩
      split at h
      · next rest' hothers =>
          obtain ⟨rfl, rfl⟩ := Reading.read.inj h
          exact ⟨[], hfirst, hothers, rfl⟩
      · next es rest' hne hothers =>
          obtain ⟨rfl, rfl⟩ := Reading.read.inj h
          refine ⟨es, hfirst, hothers, ?_⟩
          cases es with
          | nil => exact absurd rfl hne
          | cons e' es => rfl
      · exact nomatch h
  · next hother => exact absurd h (hother e rest)

/-- What a chain of equivalences was read from, and that there was room for its signs.
    -/
theorem equivalenceOf_read {room : Nat} (h : equivalenceOf operand room ts = .read e rest) :
    ∃ first middle es, operand ts = .read first middle ∧
      operands operand .iff middle.length middle = some (es, rest) ∧
      es.length < room ∧ e = es.foldl .iff first := by
  unfold equivalenceOf at h
  split at h
  · next first middle hfirst =>
      split at h
      · next es rest' hothers =>
          split at h
          · exact nomatch h
          · next hroom =>
              obtain ⟨rfl, rfl⟩ := Reading.read.inj h
              exact ⟨first, middle, es, hfirst, hothers, Nat.lt_of_not_le hroom, rfl⟩
      · exact nomatch h
  · next hother => exact absurd h (hother e rest)

/-- What is read as an implication is a disjunction alone, or a premise with an arrow
    and a conclusion. -/
theorem implicationAbove_read (h : implicationAbove operand conclusion ts = .read e rest) :
    chain (chain operand .and .and) .or .or ts = .read e rest ∨
      ∃ a b middle, chain (chain operand .and .and) .or .or ts = .read a (.implies :: middle) ∧
        conclusion middle = .read b rest ∧ e = .implies a b := by
  unfold implicationAbove at h
  split at h
  · next a middle hpremise =>
      split at h
      · next b rest' hconclusion =>
          obtain ⟨rfl, rfl⟩ := Reading.read.inj h
          exact Or.inr ⟨a, b, middle, hpremise, hconclusion, rfl⟩
      · exact Or.inl (hpremise.trans h)
      · exact nomatch h
  · exact Or.inl h

/-- What is left of an arrow after a minus sign begins no operand. -/
theorem operand_stray (room : Nat) (c : Char) (ts : List Token) :
    (level room).operand (.stray c :: ts) ≠ .read e rest := by
  cases room <;> exact fun h => nomatch h

/-- What is read as an operand is a name, a negation or an equivalence in parentheses.
    -/
theorem operandAbove_read {room : Nat} (h : operandAbove (level room) ts = .read e rest) :
    (∃ s, ts = .name s :: rest ∧ e = ofName s) ∨
      (∃ middle e', ts = .not :: middle ∧ (level room).operand middle = .read e' rest ∧
        e = .not e') ∨
      ∃ middle, ts = .opening :: middle ∧
        (level room).equivalence middle = .read e (.closing :: rest) := by
  unfold operandAbove at h
  split at h
  · next s ts =>
      obtain ⟨rfl, rfl⟩ := Reading.read.inj h
      exact Or.inl ⟨s, rfl, rfl⟩
  · next ts =>
      split at h
      · next e' rest' hread =>
          obtain ⟨rfl, rfl⟩ := Reading.read.inj h
          exact Or.inr (Or.inl ⟨ts, e', rfl, hread, rfl⟩)
      · next hother => exact absurd h (hother e rest)
  · exact absurd h (operand_stray room _ _)
  · next ts =>
      split at h
      · next e' rest' hread =>
          obtain ⟨rfl, rfl⟩ := Reading.read.inj h
          exact Or.inr (Or.inr ⟨ts, rfl, hread⟩)
      · exact nomatch h
      · exact nomatch h
  · exact nomatch h

end Reader

/-! ## Derivations of what is read. -/

namespace Derivation

variable {limit depth : Nat} {cs : List Char} {j : Joint} {es : List Expr} {ts : List Token}
  {operand conclusion : Reader}

/-- The front of a text has an admissible derivation that leaves given tokens, and
    no blanks before them. -/
def Found (limit depth : Nat) (p : Part) (cs : List Char) (m : p.Meaning) (ts : List Token) :
    Prop :=
  ∃ rest, ofText rest = ts ∧ Trimmed rest ∧ ∃ d : Derivation p cs rest m, d.Admissible limit depth

/-- A reader that takes only what has a derivation. -/
def Explains (limit depth : Nat) (p : Phrase) (r : Reader) : Prop :=
  ∀ cs e ts, r (ofText cs) = .read e ts → Found limit depth (.phrase p) cs e ts

/-- The operands after the first that are read have derivations, by induction on how
    many may be taken. -/
theorem found_further (h : Explains limit depth j.operand operand) {n : Nat}
    (htrimmed : Trimmed cs)
    (hread : Reader.operands operand j.sign n (ofText cs) = some (es, ts)) :
    Found limit depth (.further j) cs es ts := by
  induction n generalizing cs es with
  | zero =>
      obtain ⟨rfl, rfl⟩ := Prod.mk.inj (Option.some.inj hread)
      exact ⟨cs, rfl, htrimmed, .done j cs, trivial⟩
  | succ n ih =>
      rcases Reader.operands_some hread with
        ⟨rfl, rfl⟩ | ⟨ts', e, middle, others, hcs, rfl, hfirst, hothers⟩
      · exact ⟨cs, rfl, htrimmed, .done j cs, trivial⟩
      · obtain ⟨start, hsign, rfl, -⟩ := Token.exists_lexeme hcs j.sign_ne_stray
        obtain ⟨stop, rfl, hstop, d, hd⟩ := h start e middle hfirst
        obtain ⟨rest, hrest, htrim, ds, hds⟩ := ih hstop hothers
        exact ⟨rest, hrest, htrim, .more hsign d ds, hd, hds⟩

/-- Chains of conjunctions and disjunctions are explained by what explains their
    operands. -/
theorem explains_chain {node : List Expr → Expr} (hnode : j.node = Joint.flat node)
    (hj : j ≠ .iff) (h : Explains limit depth j.operand operand) :
    Explains limit depth (.chain j) (Reader.chain operand j.sign node) := by
  intro cs e ts hread
  obtain ⟨first, middle, es, hfirst, hothers, rfl⟩ := Reader.chain_read hread
  obtain ⟨stop, rfl, hstop, d, hd⟩ := h cs first middle hfirst
  obtain ⟨rest, hrest, htrim, ds, hds⟩ := found_further h hstop hothers
  rw [← hnode]
  exact ⟨rest, hrest, htrim, .chain j d ds, hd, hds, fun hiff => absurd hiff hj⟩

/-- Chains of equivalences are explained by what explains implications, when the room at
    their depth is what the limit leaves. -/
theorem explains_equivalence {room : Nat} (hroom : depth + room = limit + 1)
    (h : Explains limit depth .implication operand) :
    Explains limit depth (.chain .iff) (Reader.equivalenceOf operand room) := by
  intro cs e ts hread
  obtain ⟨first, middle, es, hfirst, hothers, hlength, rfl⟩ := Reader.equivalenceOf_read hread
  obtain ⟨stop, rfl, hstop, d, hd⟩ := h cs first middle hfirst
  obtain ⟨rest, hrest, htrim, ds, hds⟩ := found_further (j := .iff) h hstop hothers
  exact ⟨rest, hrest, htrim, .chain .iff d ds, hd, hds, fun _ => by omega⟩

/-- Implications are explained by what explains disjunctions at the depth and
    conclusions one deeper. -/
theorem explains_implication
    (h : Explains limit depth (.chain .or) (Reader.chain (Reader.chain operand .and .and) .or .or))
    (h' : Explains limit (depth + 1) .implication conclusion) :
    Explains limit depth .implication (Reader.implicationAbove operand conclusion) := by
  intro cs e ts hread
  rcases Reader.implicationAbove_read hread with
    halone | ⟨a, b, middle, hpremise, hconclusion, rfl⟩
  · obtain ⟨rest, hrest, htrim, d, hd⟩ := h cs e ts halone
    exact ⟨rest, hrest, htrim, .disjunction d, hd⟩
  · obtain ⟨stop, hstop, -, d, hd⟩ := h cs a _ hpremise
    obtain ⟨start, hsign, rfl, -⟩ := Token.exists_lexeme hstop fun c hc => nomatch hc
    obtain ⟨rest, hrest, htrim, d', hd'⟩ := h' start b ts hconclusion
    exact ⟨rest, hrest, htrim, .implies d hsign d', hd, hd'⟩

/-- Operands are explained by what explains negated operands and equivalences one
    deeper. -/
theorem explains_operand {room : Nat} (hle : depth ≤ limit)
    (h : Explains limit (depth + 1) .operand (Reader.level room).operand)
    (h' : Explains limit (depth + 1) (.chain .iff) (Reader.level room).equivalence) :
    Explains limit depth .operand (Reader.operandAbove (Reader.level room)) := by
  intro cs e ts hread
  rcases Reader.operandAbove_read hread with
    ⟨s, hcs, rfl⟩ | ⟨middle, e', hcs, hnegated, rfl⟩ | ⟨middle, hcs, hinner⟩
  · obtain ⟨rest, hname, hrest, htrim⟩ := Token.exists_lexeme hcs fun c hc => nomatch hc
    exact ⟨rest, hrest, htrim, .name hname, hle⟩
  · obtain ⟨start, hsign, rfl, -⟩ := Token.exists_lexeme hcs fun c hc => nomatch hc
    obtain ⟨rest, hrest, htrim, d, hd⟩ := h start e' ts hnegated
    exact ⟨rest, hrest, htrim, .not hsign d, hle, hd⟩
  · obtain ⟨start, hopening, rfl, -⟩ := Token.exists_lexeme hcs fun c hc => nomatch hc
    obtain ⟨stop, hstop, -, d, hd⟩ := h' start e _ hinner
    obtain ⟨rest, hclosing, hrest, htrim⟩ := Token.exists_lexeme hstop fun c hc => nomatch hc
    exact ⟨rest, hrest, htrim, .parentheses hopening d hclosing, hle, hd⟩

/-- **WHAT IS READ HAS A DERIVATION** within the limit. -/
theorem explains_level (room depth : Nat) (hroom : depth + room = limit + 1) (p : Phrase) :
    Explains limit depth p ((Reader.level room).phrase p) := by
  induction room generalizing depth p with
  | zero =>
      intro cs e ts hread
      cases p with
      | operand => exact nomatch hread
      | implication => exact nomatch hread
      | chain j => cases j <;> exact nomatch hread
  | succ room ih =>
      have hbelow : depth + 1 + room = limit + 1 := by omega
      have hoperand : Explains limit depth .operand (Reader.level (room + 1)).operand :=
        explains_operand (by omega) (ih _ hbelow .operand) (ih _ hbelow (.chain .iff))
      have hconjunction := explains_chain (j := .and) rfl (fun h => nomatch h) hoperand
      have hdisjunction := explains_chain (j := .or) rfl (fun h => nomatch h) hconjunction
      have himplication := explains_implication hdisjunction (ih _ hbelow .implication)
      cases p with
      | operand => exact hoperand
      | implication => exact himplication
      | chain j =>
          cases j with
          | and => exact hconjunction
          | or => exact hdisjunction
          | iff => exact explains_equivalence hroom himplication

/-! ## Lines. -/

variable {rest : List Char} {e : Expr} {line : List Char}

/-- An operand as a chain of equivalences, the only one of all chains around
    it. -/
def alone (d : Derivation (.phrase .operand) cs rest e) :
    Derivation (.phrase (.chain .iff)) cs rest e :=
  .chain .iff (.disjunction (.chain .or (.chain .and d (.done .and rest)) (.done .or rest)))
    (.done .iff rest)

/-- An operand on a line of its own nests as deep as it does within chains. -/
theorem admissible_alone {d : Derivation (.phrase .operand) cs rest e} :
    d.alone.Admissible limit depth ↔ d.Admissible limit depth ∧ depth ≤ limit := by
  simp only [alone, Admissible, List.length_nil, Nat.add_zero, reduceCtorEq, IsEmpty.forall_iff,
    and_true, true_and, forall_const]
  exact Iff.rfl

end Derivation

/-- A derivation of a whole line. -/
abbrev LineDerivation (line : List Char) (e : Expr) : Type :=
  Derivation (.phrase (.chain .iff)) line [] e

namespace Expr

open Reader (maxNesting)

variable {line : List Char} {e : Expr}

/-- A line with an admissible derivation is read as the expression of the derivation. -/
theorem ofLine_of_admissible (d : LineDerivation line e) (h : d.Admissible maxNesting 0) :
    Expr.ofLine line = .ok e := by
  have hstops : (Phrase.chain .iff).Stops (ofText []) := by
    rw [Token.ofText_nil]
    exact fun t ht => nomatch ht
  have hread := (d.isRead maxNesting 0 hstops).read h
  rw [Token.ofText_nil] at hread
  have hlevel : (Reader.level (maxNesting + 1)).equivalence ((Token.scan line).map Prod.fst) =
      .read e [] := hread
  unfold Expr.ofLine
  simp only [hlevel]

/-- A line whose derivation is not admissible is refused as too deep. -/
theorem ofLine_of_not_admissible (d : LineDerivation line e)
    (h : ¬d.Admissible maxNesting 0) : Expr.ofLine line = .error .tooDeep := by
  have hstops : (Phrase.chain .iff).Stops (ofText []) := by
    rw [Token.ofText_nil]
    exact fun t ht => nomatch ht
  have hlevel : (Reader.level (maxNesting + 1)).equivalence ((Token.scan line).map Prod.fst) =
      .tooDeep := (d.isRead maxNesting 0 hstops).refused h
  unfold Expr.ofLine
  simp only [hlevel]

/-- A line that is read has an admissible derivation of what it is read as. -/
theorem exists_admissible_of_ofLine (h : Expr.ofLine line = .ok e) :
    ∃ d : LineDerivation line e, d.Admissible maxNesting 0 := by
  unfold Expr.ofLine at h
  simp only at h
  split at h
  · next e' hread =>
      obtain ⟨rest, hrest, htrimmed, d, hd⟩ :=
        Derivation.explains_level (maxNesting + 1) 0 (Nat.zero_add _) (.chain .iff) line e' []
          hread
      obtain rfl := Token.eq_nil_of_ofText hrest htrimmed
      obtain rfl := Except.ok.inj h
      exact ⟨d, hd⟩
  · exact nomatch h
  · exact nomatch h
  · exact nomatch h

/-- **LINES ARE READ BY THE GRAMMAR**.  A line with a derivation within the limit
    of nesting is read as the expression of the derivation, and every line that
    is read has such a derivation.  A line with a derivation beyond the limit is
    refused as too deep. -/
theorem lines_are_read_by_grammar (line : List Char) :
    (∀ (e : Expr) (d : LineDerivation line e), d.Admissible maxNesting 0 →
      Expr.ofLine line = .ok e) ∧
    (∀ e : Expr, Expr.ofLine line = .ok e →
      ∃ d : LineDerivation line e, d.Admissible maxNesting 0) ∧
    (∀ (e : Expr) (d : LineDerivation line e), ¬d.Admissible maxNesting 0 →
      Expr.ofLine line = .error .tooDeep) :=
  ⟨fun _ => ofLine_of_admissible, fun _ => exists_admissible_of_ofLine,
    fun _ => ofLine_of_not_admissible⟩

/-- A name behind so many negation signs. -/
def negated : Nat → Expr
  | 0 => Reader.ofName "a"
  | n + 1 => .not (negated n)

/-- The name at the end. -/
theorem lexeme_a : Lexeme (.name "a") ['a'] [] := by
  have hspelled : Token.Spelled (.name "a") ['a'] :=
    ⟨List.cons_ne_nil _ _, List.forall_mem_singleton.mpr rfl, rfl⟩
  exact Lexeme.bare hspelled fun _ _ _ h => nomatch h

/-- The derivation of a name behind negation signs. -/
def negatedDerivation : (n : Nat) →
    Derivation (.phrase .operand) (List.replicate n '!' ++ ['a']) [] (negated n)
  | 0 => .name lexeme_a
  | n + 1 =>
      .not (Lexeme.bare (w := ['!']) (Or.inl rfl) fun _ h => nomatch h) (negatedDerivation n)

/-- A negation sign takes one level of nesting. -/
theorem admissible_negatedDerivation {limit depth n : Nat} :
    (negatedDerivation n).Admissible limit depth ↔ depth + n ≤ limit := by
  induction n generalizing depth with
  | zero => exact Iff.rfl
  | succ n ih =>
      show depth ≤ limit ∧ (negatedDerivation n).Admissible limit (depth + 1) ↔ _
      rw [ih]
      omega

/-- A name behind 128 negation signs is read, and behind 129 refused. -/
theorem lines_are_read_by_grammar_negated :
    Expr.ofLine (List.replicate 128 '!' ++ ['a']) = .ok (negated 128) ∧
      (∃ d : LineDerivation (List.replicate 128 '!' ++ ['a']) (negated 128),
        d.Admissible maxNesting 0) ∧
      Expr.ofLine (List.replicate 129 '!' ++ ['a']) = .error .tooDeep := by
  obtain ⟨haccepted, hderived, -⟩ := lines_are_read_by_grammar (List.replicate 128 '!' ++ ['a'])
  obtain ⟨-, -, hrefused⟩ := lines_are_read_by_grammar (List.replicate 129 '!' ++ ['a'])
  have hread : Expr.ofLine (List.replicate 128 '!' ++ ['a']) = .ok (negated 128) := by
    refine haccepted _ (negatedDerivation 128).alone (Derivation.admissible_alone.mpr ?_)
    exact ⟨admissible_negatedDerivation.mpr (by decide), by decide⟩
  refine ⟨hread, hderived _ hread, hrefused _ (negatedDerivation 129).alone fun h => ?_⟩
  have hdepth := admissible_negatedDerivation.mp (Derivation.admissible_alone.mp h).1
  exact absurd hdepth (by decide)

end Expr

end GuardedCnf
