import GuardedCnf.Expression.Reader
import GuardedCnf.Proofs.Expressions
/-! # Reading — an expression has the names of its tokens

    A reader takes tokens from the front and uses every name among them once and
    in place.  So the identifiers of the expression on a line are the names on
    the line, from left to right, without the two that stand for constants. -/

namespace GuardedCnf

/-- The identifier that a token is: a name that stands for no constant. -/
def Token.identifier? : Token → Option String
  | .name s => if s = "true" ∨ s = "false" then none else some s
  | _ => none

/-- The identifiers among tokens, in order. -/
def Token.identifiers (ts : List Token) : List String := ts.filterMap identifier?

open Token (identifiers)

/-- Tokens that are no names add no identifiers. -/
theorem Token.identifiers_cons_of_none {t : Token} (h : t.identifier? = none) (ts : List Token) :
    identifiers (t :: ts) = identifiers ts :=
  List.filterMap_cons_none h

namespace Reader

/-- A reader that uses the identifiers of the tokens it takes. -/
def KeepsNames (r : Reader) : Prop :=
  ∀ ts e rest, r ts = .read e rest → e.names ++ identifiers rest = identifiers ts

/-- A name adds itself to the identifiers, unless it is a constant. -/
theorem names_ofName (s : String) (ts : List Token) :
    (ofName s).names ++ identifiers ts = identifiers (.name s :: ts) := by
  unfold ofName
  by_cases htrue : s = "true"
  · have hnone : (Token.name s).identifier? = none := if_pos (Or.inl htrue)
    rw [if_pos htrue, Token.identifiers_cons_of_none hnone]
    rfl
  · rw [if_neg htrue]
    by_cases hfalse : s = "false"
    · have hnone : (Token.name s).identifier? = none := if_pos (Or.inr hfalse)
      rw [if_pos hfalse, Token.identifiers_cons_of_none hnone]
      rfl
    · rw [if_neg hfalse]
      have hname : (Token.name s).identifier? = some s := if_neg (not_or.mpr ⟨htrue, hfalse⟩)
      exact (List.filterMap_cons_some hname).symm

/-! ## Chains of operands. -/

variable {operand conclusion : Reader} {operator : Token}

/-- The names of operands are the identifiers that were taken for them. -/
theorem names_operands (hoperand : KeepsNames operand) (hoperator : operator.identifier? = none)
    {n : Nat} {ts rest : List Token} {es : List Expr}
    (h : operands operand operator n ts = some (es, rest)) :
    Expr.namesAll es ++ identifiers rest = identifiers ts := by
  induction n generalizing ts es rest with
  | zero =>
      obtain ⟨rfl, rfl⟩ := Prod.mk.inj (Option.some.inj h)
      rfl
  | succ n ih =>
      cases ts with
      | nil =>
          obtain ⟨rfl, rfl⟩ := Prod.mk.inj (Option.some.inj h)
          rfl
      | cons t ts =>
          rw [operands] at h
          split at h
          · next ht =>
              split at h
              · next e middle hread =>
                  -- the sign between operands has no name
                  obtain ⟨⟨others, rest'⟩, hothers, heq⟩ := Option.map_eq_some_iff.mp h
                  obtain ⟨rfl, rfl⟩ := Prod.mk.inj heq
                  rw [ht, Token.identifiers_cons_of_none hoperator, ← hoperand ts e middle hread,
                    ← ih hothers, ← List.append_assoc]
                  rfl
              · obtain ⟨rfl, rfl⟩ := Prod.mk.inj (Option.some.inj h)
                rfl
              · exact nomatch h
          · obtain ⟨rfl, rfl⟩ := Prod.mk.inj (Option.some.inj h)
            rfl

/-- A chain keeps the names of its operands. -/
theorem keepsNames_chain (hoperand : KeepsNames operand) (hoperator : operator.identifier? = none)
    {node : List Expr → Expr} (hnode : ∀ es, (node es).names = Expr.namesAll es) :
    KeepsNames (chain operand operator node) := by
  intro ts e rest h
  unfold chain at h
  split at h
  · next first middle hread =>
      rw [← hoperand ts first middle hread]
      split at h
      · next rest' hothers =>
          obtain ⟨rfl, rfl⟩ := Reading.read.inj h
          rw [← names_operands hoperand hoperator hothers]
          rfl
      · next es rest' _ hothers =>
          obtain ⟨rfl, rfl⟩ := Reading.read.inj h
          rw [← names_operands hoperand hoperator hothers, hnode, ← List.append_assoc]
          rfl
      · exact nomatch h
  · next hother => exact absurd h (hother e rest)

/-! ## Levels. -/

/-- All readers of a level use the identifiers of the tokens they take. -/
structure Level.KeepsNames (l : Level) : Prop where
  operand : Reader.KeepsNames l.operand
  implication : Reader.KeepsNames l.implication
  equivalence : Reader.KeepsNames l.equivalence

/-- An operand keeps the names of the level below. -/
theorem keepsNames_operandAbove {below : Level} (h : below.KeepsNames) :
    KeepsNames (operandAbove below) := by
  intro ts e rest hread
  unfold operandAbove at hread
  split at hread
  · next s ts =>
      obtain ⟨rfl, rfl⟩ := Reading.read.inj hread
      exact names_ofName s ts
  · next ts =>
      split at hread
      · next e' rest' hbelow =>
          obtain ⟨rfl, rfl⟩ := Reading.read.inj hread
          exact h.operand ts e' rest' hbelow
      · next hother => exact absurd hread (hother e rest)
  · -- the rest of an arrow has no name either
    next ts => exact h.operand (.stray '>' :: ts) e rest hread
  · next ts =>
      split at hread
      · next e' rest' hbelow =>
          obtain ⟨rfl, rfl⟩ := Reading.read.inj hread
          exact h.equivalence ts e' (.closing :: rest') hbelow
      · exact nomatch hread
      · exact nomatch hread
  · exact nomatch hread

/-- An implication keeps the names of its premise and its conclusion. -/
theorem keepsNames_implicationAbove (hoperand : KeepsNames operand)
    (hconclusion : KeepsNames conclusion) : KeepsNames (implicationAbove operand conclusion) := by
  have hdisjunction : KeepsNames (chain (chain operand .and .and) .or .or) :=
    keepsNames_chain (keepsNames_chain hoperand rfl fun _ => rfl) rfl fun _ => rfl
  intro ts e rest hread
  unfold implicationAbove at hread
  split at hread
  · next premise ts' hpremise =>
      rw [← hdisjunction ts premise (.implies :: ts') hpremise]
      split at hread
      · next e' rest' hrest =>
          obtain ⟨rfl, rfl⟩ := Reading.read.inj hread
          rw [Token.identifiers_cons_of_none rfl, ← hconclusion ts' e' rest' hrest,
            ← List.append_assoc]
          rfl
      · obtain ⟨rfl, rfl⟩ := Reading.read.inj hread
        rfl
      · exact nomatch hread
  · exact hdisjunction ts e rest hread

/-- Equivalences that group to the left have the names of their operands in order. -/
theorem names_foldl_iff (e : Expr) (es : List Expr) :
    (es.foldl .iff e).names = e.names ++ Expr.namesAll es := by
  induction es generalizing e with
  | nil => exact (List.append_nil _).symm
  | cons e' es ih =>
      rw [List.foldl_cons, ih, Expr.names, Expr.namesAll, List.append_assoc]

/-- A chain of equivalences keeps the names of its operands. -/
theorem keepsNames_equivalenceOf {implication : Reader} (h : KeepsNames implication)
    (room : Nat) : KeepsNames (equivalenceOf implication room) := by
  intro ts e rest hread
  unfold equivalenceOf at hread
  split at hread
  · next first middle hfirst =>
      rw [← h ts first middle hfirst]
      split at hread
      · next es rest' hothers =>
          split at hread
          · exact nomatch hread
          · obtain ⟨rfl, rfl⟩ := Reading.read.inj hread
            rw [names_foldl_iff, ← names_operands h rfl hothers, List.append_assoc]
      · exact nomatch hread
  · next hother => exact absurd hread (hother e rest)

/-- All readers of a level keep names, by induction on the levels below. -/
theorem keepsNames_level (room : Nat) : (level room).KeepsNames := by
  induction room with
  | zero =>
      have hdeep : KeepsNames fun _ => .tooDeep := fun _ _ _ h => nomatch h
      exact ⟨hdeep, hdeep, hdeep⟩
  | succ room ih =>
      have hoperand := keepsNames_operandAbove ih
      have himplication := keepsNames_implicationAbove hoperand ih.implication
      exact ⟨hoperand, himplication, keepsNames_equivalenceOf himplication (room + 1)⟩

end Reader

/-- Only the tokens of a line decide whether it is read, and as what. -/
theorem Expr.ofLine_ok_iff {line : List Char} {e : Expr} :
    Expr.ofLine line = .ok e ↔
      (Reader.level (Reader.maxNesting + 1)).equivalence ((Token.scan line).map Prod.fst) =
        .read e [] := by
  unfold Expr.ofLine
  simp only
  split
  · next e' hread =>
      rw [hread]
      constructor
      · intro h
        rw [Except.ok.inj h]
      · intro h
        rw [(Reading.read.inj h).1]
  · -- tokens that are left over are an error
    next e' rest hne hread =>
      rw [hread]
      constructor
      · intro h
        exact nomatch h
      · intro h
        exact absurd (Reading.read.inj h).2 hne
  · next hread =>
      rw [hread]
      constructor <;> exact fun h => nomatch h
  · next hread =>
      rw [hread]
      constructor <;> exact fun h => nomatch h

/-- **THE IDENTIFIERS OF A LINE** are the names on it that stand for no
    constant. -/
theorem Expr.names_ofLine {line : List Char} {e : Expr} (h : Expr.ofLine line = .ok e) :
    e.names = identifiers ((Token.scan line).map Prod.fst) := by
  have hread := Expr.ofLine_ok_iff.mp h
  have hnames := (Reader.keepsNames_level _).equivalence _ _ _ hread
  exact (List.append_nil _).symm.trans hnames

end GuardedCnf
