import GuardedCnf.Formula
/-! # Why encoding a formula fails -/

namespace GuardedCnf

/-- A cause of failure, with what is needed to reproduce it. -/
inductive EncodingError where
  /-- The root is not a conjunction. -/
  | notConjunction (root : Formula)
  /-- A negation node was met, in the conjunct with this number if known. -/
  | notNormal (conjunct : Option Nat) (formula : Formula)
  /-- No variable is left for this name. -/
  | exhausted (name : String) (limit : Nat)

namespace EncodingError

/-- Attributes a negation node to the conjunct with this number. -/
def inConjunct (i : Nat) : EncodingError → EncodingError
  | .notNormal _ f => .notNormal (some i) f
  | e => e

/-- The wording of a failure. -/
def message : EncodingError → String
  | .notConjunction root =>
      "expected a conjunction at the root of a proto-CNF formula, found a " ++ root.kind
        ++ ": " ++ root.toText
  | .notNormal conjunct f =>
      "cannot distribute " ++ f.toText ++ ": not in negation normal form"
        ++ match conjunct with
          | some i => s!" (conjunct {i})"
          | none => ""
  | .exhausted name limit => s!"cannot allocate variable {name}: all {limit} variables are used"

end EncodingError

end GuardedCnf
