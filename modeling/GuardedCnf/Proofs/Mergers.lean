import GuardedCnf.Proofs.Distribution
import GuardedCnf.Proofs.Simplification
/-! # Mergers — the disjunction of two clauses

    The second clause is gone through literal by literal, and every literal is
    looked up in what the merger has become so far, not in the first clause.
    That makes no difference: a merger is given up just when the concatenation
    is a tautology, wherever the two complementary literals stand, and else it
    is the concatenation with the first occurrence of every literal.  Either way
    nothing is lost of the disjunction. -/

namespace GuardedCnf.Clause

variable {c d r : Clause}

/-- A merger is given up where two literals of the concatenation are
    complementary, and only there. -/
theorem Reduced.merge_eq_none_iff (h : Reduced c) (d : Clause) :
    c.merge d = none ↔ ∃ l ∈ c ++ d, l.complement ∈ c ++ d := by
  rw [h.merge_eq d, ← isTautology_iff]
  constructor
  · intro hnone
    by_cases htautology : isTautology (c ++ d) = true
    · exact htautology
    · rw [simplified_of_not_isTautology htautology] at hnone
      exact nomatch hnone
  · exact simplified_of_isTautology

/-- What is not given up is the concatenation without repetitions. -/
theorem Reduced.eq_eraseDups_of_merge (h : Reduced c) (hr : c.merge d = some r) :
    r = (c ++ d).eraseDups := by
  rw [h.merge_eq d] at hr
  by_cases htautology : isTautology (c ++ d) = true
  · rw [simplified_of_isTautology htautology] at hr
    exact nomatch hr
  · rw [simplified_of_not_isTautology htautology] at hr
    exact (Option.some.inj hr).symm

/-- **A MERGER IS THE DISJUNCTION**, written without repetitions.  For a first
    clause that is reduced and any second one, there is no merger just when the
    concatenation holds two complementary literals, and then the disjunction is
    always true.  Else the merger is the concatenation with the first
    occurrence of every literal; it is reduced again, and true where one of the
    two clauses is. -/
theorem mergers_are_disjunctions (h : Reduced c) (d : Clause) :
    (c.merge d = none ↔ ∃ l ∈ c ++ d, l.complement ∈ c ++ d) ∧
      (c.merge d = none → ∀ v, (eval v c || eval v d) = true) ∧
      ∀ r, c.merge d = some r →
        r = (c ++ d).eraseDups ∧ Reduced r ∧ ∀ v, eval v r = (eval v c || eval v d) := by
  refine ⟨h.merge_eq_none_iff d, eval_of_merge_none, ?_⟩
  intro r hr
  exact ⟨h.eq_eraseDups_of_merge hr, h.merge hr, eval_merge hr⟩

/-- `x | !y` merges with `z | x | z` to `x | !y | z`; with `z | !z`, and with
    `z | y`, there is no merger. -/
theorem mergers_are_disjunctions_three :
    let x : Literal := ⟨0, true⟩
    let y : Literal := ⟨1, true⟩
    let z : Literal := ⟨2, true⟩
    let c : Clause := [x, y.complement]
    Reduced c ∧ c.merge [z, x, z] = some [x, y.complement, z] ∧
      Reduced [x, y.complement, z] ∧
      (∀ v, eval v [x, y.complement, z] = (eval v c || eval v [z, x, z])) ∧
      c.merge [z, z.complement] = none ∧ c.merge [z, y] = none := by
  intro x y z c
  have hc : Reduced c := ⟨by decide, by decide⟩
  obtain ⟨-, -, hsome⟩ := mergers_are_disjunctions hc [z, x, z]
  obtain ⟨-, hreduced, heval⟩ := hsome [x, y.complement, z] rfl
  have hnone (d : Clause) := (mergers_are_disjunctions hc d).1
  refine ⟨hc, rfl, hreduced, heval, ?_, ?_⟩
  · -- the pair stands in the second clause
    exact (hnone [z, z.complement]).mpr ⟨z, by decide, by decide⟩
  · -- the pair stands across the two clauses
    exact (hnone [z, y]).mpr ⟨y, by decide, by decide⟩

end GuardedCnf.Clause
