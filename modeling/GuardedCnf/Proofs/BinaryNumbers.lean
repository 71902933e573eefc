import GuardedCnf.Model
import Mathlib.Algebra.BigOperators.Group.Finset.Basic
import Mathlib.Tactic.SplitIfs
/-! # Binary numbers — values as digits

    The values of the variables below a bound are the binary digits of a number,
    variable 0 being the lowest.  Every number below the power of two has one
    list of digits, so counting through the numbers is counting through the
    values. -/

namespace GuardedCnf

variable {n k : Nat} {v w : Valuation}

/-- The number with the values of the variables below `n` as its binary digits:
    the sum of the powers of two at the true variables. -/
def binary (n : Nat) (v : Valuation) : Nat := ∑ x ∈ Finset.range n with v x = true, 2 ^ x

@[simp] theorem binary_zero (v : Valuation) : binary 0 v = 0 := rfl

/-- A digit more at the top adds its power of two. -/
theorem binary_succ (n : Nat) (v : Valuation) :
    binary (n + 1) v = binary n v + if v n then 2 ^ n else 0 := by
  rw [binary, binary, Finset.sum_filter, Finset.sum_filter, Finset.sum_range_succ]

/-- A number depends on its digits alone. -/
theorem binary_congr (h : ∀ x < n, v x = w x) : binary n v = binary n w := by
  refine Finset.sum_congr (Finset.filter_congr fun x hx => ?_) fun _ _ => rfl
  rw [h x (Finset.mem_range.mp hx)]

/-- A number is below the power of two for its digits. -/
theorem binary_lt (n : Nat) (v : Valuation) : binary n v < 2 ^ n := by
  induction n with
  | zero => exact Nat.one_pos
  | succ n ih =>
      rw [binary_succ, Nat.pow_succ]
      split_ifs <;> omega

/-- Different values are different numbers: the highest digit decides whether a
    number reaches the power of two, and the other digits the rest. -/
theorem eq_of_binary_eq (h : binary n v = binary n w) : ∀ x < n, v x = w x := by
  induction n with
  | zero => exact fun x hx => absurd hx (Nat.not_lt_zero x)
  | succ n ih =>
      have hv := binary_lt n v
      have hw := binary_lt n w
      rw [binary_succ, binary_succ] at h
      have hlast : v n = w n ∧ binary n v = binary n w := by
        cases hvn : v n <;> cases hwn : w n <;> simp [hvn, hwn] at h ⊢ <;> omega
      intro x hx
      rcases Nat.lt_succ_iff_lt_or_eq.mp hx with hx | rfl
      · exact ih hlast.2 x hx
      · exact hlast.1

/-- The lowest digits of a number are what is left of it modulo the power of
    two. -/
theorem binary_testBit (n k : Nat) : binary n k.testBit = k % 2 ^ n := by
  induction n with
  | zero => rw [binary_zero, Nat.pow_zero, Nat.mod_one]
  | succ n ih =>
      have hdigit : k / 2 ^ n % 2 = if k.testBit n then 1 else 0 := by
        rw [Nat.testBit_eq_decide_div_mod_eq]
        have htwo := Nat.mod_two_eq_zero_or_one (k / 2 ^ n)
        rcases htwo with h | h <;> rw [h] <;> rfl
      rw [binary_succ, ih, Nat.pow_succ, Nat.mod_mul, hdigit]
      split_ifs
      · rw [Nat.mul_one]
      · rw [Nat.mul_zero]

/-- A number below the power of two is that of its digits. -/
theorem binary_testBit_of_lt (h : k < 2 ^ n) : binary n k.testBit = k := by
  rw [binary_testBit, Nat.mod_eq_of_lt h]

/-! ## Models. -/

namespace Model

variable {m m' : Model} {x : Var}

/-- Variables beyond the size of a model are false. -/
theorem value_of_size_le (h : m.size ≤ x) : m.value x = false := by
  rw [value, List.getD_eq_getElem?_getD, List.getElem?_eq_none h]
  rfl

/-- Models of the same size with the same values are the same. -/
theorem eq_of_value (hsize : m.size = m'.size) (h : ∀ x < m.size, m.value x = m'.value x) :
    m = m' := by
  obtain ⟨bs⟩ := m
  obtain ⟨bs'⟩ := m'
  refine congrArg mk (List.ext_getElem hsize fun x hx hx' => ?_)
  have hvalue := h x hx
  simp only [value, List.getD_eq_getElem?_getD, List.getElem?_eq_getElem hx,
    List.getElem?_eq_getElem hx', Option.getD_some] at hvalue
  exact hvalue

/-- A model as a number, with variable 0 as the lowest digit. -/
def number (m : Model) : Nat := binary m.size m.value

/-- The number of a model is below the number of all models. -/
theorem number_lt (m : Model) : m.number < 2 ^ m.size := binary_lt m.size m.value

theorem value_allFalse (n : Nat) (x : Var) : (allFalse n).value x = false := by
  rw [value, allFalse, List.getD_eq_getElem?_getD, List.getElem?_replicate]
  split <;> rfl

theorem number_allFalse (n : Nat) : (allFalse n).number = 0 := by
  unfold number binary
  refine Finset.sum_eq_zero fun x hx => ?_
  exact nomatch (value_allFalse n x).symm.trans (Finset.mem_filter.mp hx).2

/-- The values of a model are the digits of its number. -/
theorem testBit_number (hx : x < m.size) : m.number.testBit x = m.value x :=
  eq_of_binary_eq (binary_testBit_of_lt m.number_lt) x hx

end Model

end GuardedCnf
