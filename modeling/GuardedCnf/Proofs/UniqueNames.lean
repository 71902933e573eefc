import GuardedCnf.VariableMap
import Mathlib.Data.List.Nodup
import Mathlib.Data.List.Perm.Subperm
import Mathlib.Order.Bounds.Defs
/-! # Unique names — every hint has a free variant

    The variants of a hint differ from the hint and from each other.  A map that
    has the hint has one name less for the variants, so among as many variants as
    it has names one is free, and the search for the first stops there at the
    latest. -/

namespace GuardedCnf.VariableMap

variable {vars : VariableMap} {hint : String}

theorem variant_ne (hint : String) (k : Nat) : variant hint k ≠ hint := by
  intro h
  have hlen := congrArg List.length (congrArg String.toList h)
  rw [toList_variant, List.length_append, List.length_cons] at hlen
  omega

/-- The names that are tried for a hint are distinct. -/
theorem nodup_candidates (hint : String) (n : Nat) :
    (hint :: (List.range' 2 n).map (variant hint)).Nodup := by
  rw [List.nodup_cons]
  constructor
  · intro hmem
    obtain ⟨k, -, hk⟩ := List.mem_map.mp hmem
    exact variant_ne hint k hk
  · exact List.Nodup.map (variant_injective hint) List.nodup_range'

/-- A hint that is taken has a free variant: with the hint there are more
    candidates than names. -/
theorem exists_free_variant (h : hint ∈ vars.names) :
    ∃ k ∈ List.range' 2 vars.size, variant hint k ∉ vars.names := by
  by_contra hnone
  have hsubset : hint :: (List.range' 2 vars.size).map (variant hint) ⊆ vars.names := by
    intro name hname
    rcases List.mem_cons.mp hname with rfl | hname
    · exact h
    · obtain ⟨k, hk, rfl⟩ := List.mem_map.mp hname
      by_contra hfree
      exact hnone ⟨k, hk, hfree⟩
  have hle := (List.Nodup.subperm (nodup_candidates hint vars.size) hsubset).length_le
  rw [List.length_cons, List.length_map, List.length_range', names, Array.length_toList] at hle
  exact Nat.not_succ_le_self _ hle

/-- **THE SEARCH STOPS AT THE FIRST FREE VARIANT**. -/
theorem isLeast_firstFree (vars : VariableMap) (hint : String) (k : Nat) :
    IsLeast {j | k ≤ j ∧ variant hint j ∉ vars.names} (vars.firstFree hint k) := by
  fun_induction firstFree vars hint k with
  | case1 k hfree => exact ⟨⟨Nat.le_refl k, get?_eq_none_iff.mp hfree⟩, fun j hj => hj.1⟩
  | case2 k htaken ih =>
      obtain ⟨⟨hle, hfree⟩, hleast⟩ := ih
      refine ⟨⟨Nat.le_of_succ_le hle, hfree⟩, ?_⟩
      rintro j ⟨hj, hjfree⟩
      -- the variant that is passed is taken, so a free one comes later
      have hne : k ≠ j := by
        rintro rfl
        exact htaken (get?_eq_none_iff.mpr hjfree)
      exact hleast ⟨Nat.lt_of_le_of_ne hj hne, hjfree⟩

theorem firstFree_le (h : hint ∈ vars.names) : vars.firstFree hint 2 ≤ vars.size + 1 := by
  obtain ⟨k, hk, hfree⟩ := exists_free_variant h
  rw [List.mem_range'_1] at hk
  have hle := (vars.isLeast_firstFree hint 2).2 ⟨hk.1, hfree⟩
  omega

theorem uniqueName_of_not_mem (h : hint ∉ vars.names) : vars.uniqueName hint = hint :=
  if_pos (Option.isNone_iff_eq_none.mpr (get?_eq_none_iff.mpr h))

theorem uniqueName_of_mem (h : hint ∈ vars.names) :
    vars.uniqueName hint = variant hint (vars.firstFree hint 2) :=
  if_neg (mt Option.isNone_iff_eq_none.mp (get?_ne_none_iff.mpr h))

end GuardedCnf.VariableMap
