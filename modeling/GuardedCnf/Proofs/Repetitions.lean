import Mathlib.Data.List.Nodup
/-! # Repetitions — lists with every member once

    Erasing duplicates keeps the first occurrence of every member.  A list
    without repetitions is left as it is, so what was erased in a part of a list
    need not be erased again in the whole. -/

namespace GuardedCnf

variable {α : Type} [BEq α] [LawfulBEq α]

theorem nodup_eraseDups : ∀ as : List α, as.eraseDups.Nodup
  | [] => List.nodup_nil
  | a :: as => by
      rw [List.eraseDups_cons, List.nodup_cons]
      refine ⟨fun h => ?_, nodup_eraseDups (as.filter fun b => !b == a)⟩
      have hne := (List.mem_filter.mp (List.mem_eraseDups.mp h)).2
      rw [beq_self_eq_true] at hne
      exact nomatch hne
termination_by as => as.length
decreasing_by exact Nat.lt_succ_of_le (List.length_filter_le ..)

/-- Nothing is erased where nothing is repeated. -/
theorem eraseDups_of_nodup {as : List α} (h : as.Nodup) : as.eraseDups = as := by
  induction as with
  | nil => rfl
  | cons a as ih =>
      obtain ⟨ha, has⟩ := List.nodup_cons.mp h
      have hother : ∀ b ∈ as, (!b == a) = true := by
        intro b hb
        rw [Bool.not_eq_true', beq_eq_false_iff_ne]
        exact fun hab => ha (hab ▸ hb)
      rw [List.eraseDups_cons, List.filter_eq_self.mpr hother, ih has]

/-- Members can be dropped before or after duplicates are erased. -/
theorem eraseDups_filter (p : α → Bool) : ∀ as : List α,
    (as.filter p).eraseDups = as.eraseDups.filter p
  | [] => rfl
  | a :: as => by
      have hrest := eraseDups_filter p (as.filter fun b => !b == a)
      rw [List.eraseDups_cons]
      by_cases hp : p a = true
      · rw [List.filter_cons_of_pos hp, List.filter_cons_of_pos hp, List.eraseDups_cons, ← hrest,
          List.filter_filter, List.filter_filter]
        simp only [Bool.and_comm]
      · rw [List.filter_cons_of_neg hp, List.filter_cons_of_neg hp, ← hrest, List.filter_filter]
        -- the head is dropped, and so are its repetitions
        refine congrArg List.eraseDups (List.filter_congr fun b _ => ?_)
        by_cases hb : b = a
        · rw [hb, Bool.eq_false_iff.mpr hp, Bool.false_and]
        · rw [beq_eq_false_iff_ne.mpr hb, Bool.not_false, Bool.and_true]
termination_by as => as.length
decreasing_by exact Nat.lt_succ_of_le (List.length_filter_le ..)

theorem eraseDups_append_left (as bs : List α) :
    (as.eraseDups ++ bs).eraseDups = (as ++ bs).eraseDups := by
  rw [List.eraseDups_append, List.eraseDups_append, eraseDups_of_nodup (nodup_eraseDups as)]
  refine congrArg (as.eraseDups ++ ·) (congrArg List.eraseDups (List.filter_congr fun b _ => ?_))
  rw [List.elem_eq_mem, List.elem_eq_mem, decide_eq_decide.mpr List.mem_eraseDups]

theorem eraseDups_append_right (as bs : List α) :
    (as ++ bs.eraseDups).eraseDups = (as ++ bs).eraseDups := by
  rw [List.eraseDups_append, List.eraseDups_append, List.removeAll, List.removeAll,
    eraseDups_filter, eraseDups_filter, eraseDups_of_nodup (nodup_eraseDups bs)]

end GuardedCnf
