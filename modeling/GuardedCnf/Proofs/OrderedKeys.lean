import GuardedCnf.Statistics
import Mathlib.Data.String.Basic
/-! # Ordered keys — lists of pairs as maps

    A list of pairs whose keys ascend has every key once, so looking a key up is
    membership.  Setting a key keeps the order, changes what is found under that
    key and nothing else. -/

namespace GuardedCnf

variable {α : Type} {k key : String} {v value : α} {l : List (String × α)}

/-- The keys ascend, so none of them is there twice. -/
def Ascending (l : List (String × α)) : Prop := l.Pairwise fun a b => a.1 < b.1

theorem ascending_nil : Ascending ([] : List (String × α)) := List.Pairwise.nil

/-! ## Looking up. -/

theorem lookup_cons_of_ne (h : k ≠ key) (v : α) (l : List (String × α)) :
    List.lookup k ((key, v) :: l) = l.lookup k := by
  rw [List.lookup_cons, beq_eq_false_iff_ne.mpr h]

/-- A value that is found is in the list with its key. -/
theorem mem_of_lookup (h : l.lookup k = some v) : (k, v) ∈ l := by
  obtain ⟨before, after, rfl, -⟩ := List.lookup_eq_some_iff.mp h
  exact List.mem_append_right before (List.mem_cons_self ..)

/-- Under an ascending key that is there, its value is found. -/
theorem Ascending.lookup_of_mem (hl : Ascending l) (h : (k, v) ∈ l) : l.lookup k = some v := by
  induction l with
  | nil => exact nomatch h
  | cons e l ih =>
      obtain ⟨key, value⟩ := e
      obtain ⟨hfirst, hrest⟩ := List.pairwise_cons.mp hl
      rcases List.mem_cons.mp h with heq | hmem
      · rw [← heq]
        exact List.lookup_cons_self
      · have hk : k ≠ key := (hfirst (k, v) hmem).ne'
        rw [lookup_cons_of_ne hk]
        exact ih hrest hmem

/-! ## Setting a key. -/

theorem setKey_cons_self (key : String) (value v : α) (l : List (String × α)) :
    setKey key value ((key, v) :: l) = (key, value) :: l := if_pos rfl

/-- A key below the first goes to the front. -/
theorem setKey_cons_of_lt (h : key < k) (value v : α) (l : List (String × α)) :
    setKey key value ((k, v) :: l) = (key, value) :: (k, v) :: l :=
  (if_neg h.ne).trans (if_pos h)

/-- A key above the first goes behind it. -/
theorem setKey_cons_of_gt (h : k < key) (value v : α) (l : List (String × α)) :
    setKey key value ((k, v) :: l) = (k, v) :: setKey key value l :=
  (if_neg h.ne').trans (if_neg h.asymm)

/-- A key that is set has its new value. -/
theorem lookup_setKey_self (key : String) (value : α) (l : List (String × α)) :
    (setKey key value l).lookup key = some value := by
  induction l with
  | nil => exact List.lookup_cons_self
  | cons e l ih =>
      obtain ⟨k, v⟩ := e
      rcases lt_trichotomy key k with h | rfl | h
      · rw [setKey_cons_of_lt h, List.lookup_cons_self]
      · rw [setKey_cons_self, List.lookup_cons_self]
      · rw [setKey_cons_of_gt h, lookup_cons_of_ne h.ne', ih]

/-- All other keys keep their values. -/
theorem lookup_setKey_of_ne (hk : k ≠ key) (value : α) (l : List (String × α)) :
    (setKey key value l).lookup k = l.lookup k := by
  induction l with
  | nil => exact lookup_cons_of_ne hk ..
  | cons e l ih =>
      obtain ⟨other, v⟩ := e
      rcases lt_trichotomy key other with h | rfl | h
      · rw [setKey_cons_of_lt h, lookup_cons_of_ne hk]
      · rw [setKey_cons_self, lookup_cons_of_ne hk, lookup_cons_of_ne hk]
      · rw [setKey_cons_of_gt h, List.lookup_cons, List.lookup_cons, ih]

/-- What is there after a key is set was there before, or was just set. -/
theorem mem_setKey (h : (k, v) ∈ setKey key value l) : (k, v) = (key, value) ∨ (k, v) ∈ l := by
  induction l with
  | nil => exact Or.inl (List.mem_singleton.mp h)
  | cons e l ih =>
      obtain ⟨other, w⟩ := e
      rcases lt_trichotomy key other with hlt | rfl | hgt
      · rw [setKey_cons_of_lt hlt] at h
        exact List.mem_cons.mp h
      · rw [setKey_cons_self] at h
        exact (List.mem_cons.mp h).imp_right (List.mem_cons_of_mem _)
      · rw [setKey_cons_of_gt hgt] at h
        rcases List.mem_cons.mp h with heq | hmem
        · exact Or.inr (heq ▸ List.mem_cons_self ..)
        · exact (ih hmem).imp_right (List.mem_cons_of_mem _)

/-- Setting a key keeps the keys in order. -/
theorem Ascending.setKey (hl : Ascending l) (key : String) (value : α) :
    Ascending (setKey key value l) := by
  induction l with
  | nil => exact List.pairwise_singleton _ _
  | cons e l ih =>
      obtain ⟨k, v⟩ := e
      obtain ⟨hfirst, hrest⟩ := List.pairwise_cons.mp hl
      rcases lt_trichotomy key k with h | rfl | h
      · -- the new pair comes first
        rw [setKey_cons_of_lt h]
        refine List.pairwise_cons.mpr ⟨?_, hl⟩
        intro e he
        rcases List.mem_cons.mp he with rfl | he
        · exact h
        · exact h.trans (hfirst e he)
      · rw [setKey_cons_self]
        exact List.pairwise_cons.mpr ⟨hfirst, hrest⟩
      · rw [setKey_cons_of_gt h]
        refine List.pairwise_cons.mpr ⟨?_, ih hrest⟩
        rintro ⟨other, w⟩ he
        rcases mem_setKey he with heq | he
        · exact (Prod.mk.inj heq).1 ▸ h
        · exact hfirst _ he

/-! ## Setting several keys. -/

/-- The list with several keys set, one after the other. -/
def setKeys (pairs l : List (String × α)) : List (String × α) :=
  pairs.foldl (fun l p => GuardedCnf.setKey p.1 p.2 l) l

/-- Setting keys one after the other keeps the keys in order. -/
theorem Ascending.setKeys (hl : Ascending l) (pairs : List (String × α)) :
    Ascending (setKeys pairs l) := by
  induction pairs generalizing l with
  | nil => exact hl
  | cons p pairs ih => exact ih (hl.setKey p.1 p.2)

/-- A key that is not set keeps its value. -/
theorem lookup_setKeys_of_forall {pairs : List (String × α)} (h : ∀ v, (k, v) ∉ pairs)
    (l : List (String × α)) : (setKeys pairs l).lookup k = l.lookup k := by
  induction pairs generalizing l with
  | nil => rfl
  | cons p pairs ih =>
      obtain ⟨key, value⟩ := p
      have hk : k ≠ key := by
        rintro rfl
        exact h value (List.mem_cons_self ..)
      have hrest : ∀ v, (k, v) ∉ pairs := fun v hv => h v (List.mem_cons_of_mem _ hv)
      exact (ih hrest _).trans (lookup_setKey_of_ne hk value l)

/-- A key that is set to one value only has this value. -/
theorem lookup_setKeys_of_unique {pairs : List (String × α)} (hmem : (k, v) ∈ pairs)
    (hunique : ∀ w, (k, w) ∈ pairs → w = v) (l : List (String × α)) :
    (setKeys pairs l).lookup k = some v := by
  induction pairs generalizing l with
  | nil => exact nomatch hmem
  | cons p pairs ih =>
      obtain ⟨key, value⟩ := p
      have hrest : ∀ w, (k, w) ∈ pairs → w = v := fun w hw =>
        hunique w (List.mem_cons_of_mem _ hw)
      by_cases hlater : ∃ w, (k, w) ∈ pairs
      · obtain ⟨w, hw⟩ := hlater
        exact ih (hrest w hw ▸ hw) hrest _
      · -- it is set here, and not again
        have hhere : (k, v) = (key, value) := by
          rcases List.mem_cons.mp hmem with heq | hmem
          · exact heq
          · exact absurd ⟨v, hmem⟩ hlater
        obtain ⟨rfl, rfl⟩ := Prod.mk.inj hhere
        have hnot : ∀ w, (k, w) ∉ pairs := fun w hw => hlater ⟨w, hw⟩
        exact (lookup_setKeys_of_forall hnot _).trans (lookup_setKey_self k v l)

end GuardedCnf
