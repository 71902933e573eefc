import GuardedCnf.Clause
import GuardedCnf.Proofs.Repetitions
/-! # Simplification — clauses that are merged are simplified as a whole

    Simplifying a clause gives it up when it is a tautology and else keeps the
    first occurrence of every literal.  A part of a clause may be simplified
    before the whole, on either side.  So merging two clauses, which goes through
    the second one literal by literal, is simplifying their concatenation. -/

namespace GuardedCnf

theorem Literal.complement_ne (l : Literal) : l.complement ≠ l := by
  intro h
  have hpositive : (!l.positive) = l.positive := congrArg Literal.positive h
  exact absurd hpositive (by cases l.positive <;> decide)

/-- Two literals on one variable are equal or complementary. -/
theorem Literal.eq_or_eq_complement {k l : Literal} (h : k.var = l.var) :
    k = l ∨ k = l.complement := by
  obtain ⟨x, p⟩ := k
  obtain ⟨y, q⟩ := l
  have hxy : x = y := h
  subst hxy
  cases p <;> cases q
  · exact Or.inl rfl
  · exact Or.inr rfl
  · exact Or.inr rfl
  · exact Or.inl rfl

namespace Clause

variable {c d r : Clause} {l : Literal}

/-- A clause without a repeated literal, and without a literal beside its
    complement. -/
structure Reduced (c : Clause) : Prop where
  nodup : c.Nodup
  consistent : ∀ l ∈ c, l.complement ∉ c

/-- The clause with the first occurrence of every literal, unless it is a
    tautology. -/
def simplified (c : Clause) : Option Clause :=
  if c.isTautology then none else some c.eraseDups

/-- A tautology has a literal and its complement. -/
theorem isTautology_iff : c.isTautology = true ↔ ∃ l ∈ c, l.complement ∈ c := by
  simp only [isTautology, List.any_eq_true, List.contains_iff_mem]

/-- Tautologies are dropped. -/
theorem simplified_of_isTautology (h : c.isTautology = true) : c.simplified = none :=
  if_pos h

/-- From any other clause only the repetitions are dropped. -/
theorem simplified_of_not_isTautology (h : ¬c.isTautology = true) :
    c.simplified = some c.eraseDups :=
  if_neg h

/-- More literals make a tautology no less one. -/
theorem isTautology_of_subset (h : c ⊆ d) (hc : c.isTautology = true) : d.isTautology = true := by
  obtain ⟨l, hl, hcomplement⟩ := isTautology_iff.mp hc
  exact isTautology_iff.mpr ⟨l, h hl, h hcomplement⟩

/-- What is simplified are the first occurrences of the literals. -/
theorem simplified_congr (h : c.eraseDups = d.eraseDups) : c.simplified = d.simplified := by
  have hmem (l : Literal) : l ∈ c ↔ l ∈ d := by
    rw [← List.mem_eraseDups, h, List.mem_eraseDups]
  have htautology : c.isTautology = d.isTautology := by
    rw [Bool.eq_iff_iff, isTautology_iff, isTautology_iff]
    exact exists_congr fun l => and_congr (hmem l) (hmem l.complement)
  rw [simplified, simplified, htautology, h]

/-! ## Parts of a clause. -/

/-- The first part may be simplified before the whole. -/
theorem simplified_append_left (c d : Clause) :
    (c.simplified.bind fun c' => simplified (c' ++ d)) = simplified (c ++ d) := by
  by_cases hc : c.isTautology = true
  · have hwhole : isTautology (c ++ d) = true :=
      isTautology_of_subset (List.subset_append_left c d) hc
    rw [simplified_of_isTautology hc, simplified_of_isTautology hwhole]
    rfl
  · rw [simplified_of_not_isTautology hc]
    exact simplified_congr (eraseDups_append_left c d)

/-- The second part may be simplified before the whole. -/
theorem simplified_append_right (c d : Clause) :
    (d.simplified.bind fun d' => simplified (c ++ d')) = simplified (c ++ d) := by
  by_cases hd : d.isTautology = true
  · have hwhole : isTautology (c ++ d) = true :=
      isTautology_of_subset (List.subset_append_right c d) hd
    rw [simplified_of_isTautology hd, simplified_of_isTautology hwhole]
    rfl
  · rw [simplified_of_not_isTautology hd]
    exact simplified_congr (eraseDups_append_right c d)

/-! ## Reduced clauses. -/

theorem reduced_nil : Reduced [] := ⟨List.nodup_nil, fun _ hl => nomatch hl⟩

theorem reduced_singleton (l : Literal) : Reduced [l] := by
  refine ⟨List.nodup_singleton l, fun k hk hcomplement => ?_⟩
  rw [List.mem_singleton] at hk hcomplement
  exact l.complement_ne (hk ▸ hcomplement)

/-- A reduced clause is no tautology. -/
theorem Reduced.not_isTautology (h : Reduced c) : ¬c.isTautology = true := by
  rw [isTautology_iff]
  rintro ⟨l, hl, hcomplement⟩
  exact h.consistent l hl hcomplement

/-- Nothing is left to simplify in a reduced clause. -/
theorem Reduced.simplified_eq (h : Reduced c) : c.simplified = some c := by
  rw [simplified_of_not_isTautology h.not_isTautology, eraseDups_of_nodup h.nodup]

/-- What simplifying leaves is reduced. -/
theorem reduced_of_simplified (h : c.simplified = some r) : Reduced r := by
  by_cases hc : c.isTautology = true
  · rw [simplified_of_isTautology hc] at h
    exact nomatch h
  · rw [simplified_of_not_isTautology hc] at h
    rw [← Option.some.inj h]
    refine ⟨nodup_eraseDups c, fun l hl hcomplement => hc (isTautology_iff.mpr ?_)⟩
    exact ⟨l, List.mem_eraseDups.mp hl, List.mem_eraseDups.mp hcomplement⟩

/-! ## Mergers. -/

/-- With one more literal a reduced clause is a tautology just when it has the
    complement. -/
theorem Reduced.isTautology_concat (h : Reduced c) (l : Literal) :
    isTautology (c ++ [l]) = true ↔ l.complement ∈ c := by
  rw [isTautology_iff]
  constructor
  · rintro ⟨k, hk, hcomplement⟩
    rw [List.mem_append, List.mem_singleton] at hk hcomplement
    rcases hk with hk | rfl
    · rcases hcomplement with hcomplement | rfl
      · exact absurd hcomplement (h.consistent k hk)
      · rw [Literal.complement_complement]
        exact hk
    · exact hcomplement.resolve_right k.complement_ne
  · intro hcomplement
    exact ⟨l, List.mem_append_right c (List.mem_singleton_self l),
      List.mem_append_left [l] hcomplement⟩

/-- Inserting a literal is simplifying the clause with the literal. -/
theorem Reduced.insert_eq (h : Reduced c) (l : Literal) :
    c.insert l = simplified (c ++ [l]) := by
  unfold insert
  by_cases hcomplement : l.complement ∈ c
  · rw [if_pos (List.contains_iff_mem.mpr hcomplement),
      simplified_of_isTautology ((h.isTautology_concat l).mpr hcomplement)]
  · rw [if_neg (fun hmem => hcomplement (List.contains_iff_mem.mp hmem)),
      simplified_of_not_isTautology (fun hmem => hcomplement ((h.isTautology_concat l).mp hmem)),
      List.eraseDups_append, eraseDups_of_nodup h.nodup]
    by_cases hl : l ∈ c
    · rw [if_pos (List.contains_iff_mem.mpr hl), List.removeAll,
        List.filter_cons_of_neg (by rw [List.elem_eq_mem, decide_eq_true hl]; decide)]
      exact congrArg some (List.append_nil c).symm
    · rw [if_neg (fun hmem => hl (List.contains_iff_mem.mp hmem)), List.removeAll,
        List.filter_cons_of_pos (by rw [List.elem_eq_mem, decide_eq_false hl]; rfl)]
      rfl

/-- **MERGING SIMPLIFIES**: a merger with a reduced clause is the simplified
    concatenation, whatever the other clause is. -/
theorem Reduced.merge_eq (h : Reduced c) (d : Clause) : c.merge d = simplified (c ++ d) := by
  induction d generalizing c with
  | nil => rw [List.append_nil, h.simplified_eq, merge]
  | cons l d ih =>
      have hstep : c.merge (l :: d) = (simplified (c ++ [l])).bind fun k => k.merge d := by
        rw [← h.insert_eq l]
        rfl
      have hconcat : c ++ l :: d = (c ++ [l]) ++ d := List.append_cons c l d
      rw [hstep, hconcat, ← simplified_append_left (c ++ [l]) d]
      exact Option.bind_congr fun k hk => ih (reduced_of_simplified hk)

/-- Mergers with reduced clauses are reduced. -/
theorem Reduced.merge (h : Reduced c) (hr : c.merge d = some r) : Reduced r := by
  rw [h.merge_eq d] at hr
  exact reduced_of_simplified hr

end Clause

end GuardedCnf
