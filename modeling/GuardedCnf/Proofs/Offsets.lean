import GuardedCnf.Proofs.Renaming
import GuardedCnf.Proofs.Reservations
/-! # Offsets — encodings of a conjunction differ by a shift

    Two maps may have any variables; an encoding made with them has its own
    variables after those of the map and of the formula.  Clauses are simplified
    before they are guarded, and the formula's variables lie below the selectors,
    so a renaming that fixes the former takes one encoding to the other. -/

namespace GuardedCnf

variable {ρ : Var → Var}

namespace GuardedConjunct

/-- The clauses of a conjunct with other variables. -/
def rename (ρ : Var → Var) (g : GuardedConjunct) : GuardedConjunct :=
  ⟨ρ g.selector, g.holds.rename ρ, g.fails.rename ρ⟩

theorem clauses_rename (ρ : Var → Var) (g : GuardedConjunct) :
    (g.rename ρ).clauses = g.clauses.rename ρ := (Cnf.rename_append ρ g.holds g.fails).symm

/-- With another selector a conjunct has the same clauses up to the guards. -/
theorem ofFormula_rename {f : Formula} {a : Var} {g : GuardedConjunct}
    (hfixed : ∀ x ∈ f.vars, ρ x = x) (h : ofFormula f a = .ok g) :
    ofFormula f (ρ a) = .ok (g.rename ρ) := by
  obtain ⟨holds, hholds, h⟩ := except_bind_ok.mp h
  obtain ⟨fails, hfails, h⟩ := except_bind_ok.mp h
  have hpos : holds.rename ρ = holds :=
    Cnf.rename_of_fixed ((Formula.distribute_standsFor hholds).within.mono hfixed)
  have hneg : fails.rename ρ = fails := by
    refine Cnf.rename_of_fixed ((Formula.distribute_standsFor hfails).within.mono ?_)
    intro x hx
    exact hfixed x (Formula.vars_normal f false ▸ hx)
  refine except_bind_ok.mpr ⟨holds, hholds, except_bind_ok.mpr ⟨fails, hfails, ?_⟩⟩
  rw [← Except.ok.inj h]
  show Except.ok (⟨ρ a, holds.guarded ⟨ρ a, false⟩, fails.guarded ⟨ρ a, true⟩⟩ : GuardedConjunct)
    = .ok ⟨ρ a, (holds.guarded ⟨a, false⟩).rename ρ, (fails.guarded ⟨a, true⟩).rename ρ⟩
  rw [Cnf.rename_guarded, Cnf.rename_guarded, hpos, hneg]
  rfl

end GuardedConjunct

namespace Encoding

variable {fs : List Formula} {e : Encoding}

/-- The encoding with other variables. -/
def rename (ρ : Var → Var) (e : Encoding) : Encoding :=
  ⟨e.conjuncts.map (GuardedConjunct.rename ρ), ρ e.root⟩

theorem selectors_rename (ρ : Var → Var) (e : Encoding) :
    (e.rename ρ).selectors = e.selectors.map ρ := by
  show (e.conjuncts.map (GuardedConjunct.rename ρ)).map (·.selector) = _
  rw [selectors, List.map_map, List.map_map]
  rfl

theorem cnf_rename (ρ : Var → Var) (e : Encoding) : (e.rename ρ).cnf = e.cnf.rename ρ := by
  have hroots : (e.conjuncts.map (GuardedConjunct.rename ρ)).map
      (fun g => [⟨ρ e.root, false⟩, g.selected]) =
        Cnf.rename ρ (e.conjuncts.map fun g => [⟨e.root, false⟩, g.selected]) := by
    unfold Cnf.rename
    rw [List.map_map, List.map_map]
    rfl
  have hclauses : (e.conjuncts.map (GuardedConjunct.rename ρ)).flatMap GuardedConjunct.clauses =
      Cnf.rename ρ (e.conjuncts.flatMap GuardedConjunct.clauses) := by
    unfold Cnf.rename
    rw [List.flatMap_map, List.map_flatMap]
    exact List.flatMap_congr fun g _ => GuardedConjunct.clauses_rename ρ g
  unfold cnf
  rw [Cnf.rename_append, ← hclauses, ← hroots]
  rfl

/-- Renaming the selectors renames the guarded conjuncts, where their own variables
    stay. -/
theorem guardAll_rename {i : Nat} {as : List Var} {gs : List GuardedConjunct}
    (hfixed : ∀ f ∈ fs, ∀ x ∈ f.vars, ρ x = x) (h : guardAll i fs as = .ok gs) :
    guardAll i fs (as.map ρ) = .ok (gs.map (GuardedConjunct.rename ρ)) := by
  induction fs generalizing i as gs with
  | nil =>
      rw [← Except.ok.inj h]
      rfl
  | cons f fs ih =>
      cases as with
      | nil =>
          rw [← Except.ok.inj h]
          rfl
      | cons a as =>
          obtain ⟨g, hg, h⟩ := except_bind_ok.mp h
          obtain ⟨others, hothers, h⟩ := except_bind_ok.mp h
          rw [← Except.ok.inj h]
          have hf := GuardedConjunct.ofFormula_rename (hfixed f (List.mem_cons_self ..))
            (except_mapError_ok.mp hg)
          have hrest := ih (fun k hk => hfixed k (List.mem_cons_of_mem _ hk)) hothers
          exact except_bind_ok.mpr ⟨_, except_mapError_ok.mpr hf,
            except_bind_ok.mpr ⟨_, hrest, rfl⟩⟩

/-! ## Shifts. -/

/-- The variables from `b` on move to those from `b'` on. -/
def shift (b b' x : Nat) : Var := if x < b then x else x - b + b'

theorem shift_of_lt {b x : Nat} (b' : Nat) (h : x < b) : shift b b' x = x := if_pos h

theorem shift_add (b b' i : Nat) : shift b b' (b + i) = b' + i := by
  unfold shift
  rw [if_neg (Nat.not_lt_of_le (Nat.le_add_right b i)), Nat.add_sub_cancel_left, Nat.add_comm]

/-- A shift moves a row of variables as a whole. -/
theorem map_shift_range' (b b' n : Nat) :
    (List.range' b n).map (shift b b') = List.range' b' n := by
  refine List.ext_getElem (by rw [List.length_map, List.length_range', List.length_range']) ?_
  intro i hi hi'
  rw [List.getElem_map, List.getElem_range', List.getElem_range', Nat.one_mul]
  exact shift_add b b' i

/-- An encoding above one variable is shifted to one above another. -/
theorem above_shift {b : Nat} (b' : Nat) (hbelow : ∀ f ∈ fs, ∀ x ∈ f.vars, x < b)
    (h : above b fs = .ok e) : above b' fs = .ok (e.rename (shift b b')) := by
  obtain ⟨gs, hgs, h⟩ := except_bind_ok.mp h
  have hfixed : ∀ f ∈ fs, ∀ x ∈ f.vars, shift b b' x = x := by
    intro f hf x hx
    exact shift_of_lt b' (hbelow f hf x hx)
  have hshifted := guardAll_rename hfixed hgs
  rw [map_shift_range'] at hshifted
  refine except_bind_ok.mpr ⟨_, hshifted, ?_⟩
  rw [← Except.ok.inj h, rename, shift_add]
  rfl

/-- **ENCODINGS DIFFER BY A SHIFT**.  With two maps, whatever these hold, a
    conjunction gets the same clauses in the same order and with the same
    literals in order, and the same selectors and root, but for the place where
    the variables of the encoding begin. -/
theorem encodings_differ_by_shift {fs : List Formula} {vars vars' again again' : VariableMap}
    {e e' : Encoding} (h : (ofFormula (.and fs)).run vars = .ok e vars')
    (h' : (ofFormula (.and fs)).run again = .ok e' again') :
    let b := max vars.size (Formula.and fs).varCount
    let b' := max again.size (Formula.and fs).varCount
    e'.cnf = e.cnf.rename (shift b b') ∧ e'.selectors = e.selectors.map (shift b b') ∧
      e'.root = shift b b' e.root := by
  intro b b'
  have hshifted : above b' fs = .ok (e.rename (shift b b')) :=
    above_shift b' (ofFormula_ok h).1.below (ofFormula_parts h).2
  have he' : e' = e.rename (shift b b') :=
    Except.ok.inj ((ofFormula_parts h').2.symm.trans hshifted)
  rw [he']
  refine ⟨?_, ?_, rfl⟩
  · exact cnf_rename (shift b b') e
  · exact selectors_rename (shift b b') e

/-- One map is empty, and the other has more variables than the conjunction, with
    the name of a selector among them. -/
theorem encodings_differ_by_shift_two :
    let fs : List Formula := [.or [.lit ⟨0, true⟩, .lit ⟨1, true⟩], .lit ⟨0, false⟩]
    let again := (((VariableMap.empty 6).push ⟨"__selector_1", false⟩ (by simp)).push ⟨"y", false⟩
      (by simp)).push ⟨"z", true⟩ (by simp)
    ∃ e e' vars' again',
      (ofFormula (.and fs)).run (.empty 5) = .ok e vars' ∧
      (ofFormula (.and fs)).run again = .ok e' again' ∧
      e.cnf = [[⟨0, true⟩, ⟨1, true⟩, ⟨2, false⟩],
        [⟨0, false⟩, ⟨2, true⟩], [⟨1, false⟩, ⟨2, true⟩],
        [⟨0, false⟩, ⟨3, false⟩], [⟨0, true⟩, ⟨3, true⟩],
        [⟨4, false⟩, ⟨2, true⟩], [⟨4, false⟩, ⟨3, true⟩]] ∧
      e'.cnf = [[⟨0, true⟩, ⟨1, true⟩, ⟨3, false⟩],
        [⟨0, false⟩, ⟨3, true⟩], [⟨1, false⟩, ⟨3, true⟩],
        [⟨0, false⟩, ⟨4, false⟩], [⟨0, true⟩, ⟨4, true⟩],
        [⟨5, false⟩, ⟨3, true⟩], [⟨5, false⟩, ⟨4, true⟩]] := by
  intro fs again
  have hnnf : ∀ f ∈ fs, f.isNnf = true := by
    simp [fs, Formula.isNnf, Formula.isNnfAll]
  obtain ⟨e, vars', h⟩ := exists_ofFormula (.empty 5) hnnf (by decide)
  obtain ⟨e', again', h'⟩ := exists_ofFormula again hnnf (by decide)
  have habove : above 2 fs = .ok e := (ofFormula_parts h).2
  have hcnf := congrArg (Except.map cnf) habove
  refine ⟨e, e', vars', again', h, h', (Except.ok.inj hcnf).symm, ?_⟩
  rw [(encodings_differ_by_shift h h').1, ← Except.ok.inj hcnf]
  rfl

end Encoding

end GuardedCnf
