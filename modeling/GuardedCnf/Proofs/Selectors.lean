import GuardedCnf.Encoding
import GuardedCnf.Proofs.Allocation
import GuardedCnf.Proofs.Distribution
import Mathlib.Data.List.Forall2
import Mathlib.Data.List.GetD
import Mathlib.Logic.ExistsUnique
/-! # Selectors — every selector is equivalent to its conjunct

    The clauses of a conjunct and of its negation, each guarded by the selector
    in one polarity, say that the selector has the value of the conjunct.  The
    selectors and the root lie above all variables of the formula, so they can
    take the values that the clauses ask for, whatever the values of the
    formula's own variables are. -/

namespace GuardedCnf

/-! ## One conjunct. -/

namespace GuardedConjunct

/-- Clauses which say that the selector has the value of a formula, on the
    variables of the formula and the selector. -/
structure Guards (g : GuardedConjunct) (f : Formula) : Prop where
  eval : ∀ v, g.clauses.eval v = (v g.selector == f.eval v)
  within : g.clauses.Within fun x => x ∈ f.vars ∨ x = g.selector

/-- The guarded clauses of a conjunct and of its negation make an
    equivalence. -/
theorem ofFormula_ok {f : Formula} {a : Var} {g : GuardedConjunct}
    (h : ofFormula f a = .ok g) : g.selector = a ∧ g.Guards f := by
  obtain ⟨holds, hholds, h⟩ := except_bind_ok.mp h
  obtain ⟨fails, hfails, h⟩ := except_bind_ok.mp h
  have hpos := Formula.distribute_standsFor hholds
  have hneg := Formula.distribute_standsFor hfails
  rw [← Except.ok.inj h]
  refine ⟨rfl, fun v => ?_, Cnf.Within.append ?_ ?_⟩
  · show Cnf.eval v (holds.guarded ⟨a, false⟩ ++ fails.guarded ⟨a, true⟩) = _
    rw [Cnf.eval_append, Cnf.eval_guarded, Cnf.eval_guarded, hpos.eval, hneg.eval,
      Formula.eval_negatedNnf]
    show ((f.eval v || (v a == false)) && (!f.eval v || (v a == true))) = (v a == f.eval v)
    cases f.eval v <;> cases v a <;> rfl
  · exact (hpos.within.mono fun x hx => Or.inl hx).guarded (Or.inr rfl)
  · refine (hneg.within.mono fun x hx => Or.inl ?_).guarded (Or.inr rfl)
    exact (Formula.vars_normal f false) ▸ hx

theorem exists_ofFormula {f : Formula} (h : f.isNnf = true) (a : Var) :
    ∃ g, ofFormula f a = .ok g := by
  obtain ⟨holds, hholds⟩ := Formula.exists_distribute h
  obtain ⟨fails, hfails⟩ := Formula.exists_distribute (Formula.isNnf_normal f false)
  exact ⟨_, except_bind_ok.mpr ⟨holds, hholds, except_bind_ok.mpr ⟨fails, hfails, rfl⟩⟩⟩

end GuardedConjunct

namespace Encoding

/-! ## All conjuncts. -/

/-- Conjuncts and their guarded forms, in the same order. -/
abbrev GuardsAll : List GuardedConjunct → List Formula → Prop :=
  List.Forall₂ GuardedConjunct.Guards

/-- Every formula is encoded by itself, with its own selector. -/
theorem guardAll_forall₂ {i : Nat} {fs : List Formula} {as : List Var}
    {gs : List GuardedConjunct} (hlen : as.length = fs.length) (h : guardAll i fs as = .ok gs) :
    gs.map (·.selector) = as ∧
      List.Forall₂ (fun g f => GuardedConjunct.ofFormula f g.selector = .ok g) gs fs := by
  induction fs generalizing i as gs with
  | nil =>
      rw [List.length_eq_zero_iff.mp hlen] at h ⊢
      rw [← Except.ok.inj h]
      exact ⟨rfl, List.Forall₂.nil⟩
  | cons f fs ih =>
      cases as with
      | nil => exact nomatch hlen
      | cons a as =>
          obtain ⟨g, hg, h⟩ := except_bind_ok.mp h
          obtain ⟨others, hothers, h⟩ := except_bind_ok.mp h
          have hf := except_mapError_ok.mp hg
          have ha := (GuardedConjunct.ofFormula_ok hf).1
          -- the selectors are used up one by one
          obtain ⟨has, hall⟩ := ih (Nat.succ.inj hlen) hothers
          rw [← Except.ok.inj h]
          refine ⟨?_, List.Forall₂.cons (ha ▸ hf) hall⟩
          rw [List.map_cons, ha, has]

/-- Conjuncts are guarded by the selectors in order. -/
theorem guardAll_ok {i : Nat} {fs : List Formula} {as : List Var} {gs : List GuardedConjunct}
    (hlen : as.length = fs.length) (h : guardAll i fs as = .ok gs) :
    gs.map (·.selector) = as ∧ GuardsAll gs fs := by
  obtain ⟨has, hall⟩ := guardAll_forall₂ hlen h
  exact ⟨has, hall.imp fun g f hf => (GuardedConjunct.ofFormula_ok hf).2⟩

/-- Normal conjuncts can all be guarded. -/
theorem exists_guardAll {fs : List Formula} (h : ∀ f ∈ fs, f.isNnf = true) (i : Nat)
    (as : List Var) : ∃ gs, guardAll i fs as = .ok gs := by
  induction fs generalizing i as with
  | nil => exact ⟨[], rfl⟩
  | cons f fs ih =>
      cases as with
      | nil => exact ⟨[], rfl⟩
      | cons a as =>
          obtain ⟨g, hg⟩ := GuardedConjunct.exists_ofFormula (h f (List.mem_cons_self ..)) a
          obtain ⟨gs, hgs⟩ := ih (fun k hk => h k (List.mem_cons_of_mem _ hk)) (i + 1) as
          exact ⟨g :: gs, except_bind_ok.mpr ⟨g, except_mapError_ok.mpr hg,
            except_bind_ok.mpr ⟨gs, hgs, rfl⟩⟩⟩

/-- The clauses of the conjuncts ask of every selector the value of its
    conjunct. -/
theorem eval_clauses {gs : List GuardedConjunct} {fs : List Formula} (h : GuardsAll gs fs)
    (v : Valuation) :
    Cnf.eval v (gs.flatMap GuardedConjunct.clauses) = true ↔
      (gs.map (·.selector)).map v = fs.map (Formula.eval v) := by
  induction h with
  | nil => exact ⟨fun _ => rfl, fun _ => rfl⟩
  | cons hg _ ih =>
      rw [List.flatMap_cons, Cnf.eval_append, hg.eval, Bool.and_eq_true, ih, beq_iff_eq,
        List.map_cons, List.map_cons, List.map_cons, List.cons.injEq]

/-- The clauses of the root ask for all selectors, unless the root is false. -/
theorem eval_rootClauses (gs : List GuardedConjunct) (root : Var) (v : Valuation) :
    Cnf.eval v (gs.map fun g => [⟨root, false⟩, g.selected]) = true ↔
      v root = false ∨ ∀ a ∈ gs.map (·.selector), v a = true := by
  rw [Cnf.eval, List.all_map, List.all_eq_true, List.forall_mem_map]
  have hclause : ∀ g : GuardedConjunct,
      (Clause.eval v ∘ fun g => [⟨root, false⟩, g.selected]) g = true ↔
        v root = false ∨ v g.selector = true := by
    intro g
    show ((v root == false) || ((v g.selector == true) || false)) = true ↔ _
    rw [Bool.or_false, Bool.or_eq_true, beq_iff_eq, beq_iff_eq]
  constructor
  · intro h
    by_cases hroot : v root = false
    · exact Or.inl hroot
    · exact Or.inr fun g hg => ((hclause g).mp (h g hg)).resolve_left hroot
  · rintro (hroot | hall) g hg
    · exact (hclause g).mpr (Or.inl hroot)
    · exact (hclause g).mpr (Or.inr (hall g hg))

/-! ## Allocation of the selectors and the root. -/

/-- Selectors are consecutive variables from the size of the map on. -/
theorem allocateSelectors_ok {i : Nat} {fs : List Formula} {vars vars' : VariableMap}
    {as : List Var} (h : (allocateSelectors i fs).run vars = .ok as vars') :
    as = List.range' vars.size fs.length ∧
      ∃ es, es.length = fs.length ∧ (∀ e ∈ es, e.auxiliary = true) ∧ vars.Grows vars' es := by
  induction fs generalizing i vars as with
  | nil =>
      obtain ⟨rfl, rfl⟩ := state_pure_ok.mp h
      exact ⟨rfl, [], rfl, (fun e he => nomatch he), .refl _⟩
  | cons f fs ih =>
      obtain ⟨a, u, ha, h⟩ := state_bind_ok.mp h
      obtain ⟨others, t, hothers, h⟩ := state_bind_ok.mp h
      obtain ⟨rfl, rfl⟩ := state_pure_ok.mp h
      obtain ⟨rfl, hone⟩ := VariableMap.fresh_ok ha
      obtain ⟨rfl, es, hlen, haux, hgrows⟩ := ih hothers
      -- the first selector is the next variable, and the others come after it
      refine ⟨?_, _ :: es, congrArg (· + 1) hlen, ?_, hone.trans hgrows⟩
      · rw [List.length_cons, List.range'_succ, hone.size]
        rfl
      · intro e he
        rcases List.mem_cons.mp he with rfl | he
        · rfl
        · exact haux e he

/-- Where there is room, each conjunct gets a selector. -/
theorem exists_allocateSelectors (vars : VariableMap) (fs : List Formula) (i : Nat)
    (h : vars.size + fs.length ≤ vars.limit) :
    ∃ as vars', (allocateSelectors i fs).run vars = .ok as vars' := by
  induction fs generalizing i vars with
  | nil => exact ⟨[], vars, rfl⟩
  | cons f fs ih =>
      rw [List.length_cons] at h
      obtain ⟨a, u, ha⟩ := VariableMap.exists_fresh vars (selectorName i) (by omega)
      obtain ⟨-, hone⟩ := VariableMap.fresh_ok ha
      have hsize := hone.size
      rw [List.length_singleton] at hsize
      obtain ⟨as, w, has⟩ := ih u (i + 1) (by rw [hone.limit]; omega)
      exact ⟨a :: as, w, state_bind_ok.mpr ⟨a, u, ha, state_bind_ok.mpr ⟨as, w, has,
        state_pure_ok.mpr ⟨rfl, rfl⟩⟩⟩⟩

/-! ## The encoding of a conjunction. -/

/-- What an encoding of conjuncts over `b` variables is: the selectors come
    right after these variables, then the root, and the clauses guard the
    conjuncts. -/
structure Encodes (e : Encoding) (fs : List Formula) (b : Nat) : Prop where
  selectors : e.selectors = List.range' b fs.length
  root : e.root = b + fs.length
  guards : GuardsAll e.conjuncts fs
  below : ∀ f ∈ fs, ∀ x ∈ f.vars, x < b

/-- The number of variables that come before the selectors, when a conjunction
    is encoded with a map. -/
def inputCount (vars : VariableMap) (fs : List Formula) : Nat :=
  max vars.size (Formula.and fs).varCount

/-- **WHAT ENCODING DOES**: the map gets the missing variables of the formula
    and after them the auxiliary ones of the encoding. -/
theorem ofFormula_ok {fs : List Formula} {vars vars' : VariableMap} {e : Encoding}
    (h : (ofFormula (.and fs)).run vars = .ok e vars') :
    e.Encodes fs (inputCount vars fs) ∧
      ∃ inputs own, vars.size + inputs.length = inputCount vars fs ∧
        own.length = fs.length + 1 ∧ (∀ e ∈ inputs, e.auxiliary = false) ∧
        (∀ e ∈ own, e.auxiliary = true) ∧ vars.Grows vars' (inputs ++ own) := by
  obtain ⟨_, u, hcover, h⟩ := state_bind_ok.mp h
  obtain ⟨as, t, has, h⟩ := state_bind_ok.mp h
  obtain ⟨root, s, hroot, h⟩ := state_bind_ok.mp h
  obtain ⟨hsize, inputs, hinputs, hgrows⟩ := VariableMap.cover_ok hcover
  obtain ⟨rfl, selected, hlen, haux, hselected⟩ := allocateSelectors_ok has
  obtain ⟨rfl, hlast⟩ := VariableMap.fresh_ok hroot
  cases hgs : guardAll 1 fs (List.range' u.size fs.length) with
  | error err =>
      rw [hgs] at h
      exact nomatch h
  | ok gs =>
      rw [hgs] at h
      obtain ⟨rfl, rfl⟩ := state_pure_ok.mp h
      obtain ⟨hselectors, hguards⟩ := guardAll_ok List.length_range' hgs
      refine ⟨⟨?_, ?_, hguards, ?_⟩, inputs, selected ++ _, ?_, ?_, hinputs, ?_,
        hgrows.trans (hselected.trans hlast)⟩
      · rw [inputCount, ← hsize]
        exact hselectors
      · rw [inputCount, ← hsize, ← hlen]
        exact hselected.size
      · intro f hf x hx
        have hlt := Formula.lt_varCount_of_mem_vars (Formula.mem_vars_and.mpr ⟨f, hf, hx⟩)
        exact Nat.lt_of_lt_of_le hlt (Nat.le_max_right ..)
      · rw [inputCount, ← hsize, hgrows.size]
      · rw [List.length_append, hlen, List.length_singleton]
      · intro e he
        rcases List.mem_append.mp he with he | he
        · exact haux e he
        · rw [List.mem_singleton.mp he]

/-- After encoding, the map has the input variables, the selectors and the
    root. -/
theorem ofFormula_size {fs : List Formula} {vars vars' : VariableMap} {e : Encoding}
    (h : (ofFormula (.and fs)).run vars = .ok e vars') :
    vars'.size = inputCount vars fs + fs.length + 1 := by
  obtain ⟨-, inputs, own, hinputs, hown, -, -, hgrows⟩ := ofFormula_ok h
  rw [hgrows.size, List.length_append, hown]
  omega

/-- Where there is room for its variables, a conjunction gets them. -/
theorem exists_allocations (vars : VariableMap) {fs : List Formula}
    (hroom : inputCount vars fs + fs.length + 1 ≤ vars.limit) :
    ∃ covered as selected root vars', (VariableMap.cover (.and fs)).run vars = .ok () covered ∧
      (allocateSelectors 1 fs).run covered = .ok as selected ∧
      (VariableMap.fresh rootName).run selected = .ok root vars' := by
  obtain ⟨covered, hcover⟩ := VariableMap.exists_cover vars (.and fs)
    (by rw [inputCount] at hroom; omega)
  obtain ⟨hsize, _, -, hcovered⟩ := VariableMap.cover_ok hcover
  rw [inputCount, ← hsize, ← hcovered.limit] at hroom
  obtain ⟨as, selected, has⟩ := exists_allocateSelectors covered fs 1 (by omega)
  obtain ⟨-, es, hlen, -, hgrows⟩ := allocateSelectors_ok has
  have hsize' := hgrows.size
  obtain ⟨root, vars', hroot⟩ := VariableMap.exists_fresh selected rootName
    (by rw [hgrows.limit]; omega)
  exact ⟨covered, as, selected, root, vars', hcover, has, hroot⟩

/-- A conjunction of formulas in normal form is encoded if the map has room for
    its variables, the selectors and the root. -/
theorem exists_ofFormula (vars : VariableMap) {fs : List Formula}
    (hnnf : ∀ f ∈ fs, f.isNnf = true)
    (hroom : inputCount vars fs + fs.length + 1 ≤ vars.limit) :
    ∃ e vars', (ofFormula (.and fs)).run vars = .ok e vars' := by
  obtain ⟨covered, as, selected, root, vars', hcover, has, hroot⟩ := exists_allocations vars hroom
  obtain ⟨gs, hgs⟩ := exists_guardAll hnnf 1 as
  refine ⟨⟨gs, root⟩, vars', state_bind_ok.mpr ⟨(), covered, hcover, ?_⟩⟩
  refine state_bind_ok.mpr ⟨as, selected, has, state_bind_ok.mpr ⟨root, vars', hroot, ?_⟩⟩
  rw [hgs]
  exact state_pure_ok.mpr ⟨rfl, rfl⟩

/-! ## Models of an encoding. -/

/-- The variables that an encoding adds to those of the formula. -/
def ownVars (e : Encoding) : List Var := e.selectors ++ [e.root]

namespace Encodes

variable {e : Encoding} {fs : List Formula} {b : Nat}

/-- The own variables of an encoding follow those of the map: the selectors in order,
    and the root. -/
theorem ownVars_eq (h : e.Encodes fs b) : e.ownVars = List.range' b (fs.length + 1) := by
  rw [ownVars, h.selectors, h.root, List.range'_concat, Nat.one_mul]

/-- A valuation is a model when every selector has the value of its conjunct,
    and all are true if the root is. -/
theorem eval_cnf (h : e.Encodes fs b) (v : Valuation) :
    e.cnf.eval v = true ↔ e.selectors.map v = fs.map (Formula.eval v) ∧
      (v e.root = false ∨ ∀ a ∈ e.selectors, v a = true) := by
  rw [cnf, Cnf.eval_append, Bool.and_eq_true, eval_clauses h.guards]
  exact and_congr_right fun _ => eval_rootClauses e.conjuncts e.root v

end Encodes

end Encoding

/-! ## Choosing the values of the variables of an encoding. -/

namespace Valuation

/-- The valuation with the values of a list for the variables from `b` on. -/
def setFrom (v : Valuation) (b : Nat) (values : List Bool) : Valuation := fun x =>
  if x < b then v x else values.getD (x - b) (v x)

/-- Two valuations that may differ on the variables of a list only. -/
def AgreeOff (xs : List Var) (v w : Valuation) : Prop := ∀ x, x ∉ xs → w x = v x

/-- Two valuations that may differ from the variable `b` on only. -/
def AgreeBelow (b : Nat) (v w : Valuation) : Prop := ∀ x < b, w x = v x

/-- Setting variables in a row changes no others. -/
theorem agreeOff_setFrom (v : Valuation) (b : Nat) (values : List Bool) :
    AgreeOff (List.range' b values.length) v (v.setFrom b values) := by
  intro x hx
  unfold setFrom
  split
  · rfl
  · next hb =>
      rw [List.mem_range'_1, not_and, Nat.not_lt] at hx
      have hlen := hx (Nat.le_of_not_lt hb)
      exact List.getD_eq_default _ _ (Nat.le_sub_of_add_le' hlen)

/-- Variables that are set in a row have the values set. -/
theorem map_setFrom (v : Valuation) (b : Nat) (values : List Bool) :
    (List.range' b values.length).map (v.setFrom b values) = values := by
  refine List.ext_getElem (by rw [List.length_map, List.length_range']) ?_
  intro i hi hi'
  rw [List.getElem_map, List.getElem_range', Nat.one_mul]
  show (if b + i < b then v (b + i) else values.getD (b + i - b) (v (b + i))) = values[i]
  rw [if_neg (by omega), Nat.add_sub_cancel_left, List.getD_eq_getElem _ _ hi']

end Valuation

namespace Encoding

open GuardedCnf.Valuation (AgreeOff AgreeBelow)

namespace Encodes

variable {e : Encoding} {fs : List Formula} {b : Nat} {v w w' : Valuation}

/-- Valuations that differ on own variables only agree on those of the map. -/
theorem agreeBelow_of_agreeOff (h : e.Encodes fs b) (hvw : AgreeOff e.ownVars v w) :
    AgreeBelow b v w := by
  intro x hx
  refine hvw x ?_
  rw [h.ownVars_eq, List.mem_range'_1]
  exact fun hmem => Nat.not_le_of_lt hx hmem.1

/-- The conjuncts do not see the variables of the encoding. -/
theorem map_eval_congr (h : e.Encodes fs b) (hvw : AgreeBelow b v w) :
    fs.map (Formula.eval w) = fs.map (Formula.eval v) :=
  List.map_congr_left fun f hf =>
    Formula.eval_congr fun x hx => hvw x (h.below f hf x hx)

/-- In a model the selectors have the values of the conjuncts, wherever these
    are read. -/
theorem map_selectors (h : e.Encodes fs b) (hvw : AgreeBelow b v w)
    (hw : e.cnf.eval w = true) : e.selectors.map w = fs.map (Formula.eval v) :=
  ((h.eval_cnf w).mp hw).1.trans (h.map_eval_congr hvw)

/-- In a model with a true root all conjuncts hold, wherever these are read. -/
theorem all_of_root (h : e.Encodes fs b) (hvw : AgreeBelow b v w) (hw : e.cnf.eval w = true)
    (hroot : w e.root = true) : ∀ f ∈ fs, f.eval v = true := by
  obtain ⟨-, hfalse | htrue⟩ := (h.eval_cnf w).mp hw
  · rw [hroot] at hfalse
    exact nomatch hfalse
  · intro f hf
    have hmem : f.eval v ∈ e.selectors.map w := by
      rw [h.map_selectors hvw hw]
      exact List.mem_map_of_mem hf
    obtain ⟨a, ha, hval⟩ := List.mem_map.mp hmem
    rw [← hval]
    exact htrue a ha

/-- The variables of an encoding can have any values. -/
theorem exists_values (h : e.Encodes fs b) (v : Valuation) {values : List Bool}
    (hlen : values.length = fs.length) (r : Bool) :
    ∃ w, AgreeOff e.ownVars v w ∧ e.selectors.map w = values ∧ w e.root = r := by
  have hlen' : (values ++ [r]).length = fs.length + 1 := by
    rw [List.length_append, hlen, List.length_singleton]
  have hown : e.ownVars = List.range' b (values ++ [r]).length := by rw [h.ownVars_eq, hlen']
  have hmap : e.ownVars.map (v.setFrom b (values ++ [r])) = values ++ [r] := by
    rw [hown]
    exact v.map_setFrom b (values ++ [r])
  -- the values of the selectors and the root, one list after the other
  rw [ownVars, List.map_append] at hmap
  have hsel : (e.selectors.map (v.setFrom b (values ++ [r]))).length = values.length := by
    rw [List.length_map, h.selectors, List.length_range', hlen]
  obtain ⟨hselectors, hroot⟩ := List.append_inj hmap hsel
  refine ⟨v.setFrom b (values ++ [r]), ?_, hselectors, (List.cons.inj hroot).1⟩
  rw [hown]
  exact v.agreeOff_setFrom b (values ++ [r])

/-- Every valuation becomes a model when the variables of the encoding get the
    right values; the root may be true only if all conjuncts are. -/
theorem exists_model (h : e.Encodes fs b) (v : Valuation) {r : Bool}
    (hr : r = false ∨ ∀ f ∈ fs, f.eval v = true) :
    ∃ w, AgreeOff e.ownVars v w ∧ w e.root = r ∧ e.cnf.eval w = true := by
  obtain ⟨w, hagree, hselectors, hroot⟩ :=
    h.exists_values v (List.length_map (Formula.eval v)) r
  refine ⟨w, hagree, hroot, (h.eval_cnf w).mpr ⟨?_, ?_⟩⟩
  · rw [hselectors]
    exact (h.map_eval_congr (h.agreeBelow_of_agreeOff hagree)).symm
  · rcases hr with rfl | hall
    · exact Or.inl hroot
    · refine Or.inr fun a ha => ?_
      have hmem : w a ∈ fs.map (Formula.eval v) := hselectors ▸ List.mem_map_of_mem ha
      obtain ⟨f, hf, hval⟩ := List.mem_map.mp hmem
      rw [← hval]
      exact hall f hf

/-- Models with the same values below the variables of the encoding and at the
    root have the same values of all these variables. -/
theorem eq_of_mem_ownVars (h : e.Encodes fs b) (hagree : AgreeBelow b v w)
    (hv : e.cnf.eval v = true) (hw : e.cnf.eval w = true) (hroot : v e.root = w e.root) :
    ∀ x ∈ e.ownVars, v x = w x := by
  intro x hx
  rcases List.mem_append.mp hx with hsel | hsel
  · have hself : AgreeBelow b v v := fun _ _ => rfl
    have hmap := (h.map_selectors hself hv).trans (h.map_selectors hagree hw).symm
    exact List.map_inj_left.mp hmap x hsel
  · rw [List.mem_singleton.mp hsel]
    exact hroot

/-- A model is determined by the values of the root and of the variables
    outside of the encoding. -/
theorem model_unique (h : e.Encodes fs b) (hvw : AgreeOff e.ownVars v w)
    (hvw' : AgreeOff e.ownVars v w') (hw : e.cnf.eval w = true) (hw' : e.cnf.eval w' = true)
    (hroot : w e.root = w' e.root) : w = w' := by
  funext x
  -- outside of the encoding both are the given valuation
  by_cases hx : x ∈ e.ownVars
  · refine h.eq_of_mem_ownVars (fun y hy => ?_) hw hw' hroot x hx
    rw [h.agreeBelow_of_agreeOff hvw y hy, h.agreeBelow_of_agreeOff hvw' y hy]
  · rw [hvw x hx, hvw' x hx]

end Encodes

/-- **SELECTORS FOLLOW THEIR CONJUNCTS**.  The models of an encoding are the
    valuations where every selector has the value of its conjunct and where all
    selectors are true if the root is.  The selectors and the root are new
    variables, so every valuation of the others extends to a model with one
    choice of selectors; the root may be false, and true just when all conjuncts
    are. -/
theorem selectors_follow_conjuncts {fs : List Formula} {vars vars' : VariableMap} {e : Encoding}
    (h : (ofFormula (.and fs)).run vars = .ok e vars') :
    (∀ v : Valuation, e.cnf.eval v = true ↔
      e.selectors.map v = fs.map (Formula.eval v) ∧
        (v e.root = false ∨ ∀ a ∈ e.selectors, v a = true)) ∧
    e.selectors.length = fs.length ∧ e.ownVars.Nodup ∧
    (∀ a ∈ e.ownVars, a < vars'.size ∧ ∀ f ∈ fs, a ∉ f.vars) ∧
    ∀ v : Valuation,
      (∃! w, AgreeOff e.ownVars v w ∧ w e.root = false ∧ e.cnf.eval w = true) ∧
      ((∃ w, AgreeOff e.ownVars v w ∧ w e.root = true ∧ e.cnf.eval w = true) ↔
        ∀ f ∈ fs, f.eval v = true) ∧
      ∀ w, AgreeOff e.ownVars v w → e.cnf.eval w = true →
        e.selectors.map w = fs.map (Formula.eval v) := by
  have henc := (ofFormula_ok h).1
  refine ⟨henc.eval_cnf, ?_, ?_, ?_, fun v => ⟨?_, ?_, ?_⟩⟩
  · rw [henc.selectors, List.length_range']
  · rw [henc.ownVars_eq]
    exact List.nodup_range'
  · intro a ha
    rw [henc.ownVars_eq, List.mem_range'_1] at ha
    refine ⟨?_, fun f hf hmem => ?_⟩
    · rw [ofFormula_size h]
      exact ha.2
    · exact Nat.not_le_of_lt (henc.below f hf a hmem) ha.1
  · -- a false root says nothing, so the selectors only have to follow their conjuncts
    obtain ⟨w, hagree, hroot, hw⟩ := henc.exists_model v (Or.inl rfl)
    refine ⟨w, ⟨hagree, hroot, hw⟩, ?_⟩
    rintro w' ⟨hagree', hroot', hw'⟩
    exact henc.model_unique hagree' hagree hw' hw (hroot'.trans hroot.symm)
  · constructor
    · rintro ⟨w, hagree, hroot, hw⟩
      exact henc.all_of_root (henc.agreeBelow_of_agreeOff hagree) hw hroot
    · exact fun hall => henc.exists_model v (Or.inr hall)
  · exact fun w hagree hw => henc.map_selectors (henc.agreeBelow_of_agreeOff hagree) hw

/-- A disjunction of two variables and a negated third: the first selector says that one
    of the two holds, the second that the third does not. -/
theorem selectors_follow_conjuncts_two :
    ∃ e vars', (ofFormula (.and [.or [.lit ⟨0, true⟩, .lit ⟨1, true⟩], .lit ⟨2, false⟩])).run
        (.empty 6) = .ok e vars' ∧
      ∀ v : Valuation, e.cnf.eval v = true ↔
        e.selectors.map v = [v 0 == true || v 1 == true, v 2 == false] ∧
          (v e.root = false ∨ ∀ a ∈ e.selectors, v a = true) := by
  have hnnf : ∀ f ∈ [Formula.or [.lit ⟨0, true⟩, .lit ⟨1, true⟩], .lit ⟨2, false⟩],
      f.isNnf = true := by
    simp [Formula.isNnf, Formula.isNnfAll]
  obtain ⟨e, vars', h⟩ := exists_ofFormula (.empty 6) hnnf (by decide)
  refine ⟨e, vars', h, fun v => ?_⟩
  rw [(selectors_follow_conjuncts h).1 v]
  simp [Formula.eval, Formula.evalAny, Literal.eval]

end Encoding

end GuardedCnf
