import GuardedCnf.Format.Clauses
import GuardedCnf.Proofs.Declarations
import GuardedCnf.Proofs.Numerals
import GuardedCnf.Proofs.Renaming
import Mathlib.Data.Set.Operations
/-! # Numbering — variables that are called by their numbers

    A file numbers its variables from 1, and a map may have some of the numbers as
    names already, of any of its variables.  Declaring all numbers adds those that
    are missing, and then each number has a variable of its own.  So the clauses
    of a file become those of the map by a renaming, which is injective. -/

namespace GuardedCnf

/-! ## What a reader accepts. -/

namespace Dimacs

/-- The clauses of a file that is accepted are on the variables of the file. -/
theorem State.varCount_of_finish {s : State} {d : Dimacs} (h : s.finish = .ok d) :
    Cnf.varCount d.clauses ≤ d.varCount := by
  unfold finish at h
  split at h
  all_goals
    -- whichever way the last line ends, the checks are the same
    obtain ⟨t, -, h⟩ := except_bind_ok.mp h
    dsimp only at h
    split at h
    · exact nomatch h
    split at h
    · obtain rfl := Except.ok.inj h
      exact Nat.le_refl _
    · split at h
      · exact nomatch h
      split at h
      · exact nomatch h
      obtain rfl := Except.ok.inj h
      exact Nat.le_max_right _ _

/-- A file declares all variables that its clauses have. -/
theorem varCount_of_ofBytes {bytes : List UInt8} {d : Dimacs} (h : ofBytes bytes = .ok d) :
    Cnf.varCount d.clauses ≤ d.varCount := by
  obtain ⟨s, -, hfinish⟩ := except_bind_ok.mp h
  exact State.varCount_of_finish hfinish

end Dimacs

namespace VariableMap

variable {vars : VariableMap} {n : Nat}

/-- The variable of a map that is called by the number of a variable. -/
def numbered (vars : VariableMap) (x : Var) : Var := vars.indexOf (toString x.number)

/-- A map that has the numbers of the first variables, wherever it has them. -/
def HasNumbers (vars : VariableMap) (n : Nat) : Prop :=
  ∀ x < n, toString (Var.number x) ∈ vars.names

/-- A number of the map stands for one of its variables. -/
theorem HasNumbers.numbered_lt (h : vars.HasNumbers n) {x : Var} (hx : x < n) :
    vars.numbered x < vars.size := indexOf_lt (h x hx)

/-- A number of the map leads to its variable. -/
theorem HasNumbers.get?_number (h : vars.HasNumbers n) {x : Var} (hx : x < n) :
    vars.get? (toString x.number) = some (vars.numbered x) := get?_eq_indexOf (h x hx)

/-- The variable for a number has the number as its name. -/
theorem HasNumbers.name?_numbered (h : vars.HasNumbers n) {x : Var} (hx : x < n) :
    vars.name? (vars.numbered x) = some (toString x.number) := name?_indexOf (h x hx)

/-- Different numbers have different variables, since a variable has one name. -/
theorem HasNumbers.injOn_numbered (h : vars.HasNumbers n) :
    Set.InjOn vars.numbered {x | x < n} := by
  intro x hx y hy hxy
  have hname := h.name?_numbered hx
  rw [hxy, h.name?_numbered hy] at hname
  exact Nat.succ.inj (Text.eq_of_toString_eq (Option.some.inj hname)).symm

end VariableMap

namespace Format.Clauses

open VariableMap (Grows inputEntries)

variable {vars vars' : VariableMap} {index : List Var} {k n : Nat}

/-- The numbers from `k` on, as names. -/
def numerals (k n : Nat) : List String := (List.range' k n).map toString

theorem numerals_succ (k n : Nat) : numerals k (n + 1) = [toString k] ++ numerals (k + 1) n := rfl

theorem length_numerals (k n : Nat) : (numerals k n).length = n := by
  rw [numerals, List.length_map, List.length_range']

/-- The variables of a file have the numbers from 1 on. -/
theorem getElem?_numerals {x : Var} (hx : x < n) :
    (numerals 1 n)[x]? = some (toString x.number) := by
  rw [numerals, List.getElem?_map, List.getElem?_range' hx, Nat.one_mul, Nat.add_comm]
  rfl

theorem nodup_numerals (k n : Nat) : (numerals k n).Nodup :=
  List.Nodup.map (fun _ _ h => Text.eq_of_toString_eq h) List.nodup_range'

/-! ## Declarations. -/

/-- Declaring numbers adds the ones that are missing, and gives the variables
    that are called by the numbers. -/
theorem declareNumbers_ok (h : (declareNumbers k n).run vars = .ok index vars') :
    index = (numerals k n).map vars'.indexOf ∧
      vars.Grows vars' (inputEntries (vars.newNames (numerals k n))) := by
  induction n generalizing k vars index with
  | zero =>
      obtain ⟨rfl, rfl⟩ := state_pure_ok.mp h
      exact ⟨rfl, Grows.refl vars⟩
  | succ n ih =>
      obtain ⟨v, t, hv, h⟩ := state_bind_ok.mp h
      obtain ⟨others, u, hothers, h⟩ := state_bind_ok.mp h
      obtain ⟨rfl, rfl⟩ := state_pure_ok.mp h
      obtain ⟨rfl, hgrows⟩ := ih hothers
      have hfirst := VariableMap.declare_ok hv
      rw [numerals_succ]
      refine ⟨?_, hfirst.append_newNames hgrows⟩
      -- the first variable was found in a smaller map, where it has its name already
      have hname := VariableMap.mem_names_of_grows hfirst (List.mem_singleton_self _)
      rw [VariableMap.eq_indexOf_of_declare hv, ← hgrows.indexOf_eq hname]
      rfl

/-- Where there is room for the numerals that are new, the numbers can be declared. -/
theorem exists_declareNumbers (k n : Nat) (vars : VariableMap)
    (hroom : vars.size + (vars.newNames (numerals k n)).length ≤ vars.limit) :
    ∃ index vars', (declareNumbers k n).run vars = .ok index vars' := by
  induction n generalizing k vars with
  | zero => exact ⟨[], vars, rfl⟩
  | succ n ih =>
      have hone := Nat.le_trans
        (Nat.add_le_add_left (vars.length_newNames_le [toString k] (numerals (k + 1) n)) _) hroom
      obtain ⟨v, t, hv⟩ := VariableMap.exists_declare vars (toString k) hone
      obtain ⟨others, vars', hothers⟩ :=
        ih (k + 1) t (VariableMap.room_of_grows (VariableMap.declare_ok hv) hroom)
      exact ⟨v :: others, vars', state_bind_ok.mpr ⟨v, t, hv, state_bind_ok.mpr
        ⟨others, vars', hothers, rfl⟩⟩⟩

/-! ## Formulas. -/

/-- A clause is read with the variables that are called by its numbers. -/
theorem disjunction_numerals {c : Clause} (hc : ∀ l ∈ c, l.var < n) :
    disjunction ((numerals 1 n).map vars.indexOf).toArray c
      = .or ((c.map (Literal.rename vars.numbered)).map .lit) := by
  rw [List.map_map]
  refine congrArg Formula.or (List.map_congr_left fun l hl => ?_)
  have hplace : ((numerals 1 n).map vars.indexOf).toArray.getD l.var 0 = vars.numbered l.var := by
    rw [Array.getD_eq_getD_getElem?, List.getElem?_toArray, List.getElem?_map,
      getElem?_numerals (hc l hl)]
    rfl
  rw [hplace]
  rfl

/-- A file without fault is read into any map with room for the numbers that are missing. -/
theorem exists_parse_of_room {bytes : List UInt8} {d : Dimacs}
    (hread : Dimacs.ofBytes bytes = .ok d)
    (hroom : vars.size + (vars.newNames (numerals 1 d.varCount)).length ≤ vars.limit) :
    ∃ f vars', (parse (.ok bytes)).run vars = .ok f vars' := by
  obtain ⟨index, vars', hdeclare⟩ := exists_declareNumbers 1 d.varCount vars hroom
  unfold parse
  simp only [hread]
  exact ⟨_, vars', state_bind_ok.mpr ⟨index, vars', state_adapt_ok.mpr hdeclare, rfl⟩⟩

/-- **WHAT A FILE SAYS**: an accepted file is the tree of its clauses, with the
    variables that the map has for the numbers. -/
theorem parse_ok {bytes : List UInt8} {f : Formula}
    (h : (parse (.ok bytes)).run vars = .ok f vars') :
    ∃ d, Dimacs.ofBytes bytes = .ok d ∧ f = (d.clauses.rename vars'.numbered).toTree ∧
      vars.Grows vars' (inputEntries (vars.newNames (numerals 1 d.varCount))) := by
  unfold parse at h
  cases hread : Dimacs.ofBytes bytes with
  | error e =>
      simp only [hread] at h
      exact nomatch h
  | ok d =>
      simp only [hread] at h
      obtain ⟨index, t, hdeclare, h⟩ := state_bind_ok.mp h
      obtain ⟨rfl, rfl⟩ := state_pure_ok.mp h
      obtain ⟨rfl, hgrows⟩ := declareNumbers_ok (state_adapt_ok.mp hdeclare)
      refine ⟨d, rfl, ?_, hgrows⟩
      have hwithin := Cnf.varCount_le_iff.mp (Dimacs.varCount_of_ofBytes hread)
      rw [Cnf.toTree, Cnf.rename, List.map_map]
      refine congrArg Formula.and (List.map_congr_left fun c hc => ?_)
      exact disjunction_numerals (hwithin c hc)

/-- A map to which the new numerals were added has all the numbers. -/
theorem hasNumbers_of_grows
    (h : vars.Grows vars' (inputEntries (vars.newNames (numerals 1 n)))) : vars'.HasNumbers n :=
  fun _ hx => VariableMap.mem_names_of_grows h (List.mem_of_getElem? (getElem?_numerals hx))

/-! ## The empty map. -/

/-- In a map with just the numbers as names, variables are called by their own numbers. -/
theorem numbered_of_names (h : vars.names = numerals 1 n) {x : Var} (hx : x < n) :
    vars.numbered x = x := by
  obtain ⟨hlength, hplace⟩ := List.getElem?_eq_some_iff.mp (getElem?_numerals hx)
  have hmem : toString x.number ∈ vars.names := by
    rw [h, ← hplace]
    exact List.getElem_mem hlength
  rw [VariableMap.numbered, VariableMap.indexOf_eq_idxOf hmem, h, ← hplace]
  exact (nodup_numerals 1 n).idxOf_getElem x hlength

/-- A file is read into an empty map with its own variables, and its clauses as they are. -/
theorem exists_parse_empty {bytes : List UInt8} {d : Dimacs}
    (hread : Dimacs.ofBytes bytes = .ok d) {limit : Nat} (hroom : d.varCount ≤ limit) :
    ∃ vars', (parse (.ok bytes)).run (.empty limit) = .ok d.clauses.toTree vars' ∧
      (VariableMap.empty limit).Grows vars' (inputEntries (numerals 1 d.varCount)) := by
  have hnew : (VariableMap.empty limit).newNames (numerals 1 d.varCount)
      = numerals 1 d.varCount := by
    rw [VariableMap.newNames_empty, eraseDups_of_nodup (nodup_numerals 1 d.varCount)]
  have hroom' : (VariableMap.empty limit).size
      + ((VariableMap.empty limit).newNames (numerals 1 d.varCount)).length ≤ limit := by
    rw [hnew, length_numerals]
    show 0 + _ ≤ limit
    rwa [Nat.zero_add]
  obtain ⟨f, vars', hparse⟩ := exists_parse_of_room hread hroom'
  obtain ⟨d', hread', rfl, hgrows⟩ := parse_ok hparse
  obtain rfl := Except.ok.inj (hread.symm.trans hread')
  rw [hnew] at hgrows
  have hnames : vars'.names = numerals 1 d.varCount := by
    rw [hgrows.names, VariableMap.map_name_inputEntries]
    rfl
  have hwithin := Cnf.varCount_le_iff.mp (Dimacs.varCount_of_ofBytes hread)
  -- the names in order are the numbers in order, so that nothing is renamed
  have hclauses : d.clauses.rename vars'.numbered = d.clauses :=
    Cnf.rename_of_fixed (hwithin.mono fun x hx => numbered_of_names hnames hx)
  rw [hclauses] at hparse
  exact ⟨vars', hparse, hgrows⟩

end Format.Clauses

end GuardedCnf
