import GuardedCnf.Format.Registry
import GuardedCnf.Proofs.Numbering
import GuardedCnf.Proofs.Refusals
import GuardedCnf.Proofs.TextLines
/-! # Accepted inputs — what is read can be encoded

    Both formats make a conjunction of normal forms, on variables that the map has
    when they are done.  Such a conjunction has no negation that distribution could
    stop at, and none of its variables is missing, so encoding it takes the
    selectors and the root, and fails only without room for these. -/

namespace GuardedCnf

namespace Encoding

open VariableMap (Allocates)

variable {fs : List Formula} {vars vars' : VariableMap} {err : EncodingError} {u : Unit}

/-! ## Normal forms. -/

/-- Conjuncts in normal form are refused only for want of room. -/
theorem ofFormula_error_of_isNnf (hnnf : ∀ f ∈ fs, f.isNnf = true)
    (h : (ofFormula (.and fs)).run vars = .error err vars') :
    ∃ name, err = .exhausted name vars.limit := by
  rw [ofFormula_run] at h
  split at h
  · obtain ⟨gs, hgs⟩ := exists_guardAll hnnf 1 (List.range' (inputCount vars fs) fs.length)
    have habove : above (inputCount vars fs) fs = .ok ⟨gs, inputCount vars fs + fs.length⟩ :=
      except_bind_ok.mpr ⟨gs, hgs, rfl⟩
    rw [habove] at h
    exact nomatch h
  · next hreserve =>
      injection h with herr
      rw [← herr]
      exact ((Allocates.reserve fs).error hreserve).1

/-- A reservation has room for all that it allocates. -/
theorem room_of_reserve (h : (reserve fs).run vars = .ok u vars') :
    inputCount vars fs + fs.length + 1 ≤ vars.limit := by
  obtain ⟨middle, selected, hcover, hselectors, hroot⟩ := reserve_ok h
  have hlast := VariableMap.lt_limit_of_fresh hroot
  rw [(Allocates.allocateSelectors 1 fs).limit hselectors,
    (Allocates.cover (.and fs)).limit hcover] at hlast
  exact hlast

/-- What formats make: conjuncts in normal form, on variables of the map. -/
structure Ready (vars : VariableMap) (fs : List Formula) : Prop where
  isNnf : ∀ f ∈ fs, f.isNnf = true
  below : ∀ x ∈ (Formula.and fs).vars, x < vars.size

namespace Ready

theorem varCount_le (h : Ready vars fs) : (Formula.and fs).varCount ≤ vars.size :=
  Formula.bound_le_iff.mpr fun _ hl => h.below _ (List.mem_map_of_mem hl)

/-- No variable is missing. -/
theorem inputCount_eq (h : Ready vars fs) : inputCount vars fs = vars.size :=
  Nat.max_eq_left h.varCount_le

theorem cover (h : Ready vars fs) : (VariableMap.cover (.and fs)).run vars = .ok () vars := by
  refine state_bind_ok.mpr ⟨vars, vars, rfl, ?_⟩
  rw [Nat.sub_eq_zero_of_le h.varCount_le]
  rfl

/-- **ROOM IS ALL THAT IS NEEDED** for an encoding: that for a selector of every
    conjunct, and for the root. -/
theorem exists_ofFormula_iff (h : Ready vars fs) :
    (∃ e last, (ofFormula (.and fs)).run vars = .ok e last) ↔
      vars.size + fs.length + 1 ≤ vars.limit := by
  rw [← h.inputCount_eq]
  constructor
  · rintro ⟨e, last, hrun⟩
    exact room_of_reserve (ofFormula_parts hrun).1
  · exact exists_ofFormula vars h.isNnf

end Ready

end Encoding

namespace Format

open Encoding (Ready)
open GuardedCnf.Text (encode textLines textLines_intercalate)

variable {vars vars' : VariableMap}

/-! ## Texts. -/

namespace Text

/-- Expressions over names of a map are conjuncts for it. -/
theorem ready_of_names {es : List Expr} (h : ∀ name ∈ Expr.namesAll es, name ∈ vars.names) :
    Ready vars (es.map (conjunct vars)) where
  isNnf f hf := by
    obtain ⟨e, -, rfl⟩ := List.mem_map.mp hf
    exact isNnf_conjunct vars e
  below x hx := by
    obtain ⟨f, hf, hx⟩ := Formula.mem_vars_and.mp hx
    obtain ⟨e, he, rfl⟩ := List.mem_map.mp hf
    obtain ⟨name, hname, rfl⟩ := vars_conjunct vars e x hx
    exact VariableMap.indexOf_lt (h name (Expr.mem_namesAll.mpr ⟨e, he, hname⟩))

theorem ready_of_parse {source : Source} {f : Formula}
    (h : (parse source).run vars = .ok f vars') : ∃ fs, f = .and fs ∧ Ready vars' fs := by
  cases source with
  | error e => exact nomatch h
  | ok bytes =>
      obtain ⟨es, -, rfl, hgrows⟩ := parse_ok h
      exact ⟨_, rfl, ready_of_names fun name => VariableMap.mem_names_of_grows hgrows⟩

end Text

/-! ## Clauses. -/

namespace Clauses

/-- Clauses on variables of a map are conjuncts for it. -/
theorem ready_of_within {f : Cnf} (h : f.Within (· < vars.size)) :
    Ready vars (f.map fun c => .or (c.map .lit)) where
  isNnf g hg := by
    obtain ⟨c, -, rfl⟩ := List.mem_map.mp hg
    exact Formula.isNnf_or_lits c
  below x hx := by
    obtain ⟨g, hg, hx⟩ := Formula.mem_vars_and.mp hx
    obtain ⟨c, hc, rfl⟩ := List.mem_map.mp hg
    obtain ⟨g, hg, hx⟩ := Formula.mem_vars_or.mp hx
    obtain ⟨l, hl, rfl⟩ := List.mem_map.mp hg
    rw [List.mem_singleton.mp hx]
    exact h c hc l hl

theorem ready_of_parse {source : Source} {f : Formula}
    (h : (parse source).run vars = .ok f vars') : ∃ fs, f = .and fs ∧ Ready vars' fs := by
  cases source with
  | error e => exact nomatch h
  | ok bytes =>
      obtain ⟨d, hread, rfl, hgrows⟩ := parse_ok h
      have hnumbers := hasNumbers_of_grows hgrows
      have hwithin := Cnf.varCount_le_iff.mp (Dimacs.varCount_of_ofBytes hread)
      exact ⟨_, rfl, ready_of_within (Cnf.Within.rename
        (hwithin.mono fun x hx => hnumbers.numbered_lt hx))⟩

end Clauses

/-- **ACCEPTED INPUTS NEED ONLY ROOM**.  Whatever the map was, an input that a
    format accepts is a conjunction of normal forms on variables that the map then
    has, so covering it allocates nothing.  It is encoded exactly if there is room
    for a selector of each conjunct and for the root, and no map ever refuses it
    for another reason than the lack of room. -/
theorem accepted_inputs_need_only_room {format : Format} {source : Source} {f : Formula}
    (hformat : format ∈ Registry.standard)
    (haccept : (format.parse source).run vars = .ok f vars') :
    ∃ fs, f = .and fs ∧ (∀ g ∈ fs, g.isNnf = true) ∧ (∀ x ∈ f.vars, x < vars'.size) ∧
      (VariableMap.cover f).run vars' = .ok () vars' ∧
      ((∃ e last, (Encoding.ofFormula f).run vars' = .ok e last) ↔
        vars'.size + fs.length + 1 ≤ vars'.limit) ∧
      ∀ any err last, (Encoding.ofFormula f).run any = .error err last →
        ∃ name, err = .exhausted name any.limit := by
  obtain ⟨fs, rfl, hready⟩ : ∃ fs, f = .and fs ∧ Ready vars' fs := by
    rcases List.mem_cons.mp hformat with rfl | hformat
    · exact Clauses.ready_of_parse haccept
    · rw [List.mem_singleton.mp hformat] at haccept
      exact Text.ready_of_parse haccept
  exact ⟨fs, rfl, hready.isNnf, hready.below, hready.cover, hready.exists_ofFormula_iff,
    fun _ _ _ => Encoding.ofFormula_error_of_isNnf hready.isNnf⟩

/-- The map has `b` already.  Of three lines one is blank, and one has a comment; a
    map for five variables has room for `a`, the selectors and the root. -/
theorem accepted_inputs_need_only_room_five :
    let vars := (VariableMap.empty 5).push ⟨"b", false⟩ (by simp)
    let bytes := encode ("\n".intercalate ["!(a <-> b) # different", " ", "!!(b -> a)"])
    ∃ fs vars', (Format.text.parse (.ok bytes)).run vars = .ok (.and fs) vars' ∧
      fs.length = 2 ∧ (∀ g ∈ fs, g.isNnf = true) ∧
      (VariableMap.cover (.and fs)).run vars' = .ok () vars' ∧
      ∃ e last, (Encoding.ofFormula (.and fs)).run vars' = .ok e last := by
  intro vars bytes
  let es : List Expr :=
    [.not (.iff (.var "a") (.var "b")), .not (.not (.implies (.var "b") (.var "a")))]
  have hreads : Text.Reads (textLines bytes) es := by
    rw [textLines_intercalate (by decide)]
    refine .expression (by decide) ?_ (.blank (by decide) (.expression (by decide) ?_ .nil))
    · exact Text.ofLine_of_tokens [.not, .opening, .name "a", .iff, .name "b", .closing]
        (by decide +kernel) rfl
    · exact Text.ofLine_of_tokens [.not, .not, .opening, .name "b", .implies, .name "a", .closing]
        (by decide +kernel) rfl
  have hnew : vars.newNames (Expr.namesAll es) = ["a"] := by
    rw [VariableMap.newNames_eq_filter]
    decide
  obtain ⟨f, vars', haccept⟩ : ∃ f vars', (Format.text.parse (.ok bytes)).run vars = .ok f vars' :=
    Text.exists_parse hreads vars (by rw [hnew]; decide)
  obtain ⟨es', hreads', hf, hgrows⟩ := Text.parse_ok haccept
  obtain rfl := hreads.unique hreads'
  have hsize : vars'.size = 2 := by
    rw [hgrows.size, hnew]
    rfl
  obtain ⟨fs, rfl, hnnf, -, hcover, hencode, -⟩ :=
    accepted_inputs_need_only_room (List.mem_cons_of_mem _ (List.mem_singleton_self _)) haccept
  have hlength : fs.length = 2 := by
    rw [Formula.and.inj hf, List.length_map]
    rfl
  refine ⟨fs, vars', haccept, hlength, hnnf, hcover, hencode.mpr ?_⟩
  rw [hsize, hlength, hgrows.limit]
  decide

end Format

end GuardedCnf
