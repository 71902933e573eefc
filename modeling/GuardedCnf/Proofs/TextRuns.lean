import GuardedCnf.Proofs.AcceptedInputs
import GuardedCnf.Proofs.ModelCounts
import GuardedCnf.Proofs.Runs
/-! # Text runs — what is reported about a text

    The variables of an accepted text are its identifiers, one each, so values
    of the identifiers are values of the input variables.  A run that counts
    reports how many of them make the lines as chosen, and a run that checks
    reports some of them, for the identifiers and nothing else, or that there
    are none. -/

namespace GuardedCnf

open Encoding (Chosen ValidChoice)
open Format.Text (Reads conjunct)
open VariableMap (Grows inputEntries newNames_empty)

variable {es : List Expr} {negated free : List Nat} {vars vars' : VariableMap}

/-! ## Identifiers and their variables. -/

/-- The identifiers of expressions, in the order in which they first occur. -/
def identifiers (es : List Expr) : List String := (Expr.namesAll es).eraseDups

/-- The identifiers are the names that occur in one of the expressions. -/
theorem mem_identifiers {name : String} :
    name ∈ identifiers es ↔ ∃ e ∈ es, name ∈ e.names := by
  rw [identifiers, List.mem_eraseDups, Expr.mem_namesAll]

theorem nodup_identifiers (es : List Expr) : (identifiers es).Nodup := nodup_eraseDups _

/-- A map whose variables are the identifiers of expressions. -/
structure Declares (vars : VariableMap) (es : List Expr) : Prop where
  entries : vars.entries.toList = inputEntries (identifiers es)

/-- An empty map that grows by the new names of expressions has just their identifiers.
    -/
theorem declares_of_grows {limit : Nat}
    (h : (VariableMap.empty limit).Grows vars
      (inputEntries ((VariableMap.empty limit).newNames (Expr.namesAll es)))) :
    Declares vars es := by
  rw [newNames_empty] at h
  exact ⟨h.entries⟩

namespace Declares

theorem names (h : Declares vars es) : vars.names = identifiers es := by
  rw [VariableMap.names_eq_map_entries, h.entries]
  exact VariableMap.map_name_inputEntries _

theorem size (h : Declares vars es) : vars.size = (identifiers es).length := by
  rw [← h.names, VariableMap.length_names]

/-- The variable of an identifier is its place among the identifiers. -/
theorem indexOf_eq (h : Declares vars es) {name : String} (hname : name ∈ identifiers es) :
    vars.indexOf name = (identifiers es).idxOf name := by
  rw [← h.names] at hname ⊢
  exact VariableMap.indexOf_eq_idxOf hname

theorem indexOf_lt (h : Declares vars es) {name : String} (hname : name ∈ identifiers es) :
    vars.indexOf name < vars.size := by
  rw [← h.names] at hname
  exact VariableMap.indexOf_lt hname

/-- The identifier at a place has this place as its variable. -/
theorem indexOf_getElem (h : Declares vars es) {i : Nat} (hi : i < (identifiers es).length) :
    vars.indexOf (identifiers es)[i] = i := by
  rw [h.indexOf_eq (List.getElem_mem hi)]
  exact (nodup_identifiers es).idxOf_getElem i hi

/-- Different identifiers have different variables. -/
theorem injOn_indexOf (h : Declares vars es) :
    Set.InjOn vars.indexOf (identifiers es).toFinset := by
  intro a ha b hb hab
  have ha := List.mem_toFinset.mp ha
  have hb := List.mem_toFinset.mp hb
  rw [h.indexOf_eq ha, h.indexOf_eq hb] at hab
  exact (List.idxOf_inj ha).mp hab

/-- The variables of the identifiers are all variables of the map. -/
theorem image_indexOf (h : Declares vars es) :
    (identifiers es).toFinset.image vars.indexOf = Finset.range vars.size := by
  ext x
  rw [Finset.mem_image, Finset.mem_range]
  constructor
  · rintro ⟨name, hname, rfl⟩
    exact h.indexOf_lt (List.mem_toFinset.mp hname)
  · intro hx
    rw [h.size] at hx
    exact ⟨_, List.mem_toFinset.mpr (List.getElem_mem hx), h.indexOf_getElem hx⟩

/-- The variables of a text are all there before its selectors. -/
theorem ready (h : Declares vars es) : Encoding.Ready vars (es.map (conjunct vars)) := by
  refine Format.Text.ready_of_names fun name hname => ?_
  rw [h.names]
  exact List.mem_eraseDups.mpr hname

end Declares

/-! ## Values of identifiers. -/

/-- Conjuncts have the values of their expressions, with each name valued as its
    variable. -/
theorem map_eval_conjunct (vars : VariableMap) (es : List Expr) (v : Valuation) :
    (es.map (conjunct vars)).map (Formula.eval v) =
      es.map (Expr.eval fun name => v (vars.indexOf name)) := by
  rw [List.map_map]
  exact List.map_congr_left fun e _ => Format.Text.eval_conjunct vars e v

/-- Expressions have the same values where their identifiers have. -/
theorem map_eval_congr {x y : String → Bool} (h : ∀ name ∈ identifiers es, x name = y name) :
    es.map (Expr.eval x) = es.map (Expr.eval y) :=
  List.map_congr_left fun e he => Expr.eval_congr fun name hname =>
    h name (mem_identifiers.mpr ⟨e, he, hname⟩)

/-- The number of ways to give values to the identifiers of expressions so that
    the values of the expressions are as chosen. -/
def chosenCount (negated free : List Nat) (es : List Expr) : Nat :=
  countOver (identifiers es).toFinset fun x => Chosen negated free 1 (es.map (Expr.eval x))

/-- **VALUES OF IDENTIFIERS ARE VALUES OF VARIABLES**: as many of these as of
    those make the lines as chosen. -/
theorem Declares.countOver_eq (h : Declares vars es) :
    countOver (Finset.range vars.size) (fun v =>
      Chosen negated free 1 ((es.map (conjunct vars)).map (Formula.eval v))) =
      chosenCount negated free es := by
  rw [← h.image_indexOf]
  refine countOver_image h.injOn_indexOf fun x v hxv => ?_
  rw [map_eval_conjunct, map_eval_congr fun name hname => hxv name (List.mem_toFinset.mpr hname)]

/-- Whether the choice of conjuncts is met depends on the identifiers alone. -/
theorem dependsOn_chosen (negated free : List Nat) (es : List Expr) :
    DependsOn (identifiers es).toFinset fun x =>
      Chosen negated free 1 (es.map (Expr.eval x)) := by
  intro x y hxy
  have hvalues : es.map (Expr.eval x) = es.map (Expr.eval y) :=
    map_eval_congr fun name hname => hxy name (List.mem_toFinset.mpr hname)
  exact iff_of_eq (congrArg (Chosen negated free 1) hvalues)

/-- Values that meet the choice are counted. -/
theorem chosenCount_ne_zero {x : String → Bool}
    (h : Chosen negated free 1 (es.map (Expr.eval x))) : chosenCount negated free es ≠ 0 :=
  (dependsOn_chosen negated free es).countOver_ne_zero h

/-- Where no values of the variables meet the choice, none are counted. -/
theorem Declares.chosenCount_eq_zero (h : Declares vars es)
    (hnone : ∀ v, ¬Chosen negated free 1 ((es.map (conjunct vars)).map (Formula.eval v))) :
    chosenCount negated free es = 0 := by
  rw [← h.countOver_eq]
  exact countOver_eq_zero_iff.mpr fun t _ => hnone (trueOn t)

/-! ## What is shown of a model. -/

/-- Names with their values. -/
def namedWith (x : String → Bool) (names : List String) : List (String × Bool) :=
  names.map fun name => (name, x name)

/-- Names with their values as a text: a minus sign before those that are
    false. -/
def valuesText (x : String → Bool) (names : List String) : String :=
  " ".intercalate ((namedWith x names).map fun (name, b) => if b then name else "-" ++ name)

/-- Names with their values as a JSON object, in the order of names. -/
def valuesJson (x : String → Bool) (names : List String) : Json :=
  .obj (((namedWith x names).mergeSort fun a b => a.1 ≤ b.1).map fun (name, b) =>
    (name, .bool b))

/-- Auxiliary entries are not shown. -/
theorem filterMap_shown {names : List String} {own : List Entry} {values : List Bool}
    (hown : ∀ e ∈ own, e.auxiliary = true) (hlen : names.length ≤ values.length) :
    ((values.zip (inputEntries names ++ own)).filterMap fun (b, e) =>
      if e.auxiliary then none else some (e.name, b)) = names.zip values := by
  induction names generalizing values with
  | nil =>
      rw [List.zip_nil_left]
      refine List.filterMap_eq_nil_iff.mpr ?_
      rintro ⟨b, e⟩ hmem
      exact if_pos (hown e (List.of_mem_zip hmem).2)
  | cons name names ih =>
      cases values with
      | nil => exact nomatch hlen
      | cons b values =>
          have hrest := ih (Nat.le_of_succ_le_succ hlen)
          exact congrArg ((name, b) :: ·) hrest

/-- **JUST THE IDENTIFIERS ARE SHOWN** of a model of an encoding: each with the
    value of its variable, and nothing else. -/
theorem Declares.shown_eq {own : List Entry} {m : Model} (h : Declares vars es)
    (hown : ∀ e ∈ own, e.auxiliary = true) (hgrows : vars.Grows vars' own)
    (hsize : m.size = vars'.size) :
    m.shown vars' = namedWith (fun name => m.value (vars.indexOf name)) (identifiers es) := by
  have hlen : (identifiers es).length ≤ m.values.length := by
    rw [← h.size, show m.values.length = vars'.size from hsize, hgrows.size]
    exact Nat.le_add_right ..
  rw [Model.shown, hgrows.entries, h.entries]
  refine (filterMap_shown hown hlen).trans ?_
  -- the value at a place is that of the identifier at this place
  refine List.ext_getElem ?_ fun i hi hi' => ?_
  · rw [namedWith, List.length_map, List.length_zip, Nat.min_eq_left hlen]
  · have hi : i < (identifiers es).length := by rwa [namedWith, List.length_map] at hi'
    simp only [namedWith, List.getElem_zip, List.getElem_map, h.indexOf_getElem hi, Model.value]
    rw [List.getD_eq_getElem _ _ (Nat.lt_of_lt_of_le hi hlen)]

/-- A model that shows the values of names is displayed as these values. -/
theorem displayNamed_eq {m : Model} {x : String → Bool} {names : List String}
    (h : m.shown vars' = namedWith x names) : m.displayNamed vars' = valuesText x names := by
  rw [Model.displayNamed, h]
  rfl

/-- A model that shows the values of names is written to the results as these values. -/
theorem modelJson_eq {m : Model} {x : String → Bool} {names : List String}
    (h : m.shown vars' = namedWith x names) :
    Run.modelJson vars' (some m) = valuesJson x names := by
  rw [Run.modelJson, Model.namedValues, h]
  rfl

/-! ## Encodings of texts. -/

/-- An encoding of the conjuncts of expressions, made with a map that has just
    their identifiers. -/
structure EncodesText (e : Encoding) (es : List Expr) (vars vars' : VariableMap) : Prop where
  declares : Declares vars es
  encodes : e.Encodes (es.map (conjunct vars)) vars.size
  size : vars'.size = vars.size + (es.map (conjunct vars)).length + 1
  grows : ∃ own, (∀ e ∈ own, e.auxiliary = true) ∧ vars.Grows vars' own

/-- The encoding of the conjuncts over the map of their identifiers encodes the text. -/
theorem Declares.encodesText {e : Encoding} (h : Declares vars es)
    (hencode : (Encoding.ofFormula (.and (es.map (conjunct vars)))).run vars = .ok e vars') :
    EncodesText e es vars vars' := by
  obtain ⟨hencodes, inputs, own, hinputs, -, -, hown, hgrows⟩ := Encoding.ofFormula_ok hencode
  have hsize := Encoding.ofFormula_size hencode
  rw [h.ready.inputCount_eq] at hencodes hinputs hsize
  -- no variable was missing
  have hnil : inputs = [] := List.length_eq_zero_iff.mp (Nat.add_eq_left.mp hinputs)
  rw [hnil, List.nil_append] at hgrows
  exact ⟨h, hencodes, hsize, own, hown, hgrows⟩

/-- A map with the identifiers of expressions encodes their conjuncts, if it
    has room for the selectors and the root. -/
theorem Declares.exists_ofFormula (h : Declares vars es)
    (hroom : (identifiers es).length + es.length + 1 ≤ vars.limit) :
    ∃ e vars', (Encoding.ofFormula (.and (es.map (conjunct vars)))).run vars = .ok e vars' := by
  refine h.ready.exists_ofFormula_iff.mpr ?_
  rw [h.size, List.length_map]
  exact hroom

namespace EncodesText

variable {e : Encoding}

/-- Counting gives the number of chosen values. -/
theorem exists_count (h : EncodesText e es vars vars')
    (hvalid : ValidChoice es.length negated free)
    (hlimit : (identifiers es).length + free.toFinset.card ≤ searchLimit) :
    ∃ ls, e.countingAssumptions negated free = .ok ls ∧
      Enumeration.count e.cnf vars'.size ls = .ok (chosenCount negated free es) := by
  rw [← List.length_map (conjunct vars)] at hvalid
  refine ⟨e.countingLiterals negated free,
    Encoding.countingAssumptions_ok_iff.mpr ⟨h.encodes.length_conjuncts ▸ hvalid, rfl⟩, ?_⟩
  rw [← h.declares.size] at hlimit
  rw [h.size, h.encodes.count_counting hvalid, if_neg (Nat.not_lt.mpr hlimit),
    h.declares.countOver_eq]

/-- Checking gives a model with chosen values, or there are no chosen values. -/
theorem exists_solve (h : EncodesText e es vars vars')
    (hvalid : ValidChoice es.length negated free)
    (hlimit : (identifiers es).length + free.toFinset.card + 1 ≤ searchLimit) :
    ∃ ls, e.assumptions negated free = .ok ls ∧
      ((∃ m x, Enumeration.solve e.cnf vars'.size ls = .ok (some m) ∧
          m.shown vars' = namedWith x (identifiers es) ∧
          Chosen negated free 1 (es.map (Expr.eval x))) ∨
        (Enumeration.solve e.cnf vars'.size ls = .ok none ∧ chosenCount negated free es = 0)) := by
  rw [← List.length_map (conjunct vars)] at hvalid
  refine ⟨Encoding.select negated free 1 e.conjuncts,
    Encoding.assumptions_ok_iff.mpr ⟨h.encodes.length_conjuncts ▸ hvalid, rfl⟩, ?_⟩
  rw [← h.declares.size] at hlimit
  rw [h.size]
  obtain ⟨m, hfound, hsize, hchosen⟩ | ⟨hfound, hnone⟩ := h.encodes.solve_select hvalid hlimit
  · obtain ⟨own, hown, hgrows⟩ := h.grows
    rw [map_eval_conjunct] at hchosen
    rw [← h.size] at hsize
    exact Or.inl ⟨m, _, hfound, h.declares.shown_eq hown hgrows hsize, hchosen⟩
  · exact Or.inr ⟨hfound, h.declares.chosenCount_eq_zero hnone⟩

end EncodesText

/-! ## Reports. -/

/-- **A TEXT IS COUNTED AND DECIDED**.  An accepted text is one expression on
    each of its lines that is not blank.  A run on it that counts reports how
    many values of the identifiers make the expressions as chosen; a run that
    checks reports that there are none, or such values, for just the
    identifiers.  What is reported is what the enumeration of all models of the
    encoding gives under the assumptions of the choice. -/
theorem text_runs_report_chosen_values {s : Surroundings} {o : Options} {bytes : List UInt8}
    {f : Formula} (h : s.Serves o bytes)
    (hformat : Registry.standard.choose o.input o.format = .ok Format.text)
    (haccept : (Format.text.parse (.ok bytes)).run (.empty VariableMap.defaultLimit) =
      .ok f vars) :
    ∃ es, Reads (Text.textLines bytes) es ∧
      identifiers es = Format.Text.lineIdentifiers (Text.textLines bytes) ∧
      ((identifiers es).length + es.length + 1 ≤ VariableMap.defaultLimit →
        ValidChoice es.length o.negated o.free →
        ∃ e last, (Encoding.ofFormula f).run vars = .ok e last ∧
        (o.goal = .count → o.counter = none →
          (identifiers es).length + o.free.toFinset.card ≤ searchLimit →
          (∃ ls, e.countingAssumptions o.negated o.free = .ok ls ∧
            Enumeration.count e.cnf last.size ls = .ok (chosenCount o.negated o.free es)) ∧
          s.Reports o
            (.obj [("count", .str (toString (chosenCount o.negated o.free es))),
              ("encoding", (e.summary last).toJson)])
            s!"Models: {chosenCount o.negated o.free es}\n") ∧
        (o.goal = .check →
          (identifiers es).length + o.free.toFinset.card + 1 ≤ searchLimit →
          ∃ ls, e.assumptions o.negated o.free = .ok ls ∧
          (chosenCount o.negated o.free es = 0 →
            Enumeration.solve e.cnf last.size ls = .ok none ∧ s.Reports o
              (.obj [("satisfiable", .bool false), ("model", .null),
                ("encoding", (e.summary last).toJson)])
              "Unsatisfiable\n") ∧
          (chosenCount o.negated o.free es ≠ 0 → ∃ m x,
            Enumeration.solve e.cnf last.size ls = .ok (some m) ∧
            m.shown last = namedWith x (identifiers es) ∧
            Chosen o.negated o.free 1 (es.map (Expr.eval x)) ∧ s.Reports o
              (.obj [("satisfiable", .bool true), ("model", valuesJson x (identifiers es)),
                ("encoding", (e.summary last).toJson)])
              s!"Satisfiable: {valuesText x (identifiers es)}\n"))) := by
  obtain ⟨es, hreads, rfl, hgrows⟩ := Format.Text.parse_ok haccept
  have hdeclares := declares_of_grows hgrows
  refine ⟨es, hreads, hreads.eraseDups_namesAll, fun hroom hvalid => ?_⟩
  obtain ⟨e, last, hencode⟩ := hdeclares.exists_ofFormula (hgrows.limit ▸ hroom)
  have htext := hdeclares.encodesText hencode
  refine ⟨e, last, hencode, fun hgoal hcounter hlimit => ?_, fun hgoal hlimit => ?_⟩
  · -- the selectors and the root are fixed by the identifiers and the choice
    obtain ⟨ls, hls, hcount⟩ := htext.exists_count hvalid hlimit
    refine ⟨⟨ls, hls, hcount⟩, ?_⟩
    exact Surroundings.reports_of_pursue h hformat haccept hencode fun sink past =>
      Surroundings.does_count h hgoal hcounter hls hcount sink past
  · -- what is found decides which of the two reports is made
    obtain ⟨ls, hls, hfound⟩ := htext.exists_solve hvalid hlimit
    refine ⟨ls, hls, ?_⟩
    rcases hfound with ⟨m, x, hfound, hshown, hchosen⟩ | ⟨hfound, hzero⟩
    · refine ⟨fun hzero => absurd hzero (chosenCount_ne_zero hchosen), fun _ => ?_⟩
      refine ⟨m, x, hfound, hshown, hchosen, ?_⟩
      rw [← displayNamed_eq hshown, ← modelJson_eq hshown]
      exact Surroundings.reports_of_pursue h hformat haccept hencode fun sink past =>
        Surroundings.does_decide h hgoal hls hfound sink past
    · refine ⟨fun _ => ⟨hfound, ?_⟩, fun hne => absurd hzero hne⟩
      exact Surroundings.reports_of_pursue h hformat haccept hencode fun sink past =>
        Surroundings.does_decide h hgoal hls hfound sink past

/-- Of the lines `x | __root` and `!x` the second is negated; two of the four
    values of `x` and `__root` are counted. -/
theorem text_runs_report_chosen_values_two : ∃ o bytes encoding,
    Text.textLines bytes = [some "x | __root # either", some "!x"] ∧
      o.goal = .count ∧ o.negated = [2] ∧ o.free = [] ∧
      (Surroundings.serving bytes).Reports o
        (.obj [("count", .str "2"), ("encoding", encoding)]) "Models: 2\n" := by
  let o : Options := ⟨"lines.txt", none, .count, none, [2], [], "kissat", [], none, [], none, none,
    false, none⟩
  let bytes : List UInt8 := [120, 32, 124, 32, 95, 95, 114, 111, 111, 116, 32, 35, 32, 101, 105,
    116, 104, 101, 114, 10, 33, 120, 10]
  let es : List Expr := [.or [.var "x", .var "__root"], .not (.var "x")]
  have hlines : Text.textLines bytes = [some "x | __root # either", some "!x"] := by decide
  have hreads : Reads (Text.textLines bytes) es := by
    rw [hlines]
    refine .expression (by decide) ?_ (.expression (by decide) ?_ .nil)
    · exact Format.Text.ofLine_of_tokens [.name "x", .or, .name "__root"] (by decide +kernel) rfl
    · exact Format.Text.ofLine_of_tokens [.not, .name "x"] (by decide +kernel) rfl
  have hformat : Registry.standard.choose "lines.txt" none = .ok Format.text := rfl
  obtain ⟨f, vars, haccept⟩ :=
    Format.Text.exists_parse hreads (.empty VariableMap.defaultLimit)
      (by rw [newNames_empty]; decide)
  obtain ⟨es', hreads', -, hreports⟩ := text_runs_report_chosen_values
    (Surroundings.serves_serving o bytes) hformat haccept
  rw [← hreads.unique hreads'] at hreports
  obtain ⟨e, last, -, hcounts, -⟩ := hreports (by decide) ⟨by decide, by decide⟩
  obtain ⟨-, hcount⟩ := hcounts rfl rfl (by decide)
  have htwo : chosenCount o.negated o.free es = 2 := by decide
  rw [htwo] at hcount
  exact ⟨o, bytes, (e.summary last).toJson, hlines, rfl, rfl, rfl, hcount⟩

end GuardedCnf
