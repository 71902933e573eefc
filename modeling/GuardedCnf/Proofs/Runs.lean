import GuardedCnf.Proofs.Enumeration
import GuardedCnf.Proofs.Surroundings
/-! # Runs — the steps of a run that succeeds

    In surroundings that serve a run, reading, encoding and writing do what they
    should, and the outside sees no more than the results: a file that is made
    and filled, or one text. -/

namespace GuardedCnf

open Run (ResultFile)

/-- What a run does with an encoding, for each goal. -/
def Run.pursue (o : Options) (e : Encoding) (vars : VariableMap) (sink : Option ResultFile) :
    Run Unit :=
  match o.goal with
  | .encode => writeEncoding o sink e vars
  | .check => decide o sink e vars
  | .solve => decide o sink e vars
  | .count => count o sink e vars

/-- The output that shows results, on a file for them or as a text. -/
def resultOutput (sink : Option ResultFile) (results : Json) (text : String) : List Request :=
  match sink with
  | some ⟨_, file⟩ => [.write file results.pretty]
  | none => [.print text]

namespace Surroundings

/-- Surroundings that hand out the bytes of the input file, keep the file for
    results, and do not run out of time. -/
structure Serves (s : Surroundings) (o : Options) (bytes : List UInt8) : Prop where
  load : ∀ past, s past (.load o.input) = .ok (.ok bytes)
  create : ∀ path, o.json = some path → ∀ past, ∃ file, s past (.create path) = .ok file
  write : ∀ past file text, s past (.write file text) = .ok ()
  inTime : ∀ past, s past .expired = false

/-- Surroundings in which every file has the same bytes and nothing goes
    wrong. -/
def serving (bytes : List UInt8) : Surroundings := fun _ r =>
  match r with
  | .load _ => .ok (.ok bytes)
  | .create _ => .ok ⟨0⟩
  | .write _ _ => .ok ()
  | .print _ => ()
  | .report _ => ()
  | .launch _ => .outOfTime
  | .observe _ => ()
  | .clock => 0
  | .date => 0
  | .limit _ => ()
  | .expired => false

/-- The surroundings that serve some bytes do so for any options. -/
theorem serves_serving (o : Options) (bytes : List UInt8) : (serving bytes).Serves o bytes where
  load _ := rfl
  create _ _ _ := ⟨⟨0⟩, rfl⟩
  write _ _ _ := rfl
  inTime _ := rfl

/-- A run succeeds, and results are all that it shows: in the file that is named
    for them, or as a text. -/
def Reports (s : Surroundings) (o : Options) (results : Json) (text : String) : Prop :=
  match o.json with
  | some path => ∃ file,
      s.Does [] (Run.ofOptions Registry.standard o) () [.create path, .write file results.pretty]
  | none => s.Does [] (Run.ofOptions Registry.standard o) () [.print text]

variable {s : Surroundings} {o : Options} {bytes : List UInt8} {f : Formula} {e : Encoding}
  {vars vars' : VariableMap} {results : Json} {text : String}

/-! ## Single steps. -/

/-- Recording an event shows nothing. -/
theorem does_observe (past : List Request) (event : Event) :
    s.Does past (Run.ask (.observe event)) () [] :=
  Does.ask s past (.observe event) rfl

/-- Recording events shows nothing, by induction on them. -/
theorem does_observeAll (past : List Request) (events : List Event) :
    s.Does past (events.forM fun event => Run.ask (.observe event)) () [] := by
  induction events generalizing past with
  | nil => exact Does.pure s past ()
  | cons event events ih => exact (does_observe past event).andThen fun past' => ih past'

/-- Recording the time shows nothing, whatever the clock says. -/
theorem does_observeTime (past : List Request) (activity : String) (start : Nat) :
    s.Does past (Run.observeTime activity start) () [] :=
  (Does.ask s past .clock rfl).andThen fun past' => does_observe past' _

/-- A run that is served is in time. -/
theorem does_checkTime (h : s.Serves o bytes) (past : List Request) :
    s.Does past Run.checkTime () [] := by
  refine (Does.ask s past .expired rfl).andThen fun past' => ?_
  rw [h.inTime past]
  exact Does.pure s past' ()

/-- A run that is served loads its input. -/
theorem does_load (h : s.Serves o bytes) (past : List Request) :
    s.Does past (Run.load o.input) (.ok bytes) [] := by
  refine (Does.ask s past (.load o.input) rfl).andThen fun past' => ?_
  rw [h.load past]
  exact Does.pure s past' _

/-- A run reads the formula that its format makes of the bytes, with the variables that
    are declared by it. -/
theorem does_readFormula {formats : Registry} {format : Format} (h : s.Serves o bytes)
    (hformat : formats.choose o.input o.format = .ok format)
    (hparse : (format.parse (.ok bytes)).run (.empty VariableMap.defaultLimit) = .ok f vars)
    (past : List Request) :
    s.Does past (Run.readFormula formats o.input o.format) (f, vars) [] := by
  unfold Run.readFormula
  rw [hformat]
  refine (Does.pure s past format).andThen fun past' => (does_load h past').andThen fun past'' => ?_
  simp only [hparse]
  exact Does.pure s past'' (f, vars)

/-- A run encodes as the formula is encoded, and shows nothing of it. -/
theorem does_encode (path : String) (h : (Encoding.ofFormula f).run vars = .ok e vars')
    (past : List Request) : s.Does past (Run.encode path f vars) (e, vars') [] := by
  unfold Run.encode
  refine (Does.ask s past .clock rfl).andThen fun past' => ?_
  simp only [h]
  refine (does_observeAll past' _).andThen fun past' => ?_
  refine (does_observeTime past' "encode" _).andThen fun past' => ?_
  exact (does_observe past' _).andThen fun past' => Does.pure s past' (e, vars')

/-- Results go to the file for them, if there is one, and are shown if not. -/
theorem does_conclude (h : s.Serves o bytes) (sink : Option ResultFile) (results : Json)
    (text : String) (past : List Request) :
    s.Does past (Run.conclude sink results (Run.ask (.print text))) ()
      (resultOutput sink results text) := by
  cases sink with
  | none => exact Does.ask_output s past (.print text) rfl
  | some sink =>
      refine (Does.ask_output s past (.write sink.file results.pretty) rfl).bind fun past' => ?_
      rw [h.write past]
      exact Does.pure s past' ()

/-! ## Goals. -/

/-- A check in memory shows the first model of the enumeration, or that there is none.
    -/
theorem does_decide {ls : List Literal} {found : Option Model} (h : s.Serves o bytes)
    (hgoal : o.goal = .check) (hls : e.assumptions o.negated o.free = .ok ls)
    (hfound : Enumeration.solve e.cnf vars.size ls = .ok found) (sink : Option ResultFile)
    (past : List Request) :
    s.Does past (Run.pursue o e vars sink) () (resultOutput sink
      (.obj [("satisfiable", .bool found.isSome), ("model", Run.modelJson vars found),
        ("encoding", (e.summary vars).toJson)])
      (Run.verdictText vars (found.elim .unsatisfiable .satisfiable))) := by
  unfold Run.pursue
  simp only [hgoal]
  unfold Run.decide
  rw [hls]
  refine (Does.pure s past ls).andThen fun past' => ?_
  have hwith : s.Does past' (Run.decideWith o e vars ls)
      (found.elim .unsatisfiable .satisfiable) [] := by
    unfold Run.decideWith
    -- the search that runs finds what the enumeration finds
    simp only [hgoal, if_true, Enumeration.search_solve_eq, hfound]
    refine (Does.pure s past' found).andThen fun past' => ?_
    refine (does_checkTime h past').andThen fun past' => ?_
    cases found with
    | none => exact Does.pure s past' Verdict.unsatisfiable
    | some m => exact Does.pure s past' (Verdict.satisfiable m)
  have hmodel : (found.elim Verdict.unsatisfiable .satisfiable).model? = found := by
    cases found <;> rfl
  refine hwith.andThen fun past' => (does_observe past' _).andThen fun past' => ?_
  rw [hmodel]
  exact does_conclude h sink _ _ past'

/-- A count in memory shows the number of models of the enumeration. -/
theorem does_count {ls : List Literal} {c : Nat} (h : s.Serves o bytes)
    (hgoal : o.goal = .count) (hcounter : o.counter = none)
    (hls : e.countingAssumptions o.negated o.free = .ok ls)
    (hcount : Enumeration.count e.cnf vars.size ls = .ok c) (sink : Option ResultFile)
    (past : List Request) :
    s.Does past (Run.pursue o e vars sink) () (resultOutput sink
      (.obj [("count", .str (toString c)), ("encoding", (e.summary vars).toJson)])
      s!"Models: {c}\n") := by
  unfold Run.pursue
  simp only [hgoal]
  unfold Run.count
  rw [hls]
  refine (Does.pure s past ls).andThen fun past' => ?_
  have hwith : s.Does past' (Run.countWith o e vars ls) c [] := by
    unfold Run.countWith
    simp only [hcounter, Enumeration.search_count_eq, hcount]
    refine (Does.pure s past' c).andThen fun past' => ?_
    exact (does_checkTime h past').andThen fun past' => Does.pure s past' c
  refine hwith.andThen fun past' => (does_observe past' _).andThen fun past' => ?_
  exact does_conclude h sink _ _ past'

/-- A run reports the results of what it does with the encoding. -/
theorem reports_of_pursue {format : Format} (h : s.Serves o bytes)
    (hformat : Registry.standard.choose o.input o.format = .ok format)
    (hparse : (format.parse (.ok bytes)).run (.empty VariableMap.defaultLimit) = .ok f vars)
    (hencode : (Encoding.ofFormula f).run vars = .ok e vars')
    (hpursue : ∀ sink past,
      s.Does past (Run.pursue o e vars' sink) () (resultOutput sink results text)) :
    s.Reports o results text := by
  obtain ⟨past, hread, hnothing⟩ := does_readFormula h hformat hparse []
  obtain ⟨past', hencoded, hnothing'⟩ := does_encode o.input hencode past
  have hrun {shown : List Request}
      (hrest : s.Does past' (Run.createResults o >>= Run.pursue o e vars') () shown) :
      s.Does [] (Run.ofOptions Registry.standard o) () shown :=
    Does.after hread hnothing (Does.after hencoded hnothing' hrest)
  -- which file is handed out may depend on what was asked before
  unfold Reports
  cases hjson : o.json with
  | none =>
      refine hrun ?_
      unfold Run.createResults
      rw [hjson]
      exact (Does.pure s past' none).andThen fun past => hpursue none past
  | some path =>
      obtain ⟨file, hfile⟩ := h.create path hjson past'
      refine ⟨file, hrun ?_⟩
      have hcreate : s.Does past' (Run.createResults o) (some ⟨path, file⟩) [.create path] := by
        unfold Run.createResults
        rw [hjson]
        refine (Does.ask_output s past' (.create path) rfl).bind fun past => ?_
        rw [hfile]
        exact Does.pure s past _
      exact hcreate.bind fun past => hpursue _ past

end Surroundings

end GuardedCnf
