import GuardedCnf.Proofs.HostRuns
import GuardedCnf.Proofs.Runs
/-! # Spared files — what a run that is refused has done

    A run reads and encodes before it opens any file for writing, so an input
    that cannot be read, parsed or encoded leaves all files as they are.  The
    file for results is opened right after encoding, BEFORE conjuncts are chosen
    and searches begin: a refusal there comes too late for this one file, which
    is empty by then, and in time for all others. -/

namespace GuardedCnf

namespace Run

variable {c : Cause}

/-! ## Reading and encoding. -/

theorem quiet_observe (c : Cause) (event : Event) : Quiet c (ask (.observe event)) :=
  quiet_ask c rfl

/-- Recording events one after the other changes no files. -/
theorem quiet_observeAll (c : Cause) (events : List Event) :
    Quiet c (events.forM fun event => ask (.observe event)) := by
  induction events with
  | nil => exact quiet_pure c ()
  | cons event events ih => exact (quiet_observe c event).bind fun _ => ih

/-- Looking at the clock and recording the time changes no files. -/
theorem quiet_observeTime (c : Cause) (activity : String) (start : Nat) :
    Quiet c (observeTime activity start) :=
  (quiet_ask c (r := .clock) rfl).bind fun _ => quiet_observe c _

/-- A look at the time limit ends a run quietly, or not at all. -/
theorem quiet_checkTime (c : Cause) : Quiet c checkTime := by
  refine (quiet_ask c (r := .expired) rfl).bind fun late => ?_
  cases late with
  | false => exact quiet_pure c ()
  | true => exact quiet_outOfTime c

/-- A file that cannot be loaded is a failure of the input. -/
theorem quiet_load (path : String) : Quiet .input (load path) := by
  refine (quiet_ask _ (r := .load path) rfl).bind fun answer => ?_
  exact quiet_ofExcept (by intro e; rfl) answer

/-- An unknown format, a file that cannot be loaded and a text that cannot be parsed are
    failures of the input. -/
theorem quiet_readFormula (formats : Registry) (path : String) (name : Option String) :
    Quiet .input (readFormula formats path name) := by
  refine (quiet_ofExcept (by intro e; rfl) _).bind fun format => ?_
  refine (quiet_load path).bind fun source => ?_
  split
  · exact quiet_pure _ _
  · exact quiet_throw rfl

/-- A formula that cannot be encoded is a failure of the input; the time is recorded
    even then. -/
theorem quiet_encode (path : String) (f : Formula) (vars : VariableMap) :
    Quiet .input (encode path f vars) := by
  refine (quiet_ask _ (r := .clock) rfl).bind fun start => ?_
  split
  · refine (quiet_observeAll _ _).bind fun _ => (quiet_observeTime _ _ _).bind fun _ => ?_
    exact (quiet_observe _ _).bind fun _ => quiet_pure _ _
  · exact quiet_throw rfl
  · exact (quiet_observeTime _ _ _).bind fun _ => quiet_throw (by rfl)

/-! ## Files and tools. -/

/-- Creating a file fails as its caller words it. -/
theorem failsBy_create (path : String) {cause : FileError → RunError}
    (hcause : ∀ e, (cause e).cause = c) : FailsBy c (create path cause) :=
  (failsBy_ask c (.create path)).bind fun _ => (quiet_ofExcept hcause _).failsBy

/-- Writing to a file fails as its caller words it. -/
theorem failsBy_write (file : OpenFile) (text : String) {cause : FileError → RunError}
    (hcause : ∀ e, (cause e).cause = c) : FailsBy c (write file text cause) :=
  (failsBy_ask c (.write file text)).bind fun _ => (quiet_ofExcept hcause _).failsBy

/-- A tool fails by the outside: it does not start, or what it says is no answer. -/
theorem failsBy_launch (tool : Tool) (input : Dimacs) (keepInput : Bool) :
    FailsBy .outside (launch tool input keepInput) := by
  refine (failsBy_ask _ .clock).bind fun start => (failsBy_ask _ (.launch _)).bind fun result => ?_
  have htime := (quiet_observeTime .outside "external_tool" start).failsBy
  cases result with
  | outOfTime => exact (quiet_outOfTime _).failsBy
  | notStarted e => exact htime.bind fun _ => (quiet_throw (by rfl)).failsBy
  | ended r => exact htime.bind fun _ => (quiet_pure _ _).failsBy

/-- What a tool says is asked for, and then looked at. -/
theorem failsBy_launch_bind {α : Type} (tool : Tool) (input : Dimacs) (keepInput : Bool)
    (answer : ToolRun → Except ToolError α) :
    FailsBy .outside (launch tool input keepInput >>= fun r => ofExcept .tool (answer r)) :=
  (failsBy_launch tool input keepInput).bind fun _ => (quiet_ofExcept (by intro e; rfl) _).failsBy

/-- Concluding fails by the file for results or as showing the result does. -/
theorem failsBy_conclude (sink : Option ResultFile) (results : Json) {shown : Run Unit}
    (hshown : FailsBy .outside shown) : FailsBy .outside (conclude sink results shown) := by
  cases sink with
  | none => exact hshown
  | some sink => exact failsBy_write sink.file _ (by intro e; rfl)

/-- The file for results can fail to be created, and this is due to the outside. -/
theorem failsBy_createResults (o : Options) : FailsBy .outside (createResults o) := by
  unfold createResults
  split
  · exact (failsBy_create _ (by intro e; rfl)).bind fun _ => (quiet_pure _ _).failsBy
  · exact (quiet_pure _ _).failsBy

/-- The actions of a run up to its goal: the file for results is opened, and
    empty then. -/
def Prepares (o : Options) (acts : List Exchange) : Prop :=
  match o.json with
  | none => acts = []
  | some path => ∃ file, acts = [⟨.create path, .ok file⟩]

/-- Once the results have a place, the file for them was created, and nothing else was
    done. -/
theorem prepares_createResults {o : Options} {xs : List Exchange} {sink : Option ResultFile}
    (h : Course (createResults o) xs (.ok sink)) : Prepares o (actions xs) := by
  unfold createResults at h
  unfold Prepares
  cases hjson : o.json with
  | none =>
      rw [hjson] at h
      rw [(Course.of_pure h).1, actions_nil]
  | some path =>
      rw [hjson] at h
      rcases Course.of_bind h with ⟨stop, -, hstop⟩ | ⟨file, ys, zs, hcreate, hrest, rfl⟩
      · exact nomatch hstop
      rcases Course.of_bind hcreate with ⟨stop, -, hstop⟩ | ⟨answer, us, vs, hask, hanswer, rfl⟩
      · exact nomatch hstop
      obtain ⟨answer, rfl, heq⟩ := Course.of_ask hask
      cases heq
      obtain ⟨rfl, hfile⟩ := Course.of_ofExcept hanswer
      obtain ⟨rfl, -⟩ := Course.of_pure hrest
      cases answer with
      | error e => exact nomatch hfile
      | ok file => exact ⟨file, rfl⟩

/-! ## Goals. -/

/-- Whichever of its parts a written file breaks off in, the failure is due to the
    outside. -/
theorem cause_writingFailure (path names text : String) (e : FileError) :
    (writingFailure path names text e).cause = .outside := by
  unfold writingFailure
  split
  · rfl
  · split
    · rfl
    · rfl

/-- An encoding is written only where no conjuncts are chosen, and what fails
    then is a file. -/
theorem spares_writeEncoding (o : Options) (sink : Option ResultFile) (e : Encoding)
    (vars : VariableMap) : Spares (writeEncoding o sink e vars) := by
  have hrefused : Spares (throw (.failed .needlessSelection) : Run Unit) :=
    Quiet.spares (quiet_throw (by rfl))
  have hshown : FailsBy .outside (conclude sink (e.summary vars).toJson
      (ask (.report ((e.summary vars).toText ++ "\n")))) :=
    failsBy_conclude sink _ (failsBy_ask _ _)
  unfold writeEncoding
  dsimp only
  by_cases hchosen : (!(o.negated.isEmpty && o.free.isEmpty)) = true
  · rw [if_pos hchosen]
    exact hrefused
  · rw [if_neg hchosen]
    refine FailsBy.spares ?_
    cases o.output with
    | none => exact (failsBy_ask _ _).bind fun _ => hshown
    | some path =>
        refine (failsBy_create path (by intro e; rfl)).bind fun file => ?_
        exact (failsBy_write file _ (cause_writingFailure path _ _)).bind fun _ => hshown

/-- A search in memory refuses before it begins, and writes nothing. -/
theorem quiet_searched {α β : Type} (found : Except SearchError α) (f : α → β) :
    Quiet .refusal (do
      let a ← ofExcept .search found
      checkTime
      return f a) := by
  refine (quiet_ofExcept (by intro e; rfl) found).bind fun a => ?_
  exact (quiet_checkTime _).bind fun _ => quiet_pure _ _

/-- A solver starts after the choice of conjuncts; what fails from then on is
    due to it or to a file. -/
theorem spares_decide (o : Options) (sink : Option ResultFile) (e : Encoding)
    (vars : VariableMap) : Spares (decide o sink e vars) := by
  have hconclude (verdict : Verdict) (text : String) : FailsBy .outside (conclude sink
      (.obj [("satisfiable", .bool verdict.model?.isSome),
        ("model", modelJson vars verdict.model?), ("encoding", (e.summary vars).toJson)])
      (ask (.print text))) :=
    failsBy_conclude sink _ (failsBy_ask _ _)
  unfold decide decideWith
  refine (quiet_ofExcept (by intro e; rfl) _).spares_bind fun assumptions => ?_
  -- after a search only files can fail; a solver may fail, but refuses nothing
  by_cases hgoal : o.goal = .check
  · simp only [if_pos hgoal]
    refine (quiet_searched _ _).spares_bind fun verdict => FailsBy.spares ?_
    exact (failsBy_ask _ _).bind fun _ => hconclude verdict _
  · simp only [if_neg hgoal]
    refine FailsBy.spares ((failsBy_launch_bind _ _ _ _).bind fun verdict => ?_)
    exact (failsBy_ask _ _).bind fun _ => hconclude verdict _

/-- A count in memory is refused before its answer is shown; a tool that counts refuses
    nothing. -/
theorem spares_count (o : Options) (sink : Option ResultFile) (e : Encoding)
    (vars : VariableMap) : Spares (count o sink e vars) := by
  have hconclude (n : Nat) : FailsBy .outside (conclude sink
      (.obj [("count", .str (toString n)), ("encoding", (e.summary vars).toJson)])
      (ask (.print s!"Models: {n}\n"))) :=
    failsBy_conclude sink _ (failsBy_ask _ _)
  unfold count countWith
  refine (quiet_ofExcept (by intro e; rfl) _).spares_bind fun assumptions => ?_
  cases o.counter with
  | none =>
      refine (quiet_searched _ _).spares_bind fun n => FailsBy.spares ?_
      exact (failsBy_ask _ _).bind fun _ => hconclude n
  | some command =>
      refine FailsBy.spares ((failsBy_launch_bind _ _ _ _).bind fun n => ?_)
      exact (failsBy_ask _ _).bind fun _ => hconclude n

/-- All four goals spare files. -/
theorem spares_pursue (o : Options) (e : Encoding) (vars : VariableMap)
    (sink : Option ResultFile) : Spares (pursue o e vars sink) := by
  unfold pursue
  cases o.goal with
  | encode => exact spares_writeEncoding o sink e vars
  | check => exact spares_decide o sink e vars
  | solve => exact spares_decide o sink e vars
  | count => exact spares_count o sink e vars

/-- What a run has done when it fails: nothing if its input is to blame, and no
    more than opening the file for results if it is refused. -/
theorem actions_of_failed {formats : Registry} {o : Options} {xs : List Exchange}
    {e : RunError} (h : Course (ofOptions formats o) xs (.error (.failed e))) :
    (e.cause = .input → actions xs = []) ∧ (e.cause = .refusal → Prepares o (actions xs)) := by
  have hread := quiet_readFormula formats o.input o.format
  rcases Course.of_bind h with ⟨stop, hfails, hstop⟩ | ⟨⟨f, vars⟩, rs, xs, hrs, hencodes, rfl⟩
  · cases hstop
    rw [hread.failsBy xs e hfails]
    exact ⟨fun _ => hread.actions xs _ hfails, nofun⟩
  -- the input was read, without an action
  rw [actions_append, hread.actions rs _ hrs, List.nil_append]
  have hencode := quiet_encode o.input f vars
  rcases Course.of_bind hencodes with
    ⟨stop, hfails, hstop⟩ | ⟨⟨enc, vars'⟩, es, xs, hes, hopens, rfl⟩
  · cases hstop
    rw [hencode.failsBy xs e hfails]
    exact ⟨fun _ => hencode.actions xs _ hfails, nofun⟩
  -- the formula was encoded, without an action
  rw [actions_append, hencode.actions es _ hes, List.nil_append]
  rcases Course.of_bind hopens with ⟨stop, hfails, hstop⟩ | ⟨sink, cs, xs, hcs, hgoal, rfl⟩
  · -- a file for results that cannot be opened is neither
    cases hstop
    rw [failsBy_createResults o xs e hfails]
    exact ⟨nofun, nofun⟩
  -- a goal that refuses has not begun, so the file for results is all there is
  obtain ⟨hcause, hactions⟩ := spares_pursue o enc vars' sink xs e hgoal
  refine ⟨fun he => absurd he hcause, fun he => ?_⟩
  rw [actions_append, hactions he, List.append_nil]
  exact prepares_createResults hcs

end Run

/-! ## Files of a host. -/

namespace Host

/-- The file for results, if one is named, is empty, and all else is as it was;
    its path is followed after the input is read. -/
def Prepares (o : Options) (host host' : Host) : Prop :=
  match o.json with
  | none => host'.files = host.files
  | some path => ∃ g : Host, g.files = host.files ∧ g.Empties path host'

/-- What the exchanges of a run say of its actions holds of the files of the host it ran
    on. -/
theorem Undergoes.prepares {launcher : Launcher} {name : String} {o : Options}
    {acts : List Exchange} {host host' : Host} (hrun : Undergoes launcher name acts host host')
    (hacts : Run.Prepares o acts) : host.Prepares o host' := by
  unfold Run.Prepares at hacts
  unfold Prepares
  cases hjson : o.json with
  | none =>
      rw [hjson] at hacts
      cases hacts
      cases hrun with
      | rest same => exact same
  | some path =>
      rw [hjson] at hacts
      obtain ⟨file, rfl⟩ := hacts
      cases hrun with
      | act same answered further =>
          cases further with
          | rest same' => exact ⟨_, same, (empties_create answered).of_files same'⟩

end Host

/-- A run that fails because its input cannot be read, parsed or encoded takes
    no action, and leaves the files of a host as they are.  If it is refused,
    for its choice of conjuncts or for a search that is too long, the file for
    results was made empty, and no other action was taken. -/
theorem Run.failures_spare_files (formats : Registry) (o : Options) (e : RunError) :
    (∀ xs, Course (ofOptions formats o) xs (.error (.failed e)) →
      (e.cause = .input → actions xs = []) ∧ (e.cause = .refusal → Prepares o (actions xs))) ∧
    ∀ launcher name host host',
      Host.run launcher name (ofOptions formats o).run host = (.error (.failed e), host') →
      (e.cause = .input → host'.files = host.files) ∧
        (e.cause = .refusal → host.Prepares o host') := by
  refine ⟨fun xs h => actions_of_failed h, ?_⟩
  intro launcher name host host' hrun
  obtain ⟨xs, hcourse, hundergoes⟩ :=
    Host.undergoes_run launcher name (ofOptions formats o).run host
  rw [hrun] at hcourse hundergoes
  obtain ⟨hinput, hrefusal⟩ := actions_of_failed hcourse
  constructor
  · intro he
    rw [hinput he] at hundergoes
    cases hundergoes with
    | rest same => exact same
  · intro he
    exact hundergoes.prepares (hrefusal he)

/-- A working folder with an empty formula and results of an earlier run. -/
def Host.withResults : Host where
  tree := ⟨#[.folder 0 [("work", 1)], .folder 0 [("f.txt", 2), ("r.json", 3)],
    .file .empty false, .file ⟨#[123, 125]⟩ false]⟩
  openings := #[⟨2, 0, false⟩, ⟨2, 0, false⟩, ⟨2, 0, false⟩]
  limit := none
  date := 0

/-- A check of an input with its first conjunct negated, and a file for the results. -/
def Options.negatingFirst (input : String) : Options where
  input := input
  format := none
  goal := .check
  output := none
  negated := [1]
  free := []
  solver := ""
  solverArgs := []
  counter := none
  counterArgs := []
  json := some "r.json"
  timeout := none
  debug := false
  stats := none

/-- How the check ends on the host, which has no tools. -/
def Run.negatingFirst (input : String) : Except Stop Unit × Host :=
  Host.run (fun _ _ => pure .outOfTime) "tool"
    (ofOptions .standard (.negatingFirst input)).run .withResults

/-- An input that does not exist cannot be read. -/
theorem Run.negatingFirst_missing : Stop.causeOf (negatingFirst "g.txt").1 = some .input := by
  decide +kernel

/-- A formula without conjuncts has no first one to negate. -/
theorem Run.negatingFirst_refused : Stop.causeOf (negatingFirst "f.txt").1 = some .refusal := by
  decide +kernel

/-- Without the input all files stay.  An empty formula has no first conjunct,
    and there the old results are lost. -/
theorem Run.failures_spare_files_two :
    (negatingFirst "g.txt").2.files = Host.withResults.files ∧
    Host.withResults.Prepares (.negatingFirst "f.txt") (negatingFirst "f.txt").2 ∧
    ∃ xs e, Course (ofOptions .standard (.negatingFirst "f.txt")) xs (.error (.failed e)) ∧
      Prepares (.negatingFirst "f.txt") (actions xs) := by
  obtain ⟨e, hmissing, hinput⟩ := Stop.exists_failed negatingFirst_missing
  obtain ⟨e', hrefused, hrefusal⟩ := Stop.exists_failed negatingFirst_refused
  refine ⟨?_, ?_, ?_⟩
  · have hspared := (failures_spare_files .standard (.negatingFirst "g.txt") e).2 _ _ _ _
      (Prod.ext hmissing rfl)
    exact hspared.1 hinput
  · have hspared := (failures_spare_files .standard (.negatingFirst "f.txt") e').2 _ _ _ _
      (Prod.ext hrefused rfl)
    exact hspared.2 hrefusal
  · obtain ⟨xs, hcourse, -⟩ := Host.undergoes_run (fun _ _ => pure .outOfTime) "tool"
      (ofOptions .standard (.negatingFirst "f.txt")).run .withResults
    unfold negatingFirst at hrefused
    rw [hrefused] at hcourse
    have hspared := (failures_spare_files .standard (.negatingFirst "f.txt") e').1 xs hcourse
    exact ⟨xs, e', hcourse, hspared.2 hrefusal⟩

/-- How many bytes a file has. -/
def Node.fileSize : Node → Nat
  | .file bytes _ => bytes.size
  | _ => 0

/-- Not all files are spared where a run is refused: the results of an earlier
    run are gone. -/
theorem Run.refusals_empty_results :
    ¬ ∀ formats o e launcher name host host',
      Host.run launcher name (ofOptions formats o).run host = (.error (.failed e), host') →
        (e.cause = .input ∨ e.cause = .refusal) → host'.files = host.files := by
  intro hspared
  obtain ⟨e, hrefused, hrefusal⟩ := Stop.exists_failed negatingFirst_refused
  have hsame : (negatingFirst "f.txt").2.files = Host.withResults.files :=
    hspared .standard (.negatingFirst "f.txt") e _ _ _ _ (Prod.ext hrefused rfl) (.inr hrefusal)
  have hsizes := congrArg (Array.map Node.fileSize) hsame
  exact absurd hsizes (by decide +kernel)

end GuardedCnf
