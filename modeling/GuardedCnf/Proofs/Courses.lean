import GuardedCnf.Proofs.Surroundings
/-! # Courses — how a run can go, whatever it is answered

    A course of a session lists its requests with answers that they may get, up
    to the result.  Of the requests, ACTIONS are those that can change files; a
    run that reads, computes and looks at the clock takes none.

    Three properties of a run speak of all of its courses: it FAILS BY a cause
    if no other failure ends a course, it is QUIET if moreover no course has
    actions, and it SPARES files if a refusal always comes before the first
    action.  Each is found step by step along the run. -/

namespace GuardedCnf

/-- A request with an answer to it. -/
structure Exchange where
  request : Request
  answer : request.Answer

/-- A session may go through some exchanges to a result. -/
inductive Session.Course {α : Type} : Session α → List Exchange → α → Prop where
  | done (a : α) : Course (.done a) [] a
  | ask {r : Request} {next : r.Answer → Session α} {xs : List Exchange} {a : α}
      (answer : r.Answer) (rest : Course (next answer) xs a) :
      Course (.ask r next) (⟨r, answer⟩ :: xs) a

/-- Whether a request can change files: by itself, or by a tool. -/
def Request.isAction : Request → Bool
  | .launch _ => true
  | r => r.isOutput

/-- The exchanges that can change files. -/
def actions (xs : List Exchange) : List Exchange := xs.filter fun x => x.request.isAction

@[simp] theorem actions_nil : actions [] = [] := rfl

@[simp] theorem actions_append (xs ys : List Exchange) :
    actions (xs ++ ys) = actions xs ++ actions ys := List.filter_append ..

theorem actions_cons_of_neg {x : Exchange} (hx : x.request.isAction = false)
    (xs : List Exchange) : actions (x :: xs) = actions xs := by
  simp [actions, hx]

theorem actions_cons_of_pos {x : Exchange} (hx : x.request.isAction = true)
    (xs : List Exchange) : actions (x :: xs) = x :: actions xs := by
  simp [actions, hx]

/-- A course of a sequence is one of its first session and one of the second, by
    induction on the requests of the first. -/
theorem Session.Course.of_bind {α β : Type} {x : Session α} {f : α → Session β}
    {xs : List Exchange} {b : β} (h : (x.bind f).Course xs b) :
    ∃ a ys zs, x.Course ys a ∧ (f a).Course zs b ∧ xs = ys ++ zs := by
  induction x generalizing xs with
  | done a => exact ⟨a, [], xs, .done a, h, rfl⟩
  | ask r next ih =>
      cases h with
      | ask answer rest =>
          obtain ⟨a, ys, zs, hx, hf, rfl⟩ := ih answer rest
          exact ⟨a, ⟨r, answer⟩ :: ys, zs, .ask answer hx, hf, rfl⟩

/-- What a failure is due to. -/
inductive Cause where
  /-- The input cannot be read, parsed or encoded. -/
  | input
  /-- Conjuncts are chosen wrongly, or a search would be too long. -/
  | refusal
  /-- A file or a tool does not do as it should. -/
  | outside
deriving DecidableEq

/-- What a failure of a run is due to. -/
def RunError.cause : RunError → Cause
  | .input _ => .input
  | .encoding _ _ => .input
  | .needlessSelection => .refusal
  | .selection _ => .refusal
  | .search _ => .refusal
  | .results _ _ => .outside
  | .output _ _ => .outside
  | .tool _ => .outside
  | .writingResults _ _ => .outside
  | .writingNames _ => .outside
  | .writingClauses _ => .outside
  | .writingOutput _ _ => .outside

/-- What the failure is due to that a run ends with, if it fails. -/
def Stop.causeOf {α : Type} : Except Stop α → Option Cause
  | .error (.failed e) => some e.cause
  | .error .outOfTime => none
  | .ok _ => none

/-- An end that is due to a cause is a failure; being out of time has no cause. -/
theorem Stop.exists_failed {α : Type} {c : Cause} {result : Except Stop α}
    (h : causeOf result = some c) : ∃ e, result = .error (.failed e) ∧ e.cause = c := by
  rcases result with (e | _) | a
  · exact ⟨e, rfl, Option.some.inj h⟩
  · exact nomatch h
  · exact nomatch h

namespace Run

variable {α β ε : Type} {x : Run α} {f : α → Run β} {c : Cause}

/-- A run may go through some exchanges to a result or an early end. -/
def Course (x : Run α) (xs : List Exchange) (result : Except Stop α) : Prop :=
  x.run.Course xs result

/-! ## Courses of single steps and of sequences. -/

/-- A result at hand is reached without exchanges. -/
theorem Course.of_pure {a : α} {xs : List Exchange} {result : Except Stop α}
    (h : Course (pure a) xs result) : xs = [] ∧ result = .ok a := by
  cases h with
  | done => exact ⟨rfl, rfl⟩

/-- An early end comes without exchanges. -/
theorem Course.of_throw {stop : Stop} {xs : List Exchange} {result : Except Stop α}
    (h : Course (throw stop) xs result) : xs = [] ∧ result = .error stop := by
  cases h with
  | done => exact ⟨rfl, rfl⟩

/-- A single request is the whole course, and any answer to it the result. -/
theorem Course.of_ask {r : Request} {xs : List Exchange} {result : Except Stop r.Answer}
    (h : Course (ask r) xs result) : ∃ answer, xs = [⟨r, answer⟩] ∧ result = .ok answer := by
  cases h with
  | ask answer rest =>
      cases rest with
      | done => exact ⟨answer, rfl, rfl⟩

/-- A result or failure at hand is passed on without exchanges. -/
theorem Course.of_ofExcept {cause : ε → RunError} {r : Except ε α} {xs : List Exchange}
    {result : Except Stop α} (h : Course (ofExcept cause r) xs result) :
    xs = [] ∧ result = r.mapError fun e => .failed (cause e) := by
  cases r with
  | ok a => exact Course.of_pure h
  | error e => exact Course.of_throw h

/-- A sequence ends early in its first part, or goes on with the second. -/
theorem Course.of_bind {xs : List Exchange} {result : Except Stop β}
    (h : Course (x >>= f) xs result) :
    (∃ stop, Course x xs (.error stop) ∧ result = .error stop) ∨
      ∃ a ys zs, Course x ys (.ok a) ∧ Course (f a) zs result ∧ xs = ys ++ zs := by
  obtain ⟨first, ys, zs, hx, hf, rfl⟩ : ∃ first ys zs, Course x ys first ∧
      (ExceptT.bindCont f first).Course zs result ∧ xs = ys ++ zs := Session.Course.of_bind h
  cases first with
  | error stop =>
      -- nothing of the second part is left to do
      cases hf with
      | done => exact .inl ⟨stop, by rwa [List.append_nil], rfl⟩
  | ok a => exact .inr ⟨a, ys, zs, hx, hf, rfl⟩

/-! ## Causes of failures. -/

/-- All failures of a run are due to a cause. -/
def FailsBy (c : Cause) (x : Run α) : Prop :=
  ∀ xs e, Course x xs (.error (.failed e)) → e.cause = c

/-- A request alone does not fail, whatever its answer says. -/
theorem failsBy_ask (c : Cause) (r : Request) : FailsBy c (ask r) := by
  intro xs e h
  obtain ⟨answer, -, hresult⟩ := Course.of_ask h
  exact nomatch hresult

/-- What fails by one cause in both parts fails by it as a whole. -/
theorem FailsBy.bind (hx : FailsBy c x) (hf : ∀ a, FailsBy c (f a)) : FailsBy c (x >>= f) := by
  intro xs e h
  rcases Course.of_bind h with ⟨stop, hstop, hresult⟩ | ⟨a, ys, zs, -, hzs, -⟩
  · cases hresult
    exact hx xs e hstop
  · exact hf a zs e hzs

/-! ## Quiet runs. -/

/-- A run takes no actions, and all its failures are due to a cause. -/
structure Quiet (c : Cause) (x : Run α) : Prop where
  actions : ∀ xs result, Course x xs result → actions xs = []
  failsBy : FailsBy c x

/-- A result at hand does nothing. -/
theorem quiet_pure (c : Cause) (a : α) : Quiet c (pure a) where
  actions := by
    intro xs result h
    rw [(Course.of_pure h).1, actions_nil]
  failsBy := by
    intro xs e h
    exact nomatch (Course.of_pure h).2

/-- Being out of time is no failure, so it goes with any cause. -/
theorem quiet_outOfTime (c : Cause) : Quiet c (throw .outOfTime : Run α) where
  actions := by
    intro xs result h
    rw [(Course.of_throw h).1, actions_nil]
  failsBy := by
    intro xs e h
    exact nomatch (Course.of_throw h).2

/-- A failure that is thrown does nothing but fail. -/
theorem quiet_throw {e : RunError} (he : e.cause = c) :
    Quiet c (throw (.failed e) : Run α) where
  actions := by
    intro xs result h
    rw [(Course.of_throw h).1, actions_nil]
  failsBy := by
    intro xs e' h
    cases (Course.of_throw h).2
    exact he

/-- A result or failure at hand is quiet if the failure is due to the cause. -/
theorem quiet_ofExcept {cause : ε → RunError} (hcause : ∀ e, (cause e).cause = c)
    (r : Except ε α) : Quiet c (ofExcept cause r) := by
  cases r with
  | ok a => exact quiet_pure c a
  | error e => exact quiet_throw (hcause e)

/-- A request that can change no files is quiet. -/
theorem quiet_ask (c : Cause) {r : Request} (hr : r.isAction = false) : Quiet c (ask r) where
  actions := by
    intro xs result h
    obtain ⟨answer, rfl, -⟩ := Course.of_ask h
    rw [actions_cons_of_neg hr, actions_nil]
  failsBy := failsBy_ask c r

/-- What is quiet in both parts is quiet as a whole: the actions of neither are any. -/
theorem Quiet.bind (hx : Quiet c x) (hf : ∀ a, Quiet c (f a)) : Quiet c (x >>= f) where
  actions := by
    intro xs result h
    rcases Course.of_bind h with ⟨stop, hstop, -⟩ | ⟨a, ys, zs, hys, hzs, rfl⟩
    · exact hx.actions xs _ hstop
    · rw [actions_append, hx.actions ys _ hys, (hf a).actions zs result hzs, List.append_nil]
  failsBy := hx.failsBy.bind fun a => (hf a).failsBy

/-! ## Runs that spare files. -/

/-- A run does not fail by its input, and has taken no actions if it fails by a
    refusal. -/
def Spares (x : Run α) : Prop :=
  ∀ xs e, Course x xs (.error (.failed e)) →
    e.cause ≠ .input ∧ (e.cause = .refusal → actions xs = [])

/-- What fails by the outside only may do anything. -/
theorem FailsBy.spares (h : FailsBy .outside x) : Spares x := by
  intro xs e he
  rw [h xs e he]
  exact ⟨nofun, nofun⟩

/-- What does nothing has done nothing when it refuses. -/
theorem Quiet.spares (h : Quiet .refusal x) : Spares x := by
  intro xs e he
  rw [h.failsBy xs e he]
  exact ⟨nofun, fun _ => h.actions xs _ he⟩

/-- Refusals may come one after the other, as long as nothing is done in between. -/
theorem Quiet.spares_bind (hx : Quiet .refusal x) (hf : ∀ a, Spares (f a)) :
    Spares (x >>= f) := by
  intro xs e h
  rcases Course.of_bind h with ⟨stop, hstop, hresult⟩ | ⟨a, ys, zs, hys, hzs, rfl⟩
  · cases hresult
    exact hx.spares xs e hstop
  · obtain ⟨hcause, hactions⟩ := hf a zs e hzs
    refine ⟨hcause, fun he => ?_⟩
    rw [actions_append, hx.actions ys _ hys, hactions he, List.append_nil]

end Run

end GuardedCnf
