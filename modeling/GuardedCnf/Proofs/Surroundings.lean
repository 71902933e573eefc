import GuardedCnf.Run
/-! # Surroundings — what a run shows to the outside

    Surroundings answer every request, and may take all earlier ones into
    account.  In given surroundings a run has one course, of which the outside
    sees the files that are made and the texts that are shown.  Runs in sequence
    show one after the other what they show alone. -/

namespace GuardedCnf

/-- Surroundings answer a request, given those made before. -/
abbrev Surroundings := List Request → (r : Request) → r.Answer

/-- Whether a request makes a file or shows a text. -/
def Request.isOutput : Request → Bool
  | .create _ => true
  | .write _ _ => true
  | .print _ => true
  | .report _ => true
  | _ => false

/-- The requests that make files or show texts. -/
def outputs (past : List Request) : List Request := past.filter Request.isOutput

theorem Session.runWith_bind {α β : Type} {m : Type → Type} [Monad m] [LawfulMonad m]
    (answer : (r : Request) → m r.Answer) (x : Session α) (f : α → Session β) :
    (x.bind f).runWith answer = x.runWith answer >>= fun a => (f a).runWith answer := by
  induction x with
  | done a =>
      show (f a).runWith answer = (Pure.pure a : m α) >>= fun a => (f a).runWith answer
      rw [pure_bind]
  | ask r next ih =>
      rw [bind, runWith, runWith, bind_assoc]
      exact bind_congr fun a => ih a

namespace Surroundings

variable {α β : Type} {s : Surroundings} {past : List Request}

/-- Answers a request and takes note of it. -/
def answer (s : Surroundings) (r : Request) : StateM (List Request) r.Answer := fun past =>
  (s past r, past ++ [r])

/-- The course of a run after some requests: how it ends, and all requests. -/
def play (s : Surroundings) (past : List Request) (x : Run α) : Except Stop α × List Request :=
  (Session.runWith s.answer x.run).run past

theorem play_bind (s : Surroundings) (past : List Request) (x : Run α) (f : α → Run β) :
    s.play past (x >>= f) = match s.play past x with
      | (.ok a, past') => s.play past' (f a)
      | (.error e, past') => (.error e, past') := by
  have hgoOn : ∀ course : Except Stop α × List Request,
      (Session.runWith s.answer (ExceptT.bindCont f course.1)).run course.2 = match course with
        | (.ok a, past') => s.play past' (f a)
        | (.error e, past') => (.error e, past') := by
    rintro ⟨e | a, past'⟩
    · rfl
    · rfl
  show (Session.runWith s.answer (Session.bind (ExceptT.bindCont f) x.run)).run past = _
  rw [Session.runWith_bind]
  exact hgoOn (s.play past x)

/-! ## What runs do. -/

/-- After some requests, a run ends with a result and shows the given outputs. -/
def Does (s : Surroundings) (past : List Request) (x : Run α) (a : α) (shown : List Request) :
    Prop :=
  ∃ past', s.play past x = (.ok a, past') ∧ outputs past' = outputs past ++ shown

namespace Does

theorem pure (s : Surroundings) (past : List Request) (a : α) :
    s.Does past (Pure.pure a) a [] :=
  ⟨past, rfl, (List.append_nil _).symm⟩

/-- What a run does after another one that shows nothing. -/
theorem after {x : Run α} {f : α → Run β} {a : α} {b : β} {shown : List Request}
    {middle : List Request} (hplay : s.play past x = (.ok a, middle))
    (hnothing : outputs middle = outputs past ++ []) (h : s.Does middle (f a) b shown) :
    s.Does past (x >>= f) b shown := by
  obtain ⟨past', hplay', hshown⟩ := h
  refine ⟨past', ?_, ?_⟩
  · rw [play_bind, hplay]
    exact hplay'
  · rw [hshown, hnothing, List.append_nil]

/-- Runs in sequence show one after the other what they show. -/
theorem bind {x : Run α} {f : α → Run β} {a : α} {b : β} {shown shown' : List Request}
    (h : s.Does past x a shown) (h' : ∀ past', s.Does past' (f a) b shown') :
    s.Does past (x >>= f) b (shown ++ shown') := by
  obtain ⟨middle, hplay, hshown⟩ := h
  obtain ⟨past', hplay', hshown'⟩ := h' middle
  refine ⟨past', ?_, ?_⟩
  · rw [play_bind, hplay]
    exact hplay'
  · rw [hshown', hshown, List.append_assoc]

/-- A run that shows nothing before another one. -/
theorem andThen {x : Run α} {f : α → Run β} {a : α} {b : β} {shown : List Request}
    (h : s.Does past x a []) (h' : ∀ past', s.Does past' (f a) b shown) :
    s.Does past (x >>= f) b shown := h.bind h'

/-- A request that shows nothing has its answer as result. -/
theorem ask (s : Surroundings) (past : List Request) (r : Request) (hr : r.isOutput = false) :
    s.Does past (Run.ask r) (s past r) [] := by
  refine ⟨past ++ [r], rfl, ?_⟩
  rw [outputs, List.filter_append, List.filter_cons_of_neg (by rw [hr]; exact Bool.false_ne_true)]
  rfl

theorem ask_output (s : Surroundings) (past : List Request) (r : Request)
    (hr : r.isOutput = true) : s.Does past (Run.ask r) (s past r) [r] := by
  refine ⟨past ++ [r], rfl, ?_⟩
  rw [outputs, List.filter_append, List.filter_cons_of_pos hr]
  rfl

end Does

end Surroundings

end GuardedCnf
