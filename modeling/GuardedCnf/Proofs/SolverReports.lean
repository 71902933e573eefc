import GuardedCnf.Proofs.BinaryNumbers
import GuardedCnf.Proofs.Outcomes
import GuardedCnf.Proofs.Reports
import GuardedCnf.Proofs.WordLines
/-! # Solver reports — which reports are accepted, and as what

    Reading a report is a run over its lines, and over the words of the lines of
    values.  After any number of lines, what has been read is a function of the
    words of values so far, and of the last status.  The run goes on exactly as
    long as every status line has a status and the words of values are numbers
    of literals in range, and zeros after them.  So the accepted reports are
    described without the run.

    A status takes the place of an earlier one.  If all status lines agree, none
    is lost; if they do not, the last one decides, and an earlier one that
    contradicts the verdict is passed over. -/

namespace GuardedCnf

open Text (encode readInt64 wordsOf linesOf wordLines)

/-- Every number but 0 is that of a literal. -/
theorem Literal.exists_number {k : Int} (h : k ≠ 0) : ∃ l : Literal, l.number = k := by
  cases k with
  | ofNat m =>
      cases m with
      | zero => exact absurd rfl h
      | succ x => exact ⟨⟨x, true⟩, rfl⟩
  | negSucc x => exact ⟨⟨x, false⟩, rfl⟩

theorem Literal.number_ne_zero (l : Literal) : l.number ≠ 0 := by
  intro h
  have hsome := ofNumber?_number l
  rw [h] at hsome
  exact nomatch hsome

namespace Verdict

variable {n i : Nat} {status : Option Bool} {code : Option Int} {w : String} {l : Literal}
  {vs ws : List String} {row : List String} {rows : List (List String)} {line : String}
  {lines : List String} {p q : Progress} {b : Bool} {m : Model}

/-! ## Words of values. -/

/-- The literal that a word names. -/
def literal? (w : String) : Option Literal := (readInt64 w).toOption.bind Literal.ofNumber?

/-- Whether a word ends a model. -/
def isEnd (w : String) : Bool := (readInt64 w).toOption == some 0

/-- Words that can be read in sequence: numbers within the range of `n`
    variables, of which none but zeros come after a zero. -/
structure Readable (n : Nat) (ws : List String) : Prop where
  numbers : ∀ w ∈ ws, ∃ k : Int, readInt64 w = .ok k ∧ k.natAbs ≤ n
  order : ws.Pairwise fun w w' => readInt64 w = .ok 0 → readInt64 w' = .ok 0

/-- What has been read after some words of values, and a status. -/
def Progress.after (status : Option Bool) (ws : List String) : Progress :=
  ⟨status, ws.filterMap literal?, ws.any isEnd⟩

/-- The values end at any spelling of 0. -/
theorem isEnd_iff : isEnd w = true ↔ readInt64 w = .ok 0 := by
  unfold isEnd
  cases readInt64 w with
  | error e => simp [Except.toOption]
  | ok k => simp [Except.toOption]

/-- A word that spells the number of a literal stands for the literal. -/
theorem literal?_of_number (h : readInt64 w = .ok l.number) : literal? w = some l := by
  rw [literal?, h]
  exact Literal.ofNumber?_number l

theorem literal?_of_zero (h : readInt64 w = .ok 0) : literal? w = none := by
  rw [literal?, h]
  rfl

theorem isEnd_of_number (h : readInt64 w = .ok l.number) : isEnd w = false := by
  refine Bool.eq_false_iff.mpr fun hend => l.number_ne_zero ?_
  exact Except.ok.inj (h.symm.trans (isEnd_iff.mp hend))

/-- A literal more makes the values read so far longer, and ends nothing. -/
theorem after_concat_of_number (h : readInt64 w = .ok l.number) :
    Progress.after status (vs ++ [w]) =
      ⟨status, vs.filterMap literal? ++ [l], vs.any isEnd⟩ := by
  simp [Progress.after, literal?_of_number h, isEnd_of_number h]

/-- An end leaves the values as they are, and is remembered. -/
theorem after_concat_of_zero (h : readInt64 w = .ok 0) :
    Progress.after status (vs ++ [w]) = ⟨status, vs.filterMap literal?, true⟩ := by
  simp [Progress.after, literal?_of_zero h, isEnd_iff.mpr h]

theorem readable_nil (n : Nat) : Readable n [] := ⟨List.forall_mem_nil _, List.Pairwise.nil⟩

theorem Readable.left (h : Readable n (vs ++ ws)) : Readable n vs :=
  ⟨fun w hw => h.numbers w (List.mem_append_left _ hw), (List.pairwise_append.mp h.order).1⟩

/-- A further word can be read if it is a zero, or the number of a literal in
    range and there was no zero. -/
theorem readable_concat_iff (h : Readable n vs) :
    Readable n (vs ++ [w]) ↔
      ∃ k : Int, readInt64 w = .ok k ∧ k.natAbs ≤ n ∧ (vs.any isEnd = true → k = 0) := by
  constructor
  · intro hvs
    obtain ⟨k, hk, hin⟩ := hvs.numbers w (List.mem_append_right _ (List.mem_singleton_self w))
    refine ⟨k, hk, hin, fun hany => ?_⟩
    obtain ⟨v, hv, hend⟩ := List.any_eq_true.mp hany
    have horder := (List.pairwise_append.mp hvs.order).2.2 v hv w (List.mem_singleton_self w)
    exact Except.ok.inj (hk.symm.trans (horder (isEnd_iff.mp hend)))
  · rintro ⟨k, hk, hin, hlate⟩
    refine ⟨List.forall_mem_append.mpr ⟨h.numbers, ?_⟩,
      List.pairwise_append.mpr ⟨h.order, List.pairwise_singleton .., ?_⟩⟩
    · exact List.forall_mem_singleton.mpr ⟨k, hk, hin⟩
    · intro v hv w' hw' hzero
      rw [List.mem_singleton.mp hw', hk]
      exact congrArg _ (hlate (List.any_eq_true.mpr ⟨v, hv, isEnd_iff.mpr hzero⟩))

/-- **ONE WORD** that can be read is added to those before it. -/
theorem readLiterals_cons (h : Readable n vs) (hw : Readable n (vs ++ [w])) :
    readLiterals n i (.after status vs) (w :: ws) =
      readLiterals n i (.after status (vs ++ [w])) ws := by
  obtain ⟨k, hk, hin, hlate⟩ := (readable_concat_iff h).mp hw
  rw [readLiterals, hk]
  by_cases hzero : k = 0
  · rw [hzero] at hk ⊢
    rw [after_concat_of_zero hk]
    rfl
  · obtain ⟨l, rfl⟩ := Literal.exists_number hzero
    have hopen : ¬vs.any isEnd = true := fun hany => hzero (hlate hany)
    have hvar : ¬n ≤ l.var := by
      rw [Literal.natAbs_number] at hin
      exact Nat.not_le.mpr hin
    rw [after_concat_of_number hk]
    simp only [Literal.ofNumber?_number, Progress.after, if_neg hopen, if_neg hvar]

/-- **ONE WORD** that cannot be read is refused. -/
theorem readLiterals_refused (h : Readable n vs) (hw : ¬Readable n (vs ++ [w])) :
    ∃ e, readLiterals n i (.after status vs) (w :: ws) = .error e := by
  rw [readable_concat_iff h] at hw
  rw [readLiterals]
  cases hk : readInt64 w with
  | error e => exact ⟨_, rfl⟩
  | ok k =>
      by_cases hzero : k = 0
      · exact absurd ⟨k, hk, by rw [hzero]; exact Nat.zero_le n, fun _ => hzero⟩ hw
      · obtain ⟨l, rfl⟩ := Literal.exists_number hzero
        simp only [Literal.ofNumber?_number, Progress.after]
        by_cases hany : vs.any isEnd = true
        · exact ⟨_, if_pos hany⟩
        · by_cases hvar : n ≤ l.var
          · exact ⟨_, (if_neg hany).trans (if_pos hvar)⟩
          · refine absurd ⟨l.number, hk, ?_, fun h => absurd h hany⟩ hw
            rw [Literal.natAbs_number]
            exact Nat.not_le.mp hvar

/-- **THE WORDS OF A LINE** are read exactly when they can be read after those
    before them. -/
theorem readLiterals_ok_iff (h : Readable n vs) :
    readLiterals n i (.after status vs) ws = .ok q ↔
      Readable n (vs ++ ws) ∧ q = .after status (vs ++ ws) := by
  -- the words so far say all about the state, so the rest is read after one more of them
  induction ws generalizing vs with
  | nil =>
      rw [List.append_nil, readLiterals, Except.ok.injEq, eq_comm]
      exact (and_iff_right h).symm
  | cons w ws ih =>
      have happend : vs ++ w :: ws = vs ++ [w] ++ ws := List.append_cons vs w ws
      by_cases hw : Readable n (vs ++ [w])
      · rw [readLiterals_cons h hw, ih hw, happend]
      · obtain ⟨e, he⟩ : ∃ e, readLiterals n i (.after status vs) (w :: ws) = .error e :=
          readLiterals_refused h hw
        rw [he, happend]
        simp only [reduceCtorEq, false_iff]
        intro hok
        exact hw hok.1.left

/-! ## Lines. -/

/-- The status that a line gives. -/
def statusOf? : List String → Option Bool
  | ["s", "SATISFIABLE"] => some true
  | ["s", "UNSATISFIABLE"] => some false
  | _ => none

/-- The words of values on a line. -/
def valuesOf : List String → List String
  | "v" :: words => words
  | _ => []

/-- A line is no status line without a status. -/
def HasStatus (row : List String) : Prop :=
  ∀ answer, row = "s" :: answer → answer = ["SATISFIABLE"] ∨ answer = ["UNSATISFIABLE"]

/-- Only a line marked `s` tells a status. -/
theorem statusOf?_of_ne (h : row.head? ≠ some "s") : statusOf? row = none := by
  unfold statusOf?
  split
  · exact absurd rfl h
  · exact absurd rfl h
  · rfl

theorem valuesOf_of_ne (h : row.head? ≠ some "v") : valuesOf row = [] := by
  unfold valuesOf
  split
  · exact absurd rfl h
  · rfl

theorem hasStatus_of_ne (h : row.head? ≠ some "s") : HasStatus row := by
  rintro answer rfl
  exact absurd rfl h

/-- A line with a status replaces the status so far, and leaves the values. -/
theorem readLine_of_hasStatus {answer : List String} (hrow : wordsOf line = "s" :: answer)
    (h : HasStatus ("s" :: answer)) :
    ∃ b, statusOf? ("s" :: answer) = some b ∧
      readLine n i p line = .ok { p with status := some b } := by
  unfold readLine
  rcases h answer rfl with rfl | rfl
  · rw [hrow]
    exact ⟨true, rfl, rfl⟩
  · rw [hrow]
    exact ⟨false, rfl, rfl⟩

/-- A line marked `s` without one of the two statuses is refused. -/
theorem readLine_of_not_hasStatus {answer : List String} (hrow : wordsOf line = "s" :: answer)
    (h : ¬HasStatus ("s" :: answer)) : readLine n i p line = .error (.status line) := by
  have hsat : answer ≠ ["SATISFIABLE"] := by
    rintro rfl
    exact h fun answer heq => Or.inl (List.cons.inj heq).2.symm
  have hunsat : answer ≠ ["UNSATISFIABLE"] := by
    rintro rfl
    exact h fun answer heq => Or.inr (List.cons.inj heq).2.symm
  unfold readLine
  split
  · next heq =>
      obtain ⟨-, rfl⟩ := List.cons.inj (hrow.symm.trans heq)
      split
      · exact absurd rfl hsat
      · exact absurd rfl hunsat
      · rfl
  · next heq => exact absurd (List.cons.inj (hrow.symm.trans heq)).1 (by decide)
  · next hother _ => exact absurd hrow (hother answer)

/-- The words of a line marked `v` are read one after the other. -/
theorem readLine_of_values (hrow : wordsOf line = "v" :: ws) :
    readLine n i p line = readLiterals n i p ws := by
  unfold readLine
  rw [hrow]
  rfl

/-- A line that is marked neither way changes nothing. -/
theorem readLine_of_other (hs : (wordsOf line).head? ≠ some "s")
    (hv : (wordsOf line).head? ≠ some "v") : readLine n i p line = .ok p := by
  unfold readLine
  split
  · next heq => exact absurd (heq ▸ rfl) hs
  · next heq => exact absurd (heq ▸ rfl) hv
  · rfl

/-- **ONE LINE** is read exactly when it has a status, if it is a status line, and
    its words of values can be read after those before it. -/
theorem readLine_ok_iff (h : Readable n vs) :
    readLine n i (.after status vs) line = .ok q ↔
      HasStatus (wordsOf line) ∧ Readable n (vs ++ valuesOf (wordsOf line)) ∧
        q = .after ((statusOf? (wordsOf line)).or status) (vs ++ valuesOf (wordsOf line)) := by
  by_cases hs : (wordsOf line).head? = some "s"
  · obtain ⟨answer, hrow⟩ := List.head?_eq_some_iff.mp hs
    have hvalues : valuesOf ("s" :: answer) = [] := rfl
    rw [hrow, hvalues, List.append_nil, and_iff_right h]
    by_cases hstatus : HasStatus ("s" :: answer)
    · obtain ⟨b, hb, hread⟩ :=
        readLine_of_hasStatus (n := n) (i := i) (p := .after status vs) hrow hstatus
      rw [hread, hb, Option.some_or, Except.ok.injEq, eq_comm]
      exact (and_iff_right hstatus).symm
    · rw [readLine_of_not_hasStatus hrow hstatus]
      exact iff_of_false (fun hok => nomatch hok) fun hok => hstatus hok.1
  · by_cases hv : (wordsOf line).head? = some "v"
    · obtain ⟨words, hrow⟩ := List.head?_eq_some_iff.mp hv
      rw [hrow] at hs
      rw [readLine_of_values hrow, readLiterals_ok_iff h, hrow, statusOf?_of_ne hs,
        Option.none_or]
      exact (and_iff_right (hasStatus_of_ne hs)).symm
    · rw [readLine_of_other hs hv, statusOf?_of_ne hs, valuesOf_of_ne hv, List.append_nil,
        Option.none_or, Except.ok.injEq, eq_comm, and_iff_right (hasStatus_of_ne hs),
        and_iff_right h]

/-! ## Reports. -/

/-- The words of values of a report. -/
def values (rows : List (List String)) : List String := rows.flatMap valuesOf

/-- The status that the last status line of a report gives. -/
def lastStatus? (rows : List (List String)) : Option Bool := (rows.filterMap statusOf?).getLast?

/-- The last status of some lines is that of the later ones if they have any. -/
theorem lastStatus?_cons (row : List String) (rows : List (List String)) :
    lastStatus? (row :: rows) = (lastStatus? rows).or (statusOf? row) := by
  unfold lastStatus?
  cases h : statusOf? row with
  | none => rw [List.filterMap_cons_none h, Option.or_none]
  | some b =>
      rw [List.filterMap_cons_some h, List.getLast?_cons]
      cases (rows.filterMap statusOf?).getLast? with
      | none => rfl
      | some b' => rfl

/-- **THE LINES OF A REPORT** are read exactly when all status lines have a status
    and the words of values can be read in sequence. -/
theorem readLines_ok_iff (h : Readable n vs) :
    readLines n i (.after status vs) (lines.map some) = .ok q ↔
      (∀ row ∈ lines.map wordsOf, HasStatus row) ∧
        Readable n (vs ++ values (lines.map wordsOf)) ∧
        q = .after ((lastStatus? (lines.map wordsOf)).or status)
          (vs ++ values (lines.map wordsOf)) := by
  induction lines generalizing i status vs with
  | nil =>
      rw [List.map_nil, List.map_nil, values, List.flatMap_nil, List.append_nil, readLines,
        Except.ok.injEq, eq_comm, and_iff_right (List.forall_mem_nil _), and_iff_right h]
      rfl
  | cons line lines ih =>
      have happend : vs ++ values (wordsOf line :: lines.map wordsOf) =
          vs ++ valuesOf (wordsOf line) ++ values (lines.map wordsOf) := by
        rw [values, List.flatMap_cons, List.append_assoc]
        rfl
      rw [List.map_cons, List.map_cons, readLines, except_bind_ok, happend, lastStatus?_cons,
        Option.or_assoc, List.forall_mem_cons]
      constructor
      · rintro ⟨p, hline, hlines⟩
        obtain ⟨hstatus, hvalues, rfl⟩ := (readLine_ok_iff h).mp hline
        obtain ⟨hstatuses, hrest, hq⟩ := (ih hvalues).mp hlines
        exact ⟨⟨hstatus, hstatuses⟩, hrest, hq⟩
      · rintro ⟨⟨hstatus, hstatuses⟩, hrest, hq⟩
        -- what can be read with further words can be read without them
        have hvalues := hrest.left
        exact ⟨_, (readLine_ok_iff h).mpr ⟨hstatus, hvalues, rfl⟩,
          (ih hvalues).mpr ⟨hstatuses, hrest, hq⟩⟩

/-! ## Verdicts. -/

/-- The exit code of a verdict. -/
def exitCode : Bool → Int
  | true => exitSatisfiable
  | false => exitUnsatisfiable

/-- The words of a status line. -/
abbrev statusLine (b : Bool) : List String := (SolverLine.status b).words

/-- A report without faults on a formula of `n` variables. -/
structure Faultless (n : Nat) (rows : List (List String)) : Prop where
  statuses : ∀ row ∈ rows, HasStatus row
  values : Readable n (values rows)

/-- The verdict is the status that was told, unless the exit code is that of the other
    one; without a status it is that of the exit code. -/
theorem decide_ok_iff :
    decide status code = .ok b ↔
      status = some b ∧ code ≠ some (exitCode !b) ∨ status = none ∧ code = some (exitCode b) := by
  have hdistinct : exitSatisfiable ≠ exitUnsatisfiable := by decide
  unfold decide
  by_cases hsat : code = some exitSatisfiable
  · subst hsat
    cases status with
    | none => cases b <;> simp [exitCode, hdistinct]
    | some a => cases a <;> cases b <;> simp [exitCode, hdistinct]
  · by_cases hunsat : code = some exitUnsatisfiable
    · subst hunsat
      cases status with
      | none => cases b <;> simp [exitCode, hdistinct.symm]
      | some a => cases a <;> cases b <;> simp [exitCode, hdistinct.symm]
    · cases status with
      | none => cases b <;> simp [exitCode, hsat, hunsat]
      | some a => cases a <;> cases b <;> simp [exitCode, hsat, hunsat]

/-- Lines are read to the end exactly when they are faultless, and then leave their last
    status and their values. -/
theorem readLines_faultless_iff :
    readLines n 1 ⟨none, [], false⟩ (lines.map some) = .ok q ↔
      Faultless n (lines.map wordsOf) ∧
        q = .after (lastStatus? (lines.map wordsOf)) (values (lines.map wordsOf)) := by
  have hstart : (⟨none, [], false⟩ : Progress) = .after none [] := rfl
  rw [hstart, readLines_ok_iff (readable_nil n), List.nil_append, Option.or_none]
  constructor
  · rintro ⟨hstatuses, hvalues, hq⟩
    exact ⟨⟨hstatuses, hvalues⟩, hq⟩
  · rintro ⟨⟨hstatuses, hvalues⟩, hq⟩
    exact ⟨hstatuses, hvalues, hq⟩

/-- **A VERDICT IS READ** from a report without faults: the one that the last
    status means, with the exit code.  If it is that of a model, the values need
    an end. -/
theorem ofLines_ok_iff {verdict : Verdict} :
    ofLines (lines.map some) code n = .ok verdict ↔
      Faultless n (lines.map wordsOf) ∧
        (decide (lastStatus? (lines.map wordsOf)) code = .ok true ∧
            (values (lines.map wordsOf)).any isEnd = true ∧ verdict = .satisfiable
              (Model.ofLiterals n ((values (lines.map wordsOf)).filterMap literal?)) ∨
          decide (lastStatus? (lines.map wordsOf)) code = .ok false ∧
            verdict = .unsatisfiable) := by
  unfold ofLines
  rw [except_bind_ok]
  constructor
  · rintro ⟨p, hread, h⟩
    obtain ⟨hfaultless, rfl⟩ := readLines_faultless_iff.mp hread
    obtain ⟨b, hb, h⟩ := except_bind_ok.mp h
    refine ⟨hfaultless, ?_⟩
    -- only a model needs the values to be ended
    cases b with
    | false => exact Or.inr ⟨hb, (Except.ok.inj h).symm⟩
    | true =>
        rw [if_pos rfl] at h
        split at h
        · next hend => exact Or.inl ⟨hb, hend, (Except.ok.inj h).symm⟩
        · exact nomatch h
  · rintro ⟨hfaultless, ⟨hb, hend, rfl⟩ | ⟨hb, rfl⟩⟩
    · refine ⟨_, readLines_faultless_iff.mpr ⟨hfaultless, rfl⟩, except_bind_ok.mpr ⟨true, hb, ?_⟩⟩
      exact (if_pos rfl).trans (if_pos hend)
    · exact ⟨_, readLines_faultless_iff.mpr ⟨hfaultless, rfl⟩,
        except_bind_ok.mpr ⟨false, hb, rfl⟩⟩

/-- A model is accepted exactly from faultless lines that come out as satisfiable and
    end their values; it is the model of these values. -/
theorem ofLines_satisfiable_iff :
    ofLines (lines.map some) code n = .ok (.satisfiable m) ↔
      Faultless n (lines.map wordsOf) ∧ decide (lastStatus? (lines.map wordsOf)) code = .ok true ∧
        (values (lines.map wordsOf)).any isEnd = true ∧
        m = Model.ofLiterals n ((values (lines.map wordsOf)).filterMap literal?) := by
  rw [ofLines_ok_iff, satisfiable.injEq]
  simp only [reduceCtorEq, and_false, or_false]

/-- Unsatisfiability is accepted exactly from faultless lines that come out so, with any
    values. -/
theorem ofLines_unsatisfiable_iff :
    ofLines (lines.map some) code n = .ok .unsatisfiable ↔
      Faultless n (lines.map wordsOf) ∧
        decide (lastStatus? (lines.map wordsOf)) code = .ok false := by
  rw [ofLines_ok_iff]
  simp only [reduceCtorEq, and_false, false_or, and_true]

/-- The verdict on a report is a function of its statuses and its values. -/
theorem ofLines_congr {lines' : List String}
    (hstatuses : (∀ row ∈ lines.map wordsOf, HasStatus row) ↔
      ∀ row ∈ lines'.map wordsOf, HasStatus row)
    (hvalues : values (lines.map wordsOf) = values (lines'.map wordsOf))
    (hlast : lastStatus? (lines.map wordsOf) = lastStatus? (lines'.map wordsOf))
    (verdict : Verdict) :
    ofLines (lines.map some) code n = .ok verdict ↔
      ofLines (lines'.map some) code n = .ok verdict := by
  have hfaultless : Faultless n (lines.map wordsOf) ↔ Faultless n (lines'.map wordsOf) :=
    ⟨fun h => ⟨hstatuses.mp h.statuses, hvalues ▸ h.values⟩,
      fun h => ⟨hstatuses.mpr h.statuses, hvalues ▸ h.values⟩⟩
  rw [ofLines_ok_iff, ofLines_ok_iff, hfaultless, hvalues, hlast]

/-! ## Models of values. -/

/-- The word of a literal is one that spells its number. -/
theorem literal?_eq_some_iff : literal? w = some l ↔ readInt64 w = .ok l.number := by
  constructor
  · intro h
    cases hw : readInt64 w with
    | error e =>
        rw [literal?, hw] at h
        exact nomatch h
    | ok k =>
        by_cases hzero : k = 0
        · rw [hzero] at hw
          rw [literal?_of_zero hw] at h
          exact nomatch h
        · obtain ⟨l', rfl⟩ := Literal.exists_number hzero
          rw [literal?_of_number hw] at h
          rw [Option.some.inj h]
  · exact literal?_of_number

/-- The true variables of the model of values are the positive ones among them. -/
theorem value_ofLiterals_iff (h : Readable n vs) (v : Var) :
    (Model.ofLiterals n (vs.filterMap literal?)).value v = true ↔
      ∃ w ∈ vs, readInt64 w = .ok (v.number : Int) := by
  have hpositive : (∃ w ∈ vs, readInt64 w = .ok (v.number : Int)) ↔
      ⟨v, true⟩ ∈ vs.filterMap literal? := by
    rw [List.mem_filterMap]
    exact exists_congr fun w => and_congr_right fun _ =>
      (literal?_eq_some_iff (l := ⟨v, true⟩)).symm
  by_cases hv : v < n
  · rw [hpositive, Model.value_ofLiterals _ hv]
    exact List.contains_iff_mem
  · refine iff_of_false ?_ ?_
    · rw [Model.value_of_size_le (by rw [Model.size_ofLiterals]; exact Nat.not_lt.mp hv)]
      exact Bool.false_ne_true
    · rintro ⟨w, hw, hread⟩
      obtain ⟨k, hk, hin⟩ := h.numbers w hw
      rw [← Except.ok.inj (hread.symm.trans hk)] at hin
      exact hv hin

/-- The lines of a report that gives a model: the numbers of literals that hold,
    among them those of all true variables, and a zero after them, in any number
    of lines and among any other lines. -/
structure Renders (m : Model) (rows : List (List String)) : Prop where
  statuses : ∀ answer, "s" :: answer ∈ rows → "s" :: answer = statusLine true
  literals : ∃ ls : List Literal, values rows = ls.map (fun l => toString l.number) ++ ["0"] ∧
    (∀ l ∈ ls, l.var < m.size ∧ l.eval m.value = true) ∧
    ∀ v, m.value v = true → ⟨v, true⟩ ∈ ls

/-- The number of a literal within the bound on variables is read back from its decimal
    text. -/
theorem readInt64_number (h : l.var < n) (hn : n ≤ 2 ^ 28) :
    readInt64 (toString l.number) = .ok l.number := by
  apply Text.readInt64_toString
  rw [Literal.natAbs_number, Var.number]
  exact Nat.lt_of_le_of_lt (Nat.le_trans h hn) (by decide)

theorem readInt64_zero : readInt64 "0" = .ok 0 := rfl

/-- Numbers of literals in range, and a zero after them, can be read. -/
theorem readable_numbers {ls : List Literal} (hls : ∀ l ∈ ls, l.var < n) (hn : n ≤ 2 ^ 28) :
    Readable n (ls.map (fun l => toString l.number) ++ ["0"]) := by
  have hread : ∀ w ∈ ls.map fun l => toString l.number, ∃ l ∈ ls, readInt64 w = .ok l.number := by
    intro w hw
    obtain ⟨l, hl, rfl⟩ := List.mem_map.mp hw
    exact ⟨l, hl, readInt64_number (hls l hl) hn⟩
  have hnumbers : Readable n (ls.map fun l => toString l.number) := by
    constructor
    · intro w hw
      obtain ⟨l, hl, hw⟩ := hread w hw
      exact ⟨l.number, hw, by rw [Literal.natAbs_number]; exact hls l hl⟩
    · refine List.pairwise_of_forall_mem_list fun w hw w' _ hzero => ?_
      obtain ⟨l, -, hw⟩ := hread w hw
      exact absurd (Except.ok.inj (hw.symm.trans hzero)) l.number_ne_zero
  exact (readable_concat_iff hnumbers).mpr ⟨0, readInt64_zero, Nat.zero_le n, fun _ => rfl⟩

/-- The values of a rendered model are readable, wherever the lines are broken. -/
theorem Renders.readable (h : Renders m rows) (hn : m.size ≤ 2 ^ 28) :
    Readable m.size (values rows) := by
  obtain ⟨ls, hvalues, hls, -⟩ := h.literals
  rw [hvalues]
  exact readable_numbers (fun l hl => (hls l hl).1) hn

/-- The positive numbers that are rendered are those of the true variables. -/
theorem Renders.value_iff (h : Renders m rows) (hn : m.size ≤ 2 ^ 28) (v : Var) :
    m.value v = true ↔ ∃ w ∈ values rows, readInt64 w = .ok (v.number : Int) := by
  obtain ⟨ls, hvalues, hls, htrue⟩ := h.literals
  rw [hvalues]
  constructor
  · intro hv
    have hl := htrue v hv
    exact ⟨_, List.mem_append_left _ (List.mem_map_of_mem hl), readInt64_number (hls _ hl).1 hn⟩
  · rintro ⟨w, hw, hread⟩
    rcases List.mem_append.mp hw with hw | hw
    · obtain ⟨l, hl, rfl⟩ := List.mem_map.mp hw
      obtain ⟨hvar, heval⟩ := hls l hl
      rw [readInt64_number hvar hn] at hread
      have hnumber : l.number = Literal.number ⟨v, true⟩ := Except.ok.inj hread
      -- a literal of the variable that the number stands for
      have hsome := Literal.ofNumber?_number l
      rw [hnumber, Literal.ofNumber?_number] at hsome
      rw [← Option.some.inj hsome] at heval
      exact beq_iff_eq.mp heval
    · -- the end is the number of no variable
      rw [List.mem_singleton.mp hw, readInt64_zero] at hread
      exact absurd (Except.ok.inj hread).symm (Literal.number_ne_zero ⟨v, true⟩)

/-- **A MODEL IS READ BACK** from the lines that render it. -/
theorem Renders.eq_ofLiterals (h : Renders m rows) (hn : m.size ≤ 2 ^ 28) :
    m = Model.ofLiterals m.size ((values rows).filterMap literal?) := by
  refine Model.eq_of_value (Model.size_ofLiterals _ _).symm fun v _ => ?_
  rw [Bool.eq_iff_iff, h.value_iff hn v, value_ofLiterals_iff (h.readable hn) v]

/-! ## Statuses. -/

theorem statusOf?_statusLine (b : Bool) : statusOf? (statusLine b) = some b := by
  cases b <;> rfl

/-- A line that tells a status is the status line of it, word for word. -/
theorem eq_statusLine (h : statusOf? row = some b) : row = statusLine b := by
  unfold statusOf? at h
  split at h
  · rw [← Option.some.inj h]
    rfl
  · rw [← Option.some.inj h]
    rfl
  · exact nomatch h

/-- A line marked `s` that has a status is one of the two status lines. -/
theorem exists_statusLine {answer : List String} (h : HasStatus ("s" :: answer)) :
    ∃ b, "s" :: answer = statusLine b := by
  rcases h answer rfl with rfl | rfl
  · exact ⟨true, rfl⟩
  · exact ⟨false, rfl⟩

/-- Lines that follow tell the last status if they tell any. -/
theorem lastStatus?_append (rows rows' : List (List String)) :
    lastStatus? (rows ++ rows') = (lastStatus? rows').or (lastStatus? rows) := by
  rw [lastStatus?, List.filterMap_append, List.getLast?_append]
  rfl

/-- The last status stands on one of the lines. -/
theorem mem_of_lastStatus? (h : lastStatus? rows = some b) : statusLine b ∈ rows := by
  obtain ⟨row, hrow, hb⟩ := List.mem_filterMap.mp (List.mem_of_getLast? h)
  rwa [← eq_statusLine hb]

theorem lastStatus?_ne_none (h : statusLine b ∈ rows) : lastStatus? rows ≠ none := by
  intro hnone
  rw [lastStatus?, List.getLast?_eq_none_iff] at hnone
  exact List.not_mem_nil (hnone ▸ List.mem_filterMap.mpr ⟨_, h, statusOf?_statusLine b⟩)

/-- Where all status lines agree, the last status is that of any of them. -/
theorem lastStatus?_eq_some_iff
    (hagree : ¬(statusLine true ∈ rows ∧ statusLine false ∈ rows)) :
    lastStatus? rows = some b ↔ statusLine b ∈ rows := by
  refine ⟨mem_of_lastStatus?, fun hmem => ?_⟩
  obtain ⟨b', hlast⟩ := Option.ne_none_iff_exists'.mp (lastStatus?_ne_none hmem)
  have hmem' := mem_of_lastStatus? hlast
  rw [hlast]
  cases b <;> cases b'
  · rfl
  · exact absurd ⟨hmem', hmem⟩ hagree
  · exact absurd ⟨hmem, hmem'⟩ hagree
  · rfl

/-- A report without faults has a last status exactly if it has a status line. -/
theorem lastStatus?_eq_none_iff (h : ∀ row ∈ rows, HasStatus row) :
    lastStatus? rows = none ↔ ∀ answer, "s" :: answer ∉ rows := by
  constructor
  · intro hnone answer hmem
    obtain ⟨b, hb⟩ := exists_statusLine (h _ hmem)
    exact lastStatus?_ne_none (hb ▸ hmem) hnone
  · intro hno
    refine Option.eq_none_iff_forall_ne_some.mpr fun b hb => ?_
    have hmem := mem_of_lastStatus? hb
    cases b with
    | true => exact hno _ hmem
    | false => exact hno _ hmem

/-- What a status and an exit code mean: a status that the code does not
    contradict, or the code, where there is no status. -/
def Means (b : Bool) (rows : List (List String)) (code : Option Int) : Prop :=
  statusLine b ∈ rows ∧ code ≠ some (exitCode !b) ∨
    (∀ answer, "s" :: answer ∉ rows) ∧ code = some (exitCode b)

/-- A report on a formula of `n` variables that says that there is a model, and
    gives it. -/
def GivesModel (n : Nat) (rows : List (List String)) (code : Option Int) : Prop :=
  Faultless n rows ∧ Means true rows code ∧ ∃ w ∈ values rows, readInt64 w = .ok 0

/-- A report on a formula of `n` variables that says that there is no model. -/
def DeniesModel (n : Nat) (rows : List (List String)) (code : Option Int) : Prop :=
  Faultless n rows ∧ Means false rows code

/-- Where the status lines agree, the last of them speaks for all. -/
theorem decide_iff_means (h : ∀ row ∈ rows, HasStatus row)
    (hagree : ¬(statusLine true ∈ rows ∧ statusLine false ∈ rows)) :
    decide (lastStatus? rows) code = .ok b ↔ Means b rows code := by
  rw [decide_ok_iff, lastStatus?_eq_some_iff hagree, lastStatus?_eq_none_iff h]
  exact Iff.rfl

/-- Where the status lines agree, a model is accepted exactly from an output that gives
    one. -/
theorem exists_satisfiable_iff
    (hagree : ¬(statusLine true ∈ lines.map wordsOf ∧ statusLine false ∈ lines.map wordsOf)) :
    (∃ m, ofLines (lines.map some) code n = .ok (.satisfiable m)) ↔
      GivesModel n (lines.map wordsOf) code := by
  have hend : (values (lines.map wordsOf)).any isEnd = true ↔
      ∃ w ∈ values (lines.map wordsOf), readInt64 w = .ok 0 := by
    rw [List.any_eq_true]
    exact exists_congr fun w => and_congr_right fun _ => isEnd_iff
  constructor
  · rintro ⟨m, hm⟩
    obtain ⟨hfaultless, hdecide, hzero, -⟩ := ofLines_satisfiable_iff.mp hm
    exact ⟨hfaultless, (decide_iff_means hfaultless.statuses hagree).mp hdecide, hend.mp hzero⟩
  · rintro ⟨hfaultless, hmeans, hzero⟩
    have hdecide := (decide_iff_means hfaultless.statuses hagree).mpr hmeans
    exact ⟨_, ofLines_satisfiable_iff.mpr ⟨hfaultless, hdecide, hend.mpr hzero, rfl⟩⟩

/-- Where the status lines agree, unsatisfiability is accepted exactly from an output
    that denies a model. -/
theorem unsatisfiable_iff
    (hagree : ¬(statusLine true ∈ lines.map wordsOf ∧ statusLine false ∈ lines.map wordsOf)) :
    ofLines (lines.map some) code n = .ok .unsatisfiable ↔
      DeniesModel n (lines.map wordsOf) code := by
  rw [ofLines_unsatisfiable_iff]
  exact and_congr_right fun hfaultless => decide_iff_means hfaultless.statuses hagree

/-- The octets of a text are read as the lines of the text. -/
theorem ofBytes_encode (s : String) :
    ofBytes (encode s) code n = ofLines ((linesOf s).map some) code n := by
  rw [ofBytes, Text.textLines_eq_map_linesOf]

/-- **REPORTS ARE READ EXACTLY**.  A report in which the statuses agree is read as
    a model just if it gives one, whose true variables are the positive ones of
    the values, and as the answer that there is none just if it says so; all
    other reports are refused.  So a model is read back from all lines that
    render it. -/
theorem reports_are_read_exactly (s : String) (code : Option Int) (n : Nat) (hn : n ≤ 2 ^ 28) :
    (¬(statusLine true ∈ wordLines s ∧ statusLine false ∈ wordLines s) →
      ((∃ m, ofBytes (encode s) code n = .ok (.satisfiable m)) ↔
        GivesModel n (wordLines s) code) ∧
      (∀ m, ofBytes (encode s) code n = .ok (.satisfiable m) →
        m.size = n ∧ ∀ v : Var, m.value v = true ↔
          ∃ w ∈ values (wordLines s), readInt64 w = .ok (v.number : Int)) ∧
      (ofBytes (encode s) code n = .ok .unsatisfiable ↔ DeniesModel n (wordLines s) code) ∧
      ((∃ e, ofBytes (encode s) code n = .error e) ↔
        ¬GivesModel n (wordLines s) code ∧ ¬DeniesModel n (wordLines s) code)) ∧
    ∀ m, m.size = n → Renders m (wordLines s) → Means true (wordLines s) code →
      ofBytes (encode s) code n = .ok (.satisfiable m) := by
  rw [ofBytes_encode]
  constructor
  · intro hagree
    have hsat : (∃ m, ofLines ((linesOf s).map some) code n = .ok (.satisfiable m)) ↔ _ :=
      exists_satisfiable_iff hagree
    have hunsat : ofLines ((linesOf s).map some) code n = .ok .unsatisfiable ↔ _ :=
      unsatisfiable_iff hagree
    refine ⟨hsat, fun m hm => ?_, hunsat, ?_⟩
    · obtain ⟨hfaultless, -, -, rfl⟩ := ofLines_satisfiable_iff.mp hm
      exact ⟨Model.size_ofLiterals _ _, value_ofLiterals_iff hfaultless.values⟩
    · rw [wordLines, ← hsat, ← hunsat]
      -- the three outcomes exclude each other
      cases ofLines ((linesOf s).map some) code n with
      | error e => simp
      | ok verdict => cases verdict <;> simp
  · rintro m rfl hrenders hmeans
    -- a rendering has no status line but that of satisfiability
    have hstatuses : ∀ row ∈ wordLines s, HasStatus row := by
      rintro _ hrow answer rfl
      exact Or.inl (List.cons.inj (hrenders.statuses answer hrow)).2
    have hagree : ¬(statusLine true ∈ wordLines s ∧ statusLine false ∈ wordLines s) := fun h =>
      absurd (hrenders.statuses _ h.2) (by decide)
    obtain ⟨ls, hvalues, -, -⟩ := hrenders.literals
    refine ofLines_satisfiable_iff.mpr ⟨⟨hstatuses, hrenders.readable hn⟩,
      (decide_iff_means hstatuses hagree).mpr hmeans, ?_, hrenders.eq_ofLiterals hn⟩
    show (values (wordLines s)).any isEnd = true
    rw [hvalues, List.any_append]
    exact Bool.or_true _

/-- The values are on two lines, with another line and the status between them,
    and the tool was ended by a signal. -/
theorem reports_are_read_exactly_three :
    let s := "v -3 1\nc 7\ns\tSATISFIABLE\nv 2 0"
    let m : Model := ⟨[true, true, false]⟩
    ¬(statusLine true ∈ wordLines s ∧ statusLine false ∈ wordLines s) ∧
      GivesModel 3 (wordLines s) none ∧ Renders m (wordLines s) ∧
      ofBytes (encode s) none 3 = .ok (.satisfiable m) ∧
      ∀ v : Var, m.value v = true ↔
        ∃ w ∈ values (wordLines s), readInt64 w = .ok (v.number : Int) := by
  intro s m
  have hrows : wordLines s =
      [["v", "-3", "1"], ["c", "7"], ["s", "SATISFIABLE"], ["v", "2", "0"]] := by
    have hlines : linesOf s = ["v -3 1", "c 7", "s\tSATISFIABLE", "v 2 0"] :=
      Text.linesOf_eq rfl (by decide)
    rw [wordLines, hlines]
    decide
  have hagree : ¬(statusLine true ∈ wordLines s ∧ statusLine false ∈ wordLines s) := by
    rw [hrows]
    decide
  have hrenders : Renders m (wordLines s) := by
    rw [hrows]
    refine ⟨?_, [⟨2, false⟩, ⟨0, true⟩, ⟨1, true⟩], rfl, by decide, ?_⟩
    · intro answer hanswer
      simp only [List.mem_cons, List.cons.injEq, List.not_mem_nil, or_false] at hanswer
      rcases hanswer with ⟨h, -⟩ | ⟨h, -⟩ | ⟨-, h⟩ | ⟨h, -⟩
      · exact absurd h (by decide)
      · exact absurd h (by decide)
      · rw [h]
        rfl
      · exact absurd h (by decide)
    · intro v hv
      rcases v with _ | _ | _ | v
      · decide
      · decide
      · exact absurd hv Bool.false_ne_true
      · exact absurd hv Bool.false_ne_true
  have hmeans : Means true (wordLines s) none := by
    rw [hrows]
    exact Or.inl (by decide)
  obtain ⟨hread, hback⟩ := reports_are_read_exactly s none 3 (by decide)
  obtain ⟨hsat, hmodel, -, -⟩ := hread hagree
  have hm := hback m rfl hrenders hmeans
  exact ⟨hagree, hsat.mp ⟨m, hm⟩, hrenders, hm, (hmodel m hm).2⟩

/-! ## Contradictions. -/

/-- A status line that another one follows does not change the last status. -/
theorem lastStatus?_overruled {before after : List (List String)} {b' : Bool}
    (h : statusLine b' ∈ after) :
    lastStatus? (before ++ statusLine b :: after) = lastStatus? (before ++ after) := by
  obtain ⟨last, hlast⟩ := Option.ne_none_iff_exists'.mp (lastStatus?_ne_none h)
  rw [lastStatus?_append, lastStatus?_append, lastStatus?_cons, hlast]
  rfl

/-- A status line that contradicts the last status is followed by one that gives
    it. -/
theorem mem_after_of_lastStatus? {before after : List (List String)} {b' : Bool}
    (h : lastStatus? (before ++ statusLine b' :: after) = some b) (hne : b' ≠ b) :
    statusLine b ∈ after := by
  rw [lastStatus?_append, lastStatus?_cons, statusOf?_statusLine] at h
  cases hlast : lastStatus? after with
  | none =>
      rw [hlast] at h
      exact absurd (Option.some.inj h) hne
  | some last =>
      rw [hlast] at h
      exact mem_of_lastStatus? (hlast.trans h)

/-- An accepted verdict is that of the last status line, and of the exit code. -/
theorem overruled_of_decide (h : decide (lastStatus? rows) code = .ok b) :
    code ≠ some (exitCode !b) ∧
      ∀ before after, rows = before ++ statusLine (!b) :: after → statusLine b ∈ after := by
  rcases decide_ok_iff.mp h with ⟨hlast, hcode⟩ | ⟨hnone, hcode⟩
  · refine ⟨hcode, ?_⟩
    rintro before after rfl
    exact mem_after_of_lastStatus? hlast (by cases b <;> decide)
  · refine ⟨?_, ?_⟩
    · rw [hcode]
      cases b <;> decide
    · rintro before after rfl
      have hmem : statusLine (!b) ∈ before ++ statusLine (!b) :: after :=
        List.mem_append_right _ (List.mem_cons_self ..)
      exact absurd hnone (lastStatus?_ne_none hmem)

/-- **THE LAST STATUS DECIDES**.  An accepted verdict does not contradict the exit
    code, and every status line that contradicts it is overruled: one that gives
    the verdict follows.  A status line that another one follows can be taken out
    of a report, and the same verdict is read. -/
theorem last_status_decides (s : String) (code : Option Int) (n : Nat) :
    (∀ m, ofBytes (encode s) code n = .ok (.satisfiable m) → code ≠ some exitUnsatisfiable ∧
      ∀ before after, wordLines s = before ++ ["s", "UNSATISFIABLE"] :: after →
        ["s", "SATISFIABLE"] ∈ after) ∧
    (ofBytes (encode s) code n = .ok .unsatisfiable → code ≠ some exitSatisfiable ∧
      ∀ before after, wordLines s = before ++ ["s", "SATISFIABLE"] :: after →
        ["s", "UNSATISFIABLE"] ∈ after) ∧
    ∀ (t : String) (before after : List (List String)) (b b' : Bool),
      wordLines s = before ++ statusLine b :: after → wordLines t = before ++ after →
      statusLine b' ∈ after → ∀ verdict,
        ofBytes (encode s) code n = .ok verdict ↔ ofBytes (encode t) code n = .ok verdict := by
  refine ⟨fun m hm => ?_, fun hunsat => ?_, ?_⟩
  · rw [ofBytes_encode, ofLines_satisfiable_iff] at hm
    exact overruled_of_decide hm.2.1
  · rw [ofBytes_encode, ofLines_unsatisfiable_iff] at hunsat
    exact overruled_of_decide hunsat.2
  · intro t before after b b' hs ht hafter verdict
    rw [ofBytes_encode, ofBytes_encode]
    unfold wordLines at hs ht
    -- a status line that is overruled has no values, and is none that lacks its status
    refine ofLines_congr ?_ ?_ ?_ verdict
    · have hstatus : HasStatus (statusLine b) := by
        cases b <;> rintro answer ⟨⟩
        · exact Or.inr rfl
        · exact Or.inl rfl
      rw [hs, ht, List.forall_mem_append, List.forall_mem_append, List.forall_mem_cons,
        and_iff_right hstatus]
    · have hnone : valuesOf (statusLine b) = [] := by cases b <;> rfl
      rw [hs, ht, values, values, List.flatMap_append, List.flatMap_append, List.flatMap_cons,
        hnone, List.nil_append]
    · rw [hs, ht, lastStatus?_overruled hafter]

/-- A status line before the values is overruled by one after them, and can be
    taken out. -/
theorem last_status_decides_four :
    let s := "s UNSATISFIABLE\nv 1\ns SATISFIABLE\nv 0"
    let t := "v 1\ns SATISFIABLE\nv 0"
    let u := "s SATISFIABLE\ns UNSATISFIABLE"
    let after := [["v", "1"], ["s", "SATISFIABLE"], ["v", "0"]]
    wordLines s = statusLine false :: after ∧ wordLines t = after ∧
      ofBytes (encode s) (some 10) 1 = .ok (.satisfiable ⟨[true]⟩) ∧
      ["s", "SATISFIABLE"] ∈ after ∧
      ofBytes (encode t) (some 10) 1 = .ok (.satisfiable ⟨[true]⟩) ∧
      ofBytes (encode u) none 0 = .ok .unsatisfiable ∧
      ["s", "UNSATISFIABLE"] ∈ [["s", "UNSATISFIABLE"]] := by
  intro s t u after
  have hs : linesOf s = ["s UNSATISFIABLE", "v 1", "s SATISFIABLE", "v 0"] :=
    Text.linesOf_eq rfl (by decide)
  have ht : linesOf t = ["v 1", "s SATISFIABLE", "v 0"] := Text.linesOf_eq rfl (by decide)
  have hu : linesOf u = ["s SATISFIABLE", "s UNSATISFIABLE"] := Text.linesOf_eq rfl (by decide)
  have hrows : wordLines s = [] ++ statusLine false :: after := by
    rw [wordLines, hs]
    decide
  have hrows' : wordLines t = [] ++ after := by
    rw [wordLines, ht]
    decide
  have hread : ofBytes (encode s) (some 10) 1 = .ok (.satisfiable ⟨[true]⟩) := by
    rw [ofBytes_encode, hs]
    rfl
  have hread' : ofBytes (encode u) none 0 = .ok .unsatisfiable := by
    rw [ofBytes_encode, hu]
    rfl
  obtain ⟨hsat, -, hsame⟩ := last_status_decides s (some 10) 1
  obtain ⟨-, hunsat, -⟩ := last_status_decides u none 0
  have hmem := (hsat _ hread).2 _ _ hrows
  refine ⟨hrows, hrows', hread, hmem, ?_, hread', ?_⟩
  · exact (hsame t [] after false true hrows hrows' hmem _).mp hread
  · refine (hunsat hread').2 [] _ ?_
    rw [wordLines, hu]
    decide

/-- A status line that contradicts the verdict does not make a report refused, if
    another one follows. -/
theorem contradicted_verdicts_are_accepted :
    ¬∀ (s : String) (code : Option Int) (n : Nat),
      (∀ m, ofBytes (encode s) code n = .ok (.satisfiable m) →
        ["s", "UNSATISFIABLE"] ∉ wordLines s ∧ code ≠ some exitUnsatisfiable) ∧
      (ofBytes (encode s) code n = .ok .unsatisfiable →
        ["s", "SATISFIABLE"] ∉ wordLines s ∧ code ≠ some exitSatisfiable) := by
  intro h
  have hlines : linesOf "s SATISFIABLE\ns UNSATISFIABLE" = ["s SATISFIABLE", "s UNSATISFIABLE"] :=
    Text.linesOf_eq rfl (by decide)
  have hread : ofBytes (encode "s SATISFIABLE\ns UNSATISFIABLE") (some 20) 0 =
      .ok .unsatisfiable := by
    rw [ofBytes_encode, hlines]
    rfl
  refine ((h _ _ _).2 hread).1 ?_
  rw [wordLines, hlines]
  decide

end Verdict

end GuardedCnf
