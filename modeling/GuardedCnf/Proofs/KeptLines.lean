import GuardedCnf.Tool
import GuardedCnf.Proofs.CounterReports
import GuardedCnf.Proofs.SolverReports
/-! # Kept lines — what is lost while a tool runs

    While a tool runs, its lines are kept or dropped by how they begin, but they
    are read by their words.  A line of a report that begins with a blank, or has
    another blank than a space after its first word, has a meaning and is dropped
    all the same.  If no line with a meaning is dropped, the answer is the one in
    the whole output.

    That is a fact about each kind of report: lines without a meaning can be left
    out.  Which lines of a counter have a meaning depends on the lines before
    them, so there it takes an induction, with what is announced as the
    invariant. -/

namespace GuardedCnf

open Text (encode wordsOf linesOf wordLines)

/-! ## Solvers. -/

namespace Verdict

variable {n : Nat} {code : Option Int} {row : List String} {lines lines' : List String}

/-- Whether a line has a meaning: it is a status line, or lists values. -/
def speaks : List String → Bool
  | "s" :: _ => true
  | "v" :: _ :: _ => true
  | _ => false

/-- A line that says nothing has no status. -/
theorem head?_ne_of_silent (h : ¬speaks row = true) : row.head? ≠ some "s" := by
  intro hs
  obtain ⟨answer, rfl⟩ := List.head?_eq_some_iff.mp hs
  exact h rfl

/-- A line that says nothing has no values. -/
theorem valuesOf_of_silent (h : ¬speaks row = true) : valuesOf row = [] := by
  unfold valuesOf
  split
  · next words =>
      cases words with
      | nil => rfl
      | cons w ws => exact absurd rfl h
  · rfl

/-- Leaving out what says nothing leaves the values. -/
theorem values_filter (rows : List (List String)) : values (rows.filter speaks) = values rows := by
  induction rows with
  | nil => rfl
  | cons row rows ih =>
      unfold values at ih ⊢
      by_cases h : speaks row = true
      · rw [List.filter_cons_of_pos h, List.flatMap_cons, List.flatMap_cons, ih]
      · rw [List.filter_cons_of_neg h, List.flatMap_cons, ih, valuesOf_of_silent h,
          List.nil_append]

/-- Leaving out what says nothing leaves the last status. -/
theorem lastStatus?_filter (rows : List (List String)) :
    lastStatus? (rows.filter speaks) = lastStatus? rows := by
  induction rows with
  | nil => rfl
  | cons row rows ih =>
      by_cases h : speaks row = true
      · rw [List.filter_cons_of_pos h, lastStatus?_cons, lastStatus?_cons, ih]
      · rw [List.filter_cons_of_neg h, lastStatus?_cons, ih,
          statusOf?_of_ne (head?_ne_of_silent h), Option.or_none]

/-- Leaving out what says nothing leaves the lines that have to tell a status. -/
theorem hasStatus_filter (rows : List (List String)) :
    (∀ row ∈ rows.filter speaks, HasStatus row) ↔ ∀ row ∈ rows, HasStatus row := by
  constructor
  · intro h row hrow
    by_cases hspeaks : speaks row = true
    · exact h row (List.mem_filter.mpr ⟨hrow, hspeaks⟩)
    · exact hasStatus_of_ne (head?_ne_of_silent hspeaks)
  · exact fun h row hrow => h row (List.mem_of_mem_filter hrow)

/-- **THE VERDICT IS IN THE LINES WITH A MEANING**. -/
theorem ofLines_eq_of_filter
    (h : (lines.map wordsOf).filter speaks = (lines'.map wordsOf).filter speaks)
    (verdict : Verdict) :
    ofLines (lines.map some) code n = .ok verdict ↔
      ofLines (lines'.map some) code n = .ok verdict := by
  refine ofLines_congr ?_ ?_ ?_ verdict
  · rw [← hasStatus_filter, h, hasStatus_filter]
  · rw [← values_filter, h, values_filter]
  · rw [← lastStatus?_filter, h, lastStatus?_filter]

end Verdict

/-! ## Counters. -/

namespace Count

variable {announced : Bool} {row : List String} {lines : List String} {keep : String → Bool}

/-- The lines that give a count word. -/
def countLines : Bool → List String → List String
  | _, [] => []
  | announced, line :: lines =>
      let rest := countLines (announcedAfter announced (wordsOf line)) lines
      if (countOf? announced (wordsOf line)).isSome then line :: rest else rest

/-- A line that gives no count word does not end an announcement. -/
theorem announcedAfter_of_none (h : countOf? announced row = none)
    (hrow : row ≠ ["#", "solutions"]) : announcedAfter announced row = announced := by
  unfold announcedAfter
  split
  · exact absurd rfl hrow
  · next w =>
      cases announced with
      | true =>
          have hsome : countOf? true [w] = some w := by simp [countOf?]
          rw [hsome] at h
          exact absurd h (Option.some_ne_none w)
      | false => rfl
  · rfl

/-- Lines that give no count word can be left out, if they are no announcements. -/
theorem givenCounts_filter (h : ∀ line ∈ countLines announced lines, keep line = true)
    (hdrop : ∀ line ∈ lines, ¬keep line = true → wordsOf line ≠ ["#", "solutions"]) :
    givenCounts announced ((lines.filter keep).map wordsOf) =
      givenCounts announced (lines.map wordsOf) := by
  induction lines generalizing announced with
  | nil => rfl
  | cons line lines ih =>
      obtain ⟨hline, hlines⟩ := List.forall_mem_cons.mp hdrop
      rw [countLines] at h
      by_cases hkeep : keep line = true
      · have hrest : ∀ l ∈ countLines (announcedAfter announced (wordsOf line)) lines,
            keep l = true := by
          intro l hl
          refine h l ?_
          split
          · exact List.mem_cons_of_mem _ hl
          · exact hl
        rw [List.filter_cons_of_pos hkeep, List.map_cons, List.map_cons, givenCounts, givenCounts,
          ih hrest hlines]
      · have hcount : countOf? announced (wordsOf line) = none := by
          by_contra hsome
          rw [if_pos (Option.isSome_iff_ne_none.mpr hsome)] at h
          exact hkeep (h line (List.mem_cons_self ..))
        -- so the lines after it are read as if it was not there
        have hafter := announcedAfter_of_none hcount (hline hkeep)
        rw [hcount, hafter] at h
        rw [List.filter_cons_of_neg hkeep, List.map_cons, givenCounts, hcount, hafter, ih h hlines]
        rfl

/-- Lines without words give no count words. -/
theorem givenCounts_append_blank (announced : Bool) (rows : List (List String)) (k : Nat) :
    givenCounts announced (rows ++ List.replicate k []) = givenCounts announced rows := by
  induction rows generalizing announced with
  | nil =>
      induction k with
      | zero => rfl
      | succ k ih => exact ih
  | cons row rows ih => rw [List.cons_append, givenCounts, givenCounts, ih]

end Count

/-! ## Tools. -/

namespace Tool

variable {keep : String → Bool} {s line : String} {lines : List String}

/-- The lines of an encoded text are decoded, and those that pass the test are kept. -/
theorem keptLines_encode (keep : String → Bool) (s : String) :
    keptLines keep (encode s) = some ((linesOf s).filter keep) := by
  have hall : ((linesOf s).map some).mapM id = some (linesOf s) := by
    rw [List.mapM_map (m := Option)]
    exact List.mapM_pure.trans (congrArg some (List.map_id _))
  rw [keptLines, Text.textLines_eq_map_linesOf, hall, Option.map_some]

/-- Joining lines and parting them again makes the lines of the joined text. -/
theorem rejoin_eq (lines : List String) :
    rejoin lines = (linesOf ("\n".intercalate lines)).map some :=
  Text.textLines_eq_map_linesOf _

/-- A line of a counter that is dropped has a first word that begins with c. -/
theorem words_ne_of_dropped (h : ¬keepForCount line = true) {w : String} {ws : List String}
    (hw : w.toList.head? ≠ some 'c') : wordsOf line ≠ w :: ws := by
  intro hwords
  have hstart : line.startsWith "c" = true := by
    by_contra hnot
    rw [keepForCount, Bool.eq_false_iff.mpr hnot] at h
    exact h rfl
  obtain ⟨cs, hcs⟩ := String.startsWith_string_iff.mp hstart
  obtain ⟨w', ws', hfirst⟩ := Text.words_cons_of_not_blank (c := 'c') (by decide) cs
  rw [wordsOf, ← hcs] at hwords
  obtain ⟨rfl, -⟩ := List.cons.inj ((congrArg (List.map String.ofList) hfirst).symm.trans hwords)
  rw [String.toList_ofList] at hw
  exact hw rfl

/-- Lines that are kept, joined and cut again have their words. -/
theorem exists_wordLines_kept (keep : String → Bool) (s : String) :
    ∃ k, wordLines ("\n".intercalate ((linesOf s).filter keep)) ++ List.replicate k [] =
      ((linesOf s).filter keep).map wordsOf :=
  Text.exists_wordLines_intercalate fun _ ht =>
    Text.feed_not_mem_of_mem_linesOf (List.mem_of_mem_filter ht)

/-- The words that are left after keeping lines are those of the kept lines. -/
theorem mem_wordLines_kept {row : List String} (h : row ≠ []) :
    row ∈ wordLines ("\n".intercalate ((linesOf s).filter keep)) ↔
      ∃ line ∈ linesOf s, keep line = true ∧ wordsOf line = row := by
  obtain ⟨k, hk⟩ := exists_wordLines_kept keep s
  have hblank : row ∉ List.replicate k [] := fun hmem => h (List.eq_of_mem_replicate hmem)
  have happend : row ∈ wordLines ("\n".intercalate ((linesOf s).filter keep)) ↔
      row ∈ ((linesOf s).filter keep).map wordsOf := by
    rw [← hk, List.mem_append, or_iff_left hblank]
  rw [happend, List.mem_map]
  simp only [List.mem_filter, and_assoc]

/-- The verdict on the lines that are kept is the one on all lines, if those with
    a meaning are kept. -/
theorem verdict_kept {code : Option Int} {n : Nat}
    (h : ∀ line ∈ linesOf s, Verdict.speaks (wordsOf line) = true → keepForVerdict line = true)
    (verdict : Verdict) :
    Verdict.ofLines (rejoin ((linesOf s).filter keepForVerdict)) code n = .ok verdict ↔
      Verdict.ofBytes (encode s) code n = .ok verdict := by
  rw [rejoin_eq, Verdict.ofBytes_encode]
  refine Verdict.ofLines_eq_of_filter ?_ verdict
  obtain ⟨k, hk⟩ := exists_wordLines_kept keepForVerdict s
  have hblank : (List.replicate k []).filter Verdict.speaks = [] :=
    List.filter_replicate_of_neg (by decide)
  -- the lines that are both kept and have a meaning are those with a meaning
  have hkept : ∀ line ∈ linesOf s, (Verdict.speaks (wordsOf line) && keepForVerdict line) =
      Verdict.speaks (wordsOf line) := by
    intro line hline
    cases hspeaks : Verdict.speaks (wordsOf line) with
    | false => rfl
    | true => exact h line hline hspeaks
  calc (wordLines ("\n".intercalate ((linesOf s).filter keepForVerdict))).filter Verdict.speaks
      = (((linesOf s).filter keepForVerdict).map wordsOf).filter Verdict.speaks := by
        rw [← hk, List.filter_append, hblank, List.append_nil]
    _ = ((linesOf s).map wordsOf).filter Verdict.speaks := by
        rw [List.filter_map, List.filter_map, List.filter_filter]
        exact congrArg _ (List.filter_congr hkept)

/-- The count in the lines that are kept is the one in all lines, if those that
    give a count word are kept. -/
theorem count_kept {c : Nat}
    (h : ∀ line ∈ Count.countLines false (linesOf s), keepForCount line = true) :
    Count.ofLines (rejoin ((linesOf s).filter keepForCount)) = .ok c ↔
      Count.ofBytes (encode s) = .ok c := by
  rw [rejoin_eq, Count.ofBytes_encode, Count.ofLines_ok_iff, Count.ofLines_ok_iff]
  obtain ⟨k, hk⟩ := exists_wordLines_kept keepForCount s
  have hwords : Count.givenCounts false (wordLines ("\n".intercalate
      ((linesOf s).filter keepForCount))) = Count.givenCounts false ((linesOf s).map wordsOf) := by
    rw [← Count.givenCounts_append_blank false _ k, hk]
    exact Count.givenCounts_filter h fun _ _ hdrop => words_ne_of_dropped hdrop (by decide)
  have hstatus : Count.unsatisfiableLine ∈ wordLines ("\n".intercalate
      ((linesOf s).filter keepForCount)) ↔ Count.unsatisfiableLine ∈ (linesOf s).map wordsOf := by
    rw [mem_wordLines_kept (by decide), List.mem_map]
    refine exists_congr fun line => and_congr_right fun _ => and_iff_right_of_imp fun hline => ?_
    by_contra hdrop
    exact words_ne_of_dropped hdrop (by decide) hline
  refine Count.givesCount_congr ?_ hstatus
  rw [← hwords]
  rfl

/-- **KEPT LINES DECIDE**.  The lines of output that are kept have the answer of
    the whole output, if no line that has a meaning is dropped: of a solver, no
    status line and no line that lists values; of a counter, no line that gives a
    count word. -/
theorem kept_lines_decide (s : String) :
    (∃ lines, keptLines keepForVerdict (encode s) = some lines ∧
      ((∀ line ∈ linesOf s, Verdict.speaks (wordsOf line) = true → keepForVerdict line = true) →
        ∀ code n verdict, Verdict.ofLines (rejoin lines) code n = .ok verdict ↔
          Verdict.ofBytes (encode s) code n = .ok verdict)) ∧
    ∃ lines, keptLines keepForCount (encode s) = some lines ∧
      ((∀ line ∈ Count.countLines false (linesOf s), keepForCount line = true) →
        ∀ c, Count.ofLines (rejoin lines) = .ok c ↔ Count.ofBytes (encode s) = .ok c) := by
  refine ⟨⟨_, keptLines_encode _ s, fun h code n verdict => verdict_kept h verdict⟩, ?_⟩
  exact ⟨_, keptLines_encode _ s, fun h c => count_kept h⟩

/-- Remarks are dropped, and so is a line of values that lists none. -/
theorem kept_lines_decide_two :
    let s := "c 0.1 s\n v\ns SATISFIABLE\nv 1 0"
    let t := "# solutions\nc o 7\n 6\nc\nc s exact arb int 6"
    (∀ line ∈ linesOf s, Verdict.speaks (wordsOf line) = true → keepForVerdict line = true) ∧
      (∃ lines, keptLines keepForVerdict (encode s) = some lines ∧
        Verdict.ofLines (rejoin lines) (some 10) 1 = .ok (.satisfiable ⟨[true]⟩)) ∧
      (∀ line ∈ Count.countLines false (linesOf t), keepForCount line = true) ∧
      ∃ lines, keptLines keepForCount (encode t) = some lines ∧
        Count.ofLines (rejoin lines) = .ok 6 := by
  intro s t
  have hs : linesOf s = ["c 0.1 s", " v", "s SATISFIABLE", "v 1 0"] :=
    Text.linesOf_eq rfl (by decide)
  have ht : linesOf t = ["# solutions", "c o 7", " 6", "c", "c s exact arb int 6"] :=
    Text.linesOf_eq rfl (by decide)
  have hkept : ∀ line ∈ linesOf s,
      Verdict.speaks (wordsOf line) = true → keepForVerdict line = true := by
    rw [hs]
    decide +kernel
  have hkept' : ∀ line ∈ Count.countLines false (linesOf t), keepForCount line = true := by
    rw [ht]
    decide +kernel
  have hread : Verdict.ofBytes (encode s) (some 10) 1 = .ok (.satisfiable ⟨[true]⟩) := by
    rw [Verdict.ofBytes_encode, hs]
    rfl
  have hread' : Count.ofBytes (encode t) = .ok 6 := by
    rw [Count.ofBytes_encode, ht]
    rfl
  obtain ⟨⟨lines, hlines, hsame⟩, -⟩ := kept_lines_decide s
  obtain ⟨-, lines', hlines', hsame'⟩ := kept_lines_decide t
  exact ⟨hkept, ⟨lines, hlines, (hsame hkept _ _ _).mpr hread⟩, hkept',
    lines', hlines', (hsame' hkept' _).mpr hread'⟩

/-- A blank before a status, and another blank than a space after a first word c,
    change what is read. -/
theorem dropped_lines_matter :
    (¬∀ (s : String) (code : Option Int) (n : Nat),
      ∃ lines, keptLines keepForVerdict (encode s) = some lines ∧
        ∀ verdict, Verdict.ofLines (rejoin lines) code n = .ok verdict ↔
          Verdict.ofBytes (encode s) code n = .ok verdict) ∧
    ¬∀ s : String, ∃ lines, keptLines keepForCount (encode s) = some lines ∧
      ∀ c, Count.ofLines (rejoin lines) = .ok c ↔ Count.ofBytes (encode s) = .ok c := by
  have hnothing : rejoin [] = [] := Text.textLines_empty
  constructor
  · intro h
    have hlines : linesOf " s UNSATISFIABLE" = [" s UNSATISFIABLE"] :=
      Text.linesOf_eq rfl (by decide)
    have hdropped : [" s UNSATISFIABLE"].filter keepForVerdict = [] := by decide +kernel
    obtain ⟨lines, hkept, hsame⟩ := h " s UNSATISFIABLE" (some 0) 1
    rw [keptLines_encode, hlines, hdropped] at hkept
    rw [← Option.some.inj hkept, hnothing, Verdict.ofBytes_encode, hlines] at hsame
    exact nomatch (hsame .unsatisfiable).mpr rfl
  · intro h
    have hlines : linesOf "c\ts exact arb int 5" = ["c\ts exact arb int 5"] :=
      Text.linesOf_eq rfl (by decide)
    have hdropped : ["c\ts exact arb int 5"].filter keepForCount = [] := by decide +kernel
    obtain ⟨lines, hkept, hsame⟩ := h "c\ts exact arb int 5"
    rw [keptLines_encode, hlines, hdropped] at hkept
    rw [← Option.some.inj hkept, hnothing, Count.ofBytes_encode, hlines] at hsame
    exact nomatch (hsame 5).mpr rfl

end Tool

end GuardedCnf
