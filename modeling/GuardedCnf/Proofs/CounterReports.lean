import GuardedCnf.Report.Count
import GuardedCnf.Proofs.Outcomes
import GuardedCnf.Proofs.WordLines
import Mathlib.Data.List.Perm.Basic
/-! # Counter reports — which counts are accepted

    The lines of a report give count words: some lines by their own form, and a
    word alone on a line if a count was announced before it and no other word
    took it.  Reading a report is a run over the lines that keeps what the count
    words so far agree on, and it goes on exactly as long as they agree.  So a
    count is accepted when all count words are read as it, and a report without
    count words when the formula is called unsatisfiable.

    Without announcements the count words of a line do not depend on the lines
    before it, and neither does the count on the order of lines. -/

namespace GuardedCnf

namespace Count

open Text (encode readNatural wordsOf linesOf wordLines)

variable {i : Nat} {announced : Bool} {w line : String} {ws ws' : List String} {row : List String}
  {rows rows' : List (List String)} {lines : List String} {p q : Progress} {c : Nat}
  {count count' : Option Nat}

/-! ## Count words. -/

/-- The count word of a line.  A word alone on a line is one if a count was
    announced. -/
def countOf? (announced : Bool) : List String → Option String
  | ["s", "mc", n] => some n
  | ["s", n] => if n = "SATISFIABLE" ∨ n = "UNSATISFIABLE" then none else some n
  | ["c", "s", "exact", _, "int", n] => some n
  | [n] => if announced then some n else none
  | _ => none

/-- Whether a count is announced after a line: it is after an announcement, until
    a word stands alone on a line. -/
def announcedAfter (announced : Bool) : List String → Bool
  | ["#", "solutions"] => true
  | [_] => false
  | _ => announced

/-- The count words of lines, in order. -/
def givenCounts : Bool → List (List String) → List String
  | _, [] => []
  | announced, row :: rows =>
      (countOf? announced row).toList ++ givenCounts (announcedAfter announced row) rows

/-- The words of the line that calls a formula unsatisfiable. -/
abbrev unsatisfiableLine : List String := ["s", "UNSATISFIABLE"]

/-- **ONE LINE** gives a count or not, says that the formula is unsatisfiable or
    not, and announces or takes a count. -/
theorem readLine_eq (i : Nat) (p : Progress) (line : String) :
    readLine i p line =
      match countOf? p.announced (wordsOf line) with
      | some w => take i { p with announced := announcedAfter p.announced (wordsOf line) } w
      | none => .ok ⟨p.count, p.unsatisfiable || wordsOf line == unsatisfiableLine,
          announcedAfter p.announced (wordsOf line)⟩ := by
  unfold readLine
  generalize wordsOf line = row
  fun_cases Line.ofWords row with
  | case1 => simp [countOf?, announcedAfter]
  | case2 => simp [countOf?, announcedAfter]
  | case3 => simp [countOf?, announcedAfter]
  | case4 n => simp [countOf?, announcedAfter]
  | case5 n hunsat hsat =>
      have hstatus : ¬(n = "SATISFIABLE" ∨ n = "UNSATISFIABLE") := not_or.mpr ⟨hsat, hunsat⟩
      simp [countOf?, announcedAfter, if_neg hstatus]
  | case6 kind n => simp [countOf?, announcedAfter]
  | case7 n =>
      obtain ⟨count, unsatisfiable, announced⟩ := p
      cases announced <;> simp [countOf?, announcedAfter]
  | case8 row hunsat hsat hannouncement hmodels hplain hexact halone =>
      -- a line of no form changes nothing
      have hcount : countOf? p.announced row = none := by
        unfold countOf?
        split
        · exact absurd rfl (hmodels _)
        · exact absurd rfl (hplain _)
        · exact absurd rfl (hexact _ _)
        · exact absurd rfl (halone _)
        · rfl
      have hafter : announcedAfter p.announced row = p.announced := by
        unfold announcedAfter
        split
        · exact absurd rfl hannouncement
        · exact absurd rfl (halone _)
        · rfl
      simp [hcount, hafter, beq_eq_false_iff_ne.mpr hunsat]

/-! ## Agreement. -/

/-- Words that are all read as one count, and no count where there are no
    words. -/
def Agreed (ws : List String) : Option Nat → Prop
  | none => ws = []
  | some c => ws ≠ [] ∧ ∀ w ∈ ws, readNatural w = .ok c

/-- Words agree on one count at most. -/
theorem Agreed.unique (h : Agreed ws count) (h' : Agreed ws count') : count = count' := by
  cases count with
  | none =>
      cases count' with
      | none => rfl
      | some c' => exact absurd h h'.1
  | some c =>
      cases count' with
      | none => exact absurd h' h.1
      | some c' =>
          obtain ⟨w, hw⟩ := List.exists_mem_of_ne_nil ws h.1
          exact congrArg some (Except.ok.inj ((h.2 w hw).symm.trans (h'.2 w hw)))

/-- Words that agree with others agree among themselves. -/
theorem Agreed.left (h : Agreed (ws ++ ws') count) : Agreed ws none ∨ Agreed ws count := by
  by_cases hws : ws = []
  · exact Or.inl hws
  · cases count with
    | none => exact absurd (List.append_eq_nil_iff.mp h).1 hws
    | some c => exact Or.inr ⟨hws, fun w hw => h.2 w (List.mem_append_left _ hw)⟩

/-- A single word agrees on the count that it spells. -/
theorem agreed_singleton_iff : Agreed [w] count ↔ ∃ c, readNatural w = .ok c ∧ count = some c := by
  constructor
  · intro h
    cases count with
    | none => exact absurd h (List.cons_ne_nil _ _)
    | some c => exact ⟨c, h.2 w (List.mem_singleton_self w), rfl⟩
  · rintro ⟨c, hc, rfl⟩
    exact ⟨List.cons_ne_nil _ _, List.forall_mem_singleton.mpr hc⟩

/-- A further word agrees with a count if it is read as it. -/
theorem agreed_concat_iff (h : Agreed ws (some c)) :
    Agreed (ws ++ [w]) count ↔ readNatural w = .ok c ∧ count = some c := by
  constructor
  · intro hconcat
    have hcount : count = some c := by
      rcases hconcat.left with hnothing | hsome
      · exact absurd hnothing h.1
      · exact hsome.unique h
    rw [hcount] at hconcat
    exact ⟨hconcat.2 w (List.mem_append_right _ (List.mem_singleton_self w)), hcount⟩
  · rintro ⟨hw, rfl⟩
    refine ⟨List.append_ne_nil_of_left_ne_nil h.1 _, ?_⟩
    exact List.forall_mem_append.mpr ⟨h.2, List.forall_mem_singleton.mpr hw⟩

/-- **A COUNT WORD** is taken exactly when it agrees with those before it. -/
theorem take_ok_iff (h : Agreed ws p.count) :
    take i p w = .ok q ↔ Agreed (ws ++ [w]) q.count ∧ q = { p with count := q.count } := by
  obtain ⟨count, unsatisfiable, announced⟩ := p
  obtain ⟨count', unsatisfiable', announced'⟩ := q
  unfold take
  cases count with
  | none =>
      -- the first word decides what the others have to be
      have hws : ws = [] := h
      rw [hws, List.nil_append, agreed_singleton_iff]
      cases readNatural w with
      | error e => simp
      | ok c => simp [eq_comm]
  | some m =>
      rw [agreed_concat_iff h]
      cases readNatural w with
      | error e => simp
      | ok c =>
          by_cases hc : m = c
          · simp [hc, eq_comm]
          · simp [hc, Ne.symm hc]

/-! ## Lines. -/

/-- A line with a count is not the one that denies models. -/
theorem ne_unsatisfiableLine (h : countOf? announced row = some w) : row ≠ unsatisfiableLine := by
  rintro rfl
  exact nomatch h

/-- **ONE LINE** is read exactly when its count word, if it has one, agrees with
    those before it. -/
theorem readLine_ok_iff (h : Agreed ws p.count) :
    readLine i p line = .ok q ↔
      Agreed (ws ++ (countOf? p.announced (wordsOf line)).toList) q.count ∧
        q.unsatisfiable = (p.unsatisfiable || wordsOf line == unsatisfiableLine) ∧
        q.announced = announcedAfter p.announced (wordsOf line) := by
  obtain ⟨count, unsatisfiable, announced⟩ := p
  obtain ⟨count', unsatisfiable', announced'⟩ := q
  rw [readLine_eq]
  dsimp only
  cases hcount : countOf? announced (wordsOf line) with
  | none =>
      -- a line without a count must leave the count
      have hsame : Agreed ws count' ↔ count' = count :=
        ⟨fun h' => h'.unique h, fun heq => heq ▸ h⟩
      rw [Option.toList_none, List.append_nil, hsame, Except.ok.injEq, Progress.mk.injEq]
      simp only [eq_comm]
  | some w =>
      -- a line with a count is not the one that denies models
      have hstatus := beq_eq_false_iff_ne.mpr (ne_unsatisfiableLine hcount)
      have htake := take_ok_iff (i := i) (w := w)
        (p := ⟨count, unsatisfiable, announcedAfter announced (wordsOf line)⟩)
        (q := ⟨count', unsatisfiable', announced'⟩) h
      rw [htake, hstatus, Bool.or_false, Option.toList_some, Progress.mk.injEq]
      simp only [true_and]

/-- **THE LINES OF A REPORT** are read exactly when their count words agree. -/
theorem readLines_ok_iff (h : Agreed ws p.count) :
    readLines i p (lines.map some) = .ok q ↔
      Agreed (ws ++ givenCounts p.announced (lines.map wordsOf)) q.count ∧
        q.unsatisfiable = (p.unsatisfiable || (lines.map wordsOf).any (· == unsatisfiableLine)) ∧
        q.announced = (lines.map wordsOf).foldl announcedAfter p.announced := by
  induction lines generalizing i p ws with
  | nil =>
      obtain ⟨count, unsatisfiable, announced⟩ := p
      obtain ⟨count', unsatisfiable', announced'⟩ := q
      have hsame : Agreed ws count' ↔ count' = count :=
        ⟨fun h' => h'.unique h, fun heq => heq ▸ h⟩
      rw [List.map_nil, List.map_nil, readLines, givenCounts, List.append_nil, List.any_nil,
        Bool.or_false, List.foldl_nil, hsame, Except.ok.injEq, Progress.mk.injEq]
      simp only [eq_comm]
  | cons line lines ih =>
      have happend : ws ++ givenCounts p.announced (wordsOf line :: lines.map wordsOf) =
          ws ++ (countOf? p.announced (wordsOf line)).toList ++
            givenCounts (announcedAfter p.announced (wordsOf line)) (lines.map wordsOf) := by
        rw [givenCounts, List.append_assoc]
      rw [List.map_cons, List.map_cons, readLines, except_bind_ok, happend, List.any_cons,
        List.foldl_cons, ← Bool.or_assoc]
      constructor
      · rintro ⟨p', hline, hlines⟩
        obtain ⟨hcount, hunsatisfiable, hannounced⟩ := (readLine_ok_iff h).mp hline
        rw [← hunsatisfiable, ← hannounced]
        exact (ih hcount).mp hlines
      · rintro ⟨hcount, hunsatisfiable, hannounced⟩
        -- words that agree in the end agree up to here, if there are any so far
        obtain ⟨count', hcount'⟩ : ∃ count',
            Agreed (ws ++ (countOf? p.announced (wordsOf line)).toList) count' := by
          rcases hcount.left with hnothing | hsome
          · exact ⟨none, hnothing⟩
          · exact ⟨q.count, hsome⟩
        let p' : Progress := ⟨count', p.unsatisfiable || wordsOf line == unsatisfiableLine,
          announcedAfter p.announced (wordsOf line)⟩
        refine ⟨p', (readLine_ok_iff h).mpr ⟨hcount', rfl, rfl⟩, ?_⟩
        exact (ih (p := p') hcount').mpr ⟨hcount, hunsatisfiable, hannounced⟩

/-- An announced count is the first word that stands alone on a line. -/
example : givenCounts false [["#", "solutions"], ["c", "3"], ["7"], ["9"]] = ["7"] := by decide

/-! ## Counts. -/

/-- The lines of a report that gives a count: all count words are read as it, or
    there are none and the formula is called unsatisfiable. -/
@[mk_iff]
structure GivesCount (rows : List (List String)) (c : Nat) : Prop where
  numbers : ∀ w ∈ givenCounts false rows, ∃ k, readNatural w = .ok k
  agrees : givenCounts false rows ≠ [] ∧ (∀ w ∈ givenCounts false rows, readNatural w = .ok c) ∧
      (unsatisfiableLine ∈ rows → c = 0) ∨
    givenCounts false rows = [] ∧ unsatisfiableLine ∈ rows ∧ c = 0

/-- Models are denied if one of the lines is the one that does so. -/
theorem any_unsatisfiableLine :
    rows.any (· == unsatisfiableLine) = true ↔ unsatisfiableLine ∈ rows := by
  rw [List.any_beq', List.contains_iff_mem]

/-- What is read from lines decides the count: it is the count so far, and 0 if
    the formula was called unsatisfiable. -/
theorem ofLines_eq_ok_iff {lines : List (Option String)} :
    ofLines lines = .ok c ↔ ∃ q, readLines 1 ⟨none, false, false⟩ lines = .ok q ∧
      (q.count = some c ∧ (q.unsatisfiable = true → c = 0) ∨
        q.count = none ∧ q.unsatisfiable = true ∧ c = 0) := by
  unfold ofLines
  rw [except_bind_ok]
  refine exists_congr fun ⟨count, unsatisfiable, announced⟩ => and_congr_right fun _ => ?_
  cases count with
  | none => cases unsatisfiable <;> simp [pure, Except.pure, eq_comm]
  | some n =>
      cases unsatisfiable with
      | false => simp [pure, Except.pure]
      | true =>
          by_cases hzero : n = 0
          · simp [hzero, pure, Except.pure, eq_comm]
          · have hcontradiction : ¬(n = c ∧ c = 0) := fun ⟨hn, hc⟩ => hzero (hn.trans hc)
            simp [hzero, hcontradiction, throw, throwThe, MonadExceptOf.throw]

/-- **A COUNT IS READ** from a report exactly when the report gives it. -/
theorem ofLines_ok_iff :
    ofLines (lines.map some) = .ok c ↔ GivesCount (lines.map wordsOf) c := by
  have hread (q : Progress) : readLines 1 ⟨none, false, false⟩ (lines.map some) = .ok q ↔ _ :=
    readLines_ok_iff (rfl : Agreed [] none)
  simp only [List.nil_append, Bool.false_or] at hread
  rw [ofLines_eq_ok_iff]
  constructor
  · rintro ⟨⟨count, unsatisfiable, announced⟩, hq, h⟩
    obtain ⟨hagreed, hunsatisfiable, -⟩ := (hread _).mp hq
    dsimp only at hagreed hunsatisfiable h
    rw [hunsatisfiable, any_unsatisfiableLine] at h
    rcases h with ⟨rfl, hzero⟩ | ⟨rfl, hmem, rfl⟩
    · exact ⟨fun w hw => ⟨c, hagreed.2 w hw⟩, Or.inl ⟨hagreed.1, hagreed.2, hzero⟩⟩
    · -- models are denied only where no count is given
      have hwords : givenCounts false (lines.map wordsOf) = [] := hagreed
      refine ⟨?_, Or.inr ⟨hwords, hmem, rfl⟩⟩
      rw [hwords]
      exact List.forall_mem_nil _
  · rintro ⟨-, ⟨hsome, hnumbers, hzero⟩ | ⟨hwords, hmem, rfl⟩⟩
    · refine ⟨⟨some c, _, _⟩, (hread _).mpr ⟨⟨hsome, hnumbers⟩, rfl, rfl⟩, Or.inl ⟨rfl, ?_⟩⟩
      exact fun h => hzero (any_unsatisfiableLine.mp h)
    · refine ⟨⟨none, _, _⟩, (hread _).mpr ⟨hwords, rfl, rfl⟩, Or.inr ⟨rfl, ?_, rfl⟩⟩
      exact any_unsatisfiableLine.mpr hmem

/-- The bytes of a text are read as the lines of the text. -/
theorem ofBytes_encode (s : String) : ofBytes (encode s) = ofLines ((linesOf s).map some) := by
  rw [ofBytes, Text.textLines_eq_map_linesOf]

/-- The count in a report is a function of its count words, in any order, and of
    whether the formula is called unsatisfiable. -/
theorem givesCount_congr (hwords : (givenCounts false rows').Perm (givenCounts false rows))
    (hstatus : unsatisfiableLine ∈ rows' ↔ unsatisfiableLine ∈ rows) :
    GivesCount rows' c ↔ GivesCount rows c := by
  have hforall : ∀ P : String → Prop,
      (∀ w ∈ givenCounts false rows', P w) ↔ ∀ w ∈ givenCounts false rows, P w :=
    fun P => forall_congr' fun w => imp_congr_left hwords.mem_iff
  have hnil : givenCounts false rows' = [] ↔ givenCounts false rows = [] := by
    rw [← List.length_eq_zero_iff, hwords.length_eq, List.length_eq_zero_iff]
  rw [givesCount_iff, givesCount_iff, hforall, hforall, Ne, Ne, hnil, hstatus]

/-! ## Order. -/

/-- Without a header the counts are those of the lines, one by one. -/
theorem givenCounts_eq_flatMap (h : ∀ row ∈ rows, row ≠ ["#", "solutions"]) :
    givenCounts false rows = rows.flatMap fun row => (countOf? false row).toList := by
  induction rows with
  | nil => rfl
  | cons row rows ih =>
      obtain ⟨hrow, hrows⟩ := List.forall_mem_cons.mp h
      have hafter : announcedAfter false row = false := by
        unfold announcedAfter
        split
        · exact absurd rfl hrow
        · rfl
        · rfl
      rw [givenCounts, hafter, ih hrows, List.flatMap_cons]

/-- Without announcements the lines of a report may be in any order. -/
theorem givesCount_perm (h : ∀ row ∈ rows, row ≠ ["#", "solutions"]) (hperm : rows'.Perm rows) :
    GivesCount rows' c ↔ GivesCount rows c := by
  refine givesCount_congr ?_ hperm.mem_iff
  rw [givenCounts_eq_flatMap h, givenCounts_eq_flatMap fun row hrow => h row (hperm.subset hrow)]
  exact hperm.flatMap_right _

/-- **COUNTS ARE READ EXACTLY**.  A count is read from the reports that give it,
    and from no others; all others are refused.  In a report without
    announcements the lines may be in any order. -/
theorem counts_are_read_exactly (s : String) :
    (∀ c, ofBytes (encode s) = .ok c ↔ GivesCount (wordLines s) c) ∧
    ((∃ e, ofBytes (encode s) = .error e) ↔ ∀ c, ¬GivesCount (wordLines s) c) ∧
    ∀ t, (∀ row ∈ wordLines s, row ≠ ["#", "solutions"]) → (linesOf t).Perm (linesOf s) →
      ∀ c, ofBytes (encode t) = .ok c ↔ ofBytes (encode s) = .ok c := by
  have hread : ∀ s c, ofBytes (encode s) = .ok c ↔ GivesCount (wordLines s) c := by
    intro s c
    rw [ofBytes_encode]
    exact ofLines_ok_iff
  refine ⟨hread s, ?_, ?_⟩
  · simp only [← hread]
    cases ofBytes (encode s) with
    | error e => simp
    | ok c => simp
  · intro t hs hperm c
    rw [hread, hread]
    exact givesCount_perm hs (hperm.map wordsOf)

/-- Three forms of a count, in two orders. -/
theorem counts_are_read_exactly_five :
    let s := "s mc 5\nc s log10-estimate 0.69\ns 05\nc s exact arb int +5\n7 of 9\n7"
    let t := "7\ns 05\ns mc 5\n7 of 9\nc s log10-estimate 0.69\nc s exact arb int +5"
    GivesCount (wordLines s) 5 ∧ (∀ row ∈ wordLines s, row ≠ ["#", "solutions"]) ∧
      (linesOf t).Perm (linesOf s) ∧ ofBytes (encode t) = .ok 5 := by
  intro s t
  have hs : linesOf s = ["s mc 5", "c s log10-estimate 0.69", "s 05", "c s exact arb int +5",
      "7 of 9", "7"] := Text.linesOf_eq rfl (by decide)
  have ht : linesOf t = ["7", "s 05", "s mc 5", "7 of 9", "c s log10-estimate 0.69",
      "c s exact arb int +5"] := Text.linesOf_eq rfl (by decide)
  have hread : ofBytes (encode s) = .ok 5 := by
    rw [ofBytes_encode, hs]
    rfl
  have hrows : ∀ row ∈ wordLines s, row ≠ ["#", "solutions"] := by
    rw [wordLines, hs]
    decide
  have hperm : (linesOf t).Perm (linesOf s) := by
    rw [hs, ht]
    decide
  obtain ⟨hgives, -, horder⟩ := counts_are_read_exactly s
  exact ⟨(hgives 5).mp hread, hrows, hperm, (horder t hrows hperm 5).mpr hread⟩

end Count

end GuardedCnf
