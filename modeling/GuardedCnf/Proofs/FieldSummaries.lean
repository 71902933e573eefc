import GuardedCnf.Proofs.OrderedKeys
import Mathlib.Algebra.Order.BigOperators.Group.List
import Mathlib.Algebra.Order.Ring.Int
import Mathlib.Data.List.DropRight
/-! # Field summaries — what statistics tell of the samples

    Samples come in any order, of any fields.  At any time the statistics know of
    each field what its own samples were: the last one if it is no integer, and
    else a summary of the integers since the last sample that was none. -/

namespace GuardedCnf

/-- A sample, and the field it belongs to. -/
abbrev Recording := String × Sample

/-! ## Samples. -/

/-- The integer of a sample that accumulates. -/
def Sample.integer? : Sample → Option Int
  | .integer n => some n
  | _ => none

/-- The JSON value of a sample that does not accumulate. -/
def Sample.value? : Sample → Option Json
  | .integer _ => none
  | .wide n => some (.str (toString n))
  | .text t => some (.str t)
  | .quoted t => some (.str (Text.quoted t))
  | .flag b => some (.bool b)

/-- The samples of a field, in order. -/
def samplesOf (field : String) (rs : List Recording) : List Sample :=
  (rs.filter fun r => r.1 == field).map Prod.snd

/-- The integers after the last sample that is none. -/
def integersAtEnd (xs : List Sample) : List Int :=
  (xs.rtakeWhile fun x => x.integer?.isSome).filterMap Sample.integer?

/-- A sample without a value of another kind is an integer. -/
theorem Sample.exists_integer {x : Sample} (h : x.value? = none) : ∃ n, x = .integer n := by
  cases x with
  | integer n => exact ⟨n, rfl⟩
  | wide n => exact nomatch h
  | text t => exact nomatch h
  | quoted t => exact nomatch h
  | flag b => exact nomatch h

/-- A sample with a value of another kind is no integer. -/
theorem Sample.integer?_of_value {x : Sample} {v : Json} (h : x.value? = some v) :
    x.integer? = none := by
  cases x with
  | integer n => exact nomatch h
  | wide n => rfl
  | text t => rfl
  | quoted t => rfl
  | flag b => rfl

/-- A recording of a field is its last sample. -/
theorem samplesOf_concat_self (field : String) (x : Sample) (rs : List Recording) :
    samplesOf field (rs ++ [(field, x)]) = samplesOf field rs ++ [x] := by
  simp [samplesOf]

/-- A recording of another field adds no sample. -/
theorem samplesOf_concat_of_ne {field other : String} (h : other ≠ field) (x : Sample)
    (rs : List Recording) : samplesOf field (rs ++ [(other, x)]) = samplesOf field rs := by
  simp [samplesOf, h]

/-- An integer after others is one more of them. -/
theorem integersAtEnd_concat_integer (xs : List Sample) (n : Int) :
    integersAtEnd (xs ++ [.integer n]) = integersAtEnd xs ++ [n] := by
  rw [integersAtEnd, List.rtakeWhile_concat_pos _ _ _ rfl, List.filterMap_append]
  rfl

/-- A value of another kind ends the integers before it. -/
theorem integersAtEnd_concat_of_none {x : Sample} (h : x.integer? = none) (xs : List Sample) :
    integersAtEnd (xs ++ [x]) = [] := by
  rw [integersAtEnd, List.rtakeWhile_concat_neg _ _ _ (by rw [h]; exact Bool.false_ne_true)]
  rfl

/-- Of what a field accumulates nothing was recorded elsewhere. -/
theorem integersAtEnd_sublist (field : String) (rs : List Recording) :
    (integersAtEnd (samplesOf field rs)).Sublist (rs.filterMap fun r => r.2.integer?) := by
  have hend : (integersAtEnd (samplesOf field rs)).Sublist
      ((samplesOf field rs).filterMap Sample.integer?) :=
    (List.rtakeWhile_suffix _ _).sublist.filterMap _
  refine hend.trans ?_
  rw [samplesOf, List.filterMap_map]
  exact List.filter_sublist.filterMap _

/-! ## Summaries of integers. -/

namespace Accumulator

/-- A summary tells of integers, of which there is at least one. -/
structure Summarizes (a : Accumulator) (ns : List Int) : Prop where
  first : ns.head? = some a.first
  last : ns.getLast? = some a.last
  least : a.least ∈ ns ∧ ∀ n ∈ ns, a.least ≤ n
  largest : a.largest ∈ ns ∧ ∀ n ∈ ns, n ≤ a.largest
  sum : a.sum = ns.sum
  count : a.count = ns.length

variable {a : Accumulator} {ns : List Int}

/-- A single integer is its own summary. -/
theorem summarizes_single (n : Int) : (single n).Summarizes [n] where
  first := rfl
  last := rfl
  least := ⟨List.mem_singleton_self n, fun _ hk => (List.mem_singleton.mp hk).ge⟩
  largest := ⟨List.mem_singleton_self n, fun _ hk => (List.mem_singleton.mp hk).le⟩
  sum := (List.sum_singleton).symm
  count := rfl

/-- One more integer is added to the summary of those before. -/
theorem Summarizes.add (h : a.Summarizes ns) (n : Int) : (a.add n).Summarizes (ns ++ [n]) where
  first := by rw [List.head?_append, h.first]; rfl
  last := List.getLast?_concat
  least := by
    show min a.least n ∈ ns ++ [n] ∧ ∀ k ∈ ns ++ [n], min a.least n ≤ k
    constructor
    · rcases min_choice a.least n with heq | heq
      · rw [heq]
        exact List.mem_append_left _ h.least.1
      · rw [heq]
        exact List.mem_append_right _ (List.mem_singleton_self n)
    · intro k hk
      rcases List.mem_append.mp hk with hk | hk
      · exact (min_le_left _ _).trans (h.least.2 k hk)
      · exact (min_le_right _ _).trans (List.mem_singleton.mp hk).ge
  largest := by
    show max a.largest n ∈ ns ++ [n] ∧ ∀ k ∈ ns ++ [n], k ≤ max a.largest n
    constructor
    · rcases max_choice a.largest n with heq | heq
      · rw [heq]
        exact List.mem_append_left _ h.largest.1
      · rw [heq]
        exact List.mem_append_right _ (List.mem_singleton_self n)
    · intro k hk
      rcases List.mem_append.mp hk with hk | hk
      · exact (h.largest.2 k hk).trans (le_max_left _ _)
      · exact (List.mem_singleton.mp hk).le.trans (le_max_right _ _)
  sum := by
    show a.sum + n = (ns ++ [n]).sum
    rw [List.sum_append, List.sum_singleton, h.sum]
  count := by
    show a.count + 1 = (ns ++ [n]).length
    rw [List.length_append, h.count]
    rfl

/-- A sum of integers of 64 bits fits in 128 bits, and their number in 64, while
    there are less than `2 ^ 63` of them. -/
theorem Summarizes.fits (h : a.Summarizes ns) (hlength : ns.length < 2 ^ 63)
    (hrange : ∀ n ∈ ns, -2 ^ 63 ≤ n ∧ n < 2 ^ 64) :
    (-2 ^ 127 ≤ a.sum ∧ a.sum < 2 ^ 127) ∧ a.count < 2 ^ 64 := by
  have hupper : ns.sum ≤ ns.length • (2 ^ 64 - 1 : Int) :=
    List.sum_le_card_nsmul ns _ fun n hn => Int.le_sub_one_of_lt (hrange n hn).2
  have hlower : ns.length • (-2 ^ 63 : Int) ≤ ns.sum :=
    List.card_nsmul_le_sum ns _ fun n hn => (hrange n hn).1
  rw [nsmul_eq_mul] at hupper hlower
  rw [h.sum, h.count]
  omega

end Accumulator

/-! ## What is known. -/

/-- What is known of a field agrees with its samples. -/
def Stat.Describes (xs : List Sample) : Stat → Prop
  | .integers a => a.Summarizes (integersAtEnd xs)
  | .other v => ∃ x, xs.getLast? = some x ∧ x.value? = some v

namespace Statistics

variable {s : Statistics} {rs : List Recording} {field : String}

/-- The statistics know the fields of some recordings, and of each of them what
    its samples were. -/
structure Tells (s : Statistics) (rs : List Recording) : Prop where
  ascending : Ascending s
  known : ∀ field stat, s.lookup field = some stat → stat.Describes (samplesOf field rs)
  unknown : ∀ field, s.lookup field = none → samplesOf field rs = []

/-- Empty statistics tell of no recordings. -/
theorem tells_nil : Tells [] [] where
  ascending := ascending_nil
  known _ _ h := nomatch h
  unknown _ _ := rfl

/-- What is set of a field must agree with its last sample, too; all that is known
    of the other fields stays right. -/
theorem Tells.set (h : s.Tells rs) {x : Sample} {stat : Stat}
    (hstat : stat.Describes (samplesOf field rs ++ [x])) :
    Tells (setKey field stat s) (rs ++ [(field, x)]) where
  ascending := h.ascending.setKey field stat
  known := by
    intro other found hfound
    by_cases hother : other = field
    · subst hother
      rw [lookup_setKey_self] at hfound
      rw [samplesOf_concat_self, ← Option.some.inj hfound]
      exact hstat
    · -- other fields keep their samples and what is known of them
      rw [lookup_setKey_of_ne hother] at hfound
      rw [samplesOf_concat_of_ne (Ne.symm hother)]
      exact h.known other found hfound
  unknown := by
    intro other hnone
    by_cases hother : other = field
    · subst hother
      rw [lookup_setKey_self] at hnone
      exact nomatch hnone
    · rw [lookup_setKey_of_ne hother] at hnone
      rw [samplesOf_concat_of_ne (Ne.symm hother)]
      exact h.unknown other hnone

/-- A value of another kind replaces what the field had. -/
theorem record_of_value {x : Sample} {v : Json} (h : x.value? = some v) :
    s.record field x = setKey field (.other v) s := by
  cases x with
  | integer n => exact nomatch h
  | wide n => rw [← Option.some.inj h]; rfl
  | text t => rw [← Option.some.inj h]; rfl
  | quoted t => rw [← Option.some.inj h]; rfl
  | flag b => rw [← Option.some.inj h]; rfl

/-- An integer continues a summary, or begins one. -/
theorem Tells.addInteger (h : s.Tells rs) (field : String) (n : Int) :
    (s.addInteger field n).Tells (rs ++ [(field, .integer n)]) := by
  have hbegin (hempty : integersAtEnd (samplesOf field rs) = []) :
      (Stat.integers (.single n)).Describes (samplesOf field rs ++ [.integer n]) := by
    show (Accumulator.single n).Summarizes _
    rw [integersAtEnd_concat_integer, hempty]
    exact Accumulator.summarizes_single n
  unfold Statistics.addInteger
  cases hfound : s.lookup field with
  | none =>
      refine h.set (hbegin ?_)
      rw [h.unknown field hfound]
      rfl
  | some stat =>
      cases stat with
      | integers a =>
          refine h.set ?_
          show (a.add n).Summarizes _
          rw [integersAtEnd_concat_integer]
          exact Accumulator.Summarizes.add (h.known field _ hfound) n
      | other v =>
          -- the last sample was no integer, so none is left from before
          obtain ⟨x, hlast, hx⟩ := h.known field _ hfound
          obtain ⟨before, hbefore⟩ := List.getLast?_eq_some_iff.mp hlast
          refine h.set (hbegin ?_)
          rw [hbefore]
          exact integersAtEnd_concat_of_none (Sample.integer?_of_value hx) before

/-- Whatever is recorded, the statistics tell of it. -/
theorem Tells.record (h : s.Tells rs) (field : String) (x : Sample) :
    (s.record field x).Tells (rs ++ [(field, x)]) := by
  cases hx : x.value? with
  | none =>
      obtain ⟨n, rfl⟩ := Sample.exists_integer hx
      exact h.addInteger field n
  | some v =>
      rw [record_of_value hx]
      exact h.set ⟨x, List.getLast?_concat, hx⟩

/-- The statistics of some recordings. -/
def ofRecordings (rs : List Recording) : Statistics :=
  rs.foldl (fun s r => s.record r.1 r.2) []

/-- **STATISTICS TELL OF ALL RECORDINGS**, in whatever order these came. -/
theorem tells_ofRecordings (rs : List Recording) : (ofRecordings rs).Tells rs := by
  induction rs using List.reverseRecOn with
  | nil => exact tells_nil
  | append_singleton rs r ih =>
      rw [ofRecordings, List.foldl_concat]
      exact ih.record r.1 r.2

end Statistics

end GuardedCnf
