import GuardedCnf.Proofs.FieldSummaries
import Mathlib.Data.List.Nodup
/-! # Dumps — the written object of statistics

    The object flattens what is known: a value keeps the name of its field, and a
    summary becomes six values whose names are derived from it.  As long as no
    field is called like a value derived from another one, no name stands for
    two values, so every field finds its own values in the object, and nothing
    else is there. -/

namespace GuardedCnf

/-- What is added to the name of a field for the parts of a summary. -/
def suffixes : List String := ["_first", "_last", "_min", "_max", "_sum", "_count"]

/-- No name is another one with a suffix. -/
def Apart (names : List String) : Prop :=
  ∀ name ∈ names, ∀ field ∈ names, ∀ suffix ∈ suffixes, name ≠ field ++ suffix

instance (names : List String) : Decidable (Apart names) :=
  inferInstanceAs (Decidable (∀ name ∈ names, ∀ field ∈ names, ∀ suffix ∈ suffixes,
    name ≠ field ++ suffix))

/-- The parts of a summary, by their suffixes. -/
def Accumulator.parts (a : Accumulator) : List (String × Int) :=
  [("_first", a.first), ("_last", a.last), ("_min", a.least), ("_max", a.largest),
    ("_sum", a.sum), ("_count", a.count)]

/-! ## Names. -/

/-- No suffix ends in another one. -/
theorem eq_of_isSuffix {p q : String} (hp : p ∈ suffixes) (hq : q ∈ suffixes)
    (h : q.toList <:+ p.toList) : q = p := by
  have htable : ∀ p ∈ suffixes, ∀ q ∈ suffixes, q.toList <:+ p.toList → q = p := by decide
  exact htable p hp q hq h

/-- A derived name tells its field and its suffix. -/
theorem append_suffix_inj {f g p q : String} (hp : p ∈ suffixes) (hq : q ∈ suffixes)
    (h : f ++ p = g ++ q) : f = g ∧ p = q := by
  have hlists : f.toList ++ p.toList = g.toList ++ q.toList := by
    rw [← String.toList_append, h, String.toList_append]
  have hpq : p = q := by
    rcases List.append_eq_append_iff.mp hlists with ⟨more, -, hmore⟩ | ⟨more, -, hmore⟩
    · exact (eq_of_isSuffix hp hq ⟨more, hmore.symm⟩).symm
    · exact eq_of_isSuffix hq hp ⟨more, hmore.symm⟩
  subst hpq
  exact ⟨String.toList_inj.mp (List.append_cancel_right hlists), rfl⟩

namespace Accumulator

variable {a : Accumulator} {suffix : String} {n k : Int}

theorem map_fst_parts (a : Accumulator) : a.parts.map Prod.fst = suffixes := rfl

theorem mem_suffixes_of_mem_parts (h : (suffix, n) ∈ a.parts) : suffix ∈ suffixes := by
  rw [← a.map_fst_parts]
  exact List.mem_map_of_mem h

/-- Every suffix stands for one part. -/
theorem eq_of_mem_parts (h : (suffix, n) ∈ a.parts) (h' : (suffix, k) ∈ a.parts) : k = n := by
  have hnodup : (a.parts.map Prod.fst).Nodup := by
    rw [a.map_fst_parts]
    decide
  exact (Prod.mk.inj (List.inj_on_of_nodup_map hnodup h' h rfl)).2

end Accumulator

namespace Statistics

variable {s : Statistics} {field suffix : String} {a : Accumulator} {v : Json} {n : Int}

/-! ## What is written. -/

/-- The names and values to write, field by field. -/
def pairs (s : Statistics) : List (String × Json) :=
  s.flatMap fun (field, stat) => fieldsOf field stat

/-- The written fields are the pairs, each name with its last value. -/
theorem fields_eq (s : Statistics) : s.fields = setKeys s.pairs [] := rfl

theorem ascending_fields (s : Statistics) : Ascending s.fields := by
  rw [fields_eq]
  exact ascending_nil.setKeys s.pairs

/-- A summary of integers is written part by part. -/
theorem fieldsOf_integers (field : String) (a : Accumulator) :
    fieldsOf field (.integers a) = a.parts.map fun p => (field ++ p.1, intToJson p.2) := rfl

/-- What is written of a summary is one of its parts, under the field with the suffix.
    -/
theorem mem_fieldsOf_integers {name : String} :
    (name, v) ∈ fieldsOf field (.integers a) ↔
      ∃ suffix n, (suffix, n) ∈ a.parts ∧ name = field ++ suffix ∧ v = intToJson n := by
  rw [fieldsOf_integers, List.mem_map]
  constructor
  · rintro ⟨⟨suffix, n⟩, hmem, heq⟩
    obtain ⟨hname, hv⟩ := Prod.mk.inj heq
    exact ⟨suffix, n, hmem, hname.symm, hv.symm⟩
  · rintro ⟨suffix, n, hmem, rfl, rfl⟩
    exact ⟨(suffix, n), hmem, rfl⟩

/-- Any other value is written under the field itself. -/
theorem mem_fieldsOf_other {name : String} {value : Json} :
    (name, v) ∈ fieldsOf field (.other value) ↔ name = field ∧ v = value := by
  show (name, v) ∈ [(field, value)] ↔ _
  rw [List.mem_singleton, Prod.mk.injEq]

/-- What is written is written of one of the fields. -/
theorem mem_pairs (hs : Ascending s) {name : String} :
    (name, v) ∈ s.pairs ↔
      ∃ field stat, s.lookup field = some stat ∧ (name, v) ∈ fieldsOf field stat := by
  rw [pairs, List.mem_flatMap]
  constructor
  · rintro ⟨⟨field, stat⟩, hmem, hv⟩
    exact ⟨field, stat, hs.lookup_of_mem hmem, hv⟩
  · rintro ⟨field, stat, hfound, hv⟩
    exact ⟨(field, stat), mem_of_lookup hfound, hv⟩

/-- A field with a value is one of the names. -/
theorem mem_names_of_lookup {stat : Stat} (h : s.lookup field = some stat) :
    field ∈ s.map Prod.fst :=
  List.mem_map_of_mem (mem_of_lookup h)

/-- What is written under the name of a field is its own value. -/
theorem lookup_of_mem_pairs (hs : Ascending s) (hapart : Apart (s.map Prod.fst))
    (hfield : field ∈ s.map Prod.fst) (h : (field, v) ∈ s.pairs) :
    s.lookup field = some (.other v) := by
  obtain ⟨other, stat, hfound, hmem⟩ := (mem_pairs hs).mp h
  cases stat with
  | other value =>
      obtain ⟨rfl, rfl⟩ := mem_fieldsOf_other.mp hmem
      exact hfound
  | integers a =>
      obtain ⟨suffix, n, hpart, heq, -⟩ := mem_fieldsOf_integers.mp hmem
      exact absurd heq (hapart field hfield other (mem_names_of_lookup hfound) suffix
        (Accumulator.mem_suffixes_of_mem_parts hpart))

/-- What is written under a name derived from a field is a part of its
    summary. -/
theorem lookup_of_mem_pairs_derived (hs : Ascending s) (hapart : Apart (s.map Prod.fst))
    (hfield : field ∈ s.map Prod.fst) (hsuffix : suffix ∈ suffixes)
    (h : (field ++ suffix, v) ∈ s.pairs) :
    ∃ a n, s.lookup field = some (.integers a) ∧ (suffix, n) ∈ a.parts ∧ v = intToJson n := by
  obtain ⟨other, stat, hfound, hmem⟩ := (mem_pairs hs).mp h
  cases stat with
  | other value =>
      obtain ⟨heq, -⟩ := mem_fieldsOf_other.mp hmem
      exact absurd heq.symm (hapart other (mem_names_of_lookup hfound) field hfield suffix hsuffix)
  | integers a =>
      obtain ⟨other', n, hpart, heq, hv⟩ := mem_fieldsOf_integers.mp hmem
      obtain ⟨rfl, rfl⟩ := append_suffix_inj hsuffix
        (Accumulator.mem_suffixes_of_mem_parts hpart) heq
      exact ⟨a, n, hfound, hpart, hv⟩

/-! ## What is found. -/

/-- A value is found under the name of its field, and nothing under the derived
    names. -/
theorem lookup_fields_other (hs : Ascending s) (hapart : Apart (s.map Prod.fst))
    (h : s.lookup field = some (.other v)) :
    s.fields.lookup field = some v ∧
      ∀ suffix ∈ suffixes, s.fields.lookup (field ++ suffix) = none := by
  have hfield := mem_names_of_lookup h
  rw [fields_eq]
  constructor
  · refine lookup_setKeys_of_unique ?_ ?_ []
    · exact (mem_pairs hs).mpr ⟨field, _, h, mem_fieldsOf_other.mpr ⟨rfl, rfl⟩⟩
    · intro w hw
      have hw := lookup_of_mem_pairs hs hapart hfield hw
      rw [h] at hw
      exact (Stat.other.inj (Option.some.inj hw)).symm
  · intro suffix hsuffix
    refine lookup_setKeys_of_forall ?_ []
    intro w hw
    obtain ⟨a, n, hfound, -⟩ := lookup_of_mem_pairs_derived hs hapart hfield hsuffix hw
    rw [h] at hfound
    exact nomatch hfound

/-- The parts of a summary are found under the derived names, and nothing under
    the name of the field. -/
theorem lookup_fields_integers (hs : Ascending s) (hapart : Apart (s.map Prod.fst))
    (h : s.lookup field = some (.integers a)) :
    (∀ suffix n, (suffix, n) ∈ a.parts →
      s.fields.lookup (field ++ suffix) = some (intToJson n)) ∧
      s.fields.lookup field = none := by
  have hfield := mem_names_of_lookup h
  rw [fields_eq]
  constructor
  · intro suffix n hpart
    refine lookup_setKeys_of_unique ?_ ?_ []
    · exact (mem_pairs hs).mpr ⟨field, _, h, mem_fieldsOf_integers.mpr ⟨suffix, n, hpart, rfl, rfl⟩⟩
    · intro w hw
      -- names that are apart lead back to the field and the part
      obtain ⟨b, k, hfound, hk, rfl⟩ := lookup_of_mem_pairs_derived hs hapart hfield
        (Accumulator.mem_suffixes_of_mem_parts hpart) hw
      rw [h] at hfound
      obtain rfl : a = b := Stat.integers.inj (Option.some.inj hfound)
      rw [Accumulator.eq_of_mem_parts hpart hk]
  · refine lookup_setKeys_of_forall ?_ []
    intro w hw
    have hw := lookup_of_mem_pairs hs hapart hfield hw
    rw [h] at hw
    exact nomatch hw

/-! ## What recordings leave. -/

variable {rs : List Recording}

/-- The integers of all fields, in order. -/
def integersOf (rs : List Recording) : List Int := rs.filterMap fun r => r.2.integer?

/-- The samples of an event that are recorded. -/
def recordingsOf (e : Event) : List Recording :=
  if e.counted then e.samples.filter fun r => !isIgnored r.1 else []

/-- The samples of events that are recorded, in order. -/
def recordings (events : List Event) : List Recording := events.flatMap recordingsOf

/-- Taking note of an event is recording its samples. -/
theorem observe_eq (s : Statistics) (e : Event) :
    s.observe e = (recordingsOf e).foldl (fun s r => s.record r.1 r.2) s := by
  unfold observe recordingsOf
  by_cases hcounted : e.counted = true
  · rw [if_pos hcounted, if_pos hcounted, List.foldl_filter]
    refine List.foldl_ext _ _ _ ?_
    rintro s ⟨field, x⟩ -
    cases hignored : isIgnored field <;> simp [hignored]
  · rw [if_neg hcounted, if_neg hcounted]
    rfl

/-- Taking note of events is recording all their samples in order. -/
theorem foldl_observe (events : List Event) (s : Statistics) :
    events.foldl observe s = (recordings events).foldl (fun s r => s.record r.1 r.2) s := by
  induction events generalizing s with
  | nil => rfl
  | cons e events ih =>
      show events.foldl observe (s.observe e) =
        (recordingsOf e ++ recordings events).foldl _ s
      rw [ih, observe_eq, List.foldl_append]

/-- A collector with statistics takes note of events in these. -/
theorem foldl_collect (events : List Event) (s : Statistics) :
    events.foldl Collector.observe ⟨some s⟩ = ⟨some (events.foldl observe s)⟩ := by
  induction events generalizing s with
  | nil => rfl
  | cons e events ih => exact ih (s.observe e)

/-- What is known of a field comes from a sample of it. -/
theorem Tells.mem_names (h : s.Tells rs) {stat : Stat} (hfound : s.lookup field = some stat) :
    field ∈ rs.map Prod.fst := by
  have hne : samplesOf field rs ≠ [] := by
    intro hempty
    have hstat := h.known field stat hfound
    rw [hempty] at hstat
    cases stat with
    | integers a => exact nomatch Accumulator.Summarizes.first hstat
    | other v =>
        obtain ⟨x, hlast, -⟩ := hstat
        exact nomatch hlast
  obtain ⟨x, hx⟩ := List.exists_mem_of_ne_nil _ hne
  obtain ⟨r, hr, -⟩ := List.mem_map.mp hx
  obtain ⟨hmem, hfield⟩ := List.mem_filter.mp hr
  exact List.mem_map.mpr ⟨r, hmem, beq_iff_eq.mp hfield⟩

/-- Statistics have no fields but those recorded, so these are apart too. -/
theorem Tells.apart (h : s.Tells rs) (hapart : Apart (rs.map Prod.fst)) :
    Apart (s.map Prod.fst) := by
  have hnames : ∀ name ∈ s.map Prod.fst, name ∈ rs.map Prod.fst := by
    intro name hname
    obtain ⟨⟨field, stat⟩, hmem, rfl⟩ := List.mem_map.mp hname
    exact h.mem_names (h.ascending.lookup_of_mem hmem)
  exact fun name hname field hfield => hapart name (hnames name hname) field (hnames field hfield)

/-- A field that was recorded is known. -/
theorem Tells.exists_stat (h : s.Tells rs) {x : Sample}
    (hlast : (samplesOf field rs).getLast? = some x) : ∃ stat, s.lookup field = some stat := by
  cases hfound : s.lookup field with
  | some stat => exact ⟨stat, rfl⟩
  | none =>
      rw [h.unknown field hfound] at hlast
      exact nomatch hlast

/-- The object that recordings leave. -/
structure Dumped (rs : List Recording) (written : List (String × Json)) : Prop where
  /-- A field whose last sample is no integer has the value of that sample, and
      no part of a summary. -/
  value : ∀ field x v, (samplesOf field rs).getLast? = some x → x.value? = some v →
    written.lookup field = some v ∧ ∀ suffix ∈ suffixes, written.lookup (field ++ suffix) = none
  /-- A field whose last sample is an integer has all parts of the summary of the
      integers at its end, and no value. -/
  summary : ∀ field n, (samplesOf field rs).getLast? = some (.integer n) →
    ∃ a : Accumulator, a.Summarizes (integersAtEnd (samplesOf field rs)) ∧
      (∀ suffix k, (suffix, k) ∈ a.parts →
        written.lookup (field ++ suffix) = some (intToJson k)) ∧
      written.lookup field = none
  /-- Nothing else is there. -/
  only : ∀ name v, written.lookup name = some v → ∃ field ∈ rs.map Prod.fst,
    name = field ∨ ∃ suffix ∈ suffixes, name = field ++ suffix
  ascending : Ascending written

/-- Only names that stand for a recorded field are written. -/
theorem Tells.only (h : s.Tells rs) {name : String} (hname : s.fields.lookup name = some v) :
    ∃ field ∈ rs.map Prod.fst, name = field ∨ ∃ suffix ∈ suffixes, name = field ++ suffix := by
  have hpairs : ∃ w, (name, w) ∈ s.pairs := by
    by_contra hnone
    have hnot : ∀ w, (name, w) ∉ s.pairs := fun w hw => hnone ⟨w, hw⟩
    rw [fields_eq, lookup_setKeys_of_forall hnot] at hname
    exact nomatch hname
  obtain ⟨w, hw⟩ := hpairs
  obtain ⟨field, stat, hfound, hmem⟩ := (mem_pairs h.ascending).mp hw
  refine ⟨field, h.mem_names hfound, ?_⟩
  cases stat with
  | other value => exact Or.inl (mem_fieldsOf_other.mp hmem).1
  | integers a =>
      obtain ⟨suffix, n, hpart, heq, -⟩ := mem_fieldsOf_integers.mp hmem
      exact Or.inr ⟨suffix, Accumulator.mem_suffixes_of_mem_parts hpart, heq⟩

/-- Statistics that tell of recordings are written as these leave them. -/
theorem Tells.dumped (h : s.Tells rs) (hapart : Apart (rs.map Prod.fst)) :
    Dumped rs s.fields where
  value := by
    intro field x v hlast hv
    obtain ⟨stat, hfound⟩ := h.exists_stat hlast
    have hstat := h.known field stat hfound
    cases stat with
    | integers a =>
        -- there would be an integer at the end
        obtain ⟨before, hbefore⟩ := List.getLast?_eq_some_iff.mp hlast
        rw [hbefore] at hstat
        have hfirst := Accumulator.Summarizes.first hstat
        rw [integersAtEnd_concat_of_none (Sample.integer?_of_value hv)] at hfirst
        exact nomatch hfirst
    | other w =>
        obtain ⟨y, hy, hw⟩ := hstat
        rw [hlast] at hy
        obtain rfl : x = y := Option.some.inj hy
        obtain rfl : v = w := Option.some.inj (hv.symm.trans hw)
        exact lookup_fields_other h.ascending (h.apart hapart) hfound
  summary := by
    intro field n hlast
    obtain ⟨stat, hfound⟩ := h.exists_stat hlast
    have hstat := h.known field stat hfound
    cases stat with
    | integers a => exact ⟨a, hstat, lookup_fields_integers h.ascending (h.apart hapart) hfound⟩
    | other w =>
        obtain ⟨y, hy, hw⟩ := hstat
        rw [hlast] at hy
        rw [← Option.some.inj hy] at hw
        exact nomatch hw
  only := fun _ _ hname => h.only hname
  ascending := ascending_fields s

/-- A summary of few integers of 64 bits fits in the widths it is kept with. -/
theorem Tells.fits (h : s.Tells rs) (hlength : (integersOf rs).length < 2 ^ 63)
    (hrange : ∀ n ∈ integersOf rs, -2 ^ 63 ≤ n ∧ n < 2 ^ 64)
    (hfound : s.lookup field = some (.integers a)) :
    (-2 ^ 127 ≤ a.sum ∧ a.sum < 2 ^ 127) ∧ a.count < 2 ^ 64 := by
  have hsublist := integersAtEnd_sublist field rs
  refine Accumulator.Summarizes.fits (h.known field _ hfound) ?_ ?_
  · exact Nat.lt_of_le_of_lt hsublist.length_le hlength
  · exact fun n hn => hrange n (hsublist.subset hn)

/-- **THE DUMP TELLS ALL RECORDINGS**, of any samples of any fields in any order,
    if no field is called like a part of the summary of another one: each field
    has its last value, or the summary of the integers since its last value.
    This object is what is written after events with these samples.  While less
    than `2 ^ 63` integers of 64 bits are recorded, no sum or number on the way
    leaves 128 or 64 bits. -/
theorem dumps_tell_recordings (rs : List Recording) :
    (Apart (rs.map Prod.fst) → Dumped rs (ofRecordings rs).fields) ∧
      (∀ events, recordings events = rs →
        (events.foldl Collector.observe .empty).dump.2 =
          some (Json.obj (ofRecordings rs).fields).compact) ∧
      ((integersOf rs).length < 2 ^ 63 → (∀ n ∈ integersOf rs, -2 ^ 63 ≤ n ∧ n < 2 ^ 64) →
        ∀ before after, rs = before ++ after → ∀ field a,
          (ofRecordings before).lookup field = some (.integers a) →
          (-2 ^ 127 ≤ a.sum ∧ a.sum < 2 ^ 127) ∧ a.count < 2 ^ 64) := by
  refine ⟨(tells_ofRecordings rs).dumped, ?_, ?_⟩
  · rintro events rfl
    rw [Collector.empty, foldl_collect, foldl_observe]
    rfl
  · rintro hlength hrange before after rfl field a hfound
    -- the recordings before are bounded as all of them are
    have hbefore : integersOf (before ++ after) = integersOf before ++ integersOf after :=
      List.filterMap_append
    rw [hbefore] at hlength hrange
    rw [List.length_append] at hlength
    refine (tells_ofRecordings before).fits (by omega) ?_ hfound
    exact fun n hn => hrange n (List.mem_append_left _ hn)

/-- A field changes from integers to a truth value and back, while another one
    gets a text: the first one has the summary of the last two integers only. -/
theorem dumps_tell_recordings_six :
    let rs : List Recording := [("x", .integer 3), ("y", .integer 7), ("x", .flag true),
      ("x", .integer (-1)), ("y", .text "seven"), ("x", .integer 5)]
    let written := (ofRecordings rs).fields
    Apart (rs.map Prod.fst) ∧
      (∃ a : Accumulator, a.Summarizes [-1, 5] ∧
        (∀ suffix k, (suffix, k) ∈ a.parts →
          written.lookup ("x" ++ suffix) = some (intToJson k)) ∧
        written.lookup "x" = none) ∧
      written.lookup "y" = some (.str "seven") ∧ written.lookup "y_sum" = none ∧
      ∀ field a, (ofRecordings rs).lookup field = some (.integers a) → a.sum < 2 ^ 127 := by
  intro rs written
  have hapart : Apart (rs.map Prod.fst) := by decide
  obtain ⟨hdumped, -, hfits⟩ := dumps_tell_recordings rs
  have hy := (hdumped hapart).value "y" (.text "seven") (.str "seven") rfl rfl
  refine ⟨hapart, (hdumped hapart).summary "x" 5 rfl, hy.1, hy.2 "_sum" (by decide), ?_⟩
  intro field a hfound
  exact (hfits (by decide) (by decide) rs [] rfl field a hfound).1.2

end Statistics

end GuardedCnf
