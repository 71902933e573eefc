import GuardedCnf.Tail
/-! # Ends of streams — what a tail knows after any readings

    A tail that takes readings can be asked at any time, so everything is said
    of all lists of readings.  The bytes it keeps are the end of the bytes that
    were read, however these were cut into chunks: bytes that one reading pushes
    out can never come back.  Interruptions leave no trace, and the first end
    or failure settles the tail. -/

namespace GuardedCnf

/-- Whether nothing is read after a reading: it met the end of the stream, or
    failed. -/
def Chunk.isLast : Chunk → Bool
  | .data bytes => bytes.isEmpty
  | .interrupted => false
  | .ended => true
  | .failed _ => true

/-- The bytes that a reading gives. -/
def Chunk.bytes : Chunk → List UInt8
  | .data bytes => bytes
  | _ => []

/-- The bytes of all readings before the end of the stream or a failure. -/
def received (cs : List Chunk) : List UInt8 :=
  (cs.takeWhile fun c => !c.isLast).flatMap Chunk.bytes

/-- A failure that is met before the end of the stream and any other failure. -/
def FirstFailure (e : FileError) (cs : List Chunk) : Prop :=
  ∃ before after, cs = before ++ .failed e :: after ∧ ∀ c ∈ before, c.isLast = false

/-- Nothing is received from a reading that is the last one. -/
theorem received_cons_of_last {c : Chunk} (h : c.isLast = true) (cs : List Chunk) :
    received (c :: cs) = [] := by
  simp [received, h]

/-- A reading that is not the last one adds its bytes at the front. -/
theorem received_cons {c : Chunk} (h : c.isLast = false) (cs : List Chunk) :
    received (c :: cs) = c.bytes ++ received cs := by
  simp [received, h]

theorem not_firstFailure_nil (e : FileError) : ¬FirstFailure e [] := by
  rintro ⟨before, after, h, -⟩
  cases before <;> exact nomatch h

/-- Of readings that begin with a last one, only that one can be the first
    failure. -/
theorem firstFailure_cons_of_last {e : FileError} {c : Chunk} (h : c.isLast = true)
    (cs : List Chunk) : FirstFailure e (c :: cs) ↔ c = .failed e := by
  constructor
  · rintro ⟨before, after, heq, hbefore⟩
    cases before with
    | nil => exact (List.cons.inj heq).1
    | cons b before =>
        obtain ⟨rfl, -⟩ := List.cons.inj heq
        rw [hbefore c (List.mem_cons_self ..)] at h
        exact nomatch h
  · rintro rfl
    exact ⟨[], cs, rfl, by simp⟩

/-- A reading that is not the last one does not matter to which failure is first. -/
theorem firstFailure_cons {e : FileError} {c : Chunk} (h : c.isLast = false) (cs : List Chunk) :
    FirstFailure e (c :: cs) ↔ FirstFailure e cs := by
  constructor
  · rintro ⟨before, after, heq, hbefore⟩
    cases before with
    | nil =>
        obtain ⟨rfl, -⟩ := List.cons.inj heq
        exact nomatch h
    | cons b before =>
        refine ⟨before, after, (List.cons.inj heq).2, ?_⟩
        intro d hd
        exact hbefore d (List.mem_cons_of_mem b hd)
  · rintro ⟨before, after, rfl, hbefore⟩
    refine ⟨c :: before, after, rfl, ?_⟩
    intro d hd
    rcases List.mem_cons.mp hd with rfl | hd
    · exact h
    · exact hbefore d hd

namespace Tail

/-! ## The last elements of a list. -/

variable {α : Type} {n : Nat}

theorem lastOf_suffix (n : Nat) (l : List α) : lastOf n l <:+ l := List.drop_suffix _ l

theorem length_lastOf (n : Nat) (l : List α) : (lastOf n l).length = min n l.length := by
  simp [lastOf]
  omega

theorem lastOf_of_length_le {l : List α} (h : l.length ≤ n) : lastOf n l = l := by
  rw [lastOf, Nat.sub_eq_zero_of_le h, List.drop_zero]

/-- **THE WINDOW SLIDES**: what is dropped before more comes would be dropped
    afterwards. -/
theorem lastOf_lastOf_append (n : Nat) (l more : List α) :
    lastOf n (lastOf n l ++ more) = lastOf n (l ++ more) := by
  have hle : l.length - n ≤ l.length := Nat.sub_le ..
  have hdrop : lastOf n l ++ more = (l ++ more).drop (l.length - n) :=
    (List.drop_append_of_le_length hle).symm
  -- two cuts at the front are one cut, and as much is left
  rw [hdrop, lastOf, lastOf, List.drop_drop, List.length_drop, List.length_append]
  congr 1
  omega

/-! ## One reading. -/

variable {t : Tail} {c : Chunk}

/-- A tail that stopped stays as it is. -/
theorem read_of_stopped (h : t.stopped = true) (c : Chunk) : t.read c = t := if_pos h

theorem read_interrupted (t : Tail) : t.read .interrupted = t := by
  unfold read
  split <;> rfl

/-- A last reading stops a tail, if it had not stopped before. -/
theorem stopped_read_of_last (hc : c.isLast = true) (t : Tail) : (t.read c).stopped = true := by
  by_cases h : t.stopped = true
  · rw [read_of_stopped h]
    exact h
  · unfold read
    rw [if_neg h]
    cases c with
    | data bytes =>
        obtain rfl : bytes = [] := List.isEmpty_iff.mp hc
        exact Bool.or_true _
    | interrupted => exact nomatch hc
    | ended => exact Bool.or_true _
    | failed e => rfl

/-- Any other reading adds its bytes to a tail that has not stopped, which goes
    on with the last ones. -/
theorem read_of_not_last (ht : t.stopped = false) (hfits : t.bytes.length ≤ capacity)
    (hc : c.isLast = false) :
    t.read c = { t with bytes := lastOf capacity (t.bytes ++ c.bytes) } := by
  unfold read
  rw [if_neg (Bool.eq_false_iff.mp ht)]
  cases c with
  | data bytes =>
      cases bytes with
      | nil => exact nomatch hc
      | cons b bytes => rfl
  | interrupted =>
      show t = _
      rw [show t.bytes ++ Chunk.bytes .interrupted = t.bytes from List.append_nil _,
        lastOf_of_length_le hfits]
  | ended => exact nomatch hc
  | failed e => exact nomatch hc

/-- Whether reading goes on does not depend on the bytes. -/
theorem stopped_withBytes (t : Tail) (bytes : List UInt8) :
    stopped { t with bytes := bytes } = t.stopped := rfl

/-- What a run over several readings needs of a tail is kept by a reading that
    is not the last one. -/
theorem fits_read_of_not_last (ht : t.stopped = false) (hfits : t.bytes.length ≤ capacity)
    (hc : c.isLast = false) :
    (t.read c).stopped = false ∧ (t.read c).bytes.length ≤ capacity ∧
      (t.read c).bytes = lastOf capacity (t.bytes ++ c.bytes) := by
  rw [read_of_not_last ht hfits hc, stopped_withBytes, length_lastOf]
  exact ⟨ht, Nat.min_le_left .., by dsimp only⟩

/-- The bytes stay as they are at a last reading. -/
theorem bytes_read_of_last (hc : c.isLast = true) (t : Tail) : (t.read c).bytes = t.bytes := by
  unfold read
  split
  · rfl
  · cases c with
    | data bytes =>
        obtain rfl : bytes = [] := List.isEmpty_iff.mp hc
        rfl
    | interrupted => rfl
    | ended => rfl
    | failed e => rfl

/-- A tail that still reads has not failed. -/
theorem failure_of_not_stopped (ht : t.stopped = false) : t.failure = none := by
  have hfailed : t.failed = false := (Bool.or_eq_false_iff.mp ht).1
  rwa [failed, Option.isSome_eq_false_iff, Option.isNone_iff_eq_none] at hfailed

/-- A last reading leaves the failure that it is, if any. -/
theorem failure_read_of_last (ht : t.stopped = false) (hc : c.isLast = true) {e : FileError} :
    (t.read c).failure = some e ↔ c = .failed e := by
  have hnone : t.failure = none := failure_of_not_stopped ht
  unfold read
  rw [if_neg (Bool.eq_false_iff.mp ht)]
  cases c with
  | data bytes =>
      obtain rfl : bytes = [] := List.isEmpty_iff.mp hc
      simp [hnone]
  | interrupted => exact nomatch hc
  | ended => simp [hnone]
  | failed k => simp

/-- The tail tells the failure that it keeps. -/
theorem get_error_iff (t : Tail) (e : FileError) : t.get.2 = .error e ↔ t.failure = some e := by
  unfold get
  cases t.failure with
  | none => simp
  | some k => simp

/-! ## All readings. -/

/-- Nothing changes a tail that has stopped, by induction on the readings. -/
theorem foldl_read_of_stopped (h : t.stopped = true) (cs : List Chunk) : cs.foldl read t = t := by
  induction cs with
  | nil => rfl
  | cons c cs ih => rw [List.foldl_cons, read_of_stopped h c, ih]

/-- From any tail that has not stopped, the readings add what they receive, and
    the last bytes of it all are kept. -/
theorem bytes_foldl_read (cs : List Chunk) (ht : t.stopped = false)
    (hfits : t.bytes.length ≤ capacity) :
    (cs.foldl read t).bytes = lastOf capacity (t.bytes ++ received cs) := by
  induction cs generalizing t with
  | nil =>
      show t.bytes = lastOf capacity (t.bytes ++ [])
      rw [List.append_nil, lastOf_of_length_le hfits]
  | cons c cs ih =>
      rw [List.foldl_cons]
      cases hc : c.isLast with
      | true =>
          rw [foldl_read_of_stopped (stopped_read_of_last hc t), bytes_read_of_last hc,
            received_cons_of_last hc, List.append_nil, lastOf_of_length_le hfits]
      | false =>
          obtain ⟨hopen, hstill, hkept⟩ := fits_read_of_not_last ht hfits hc
          rw [ih hopen hstill, hkept, lastOf_lastOf_append, received_cons hc, List.append_assoc]

/-- From any tail that has not stopped, the first failure is the one that is
    kept. -/
theorem failure_foldl_read (cs : List Chunk) (ht : t.stopped = false)
    (hfits : t.bytes.length ≤ capacity) (e : FileError) :
    (cs.foldl read t).failure = some e ↔ FirstFailure e cs := by
  induction cs generalizing t with
  | nil => simp [failure_of_not_stopped ht, not_firstFailure_nil]
  | cons c cs ih =>
      rw [List.foldl_cons]
      cases hc : c.isLast with
      | true =>
          rw [foldl_read_of_stopped (stopped_read_of_last hc t), failure_read_of_last ht hc,
            firstFailure_cons_of_last hc]
      | false =>
          obtain ⟨hopen, hstill, -⟩ := fits_read_of_not_last ht hfits hc
          rw [ih hopen hstill, firstFailure_cons hc]

theorem ofChunks_append (before after : List Chunk) :
    ofChunks (before ++ after) = after.foldl read (ofChunks before) := List.foldl_append ..

/-- The tail keeps the last bytes that were received, as many as it has room for. -/
theorem bytes_ofChunks (cs : List Chunk) :
    (ofChunks cs).bytes = lastOf capacity (received cs) := bytes_foldl_read cs rfl (Nat.zero_le _)

/-- **A TAIL KNOWS THE END** of what was read, whenever it is asked: the bytes it
    gives are the last ones received, as many as it can keep, or all if there
    are fewer.  It gives a failure just when a reading failed, and then the
    first one.  An interruption changes nothing, at any place, and nothing
    matters after the end of the stream or a failure. -/
theorem tails_know_the_end (cs : List Chunk) :
    (ofChunks cs).get.1 <:+ received cs ∧
      (ofChunks cs).get.1.length = min 1024 (received cs).length ∧
      (∀ e, (ofChunks cs).get.2 = .error e ↔ FirstFailure e cs) ∧
      (∀ before after, cs = before ++ .interrupted :: after →
        ofChunks cs = ofChunks (before ++ after)) ∧
      ∀ before c after, cs = before ++ c :: after → c.isLast = true →
        ofChunks cs = ofChunks (before ++ [c]) := by
  refine ⟨?_, ?_, ?_, ?_, ?_⟩
  · show (ofChunks cs).bytes <:+ received cs
    rw [bytes_ofChunks]
    exact lastOf_suffix ..
  · show (ofChunks cs).bytes.length = min capacity _
    rw [bytes_ofChunks, length_lastOf]
  · intro e
    rw [get_error_iff]
    exact failure_foldl_read cs rfl (Nat.zero_le _) e
  · rintro before after rfl
    -- an interruption is as if it had not been
    rw [ofChunks_append, ofChunks_append, List.foldl_cons, read_interrupted]
  · rintro before c after rfl hc
    rw [ofChunks_append, ofChunks_append, List.foldl_cons,
      foldl_read_of_stopped (stopped_read_of_last hc _)]
    rfl

/-- Of 600 bytes and 500 more the last 1024 are kept, with the failure that comes
    then and not the one after it. -/
theorem tails_know_the_end_window :
    let ones : List UInt8 := List.replicate 600 1
    let twos : List UInt8 := List.replicate 500 2
    let t := ofChunks [.data ones, .interrupted, .data twos, .failed .noDevice, .failed .notFound]
    t.get.1 <:+ ones ++ twos ∧ t.get.1.length = 1024 ∧ t.get.2 = .error .noDevice ∧
      t = ofChunks [.data ones, .interrupted, .data twos, .failed .noDevice] := by
  intro ones twos t
  obtain ⟨hsuffix, hlength, hfailure, -, hlast⟩ := tails_know_the_end
    [.data ones, .interrupted, .data twos, .failed .noDevice, .failed .notFound]
  have hreceived : received
      [.data ones, .interrupted, .data twos, .failed .noDevice, .failed .notFound] =
        ones ++ twos := by
    rw [received_cons rfl, received_cons rfl, received_cons rfl, received_cons_of_last rfl]
    exact congrArg (ones ++ ·) (List.append_nil twos)
  rw [hreceived] at hsuffix hlength
  refine ⟨hsuffix, ?_, (hfailure .noDevice).mpr ?_, ?_⟩
  · rw [hlength, List.length_append, List.length_replicate, List.length_replicate]
    rfl
  · rw [firstFailure_cons rfl, firstFailure_cons rfl, firstFailure_cons rfl,
      firstFailure_cons_of_last rfl]
  · exact hlast [.data ones, .interrupted, .data twos] _ _ rfl rfl

end Tail

end GuardedCnf
