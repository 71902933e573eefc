import GuardedCnf.Dimacs.Writer
import GuardedCnf.Proofs.Bytes
import GuardedCnf.Proofs.Numbering
import GuardedCnf.Proofs.Trees
/-! # DIMACS files — what is written is read back

    A file is written line by line: comments, the header, and the clauses.  Each
    line takes the reader from the state before a line to the state before the
    next, so a file is read by going through its lines. -/

namespace GuardedCnf.Dimacs

open Text (encode IsAscii Unbroken)

namespace State

/-- Reading bytes in a state leads to another state. -/
def Reads (s : State) (bytes : List UInt8) (s' : State) : Prop := s.readAll bytes = .ok s'

variable {s s' s'' : State} {b : UInt8} {bs bs' : List UInt8} {c : Char} {cs : List Char}

theorem Reads.nil (s : State) : s.Reads [] s := rfl

theorem Reads.cons (h : s.read b = .ok s') (h' : s'.Reads bs s'') : s.Reads (b :: bs) s'' := by
  rw [Reads, readAll, h]
  exact h'

theorem Reads.append (h : s.Reads bs s') (h' : s'.Reads bs' s'') : s.Reads (bs ++ bs') s'' := by
  induction bs generalizing s with
  | nil => exact Except.ok.inj h ▸ h'
  | cons b bs ih =>
      rw [Reads, readAll] at h
      cases hb : s.read b with
      | error e =>
          rw [hb] at h
          exact nomatch h
      | ok t =>
          rw [hb] at h
          exact Reads.cons hb (ih h)

/-- **TEXTS ARE READ ONE BY ONE**: what reading one more text keeps true of the
    state and of the things whose texts were read is true after all texts. -/
theorem Reads.exists_join {α : Type} {text : α → String} {todo : List α} (P : List α → State → Prop)
    (hstep : ∀ done, ∀ a ∈ todo, ∀ s, P done s →
      ∃ s', s.Reads (encode (text a)) s' ∧ P (done ++ [a]) s')
    (done : List α) (h : P done s) :
    ∃ s', s.Reads (encode (String.join (todo.map text))) s' ∧ P (done ++ todo) s' := by
  induction todo generalizing done s with
  | nil =>
      rw [List.map_nil, String.join_nil, Text.encode_empty, List.append_nil]
      exact ⟨s, Reads.nil s, h⟩
  | cons a todo ih =>
      obtain ⟨t, hfirst, ht⟩ := hstep done a (List.mem_cons_self ..) s h
      obtain ⟨s', hrest, hs'⟩ :=
        ih (fun done a ha => hstep done a (List.mem_cons_of_mem _ ha)) _ ht
      rw [List.map_cons, String.join_cons, Text.encode_append]
      rw [List.append_assoc] at hs'
      exact ⟨s', hfirst.append hrest, hs'⟩

/-! ## Numbers. -/

/-- The sign and the value of what has been read of a number. -/
def soFar (s : State) : Bool × Nat :=
  match s.numeral with
  | .none => (false, 0)
  | .sign => (true, 0)
  | .digits negative n => (negative, n)

/-- The state after a digit of a number. -/
def withNumeral (s : State) (negative : Bool) (n : Nat) : State :=
  { s with numeral := .digits negative n, lineStart := false }

/-- A digit that keeps the number within the bound is added to it. -/
theorem digit_eq {d : Nat} (h : 10 * s.soFar.2 + d ≤ maxNumber) :
    s.digit d = .ok (s.withNumeral s.soFar.1 (10 * s.soFar.2 + d)) := by
  unfold digit withNumeral
  unfold soFar at h ⊢
  cases hnumeral : s.numeral <;> rw [hnumeral] at h <;> exact if_neg (Nat.not_lt.mpr h)

/-- The byte of a digit. -/
theorem read_digit (hmode : s.mode = .clauses) (hc : c.isDigit = true) :
    s.read (UInt8.ofNat c.toNat) = s.digit (c.toNat - 48) := by
  obtain ⟨hlow, hhigh⟩ := Text.bounds_of_isDigit hc
  have hbyte : (UInt8.ofNat c.toNat).toNat = c.toNat := by
    rw [UInt8.toNat_ofNat']
    omega
  have hfeed : (UInt8.ofNat c.toNat == 10) = false := by
    refine beq_eq_false_iff_ne.mpr fun h => ?_
    rw [h] at hbyte
    have hten : (10 : UInt8).toNat = 10 := rfl
    omega
  have hrange : '0'.toUInt8 ≤ UInt8.ofNat c.toNat ∧ UInt8.ofNat c.toNat ≤ '9'.toUInt8 := by
    rw [UInt8.le_iff_toNat_le, UInt8.le_iff_toNat_le, hbyte]
    exact ⟨hlow, hhigh⟩
  unfold read
  simp only [hfeed, Bool.false_eq_true, if_false, hmode]
  rw [clauseByte, if_pos hrange, hbyte]

/-- The bytes of digits are their codes. -/
theorem encode_of_isDigit {t : String} (h : ∀ c ∈ t.toList, c.isDigit = true) :
    encode t = t.toList.map fun c => UInt8.ofNat c.toNat := by
  refine Text.encode_of_ascii fun c hc => ?_
  have hhigh := (Text.bounds_of_isDigit (h c hc)).2
  omega

/-- Digits go on with a number. -/
theorem reads_digits (hmode : s.mode = .clauses) (hdigits : ∀ d ∈ c :: cs, d.isDigit = true)
    (hlimit : Nat.ofDigitChars 10 (c :: cs) s.soFar.2 ≤ maxNumber) :
    s.Reads ((c :: cs).map fun d => UInt8.ofNat d.toNat)
      (s.withNumeral s.soFar.1 (Nat.ofDigitChars 10 (c :: cs) s.soFar.2)) := by
  induction cs generalizing s c with
  | nil =>
      have hc := hdigits c (List.mem_cons_self ..)
      refine Reads.cons ?_ (Reads.nil _)
      rw [read_digit hmode hc]
      exact digit_eq hlimit
  | cons d cs ih =>
      obtain ⟨hc, hdigits⟩ := List.forall_mem_cons.mp hdigits
      rw [Nat.ofDigitChars_cons] at hlimit ⊢
      have hfirst : 10 * s.soFar.2 + (c.toNat - 48) ≤ maxNumber :=
        Nat.le_trans (Text.le_ofDigitChars _ (d :: cs)) hlimit
      refine Reads.cons ((read_digit hmode hc).trans (digit_eq hfirst)) ?_
      exact ih (s := s.withNumeral s.soFar.1 (10 * s.soFar.2 + (c.toNat - 48))) hmode hdigits hlimit

/-- A written number goes on with a number of which at most the sign was read. -/
theorem reads_number (hmode : s.mode = .clauses) (hnone : s.soFar.2 = 0) {n : Nat}
    (hn : n ≤ maxNumber) :
    s.Reads (encode (toString n)) (s.withNumeral s.soFar.1 n) := by
  obtain ⟨c, cs, hlist, -, hdigits, hvalue⟩ := Text.exists_digits n
  rw [encode_of_isDigit fun c => Text.isDigit_of_mem_toString, hlist]
  have hreads := reads_digits (s := s) hmode hdigits (by rwa [hnone, hvalue])
  rwa [hnone, hvalue] at hreads

/-! ## Lines. -/

/-- The state between the literals of a clause. -/
def between (line : Nat) (lineStart : Bool) (header : Option (Nat × Nat)) (c : Clause)
    (clauses : Cnf) : State :=
  ⟨line, lineStart, .clauses, header, .none, c, clauses⟩

/-- The state before a line. -/
def before (line : Nat) (header : Option (Nat × Nat)) (clauses : Cnf) : State :=
  between line true header [] clauses

variable {line : Nat} {lineStart : Bool} {header : Option (Nat × Nat)} {clause : Clause}
  {clauses : Cnf} {l : Literal}

/-- A literal is written as the number of its variable, with a sign if it is negative.
    -/
theorem toString_number (l : Literal) :
    toString l.number = (if l.positive then "" else "-") ++ toString l.var.number := by
  obtain ⟨x, positive⟩ := l
  cases positive with
  | true => exact String.empty_append.symm
  | false => rfl

/-- A written literal is read into the clause. -/
theorem reads_literal (hl : l.var < maxNumber) :
    (between line lineStart header clause clauses).Reads (encode (toString l.number ++ " "))
      (between line false header (l :: clause) clauses) := by
  have hspace : encode " " = [32] := Text.encode_of_ascii (by decide)
  have hminus : encode "-" = [45] := Text.encode_of_ascii (by decide)
  rw [Text.encode_append, toString_number, Text.encode_append, hspace]
  obtain ⟨x, positive⟩ := l
  let s := between line lineStart header clause clauses
  cases positive with
  | true =>
      have hnumber := reads_number (s := s) rfl rfl hl
      rw [if_pos rfl, Text.encode_empty, List.nil_append]
      exact hnumber.append (Reads.cons rfl (Reads.nil _))
  | false =>
      have hsign : s.Reads [45] { s with numeral := .sign, lineStart := false } :=
        Reads.cons rfl (Reads.nil _)
      have hnumber := reads_number (s := { s with numeral := .sign, lineStart := false }) rfl rfl hl
      rw [if_neg Bool.false_ne_true, hminus]
      exact (hsign.append hnumber).append (Reads.cons rfl (Reads.nil _))

/-- The literals of a clause are read one after the other, with a space behind each. -/
theorem exists_reads_literals {c : Clause} (hc : ∀ l ∈ c, l.var < maxNumber) :
    ∃ b, (before line header clauses).Reads
      (encode (String.join (c.map fun l => toString l.number ++ " ")))
      (between line b header c.reverse clauses) := by
  let P : List Literal → State → Prop := fun done s =>
    ∃ b, s = between line b header done.reverse clauses
  have hstep : ∀ done, ∀ l ∈ c, ∀ s, P done s →
      ∃ s', s.Reads (encode (toString l.number ++ " ")) s' ∧ P (done ++ [l]) s' := by
    rintro done l hl _ ⟨b, rfl⟩
    refine ⟨_, reads_literal (hc l hl), false, ?_⟩
    rw [List.reverse_concat]
  have hstart : P [] (before line header clauses) := ⟨true, rfl⟩
  obtain ⟨_, hreads, b, rfl⟩ := Reads.exists_join P hstep [] hstart
  exact ⟨b, hreads⟩

/-- A clause is read from its line. -/
theorem reads_clauseLine {c : Clause} (hc : ∀ l ∈ c, l.var < maxNumber) :
    (before line header clauses).Reads (encode (clauseLine c))
      (before (line + 1) header (c :: clauses)) := by
  have hend : encode "0\n" = [48, 10] := Text.encode_of_ascii (by decide)
  obtain ⟨b, hliterals⟩ := exists_reads_literals hc
  have hclose : (between line b header c.reverse clauses).Reads [48, 10]
      (before (line + 1) header (c.reverse.reverse :: clauses)) :=
    Reads.cons rfl (Reads.cons rfl (Reads.nil _))
  rw [List.reverse_reverse] at hclose
  rw [clauseLine, Text.encode_append, hend]
  exact hliterals.append hclose

/-- The lines of clauses are read as the clauses, the last of them on top. -/
theorem exists_reads_clauseLines {f : Cnf} (hf : f.Within (· < maxNumber)) :
    ∃ last, (before line header []).Reads (encode (String.join (f.map clauseLine)))
      (before last header f.reverse) := by
  let P : Cnf → State → Prop := fun done s => ∃ last, s = before last header done.reverse
  have hstep : ∀ done, ∀ c ∈ f, ∀ s, P done s →
      ∃ s', s.Reads (encode (clauseLine c)) s' ∧ P (done ++ [c]) s' := by
    rintro done c hc _ ⟨last, rfl⟩
    refine ⟨_, reads_clauseLine (hf c hc), last + 1, ?_⟩
    rw [List.reverse_concat]
  have hstart : P [] (before line header []) := ⟨line, rfl⟩
  obtain ⟨_, hreads, last, rfl⟩ := Reads.exists_join P hstep [] hstart
  exact ⟨last, hreads⟩

/-! ## Comments. -/

/-- A line that is a comment. -/
def IsComment (text : String) : Prop := ∃ t, Unbroken t ∧ text = "c" ++ t ++ "\n"

/-- A byte that ends no line is kept in a header, and dropped in a comment. -/
theorem read_of_ne (hfeed : b ≠ 10) (hend : b ≠ 13) :
    s.read b = match s.mode with
      | .clauses => s.clauseByte b
      | .comment => .ok s
      | .header bytes => .ok { s with mode := .header (b :: bytes) } := by
  have hten : (b == 10) = false := beq_eq_false_iff_ne.mpr hfeed
  have hthirteen : (b == 13) = false := beq_eq_false_iff_ne.mpr hend
  unfold read
  cases hmode : s.mode <;>
    simp only [hten, hthirteen, isLineEnd, hmode, Bool.or_self, Bool.false_eq_true, if_false]

/-- A comment is passed over up to the end of its line. -/
theorem reads_comment_bytes (hfeed : 10 ∉ bs) (hend : 13 ∉ bs)
    (hmode : s.mode = .comment) : s.Reads bs s := by
  induction bs with
  | nil => exact Reads.nil s
  | cons b bs ih =>
      obtain ⟨hb, hfeed⟩ := List.ne_and_not_mem_of_not_mem_cons hfeed
      obtain ⟨hb', hend⟩ := List.ne_and_not_mem_of_not_mem_cons hend
      refine Reads.cons ?_ (ih hfeed hend)
      rw [read_of_ne (Ne.symm hb) (Ne.symm hb'), hmode]

/-- A comment line only makes the line number larger. -/
theorem reads_comment {text : String} (h : IsComment text) :
    (before line header clauses).Reads (encode text) (before (line + 1) header clauses) := by
  obtain ⟨t, ht, rfl⟩ := h
  have hfirst : encode "c" = [99] := Text.encode_of_ascii (by decide)
  rw [Text.encode_append, Text.encode_append, hfirst, Text.encode_feed]
  let s : State := { before line header clauses with mode := .comment }
  have hbegin : (before line header clauses).Reads [99] s := Reads.cons rfl (Reads.nil _)
  have hbytes : s.Reads (encode t) s :=
    reads_comment_bytes ht.not_mem_encode.1 ht.not_mem_encode.2 rfl
  exact (hbegin.append hbytes).append (Reads.cons rfl (Reads.nil _))

/-- Comment lines are passed over one by one. -/
theorem exists_reads_comments {texts : List String} (h : ∀ text ∈ texts, IsComment text) :
    ∃ last, (before line header clauses).Reads (encode (String.join texts))
      (before last header clauses) := by
  let P : List String → State → Prop := fun _ s => ∃ last, s = before last header clauses
  have hstep : ∀ done, ∀ text ∈ texts, ∀ s, P done s →
      ∃ s', s.Reads (encode (id text)) s' ∧ P (done ++ [text]) s' := by
    rintro done text htext _ ⟨last, rfl⟩
    exact ⟨_, reads_comment (h text htext), last + 1, rfl⟩
  have hstart : P [] (before line header clauses) := ⟨line, rfl⟩
  obtain ⟨_, hreads, last, rfl⟩ := Reads.exists_join P hstep [] hstart
  rw [List.map_id] at hreads
  exact ⟨last, hreads⟩

/-! ## The header. -/

/-- The words of a header line behind its first letter. -/
def headerWords (varCount clauseCount : Nat) : List String :=
  ["cnf", toString varCount, toString clauseCount]

/-- What a header line says behind its first letter. -/
def headerText (varCount clauseCount : Nat) : String :=
  " " ++ " ".intercalate (headerWords varCount clauseCount)

/-- The header as it is written behind its first letter. -/
theorem headerText_eq (n m : Nat) :
    headerText n m = " cnf " ++ toString n ++ " " ++ toString m := by
  refine String.ext ?_
  simp only [headerText, headerWords, String.intercalate_cons_cons, String.intercalate_singleton,
    String.toList_append, List.append_assoc]
  rfl

theorem isWord_headerWords (n m : Nat) : ∀ w ∈ headerWords n m, Text.IsWord w := by
  simp only [headerWords, List.forall_mem_cons]
  exact ⟨by decide, Text.isWord_toString n, Text.isWord_toString m, fun _ h => nomatch h⟩

/-- A header within the bounds tells the numbers of variables and clauses. -/
theorem readHeader_ok {n m : Nat} (hn : n ≤ maxNumber) (hm : m < 2 ^ 64) (line : Nat) :
    readHeader line ("p" ++ headerText n m) = .ok (n, m) := by
  have hn64 : n < 2 ^ 64 := Nat.lt_of_le_of_lt hn (by decide)
  have hlist : ("p" ++ headerText n m).toList
      = 'p' :: ' ' :: (" ".intercalate (headerWords n m)).toList := by
    rw [headerText, String.toList_append, String.toList_append]
    rfl
  have hwords : (Text.words (" ".intercalate (headerWords n m)).toList).map String.ofList
      = ["cnf", toString n, toString m] :=
    Text.wordsOf_intercalate (isWord_headerWords n m)
  unfold readHeader
  simp only [hlist, hwords, Text.readNat64_toString hn64, Text.readNat64_toString hm,
    if_neg (Nat.not_lt.mpr hn)]

theorem isAscii_headerText (n m : Nat) : IsAscii (headerText n m) := by
  have hword : IsAscii " cnf " := by decide
  have hspace : IsAscii " " := by decide
  rw [headerText_eq]
  exact ((hword.append (Text.isAscii_toString n)).append hspace).append (Text.isAscii_toString m)

theorem unbroken_headerText (n m : Nat) : Unbroken (headerText n m) := by
  have hspace : Unbroken " " := by decide
  exact hspace.append (Text.unbroken_intercalate (isWord_headerWords n m))

/-- The bytes of a header line are kept until it ends. -/
theorem reads_header_bytes {bytes : List UInt8} (hfeed : 10 ∉ bs) (hend : 13 ∉ bs)
    (hmode : s.mode = .header bytes) :
    s.Reads bs { s with mode := .header (bs.reverse ++ bytes) } := by
  induction bs generalizing s bytes with
  | nil =>
      rw [List.reverse_nil, List.nil_append, ← hmode]
      exact Reads.nil s
  | cons b bs ih =>
      obtain ⟨hb, hfeed⟩ := List.ne_and_not_mem_of_not_mem_cons hfeed
      obtain ⟨hb', hend⟩ := List.ne_and_not_mem_of_not_mem_cons hend
      have hfirst : s.read b = .ok { s with mode := .header (b :: bytes) } := by
        rw [read_of_ne (Ne.symm hb) (Ne.symm hb'), hmode]
      have hrest := ih (s := { s with mode := .header (b :: bytes) }) hfeed hend rfl
      rw [List.reverse_cons, List.append_assoc]
      exact Reads.cons hfirst hrest

/-- The header is read from its line. -/
theorem reads_headerLine {n m : Nat} (hn : n ≤ maxNumber) (hm : m < 2 ^ 64) :
    (before line none clauses).Reads (encode ("p" ++ headerText n m ++ "\n"))
      (before (line + 1) (some (n, m)) clauses) := by
  have hunbroken := unbroken_headerText n m
  have hfirst : encode "p" = [112] := Text.encode_of_ascii (by decide)
  have hletter : IsAscii "p" := by decide
  have htext : Text.decodeReplacing (encode ("p" ++ headerText n m)) = "p" ++ headerText n m :=
    Text.decodeReplacing_encode (hletter.append (isAscii_headerText n m))
  -- the bytes of the line are kept in reverse, the letter last
  let kept : List UInt8 := (encode (headerText n m)).reverse ++ [112]
  have hkept : kept.reverse = encode ("p" ++ headerText n m) := by
    rw [List.reverse_append, List.reverse_reverse, Text.encode_append, hfirst]
    rfl
  let s : State := { before line none clauses with mode := .header [112] }
  let s' : State := { s with mode := .header kept }
  have hbegin : (before line none clauses).Reads [112] s := Reads.cons rfl (Reads.nil _)
  have hbytes : s.Reads (encode (headerText n m)) s' :=
    reads_header_bytes hunbroken.not_mem_encode.1 hunbroken.not_mem_encode.2 rfl
  have hend : s'.read 10 = .ok (before (line + 1) (some (n, m)) clauses) := by
    show endHeader _ kept = _
    rw [endHeader, hkept, htext, readHeader_ok hn hm]
    rfl
  rw [Text.encode_append, Text.encode_append, hfirst, Text.encode_feed]
  exact (hbegin.append hbytes).append (Reads.cons hend (Reads.nil _))

/-! ## Files. -/

/-- A file ends well if the header declares what it has. -/
theorem finish_before {d : Dimacs} (h : Cnf.varCount d.clauses ≤ d.varCount) (line : Nat) :
    (before line (some (d.varCount, d.clauses.length)) d.clauses.reverse).finish = .ok d := by
  have hactual : max d.varCount (Cnf.varCount d.clauses) = d.varCount := Nat.max_eq_left h
  simp only [finish, before, between, endNumeral, bind, Except.bind, List.isEmpty_nil,
    List.reverse_reverse, hactual, Bool.not_true, Bool.false_eq_true, if_false, ne_eq,
    not_true_eq_false]
  rfl

/-- The text of a file is read from the state before its header. -/
theorem exists_reads_toText {d : Dimacs} (hvars : d.varCount ≤ maxNumber)
    (hclauses : Cnf.varCount d.clauses ≤ d.varCount) (hcount : d.clauses.length < 2 ^ 64) :
    ∃ last, (before line none []).Reads (encode d.toText)
      (before last (some (d.varCount, d.clauses.length)) d.clauses.reverse) := by
  have htext : d.toText = "p" ++ headerText d.varCount d.clauses.length ++ "\n"
      ++ String.join (d.clauses.map clauseLine) := by
    rw [headerText_eq]
    refine String.ext ?_
    simp only [toText, String.toList_append, List.append_assoc]
    rfl
  have hwithin := Cnf.varCount_le_iff.mp (Nat.le_trans hclauses hvars)
  obtain ⟨last, hlines⟩ := exists_reads_clauseLines hwithin
  rw [htext, Text.encode_append]
  exact ⟨last, (reads_headerLine hvars hcount).append hlines⟩

end State

/-- **FILES ARE READ BACK**: comments and then the text of a file are read as the
    file. -/
theorem ofBytes_toText {comments : List String} {d : Dimacs}
    (hcomments : ∀ text ∈ comments, State.IsComment text) (hvars : d.varCount ≤ maxNumber)
    (hclauses : Cnf.varCount d.clauses ≤ d.varCount) (hcount : d.clauses.length < 2 ^ 64) :
    ofBytes (encode (String.join comments ++ d.toText)) = .ok d := by
  obtain ⟨line, hbefore⟩ : ∃ line, State.start.Reads _ (State.before line none []) :=
    State.exists_reads_comments hcomments
  obtain ⟨last, hfile⟩ := State.exists_reads_toText hvars hclauses hcount
  have hread : State.start.readAll (encode (String.join comments ++ d.toText))
      = .ok (State.before last (some (d.varCount, d.clauses.length)) d.clauses.reverse) := by
    rw [Text.encode_append]
    exact hbefore.append hfile
  rw [ofBytes, hread]
  exact State.finish_before hclauses last

/-! ## Files with names. -/

/-- The line that names a variable is a comment. -/
theorem isComment_nameLine (v : Var) {name : String} (h : Unbroken name) :
    State.IsComment (nameLine v name) := by
  refine ⟨" " ++ toString v.number ++ " " ++ name, ?_, ?_⟩
  · have hspace : Unbroken " " := by decide
    exact ((hspace.append (Text.isWord_toString _).unbroken).append hspace).append h
  · refine String.ext ?_
    simp only [nameLine, String.toList_append, List.append_assoc]
    rfl

/-- **DIMACS OUTPUT IS READ BACK**.  A file with the names of its variables, none
    of which has a line end, is read as the clauses that were written, over the
    variables of the map and of the clauses.  The format reads it into an empty
    map with room as the tree of the clauses, and the map then has the numbers of
    the variables in order. -/
theorem named_files_are_read_back (f : Cnf) (vars : VariableMap)
    (hnames : ∀ name ∈ vars.names, Unbroken name)
    (hvars : max vars.size f.varCount ≤ maxNumber) (hcount : f.length < 2 ^ 64) :
    ofBytes (encode (named f vars)) = .ok ⟨max vars.size f.varCount, f⟩ ∧
      ∀ limit, max vars.size f.varCount ≤ limit → ∃ vars' : VariableMap,
        (Format.dimacs.parse (.ok (encode (named f vars)))).run (.empty limit)
            = .ok f.toTree vars' ∧
          vars'.entries.toList
            = (List.range' 1 (max vars.size f.varCount)).map fun k => ⟨toString k, false⟩ := by
  -- the names stand on comment lines, which the reader passes over
  have hcomments : ∀ text ∈ vars.names.mapIdx nameLine, State.IsComment text := by
    intro text htext
    obtain ⟨v, hv, rfl⟩ := List.mem_mapIdx.mp htext
    exact isComment_nameLine v (hnames _ (List.getElem_mem hv))
  have hread : ofBytes (encode (named f vars)) = .ok (ofCnf vars.size f) :=
    ofBytes_toText hcomments hvars (Nat.le_max_right _ _) hcount
  refine ⟨hread, fun limit hroom => ?_⟩
  obtain ⟨vars', hparse, hgrows⟩ := Format.Clauses.exists_parse_empty hread hroom
  refine ⟨vars', hparse, ?_⟩
  rw [hgrows.entries, VariableMap.inputEntries, Format.Clauses.numerals, List.map_map]
  rfl

/-- Of three variables two have names.  A clause repeats a literal beside its
    complement, and another is empty. -/
theorem named_files_are_read_back_small :
    let vars := ((VariableMap.empty 2).push ⟨"a", false⟩ (by simp)).push ⟨"not a", true⟩ (by simp)
    let f : Cnf := [[⟨0, true⟩, ⟨0, false⟩, ⟨0, true⟩], [], [⟨2, false⟩, ⟨1, true⟩]]
    ofBytes (encode (named f vars)) = .ok ⟨3, f⟩ ∧
      ∃ vars' : VariableMap,
        (Format.dimacs.parse (.ok (encode (named f vars)))).run (.empty 3) = .ok f.toTree vars' ∧
          vars'.entries.toList = [⟨"1", false⟩, ⟨"2", false⟩, ⟨"3", false⟩] := by
  intro vars f
  have hnames : ∀ name ∈ vars.names, Unbroken name := by decide
  obtain ⟨hread, hformat⟩ := named_files_are_read_back f vars hnames (by decide) (by decide)
  exact ⟨hread, hformat 3 (by decide)⟩

end GuardedCnf.Dimacs
