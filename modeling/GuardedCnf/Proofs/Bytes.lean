import GuardedCnf.Text.Lines
import Mathlib.Data.List.Basic
/-! # Bytes — texts as bytes and back

    The bytes of a text are those of its characters in order.  A character of
    ASCII is one byte, its number, and the bytes of all other characters are
    larger than these, so the bytes of ASCII in a text are its ASCII characters.
    In particular the lines of the bytes are the lines of the text. -/

namespace GuardedCnf.Text

variable {c : Char} {s t : String} {b : UInt8} {bs l : List UInt8}

/-! ## Bytes of texts. -/

/-- Listing the bytes of an array from a place on. -/
theorem toList_loop (a : ByteArray) (i : Nat) (r : List UInt8) :
    ByteArray.toList.loop a i r = r.reverse ++ a.data.toList.drop i := by
  induction i, r using ByteArray.toList.loop.induct a with
  | case1 i r h ih =>
      have hi : i < a.data.toList.length := by simpa using h
      have hget : a.get! i = a.data.toList[i] := by
        rw [ByteArray.get!, Array.getElem_toList]
        exact getElem!_pos a.data i (by simpa using h)
      rw [ByteArray.toList.loop, if_pos h, ih, List.drop_eq_getElem_cons hi, hget,
        List.reverse_cons, List.append_assoc]
      rfl
  | case2 i r h =>
      have hi : a.data.toList.length ≤ i := by simpa using h
      rw [ByteArray.toList.loop, if_neg h, List.drop_eq_nil_of_le hi, List.append_nil]

/-- The bytes of an array, one by one. -/
theorem toList_eq_toList_data (a : ByteArray) : a.toList = a.data.toList := by
  rw [ByteArray.toList, toList_loop]
  rfl

/-- The bytes of a text are those of its characters. -/
theorem encode_eq_flatMap (s : String) : encode s = s.toList.flatMap String.utf8EncodeChar := by
  have hbytes : s.toByteArray = s.toList.utf8Encode := String.utf8Encode_toList.symm
  rw [encode, String.toUTF8_eq_toByteArray, hbytes, toList_eq_toList_data, List.utf8Encode,
    List.toList_data_toByteArray]

@[simp] theorem encode_append (s t : String) : encode (s ++ t) = encode s ++ encode t := by
  rw [encode_eq_flatMap, encode_eq_flatMap, encode_eq_flatMap, String.toList_append,
    List.flatMap_append]

/-- An encoded text is decoded as itself. -/
@[simp] theorem decode?_encode (s : String) : decode? (encode s) = some s := by
  have hbytes : (⟨(encode s).toArray⟩ : ByteArray) = s.toByteArray := by
    rw [encode, String.toUTF8_eq_toByteArray, toList_eq_toList_data]
  rw [decode?, hbytes, String.fromUTF8?, dif_pos s.isValidUTF8]
  rfl

/-- A character below 128 is one byte, its code. -/
theorem utf8EncodeChar_of_lt (h : c.toNat < 128) :
    String.utf8EncodeChar c = [UInt8.ofNat c.toNat] :=
  if_pos (Nat.le_of_lt_succ h)

/-- A text of ASCII. -/
def IsAscii (s : String) : Prop := ∀ c ∈ s.toList, c.toNat < 128

-- by search this could become the instance that tries all characters there are
instance (s : String) : Decidable (IsAscii s) :=
  List.decidableBAll (fun c : Char => c.toNat < 128) s.toList

theorem IsAscii.append (hs : IsAscii s) (ht : IsAscii t) : IsAscii (s ++ t) := by
  intro c hc
  rw [String.toList_append] at hc
  exact (List.mem_append.mp hc).elim (hs c) (ht c)

/-- A text of ASCII has a byte for each character. -/
theorem encode_of_ascii (h : IsAscii s) :
    encode s = s.toList.map fun c => UInt8.ofNat c.toNat := by
  rw [encode_eq_flatMap, List.map_eq_flatMap]
  exact List.flatMap_congr fun c hc => utf8EncodeChar_of_lt (h c hc)

theorem encode_empty : encode "" = [] := encode_of_ascii (by decide)

/-- The bytes of a character outside of ASCII are outside of it too. -/
theorem le_of_mem_utf8EncodeChar (h : 128 ≤ c.toNat) (hb : b ∈ String.utf8EncodeChar c) :
    128 ≤ b.toNat := by
  have hne : ¬c.val.toNat ≤ 127 := Nat.not_le.mpr h
  unfold String.utf8EncodeChar at hb
  simp only [if_neg hne] at hb
  split at hb
  all_goals try split at hb
  all_goals
    simp only [List.mem_cons, List.not_mem_nil, or_false] at hb
    rcases hb with rfl | rfl | rfl | rfl <;> simp only [UInt8.toNat_ofNat'] <;> omega

/-- A byte of ASCII is only among the bytes of its character. -/
theorem mem_utf8EncodeChar_iff (hb : b.toNat < 128) :
    b ∈ String.utf8EncodeChar c ↔ c.toNat = b.toNat := by
  rcases Nat.lt_or_ge c.toNat 128 with hc | hc
  · rw [utf8EncodeChar_of_lt hc, List.mem_singleton]
    constructor
    · rintro rfl
      exact (Nat.mod_eq_of_lt (by omega)).symm
    · intro h
      rw [h, UInt8.ofNat_toNat]
  · constructor
    · intro h
      exact absurd (le_of_mem_utf8EncodeChar hc h) (Nat.not_le.mpr hb)
    · intro h
      omega

/-- The bytes of ASCII in a text are its characters of ASCII. -/
theorem mem_encode_iff (hb : b.toNat < 128) :
    b ∈ encode s ↔ ∃ c ∈ s.toList, c.toNat = b.toNat := by
  rw [encode_eq_flatMap, List.mem_flatMap]
  exact exists_congr fun c => and_congr_right fun _ => mem_utf8EncodeChar_iff hb

/-- Nothing is replaced where every byte is a character. -/
theorem replacing_ascii {cs : List Char} (h : ∀ c ∈ cs, c.toNat < 128) :
    replacing none (cs.map fun c => UInt8.ofNat c.toNat) = cs := by
  induction cs with
  | nil => rfl
  | cons c cs ih =>
      obtain ⟨hc, hcs⟩ := List.forall_mem_cons.mp h
      have hbyte : (UInt8.ofNat c.toNat).toNat = c.toNat := by
        rw [UInt8.toNat_ofNat']
        omega
      have hadvance : advance (UInt8.ofNat c.toNat).toNat none = ([c], none) := by
        rw [hbyte, advance, begin, leading, if_pos hc, Char.ofNat_toNat]
      rw [List.map_cons, replacing, hadvance]
      exact congrArg (c :: ·) (ih hcs)

/-- Nothing is replaced in ASCII. -/
theorem decodeReplacing_encode (h : IsAscii s) :
    decodeReplacing (encode s) = s := by
  rw [decodeReplacing, encode_of_ascii h, replacing_ascii h, String.ofList_toList]

/-! ## Lines. -/

/-- A text without line ends. -/
def Unbroken (s : String) : Prop := ∀ c ∈ s.toList, c ≠ '\n' ∧ c ≠ '\r'

instance (s : String) : Decidable (Unbroken s) :=
  List.decidableBAll (fun c => c ≠ '\n' ∧ c ≠ '\r') s.toList

theorem Unbroken.append (hs : Unbroken s) (ht : Unbroken t) : Unbroken (s ++ t) := by
  intro c hc
  rw [String.toList_append] at hc
  exact (List.mem_append.mp hc).elim (hs c) (ht c)

theorem Unbroken.not_mem (h : Unbroken s) : '\n' ∉ s.toList ∧ '\r' ∉ s.toList :=
  ⟨fun hc => (h _ hc).1 rfl, fun hc => (h _ hc).2 rfl⟩

/-- A byte below 128 is in an encoded text only for its own character: the others have
    larger bytes. -/
theorem not_mem_encode (hb : b.toNat < 128) (h : Char.ofNat b.toNat ∉ s.toList) :
    b ∉ encode s := by
  intro hmem
  obtain ⟨c, hc, hnumber⟩ := (mem_encode_iff hb).mp hmem
  rw [← hnumber, Char.ofNat_toNat] at h
  exact h hc

/-- Nor do the bytes of an unbroken text end a line. -/
theorem Unbroken.not_mem_encode (h : Unbroken s) : 10 ∉ encode s ∧ 13 ∉ encode s :=
  ⟨Text.not_mem_encode (by decide) h.not_mem.1, Text.not_mem_encode (by decide) h.not_mem.2⟩

/-- A byte that ends no line belongs to the first line of what follows. -/
theorem lines_cons (hfeed : b ≠ 10) (hend : b = 13 → bs.head? ≠ some 10) :
    lines (b :: bs) = match lines bs with
      | [] => [[b]]
      | l :: ls => (b :: l) :: ls :=
  lines.eq_4 b bs (fun _ hb hbs => hend hb (by rw [hbs]; rfl)) fun hb => absurd hb hfeed

theorem head?_ne_of_not_mem (h : b ∉ bs) : bs.head? ≠ some b :=
  fun hhead => h (List.mem_of_head? hhead)

/-- Bytes without a line feed are one line. -/
theorem lines_eq_singleton (hne : bs ≠ []) (hfeed : 10 ∉ bs) : lines bs = [bs] := by
  induction bs with
  | nil => exact absurd rfl hne
  | cons b bs ih =>
      obtain ⟨hb, hfeed⟩ := List.ne_and_not_mem_of_not_mem_cons hfeed
      rw [lines_cons (Ne.symm hb) fun _ => head?_ne_of_not_mem hfeed]
      cases bs with
      | nil => rfl
      | cons b' bs => rw [ih (List.cons_ne_nil _ _) hfeed]

/-- Bytes without a line feed are a line before a line feed. -/
theorem lines_append_feed (hfeed : 10 ∉ l) (hend : l.getLast? ≠ some 13) (bs : List UInt8) :
    lines (l ++ 10 :: bs) = l :: lines bs := by
  induction l with
  | nil => rfl
  | cons b l ih =>
      obtain ⟨hb, hfeed⟩ := List.ne_and_not_mem_of_not_mem_cons hfeed
      cases l with
      | nil => exact lines_cons (Ne.symm hb) fun h => absurd (congrArg some h) hend
      | cons b' l =>
          have hhead : (b' :: l ++ 10 :: bs).head? ≠ some 10 :=
            fun h => (List.ne_and_not_mem_of_not_mem_cons hfeed).1 (Option.some.inj h).symm
          rw [List.cons_append, lines_cons (Ne.symm hb) fun _ => hhead, ih hfeed hend]

/-- A carriage return before a line feed does not belong to the line. -/
theorem lines_append_return (hfeed : 10 ∉ l) (bs : List UInt8) :
    lines (l ++ 13 :: 10 :: bs) = l :: lines bs := by
  induction l with
  | nil => rfl
  | cons b l ih =>
      obtain ⟨hb, hfeed⟩ := List.ne_and_not_mem_of_not_mem_cons hfeed
      have hhead : (l ++ 13 :: 10 :: bs).head? ≠ some 10 := by
        cases l with
        | nil => exact fun h => absurd (Option.some.inj h) (by decide)
        | cons b' l =>
            exact fun h => (List.ne_and_not_mem_of_not_mem_cons hfeed).1 (Option.some.inj h).symm
      rw [List.cons_append, lines_cons (Ne.symm hb) fun _ => hhead, ih hfeed]

theorem encode_ne_nil (h : s ≠ "") : encode s ≠ [] := by
  intro hnil
  have hdecode := decode?_encode s
  rw [hnil] at hdecode
  exact h (Option.some.inj hdecode).symm

theorem encode_feed : encode "\n" = [10] := by
  rw [encode_eq_flatMap]
  rfl

theorem encode_return : encode "\r" = [13] := by
  rw [encode_eq_flatMap]
  rfl

/-- The last byte of a text is that of a carriage return only if its last
    character is. -/
theorem getLast?_encode_ne (h : s.toList.getLast? ≠ some '\r') : (encode s).getLast? ≠ some 13 := by
  rw [encode_eq_flatMap]
  rcases List.eq_nil_or_concat s.toList with hnil | ⟨cs, c, hcs⟩
  · rw [hnil]
    exact fun h => nomatch h
  · rw [hcs, List.concat_eq_append, List.getLast?_concat] at h
    rw [hcs, List.concat_eq_append, List.flatMap_append, List.flatMap_singleton,
      List.getLast?_append_of_ne_nil _ (String.utf8EncodeChar_ne_nil)]
    intro hlast
    have hc := (mem_utf8EncodeChar_iff (by decide)).mp (List.mem_of_getLast? hlast)
    exact h (congrArg some (Char.toNat_inj.mp hc))

/-- A text without a line feed is its only line. -/
theorem textLines_encode (hne : s ≠ "") (hfeed : '\n' ∉ s.toList) :
    textLines (encode s) = [some s] := by
  rw [textLines, lines_eq_singleton (encode_ne_nil hne) (not_mem_encode (by decide) hfeed),
    List.map_singleton, decode?_encode]

/-- A text without a line feed is a line before a line feed, if it does not end
    with a carriage return. -/
theorem textLines_append_feed (hfeed : '\n' ∉ s.toList) (hend : s.toList.getLast? ≠ some '\r')
    (bs : List UInt8) : textLines (encode (s ++ "\n") ++ bs) = some s :: textLines bs := by
  rw [encode_append, encode_feed, List.append_assoc, List.singleton_append, textLines,
    lines_append_feed (not_mem_encode (by decide) hfeed) (getLast?_encode_ne hend), List.map_cons,
    decode?_encode]
  rfl

/-- A text without a line feed is a line before a carriage return and a line
    feed. -/
theorem textLines_append_return (hfeed : '\n' ∉ s.toList) (bs : List UInt8) :
    textLines (encode (s ++ "\r" ++ "\n") ++ bs) = some s :: textLines bs := by
  rw [encode_append, encode_append, encode_feed, encode_return, List.append_assoc,
    List.append_assoc, List.singleton_append, List.singleton_append, textLines,
    lines_append_return (not_mem_encode (by decide) hfeed), List.map_cons, decode?_encode]
  rfl

/-- A text without line ends is a line before a line feed. -/
theorem textLines_line (h : Unbroken s) (bs : List UInt8) :
    textLines (encode (s ++ "\n") ++ bs) = some s :: textLines bs :=
  textLines_append_feed h.not_mem.1 (fun hend => h.not_mem.2 (List.mem_of_getLast? hend)) bs

/-- Lines that are joined by line feeds are cut again, if none is empty. -/
theorem textLines_intercalate {ss : List String} (h : ∀ s ∈ ss, s ≠ "" ∧ Unbroken s) :
    textLines (encode ("\n".intercalate ss)) = ss.map some := by
  induction ss with
  | nil =>
      rw [String.intercalate_nil, encode_empty]
      rfl
  | cons s ss ih =>
      obtain ⟨⟨hne, hs⟩, hrest⟩ := List.forall_mem_cons.mp h
      cases ss with
      | nil =>
          rw [String.intercalate_singleton, textLines_encode hne hs.not_mem.1, List.map_singleton]
      | cons t ss =>
          rw [String.intercalate_cons_cons, encode_append, textLines_line hs, ih hrest,
            List.map_cons (f := some) (a := s)]

end GuardedCnf.Text
