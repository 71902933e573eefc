import GuardedCnf.Text.Utf8
/-! # Octets — bytes as characters

    Programs of a system work on bytes.  A text of octets has a character for
    each byte, whose number is the byte, so that bytes can be handled as text
    whether or not they are UTF-8. -/

namespace GuardedCnf.Octets

/-- The octets of bytes. -/
def ofBytes (bytes : ByteArray) : String :=
  bytes.foldl (fun text b => text.push (Char.ofNat b.toNat)) ""

/-- The bytes of octets. -/
def toBytes (octets : String) : ByteArray :=
  octets.toList.foldl (fun bytes c => bytes.push c.toNat.toUInt8) .empty

/-- The octets of a text in UTF-8. -/
def ofText (text : String) : String := ofBytes text.toUTF8

/-- The text that octets are in UTF-8, with replacements where they are none. -/
def toText (octets : String) : String := Text.decodeReplacing (toBytes octets).toList

end GuardedCnf.Octets
