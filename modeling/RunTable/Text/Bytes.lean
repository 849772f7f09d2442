import RunTable.Text.Pieces

/-!
Names that are given as bytes. Bytes that spell characters are read as these. Any other byte is
written as a null character and the character with its number; no name has a null character of its
own, so different bytes never give one name.
-/

namespace RunTable.Text

/-- The characters of bytes from a place on. -/
def charsFrom (bytes : ByteArray) (i : Nat) : List Char :=
  if h : i < bytes.size then
    match bytes.utf8DecodeChar? i with
    | some c => c :: charsFrom bytes (i + c.utf8Size)
    | none => '\x00' :: Char.ofNat bytes[i].toNat :: charsFrom bytes (i + 1)
  else []
termination_by bytes.size - i
decreasing_by
  · have := c.utf8Size_pos
    omega
  · omega

def ofBytes (bytes : List UInt8) : String := .ofList (charsFrom ⟨bytes.toArray⟩ 0)

/-- The number of bytes that give a name. A byte that spells no character takes three to write. -/
def byteCount (name : String) : Nat := name.utf8ByteSize - 2 * name.toList.count '\x00'

end RunTable.Text
