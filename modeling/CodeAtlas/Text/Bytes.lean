import CodeAtlas.Text.Basic

/-!
# Bytes

Names and paths are sequences of bytes. The bytes of a text are its UTF-8 encoding; bytes that
encode no text are shown as one all the same, with U+FFFD wherever no character can be read.
-/

namespace CodeAtlas

/-- A sequence of bytes. -/
abbrev Bytes := List UInt8

namespace Text

/-- The UTF-8 encoding of a text. -/
def utf8 (s : Text) : Bytes := s.flatMap String.utf8EncodeChar

/-- Whether a byte may come after the first one of a character. -/
def isTrail (b : UInt8) : Bool := 0x80 ≤ b && b ≤ 0xBF

/-- Whether a byte may come second in a character of three or four bytes with the given first
one. After some first bytes fewer may follow, so that no character has two encodings and no
encoding stands for a surrogate or for more than U+10FFFF. -/
def mayFollow (first second : UInt8) : Bool :=
  if first == 0xE0 then 0xA0 ≤ second && second ≤ 0xBF
  else if first == 0xED then 0x80 ≤ second && second ≤ 0x9F
  else if first == 0xF0 then 0x90 ≤ second && second ≤ 0xBF
  else if first == 0xF4 then 0x80 ≤ second && second ≤ 0x8F
  else 0xE1 ≤ first && first ≤ 0xF3 && isTrail second

/-- How many bytes a character takes that breaks off at the front of some bytes: as many as could
begin one, and at least one. -/
def brokenSize : Bytes → Nat
  | first :: second :: rest =>
    if mayFollow first second then
      if 0xF0 ≤ first && (rest.head?.map isTrail).getD false then 3 else 2
    else 1
  | _ => 1

/-- The text that bytes are shown as. Each character that breaks off is replaced by U+FFFD. -/
def shown : Bytes → Text
  | [] => []
  | b :: bs =>
    match (b :: bs).toByteArray.utf8DecodeChar? 0 with
    | some c => c :: shown ((b :: bs).drop c.utf8Size)
    | none => '\ufffd' :: shown ((b :: bs).drop (brokenSize (b :: bs)))
termination_by bs => bs.length
decreasing_by
  · have hsize : 0 < c.utf8Size := c.utf8Size_pos
    simp only [List.length_drop, List.length_cons]
    omega
  · have hsize : 0 < brokenSize (b :: bs) := by
      unfold brokenSize
      split
      · split
        · split <;> decide
        · decide
      · decide
    simp only [List.length_drop, List.length_cons]
    omega

end Text

end CodeAtlas
