import CodeAtlas.Text.Basic

/-!
# Hexadecimal digits

The numbers that digits stand for, in either case.
-/

namespace CodeAtlas.Text

/-- The value of a hexadecimal digit. -/
def hexDigit? (c : Char) : Option Nat :=
  if '0' ≤ c ∧ c ≤ '9' then some (c.toNat - '0'.toNat)
  else if 'a' ≤ c ∧ c ≤ 'f' then some (c.toNat - 'a'.toNat + 10)
  else if 'A' ≤ c ∧ c ≤ 'F' then some (c.toNat - 'A'.toNat + 10)
  else none

/-- The value of a non-empty text of hexadecimal digits. -/
def hexValue? (s : Text) : Option Nat :=
  if s.isEmpty then none
  else s.foldl (fun v c => v.bind fun v => (hexDigit? c).map (16 * v + ·)) (some 0)

end CodeAtlas.Text
