import CodeAtlas.Unicode.Unseen

/-!
# Quoted texts

A text between double quotes, as messages show it. Quotes, backslashes and characters that
cannot be seen are escaped, so that the quoted text has one line and ends at its last quote.
-/

namespace CodeAtlas.Text

/-- Whether a character cannot be seen: it is a control or format character, white space other
than the space, of private use or not assigned, or it goes with the character before it. -/
def isUnseen (c : Char) : Bool := within c.toNat Unseen.ranges

/-- A character as it stands between the quotes. -/
def quoteChar (c : Char) : Text :=
  if c = '"' then ['\\', '"']
  else if c = '\\' then ['\\', '\\']
  else if c = '\n' then ['\\', 'n']
  else if c = '\r' then ['\\', 'r']
  else if c = '\t' then ['\\', 't']
  else if c = '\x00' then ['\\', '0']
  else if isUnseen c then '\\' :: 'u' :: '\x7b' :: (Nat.toDigits 16 c.toNat ++ ['\x7d'])
  else [c]

/-- A text between double quotes. -/
def quoted (s : Text) : Text := '"' :: (s.flatMap quoteChar ++ ['"'])

end CodeAtlas.Text
