import CodeAtlas.Json.Basic

/-!
# Compact text of structured data

No spaces, members in order, and only the escapes that are needed: quote, backslash and the
characters below U+0020.
-/

namespace CodeAtlas.Json

/-- The lower-case hexadecimal digit of a number below 16. -/
def hexDigit (n : Nat) : Char := if n < 10 then Char.ofNat (48 + n) else Char.ofNat (87 + n)

/-- A character as it stands in a quoted string. -/
def escapeChar (c : Char) : Text :=
  if c = '"' then ['\\', '"']
  else if c = '\\' then ['\\', '\\']
  else if c = '\x08' then ['\\', 'b']
  else if c = '\x0c' then ['\\', 'f']
  else if c = '\n' then ['\\', 'n']
  else if c = '\r' then ['\\', 'r']
  else if c = '\t' then ['\\', 't']
  else if c.toNat < 32 then
    ['\\', 'u', '0', '0', hexDigit (c.toNat / 16), hexDigit (c.toNat % 16)]
  else [c]

/-- A text in quotes. -/
def quote (s : Text) : Text := '"' :: (s.flatMap escapeChar ++ ['"'])

/-- The text of a number. -/
def renderNumber : JsonNumber → Text
  | .int i => Text.ofInt i
  | .float x => x.render

mutual

/-- The compact text of a value. -/
def render : Json → Text
  | .null => "null".toList
  | .bool true => "true".toList
  | .bool false => "false".toList
  | .num n => renderNumber n
  | .str s => quote s
  | .arr es => '[' :: renderElements es
  | .obj ms => '\x7b' :: renderMembers ms

/-- The elements of an array and its closing bracket. -/
def renderElements : List Json → Text
  | [] => [']']
  | [e] => render e ++ [']']
  | e :: es => render e ++ ',' :: renderElements es

/-- The members of an object and its closing brace. -/
def renderMembers : List (Text × Json) → Text
  | [] => ['\x7d']
  | [(k, v)] => quote k ++ ':' :: (render v ++ ['\x7d'])
  | (k, v) :: ms => quote k ++ ':' :: (render v ++ ',' :: renderMembers ms)

end

end CodeAtlas.Json
