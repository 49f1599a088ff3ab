import CodeAtlas.Python.Outline
import CodeAtlas.Unicode.CharacterName

/-!
# A reader

`Reader.standard` looks names of characters up in the table, and puts the first error where reading
stops, or a bracket or format string opens that never closes, if that is earlier. Where many are
open at the end of a text, the whole text is the error, from its first token or comment on.
-/

namespace CodeAtlas.Python

/-- The line of the innermost bracket or of the outermost format string that is open. -/
def openLine? : List Nest → Option Nat
  | [] => none
  | .format _ _ _ line :: rest => some ((openFormat? rest).getD line)
  | .bracket _ line :: rest => some ((openFormat? rest).getD line)
  | .field _ :: rest => openLine? rest
  | .spec _ _ :: rest => openLine? rest
where
  /-- The line of the outermost format string that is open. -/
  openFormat? : List Nest → Option Nat
  | [] => none
  | .format _ _ _ line :: rest => some ((openFormat? rest).getD line)
  | _ :: rest => openFormat? rest

/-- How many characters come before the given line. -/
def lineStart : Nat → Text → Nat
  | _, [] => 0
  | 0, _ | 1, _ => 0
  | n + 2, c :: s => 1 + lineStart (if c = '\n' then n + 1 else n + 2) s

namespace Reader

/-- From how many things on that are open at the end of a text the whole text is one error. -/
def maxOpen : Nat := 16

/-- The line of the first error in a text of which reading stops on line `n`. -/
def stopLine (t : Scanned) (n : Nat) : Nat := min (min n ((openLine? t.nests).getD n)) t.last

/-- How many characters of a text come before its first error. -/
def firstError (s : Text) : Nat :=
  match Suite.parse s with
  | .ok _ => 0
  | .error n =>
    let t := Scanned.ofText s
    if maxOpen ≤ t.nests.length then (s.takeWhile fun c => c == '\n' || Front.isSpace c).length
    else lineStart (stopLine t n) s

/-- The reader with the table of names. -/
def standard : Reader := ⟨CharacterName.lookup?, firstError⟩

end Reader

end CodeAtlas.Python
