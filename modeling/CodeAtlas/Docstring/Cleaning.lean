import CodeAtlas.Text.Blank
import CodeAtlas.Text.Tab

/-!
# Cleaning the indentation of a docstring

Tabs are expanded to stops of eight columns, the first line loses its leading white space, the
lines after it lose their common margin, and empty lines at either end are dropped. A line of
white space that is longer than the margin keeps the rest.

The margin is counted in bytes of UTF-8. Where it does not end between two characters of a
line, or the line is shorter, all leading white space of that line goes instead.
-/

namespace CodeAtlas.Docstring

/-- The size in bytes of a line's leading white space. -/
def indentBytes (line : Text) : Nat := Text.byteSize (line.takeWhile isBlank)

/-- The least indentation of the lines that hold more than white space. -/
def margin? : List Text → Option Nat
  | [] => none
  | l :: ls =>
    if Text.allBlank l then margin? ls
    else
      match margin? ls with
      | none => some (indentBytes l)
      | some m => some (min (indentBytes l) m)

/-- A line without the margin. -/
def dedent (margin : Nat) (line : Text) : Text :=
  (Text.dropBytes? margin line).getD (Text.trimStart line)

/-- The lines, cleaned of their indentation. -/
def dedentAll : List Text → List Text
  | [] => []
  | first :: rest =>
    Text.trimStart first ::
      match margin? rest with
      | some m => rest.map (dedent m)
      | none => rest

/-- The lines without the empty ones at either end. -/
def dropEmptyEnds (ls : List Text) : List Text :=
  ((ls.reverse.dropWhile List.isEmpty).reverse).dropWhile List.isEmpty

/-- A docstring cleaned of its indentation. -/
def clean (doc : Text) : Text :=
  Text.unlines (dropEmptyEnds (dedentAll (Text.lines (Text.expandFrom 8 0 doc))))

end CodeAtlas.Docstring
