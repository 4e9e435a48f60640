import Workflow.Text.Percent

/-!
# Tables of code points

The standard that defines characters lists their properties in tables. Here such a table is kept as
text, one word a row. A row starts with one code point, or with two and a hyphen between them, which
stand for all from the one to the other, or with `/2` after them for every second one. Values may
follow after an equals sign, with full stops between them. Numbers are hexadecimal. A row may run
over code points that stand for no character.
-/

namespace Workflow

/-- Some code points at equal distances, with the values that they share. -/
structure CodeRow where
  first : Nat
  last : Nat
  step : Nat
  values : List Nat
deriving DecidableEq, Repr

/-- A table of properties; no code point is in two of its rows. -/
abbrev CodeTable :=
  List CodeRow

/-- Whether a row is about a character. -/
def CodeRow.covers (row : CodeRow) (c : Char) : Bool :=
  row.first ≤ c.toNat && c.toNat ≤ row.last && (c.toNat - row.first) % row.step = 0

namespace CodeTable

/-- The number that hexadecimal digits stand for. -/
def number (digits : List Char) : Nat :=
  digits.foldl (fun n c => 16 * n + (Percent.hexValue? c).getD 0) 0

/-- A row from its text. -/
def readRow (word : List Char) : CodeRow :=
  let (range, values) := word.span (· ≠ '=')
  let (ends, step) := range.span (· ≠ '/')
  { first := number (ends.takeWhile (· ≠ '-'))
    last := number ((ends.reverse.takeWhile (· ≠ '-')).reverse)
    step := if step = [] then 1 else 2
    values := if values = [] then [] else ((values.drop 1).splitOn '.').map number }

/-- A table from its text. -/
def read (text : String) : CodeTable :=
  ((text.toList.splitOnP Char.isWhitespace).filter (· ≠ [])).map readRow

/-- Whether a table is about a character. -/
def covers (table : CodeTable) (c : Char) : Bool :=
  table.any (·.covers c)

/-- The values of a character in a table: none if the table is not about it. -/
def values (table : CodeTable) (c : Char) : List Nat :=
  ((table.find? (·.covers c)).map (·.values)).getD []

/-- The text that a table has for a character. The values of a row are those of its first code
point; those of the others are as far from them as the code points are from the first. -/
def image? (table : CodeTable) (c : Char) : Option (List Char) :=
  (table.find? (·.covers c)).map fun row =>
    row.values.map fun value => Char.ofNat (value + (c.toNat - row.first))

end CodeTable

end Workflow
