import Workflow.Number.Shortest
import Workflow.Json.Basic

/-!
# JSON text

The two written forms of a value. The compact form has no space at all. The indented form puts
every item and member on a line of its own, two spaces deeper than its container, with one space
after the colon; an empty container stays on one line.

Strings escape the quotation mark, the backslash and the characters below U+0020, with the short
form where JSON has one; every other character stands for itself.
-/

namespace Workflow

namespace Json

/-- A hexadecimal digit in lower case. -/
def hexDigit (n : Nat) : Char :=
  if n < 10 then Char.ofNat ('0'.toNat + n) else Char.ofNat ('a'.toNat + (n - 10))

/-- A character as it stands in a quoted string. -/
def escape (c : Char) : List Char :=
  if c = '"' then ['\\', '"']
  else if c = '\\' then ['\\', '\\']
  else if c = '\x08' then ['\\', 'b']
  else if c = '\x0c' then ['\\', 'f']
  else if c = '\n' then ['\\', 'n']
  else if c = '\r' then ['\\', 'r']
  else if c = '\t' then ['\\', 't']
  else if c.toNat < 0x20 then
    ['\\', 'u', '0', '0', hexDigit (c.toNat / 16), hexDigit (c.toNat % 16)]
  else [c]

/-- A quoted string. -/
def quote (s : String) : List Char :=
  '"' :: s.toList.flatMap escape ++ ['"']

/-- The digits of a whole number, with its sign if negative. -/
def integerText (n : Int) : List Char :=
  if n < 0 then '-' :: Nat.toDigits 10 n.natAbs else Nat.toDigits 10 n.natAbs

/-- A number as it is written. -/
def numberText : Number → List Char
  | .integer n _ => integerText n
  | .real x => x.text

mutual

/-- The compact form. -/
def print : Json → List Char
  | .null => ['n', 'u', 'l', 'l']
  | .bool true => ['t', 'r', 'u', 'e']
  | .bool false => ['f', 'a', 'l', 's', 'e']
  | .number n => numberText n
  | .string s => quote s
  | .array items => '[' :: printItems items ++ [']']
  | .object members => '{' :: printMembers members ++ ['}']

/-- Items of an array, with a comma between any two. -/
def printItems : List Json → List Char
  | [] => []
  | [item] => print item
  | item :: next :: rest => print item ++ ',' :: printItems (next :: rest)

/-- Members of an object, with a comma between any two. -/
def printMembers : List (String × Json) → List Char
  | [] => []
  | [(key, value)] => quote key ++ ':' :: print value
  | (key, value) :: next :: rest =>
    quote key ++ ':' :: print value ++ ',' :: printMembers (next :: rest)

end

/-- A new line, indented for a nesting depth. -/
def lineBreak (depth : Nat) : List Char :=
  '\n' :: List.replicate (2 * depth) ' '

mutual

/-- The indented form of a value inside `depth` containers. -/
def printIndented (depth : Nat) : Json → List Char
  | .null => ['n', 'u', 'l', 'l']
  | .bool true => ['t', 'r', 'u', 'e']
  | .bool false => ['f', 'a', 'l', 's', 'e']
  | .number n => numberText n
  | .string s => quote s
  | .array [] => ['[', ']']
  | .array (item :: rest) =>
    '[' :: lineBreak (depth + 1) ++ printIndented (depth + 1) item ++
      printIndentedItems (depth + 1) rest ++ lineBreak depth ++ [']']
  | .object [] => ['{', '}']
  | .object ((key, value) :: rest) =>
    '{' :: lineBreak (depth + 1) ++ quote key ++ ':' :: ' ' :: printIndented (depth + 1) value ++
      printIndentedMembers (depth + 1) rest ++ lineBreak depth ++ ['}']

/-- The items after the first, each after a comma and on its own line. -/
def printIndentedItems (depth : Nat) : List Json → List Char
  | [] => []
  | item :: rest =>
    ',' :: lineBreak depth ++ printIndented depth item ++ printIndentedItems depth rest

/-- The members after the first, each after a comma and on its own line. -/
def printIndentedMembers (depth : Nat) : List (String × Json) → List Char
  | [] => []
  | (key, value) :: rest =>
    ',' :: lineBreak depth ++ quote key ++ ':' :: ' ' :: printIndented depth value ++
      printIndentedMembers depth rest

end

/-- The compact text of a value. -/
def compact (value : Json) : String :=
  String.ofList value.print

/-- The indented text of a value, without a final line break. -/
def pretty (value : Json) : String :=
  String.ofList (value.printIndented 0)

end Json

end Workflow
