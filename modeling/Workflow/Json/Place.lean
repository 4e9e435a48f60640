import Workflow.Text.Digits

/-!
# Places in a text

What is wrong with a JSON text is told with the place where it is wrong, a line and a column at the
end of the message. A message in other words that ends so is taken to tell a place too: its numbers
are written without leading zeros, and since there is no line zero such a place is left out.
-/

namespace Workflow

/-- A line and a column of a text. -/
structure Place where
  line : Nat
  column : Nat
deriving DecidableEq, Repr

namespace Place

/-- A number of 64 bits at the front of a text, and what follows it. -/
def takeNumber? (text : List Char) : Option (Nat × List Char) :=
  let (digits, rest) := takeDigits text
  if digits ≠ [] ∧ digitsValue digits < 0x10000000000000000 then some (digitsValue digits, rest)
  else none

/-- What follows a phrase at the front of a text. -/
def after? (phrase : String) (text : List Char) : Option (List Char) :=
  if phrase.toList.isPrefixOf text then some (text.drop phrase.length) else none

/-- A place from its text. -/
def ofText? (text : List Char) : Option Place := do
  let (line, rest) ← takeNumber? (← after? " at line " text)
  match ← takeNumber? (← after? " column " rest) with
  | (column, []) => some ⟨line, column⟩
  | _ => none

/-- A place as it is told after a message. -/
def text (place : Place) : List Char :=
  if place.line = 0 then []
  else " at line ".toList ++ Nat.toDigits 10 place.line ++
    " column ".toList ++ Nat.toDigits 10 place.column

/-- A message whose place, if it ends in one, is told in plain numbers. -/
def plain : List Char → List Char
  | [] => []
  | c :: rest =>
    match ofText? (c :: rest) with
    | some place => place.text
    | none => c :: plain rest

end Place

end Workflow
