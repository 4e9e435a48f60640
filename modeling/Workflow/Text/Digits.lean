/-!
# Decimal digits

What numbers and timestamps share when they are read: the leading digits of a text and the value
of a string of digits.
-/

namespace Workflow

/-- Leading decimal digits, and what follows them. -/
def takeDigits (text : List Char) : List Char × List Char :=
  (text.takeWhile Char.isDigit, text.dropWhile Char.isDigit)

/-- The value of one digit. -/
def digitValue (c : Char) : Nat :=
  c.toNat - '0'.toNat

/-- The value of a string of digits. -/
def digitsValue (digits : List Char) : Nat :=
  digits.foldl (fun n c => n * 10 + digitValue c) 0

@[simp] theorem takeDigits_append (text : List Char) :
    (takeDigits text).1 ++ (takeDigits text).2 = text :=
  List.takeWhile_append_dropWhile

end Workflow
