import Workflow.Text.Blank
import Workflow.Text.Digits
import Workflow.Timestamp.Basic

/-!
# Timestamps as text

A timestamp is written `YYYY-MM-DDTHH:MM:SS`, followed by a point and 3, 6 or 9 digits if it has
a fraction of a second, the fewest that hold it. A year outside 0 to 9999 has a sign. A leap
second is written as one second more, so after the last second of a minute as second 60.

Reading is more generous: fields need no leading zeros, white space may stand before every number
and separator and at the end, and digits of a second beyond the ninth are cut off. Second 60 is
read as the leap second of its minute.
-/

namespace Workflow

namespace Timestamp

/-- A number in decimal digits, padded with zeros to a width. -/
def padded (width n : Nat) : List Char :=
  let digits := Nat.toDigits 10 n
  List.replicate (width - digits.length) '0' ++ digits

/-- A year: four digits, and a sign if it is not between 0 and 9999. -/
def yearText (year : Int) : List Char :=
  if 0 ≤ year ∧ year ≤ 9999 then padded 4 year.toNat
  else (if year < 0 then '-' else '+') :: padded 4 year.natAbs

/-- A fraction of a second in the fewest of 0, 3, 6 or 9 digits. -/
def fractionText (nanosecond : Nat) : List Char :=
  if nanosecond = 0 then []
  else if nanosecond % 1000000 = 0 then '.' :: padded 3 (nanosecond / 1000000)
  else if nanosecond % 1000 = 0 then '.' :: padded 6 (nanosecond / 1000)
  else '.' :: padded 9 nanosecond

/-- A timestamp as text. -/
def text (t : Timestamp) : List Char :=
  yearText t.year ++ '-' :: padded 2 t.month ++ '-' :: padded 2 t.day ++
    'T' :: padded 2 t.hour ++ ':' :: padded 2 t.minute ++
    ':' :: padded 2 (t.second + t.nanosecond / nanosPerSecond) ++
    fractionText (t.nanosecond % nanosPerSecond)

/-! ## Reading -/

/-- The text from its first character that is not white space. -/
def trimStart (text : List Char) : List Char :=
  text.dropWhile isWhiteSpace

/-- At least one and at most `width` digits, and what follows. -/
def readDigits (width : Nat) (text : List Char) : Option (List Char × List Char) :=
  match (text.take width).takeWhile Char.isDigit with
  | [] => none
  | digits => some (digits, text.drop digits.length)

/-- A number of at most `width` digits, after white space. -/
def readNumber (width : Nat) (text : List Char) : Option (Nat × List Char) := do
  let (digits, rest) ← readDigits width (trimStart text)
  return (digitsValue digits, rest)

/-- A year: up to four digits, or a sign and any number of them. -/
def readYear (text : List Char) : Option (Int × List Char) :=
  match trimStart text with
  | '-' :: rest => do
    let (digits, rest) ← readDigits rest.length rest
    return (-(digitsValue digits : Int), rest)
  | '+' :: rest => do
    let (digits, rest) ← readDigits rest.length rest
    return ((digitsValue digits : Int), rest)
  | rest => do
    let (digits, rest) ← readDigits 4 rest
    return ((digitsValue digits : Int), rest)

/-- A separator, after white space. -/
def readSeparator (separator : Char) (text : List Char) : Option (List Char) :=
  match trimStart text with
  | c :: rest => if c = separator then some rest else none
  | [] => none

/-- Nanoseconds from the digits after the point, if there is one. -/
def readFraction : List Char → Option (Nat × List Char)
  | '.' :: text => do
    let (digits, rest) ← readDigits 9 text
    return (digitsValue digits * Nat.pow 10 (9 - digits.length), rest.dropWhile Char.isDigit)
  | text => some (0, text)

/-- The timestamp with fields as they are written. -/
def ofWritten? (year : Int) (month day hour minute second nanosecond : Nat) : Option Timestamp :=
  if second = 60 then ofFields? year month day hour minute 59 (nanosecond + nanosPerSecond)
  else ofFields? year month day hour minute second nanosecond

/-- The timestamp that a text stands for. -/
def ofText? (text : List Char) : Option Timestamp := do
  let (year, text) ← readYear text
  let text ← readSeparator '-' text
  let (month, text) ← readNumber 2 text
  let text ← readSeparator '-' text
  let (day, text) ← readNumber 2 text
  let text ← readSeparator 'T' text
  let (hour, text) ← readNumber 2 text
  let text ← readSeparator ':' text
  let (minute, text) ← readNumber 2 text
  let text ← readSeparator ':' text
  let (second, text) ← readNumber 2 text
  let (nanosecond, text) ← readFraction text
  if (trimStart text).isEmpty then ofWritten? year month day hour minute second nanosecond
  else none

end Timestamp

end Workflow
