import Workflow.Number.Binary64

/-!
# The shortest decimal text of a double

A double is written with the fewest digits that read back as the same double, and of those digits
the ones nearest to its exact value; where two are equally near, the one whose last digit is even.
The numbers that round to a double form an interval around it, bounded by the midpoints to its two
neighbours, ends included when its code is even. On the decimal grid of each digit count only the
two neighbours of the value itself need a test: if any point of the grid is in the interval, one
of these is.

The layout is fixed: positional from `1e-5` up to below `1e16`, with `.0` on a whole number;
otherwise one digit, a point if more digits follow, and a signed exponent.
-/

namespace Workflow

namespace Binary64

/-- The lower end of what rounds to a code, in halves of a least unit. -/
def lowHalves (code : Nat) : Nat :=
  unitsOfCode (code - 1) + unitsOfCode code

/-- The upper end of what rounds to a code, in halves of a least unit. -/
def highHalves (code : Nat) : Nat :=
  unitsOfCode code + unitsOfCode (code + 1)

/-- A decimal numeral: `digits * 10 ^ exponent`. -/
structure Numeral where
  digits : Nat
  exponent : Int
deriving DecidableEq, Repr

namespace Numeral

/-- The factors by which a numeral and a count of least units are made comparable. -/
def scale (n : Numeral) : Nat × Nat :=
  (Nat.pow 10 n.exponent.toNat * one, Nat.pow 10 (-n.exponent).toNat)

/-- Whether a numeral rounds to a code. -/
def roundsTo (n : Numeral) (code : Nat) : Bool :=
  let (mine, its) := n.scale
  let x := 2 * n.digits * mine
  if code % 2 = 0 then
    lowHalves code * its ≤ x && x ≤ highHalves code * its
  else
    lowHalves code * its < x && x < highHalves code * its

/-- How far a numeral is from a code's value, comparable among numerals of one exponent. -/
def distance (n : Numeral) (code : Nat) : Nat :=
  let (mine, its) := n.scale
  (n.digits * mine : Int) - (unitsOfCode code * its : Nat) |>.natAbs

/-- The nearer of two neighbours on a grid to a code's value; halfway, the one that is even. -/
def nearerTo (floor : Numeral) (code : Nat) (ceiling : Numeral) : Numeral :=
  if floor.distance code < ceiling.distance code then floor
  else if ceiling.distance code < floor.distance code then ceiling
  else if floor.digits % 2 = 0 then floor
  else ceiling

/-- The numeral without trailing zeros in its digits. -/
def trimmed (n : Numeral) : Numeral :=
  if h : n.digits ≠ 0 ∧ n.digits % 10 = 0 then
    trimmed ⟨n.digits / 10, n.exponent + 1⟩
  else n
termination_by n.digits
decreasing_by exact Nat.div_lt_self (Nat.pos_of_ne_zero h.1) (by decide)

end Numeral

/-- The exponent of the leading decimal digit of a non-zero count of least units. -/
def leadingExponent (units : Nat) : Int :=
  if one ≤ units then
    ((Nat.toDigits 10 (units / one)).length - 1 : Nat)
  else
    -(((List.range 325).find? fun k => one ≤ units * Nat.pow 10 k).getD 0 : Nat)

/-- The better of the two grid points beside a code's value, if either rounds to the code. Each
grid has `count` digits from the leading one on. -/
def nearestNumeral? (code count : Nat) : Option Numeral :=
  let exponent := leadingExponent (unitsOfCode code) - count + 1
  let (mine, its) := Numeral.scale ⟨0, exponent⟩
  let floor : Numeral := ⟨unitsOfCode code * its / mine, exponent⟩
  let ceiling : Numeral := ⟨floor.digits + 1, exponent⟩
  match floor.roundsTo code, ceiling.roundsTo code with
  | false, false => none
  | true, false => some floor
  | false, true => some ceiling
  | true, true => some (floor.nearerTo code ceiling)

/-- The shortest numeral that rounds to a non-zero code; seventeen digits always do. -/
def shortest (code : Nat) : Numeral :=
  (((List.range 17).findSome? fun n => nearestNumeral? code (n + 1)).getD ⟨0, 0⟩).trimmed

/-- The text of a positive numeral. -/
def Numeral.text (n : Numeral) : List Char :=
  let digits := Nat.toDigits 10 n.digits
  let leading : Int := n.exponent + digits.length - 1
  if leading < -5 ∨ 16 ≤ leading then
    let fraction := if digits.length = 1 then [] else '.' :: digits.drop 1
    let sign := if leading < 0 then '-' else '+'
    digits.take 1 ++ fraction ++ 'e' :: sign :: Nat.toDigits 10 leading.natAbs
  else if leading < 0 then
    '0' :: '.' :: List.replicate (leading.natAbs - 1) '0' ++ digits
  else
    let whole := leading.toNat + 1
    if digits.length ≤ whole then
      digits ++ List.replicate (whole - digits.length) '0' ++ ['.', '0']
    else
      digits.take whole ++ '.' :: digits.drop whole

/-- The decimal text of a double: its sign, then the shortest numeral that reads back. -/
def text (x : Binary64) : List Char :=
  let magnitude := if x.code = 0 then ['0', '.', '0'] else (shortest x.code).text
  if x.negative then '-' :: magnitude else magnitude

end Binary64

end Workflow
