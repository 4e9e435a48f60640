import Workflow.Text.Digits
import Workflow.Number.Binary64

/-!
# Numbers as they are read from decimal text

A number is a whole number of 64 bits when it is written as one, and a double otherwise. A double
is read in two steps, each rounded: the leading digits, as many as fit in 64 bits, make a
significand; the significand is then multiplied or divided by a power of ten. The result is the
nearest double for short numerals and may be a neighbour of it for long ones.
-/

namespace Workflow

/-- A number of a JSON text: a whole number in the range of unsigned or of negative signed 64-bit
integers, or a finite double. Minus zero is a double. -/
inductive Number where
  | integer (value : Int) (inRange : -0x8000000000000000 ≤ value ∧ value < 0x10000000000000000)
  | real (value : Binary64)
deriving DecidableEq, Repr

instance : Inhabited Number := ⟨.integer 0 (by decide)⟩

/-- The double nearest to a number. -/
def Number.toBinary64 : Number → Binary64
  | .integer n h => Binary64.ofInt n (by omega)
  | .real x => x

/-- Greatest significand that is read exactly. -/
def Number.maxSignificand : Nat := 0xffffffffffffffff

/-- The digits that extend a significand within its limit, and those left over. -/
def Number.extend (significand : Nat) : List Char → Nat × List Char
  | [] => (significand, [])
  | c :: rest =>
    let next := significand * 10 + digitValue c
    if next ≤ maxSignificand then extend next rest else (significand, c :: rest)

theorem Number.extend_le {significand : Nat} {digits : List Char}
    (h : significand ≤ maxSignificand) : (extend significand digits).1 ≤ maxSignificand := by
  induction digits generalizing significand with
  | nil => exact h
  | cons c rest ih =>
    unfold extend
    simp only
    split
    · rename_i hn
      exact ih hn
    · exact h

namespace Binary64

/-- Divide by `10 ^ k`, at most `10 ^ 308` at a time; nothing is left to divide once the quotient
is zero. -/
def scaleDown? (x : Binary64) (k : Nat) : Option Binary64 :=
  if k ≤ 308 then
    (powerOfTen? k).bind x.div?
  else if x.code = 0 then
    some x
  else
    ((powerOfTen? 308).bind x.div?).bind fun y => scaleDown? y (k - 308)
termination_by k

/-- Multiply by `10 ^ k`; a non-zero number cannot take a power above `10 ^ 308`. -/
def scaleUp? (x : Binary64) (k : Nat) : Option Binary64 :=
  if k ≤ 308 then
    (powerOfTen? k).bind x.mul?
  else if x.code = 0 then
    some x
  else
    none

/-- The double read for `significand * 10 ^ exponent`, if it is in range. -/
def ofScientific? (negative : Bool) (significand : Nat) (h : significand ≤ Number.maxSignificand)
    (exponent : Int) : Option Binary64 :=
  let x := ofNat significand (by unfold Number.maxSignificand at h; omega)
  let scaled := if 0 ≤ exponent then x.scaleUp? exponent.toNat else x.scaleDown? exponent.natAbs
  scaled.map fun y => { y with negative := negative }

end Binary64

namespace Number

/-- A whole number without fraction and exponent: kept exactly within 64 bits. Minus zero, and
negative numbers beyond 64 bits, are doubles. -/
def ofSignificand (negative : Bool) (significand : Nat) (h : significand ≤ maxSignificand) :
    Number :=
  if negative then
    if hn : 0 < significand ∧ significand ≤ 0x8000000000000000 then
      .integer (-(significand : Int)) (by omega)
    else
      .real (Binary64.ofNat significand (by unfold maxSignificand at h; omega)).neg
  else
    .integer significand (by unfold maxSignificand at h; omega)

/-- The number for a sign, the digits before and after the point, and an exponent if one is
written. Digits that no longer fit in the significand count as zeros before the point and are
dropped after it. -/
def ofDigits? (negative : Bool) (whole fraction : List Char) (exponent : Option Int) :
    Option Number :=
  let first := extend 0 whole
  let second := extend first.1 fraction
  have h : second.1 ≤ maxSignificand := extend_le (extend_le (Nat.zero_le _))
  if first.2.isEmpty && fraction.isEmpty && exponent.isNone then
    some (ofSignificand negative second.1 h)
  else
    let taken := fraction.length - second.2.length
    (Binary64.ofScientific? negative second.1 h
      ((first.2.length : Int) - taken + exponent.getD 0)).map .real

end Number

end Workflow
