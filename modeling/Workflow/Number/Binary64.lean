/-!
# Finite binary64 numbers

A number with a fraction or an exponent is kept as a finite IEEE 754 double: a sign and the lower
63 bits of its encoding, read as a natural number. Those codes are in the order of the magnitudes
they stand for, and the magnitude of each is a whole number of units of `2 ^ (-1074)`; every rule
below is therefore arithmetic on natural numbers, with no rounding but the one it states.

`nearestCode` rounds an exact ratio to the nearest code, a tie going to the even one. Products
and quotients are the exact result rounded by it, and are absent when they overflow.
-/

namespace Workflow

/-- How many codes share an exponent: two to the power 52. -/
def Binary64.binadeSize : Nat := 0x10000000000000

/-- The least code that no finite double has. -/
def Binary64.codeLimit : Nat := 2047 * binadeSize

/-- A finite double: its sign, and the other 63 bits of its encoding as a number. -/
structure Binary64 where
  negative : Bool
  code : Nat
  code_lt : code < Binary64.codeLimit
deriving DecidableEq, Repr

namespace Binary64

/-- The unit of the last place of a code is `2 ^ unitExponent` least units. -/
def unitExponent (code : Nat) : Nat :=
  code / binadeSize - 1

/-- The 53-bit significand of a code; the leading bit of a subnormal one is not set. -/
def significand (code : Nat) : Nat :=
  if code < binadeSize then code else binadeSize + code % binadeSize

/-- The magnitude of a code, in units of `2 ^ (-1074)`. -/
def unitsOfCode (code : Nat) : Nat :=
  significand code <<< unitExponent code

/-- The magnitude of a double, in units of `2 ^ (-1074)`. -/
def units (x : Binary64) : Nat :=
  unitsOfCode x.code

/-- Least units in the number one. -/
def one : Nat := 1 <<< 1074

/-- A quotient rounded to the nearest whole number, a half going to the even neighbour. -/
def divHalfEven (a d : Nat) : Nat :=
  let q := a / d
  let r := a % d
  if 2 * r < d then q else if d < 2 * r then q + 1 else q + q % 2

/-- The code nearest to `a / d` least units, a tie going to the even code. -/
def nearestCode (a d : Nat) : Nat :=
  let p := (a / d).log2 - 52
  p * binadeSize + divHalfEven a (d <<< p)

/-- The double nearest to `a / d` least units with the given sign, if it is in range. -/
def nearest? (negative : Bool) (a d : Nat) : Option Binary64 :=
  if h : nearestCode a d < codeLimit then some ⟨negative, nearestCode a d, h⟩ else none

/-- Zero, with its sign. -/
def zero (negative : Bool) : Binary64 :=
  ⟨negative, 0, by decide⟩

instance : Inhabited Binary64 := ⟨zero false⟩

theorem divHalfEven_le (a d : Nat) : divHalfEven a d ≤ a / d + 1 := by
  unfold divHalfEven
  simp only
  split
  · omega
  · split <;> omega

/-- A value of at most `53 + k` bits has a code of at most `(k + 2) * binadeSize`. -/
theorem nearestCode_le {a d k : Nat} (h : (a / d).log2 ≤ 52 + k) :
    nearestCode a d ≤ (k + 2) * binadeSize := by
  have hp : (a / d).log2 - 52 ≤ k := by omega
  have hq : a / (d <<< ((a / d).log2 - 52)) < 2 * binadeSize := by
    rw [Nat.shiftLeft_eq, ← Nat.div_div_eq_div_mul]
    refine Nat.div_lt_of_lt_mul ?_
    rw [show 2 * binadeSize = 2 ^ 53 from rfl, ← Nat.pow_add]
    exact Nat.lt_of_lt_of_le Nat.lt_log2_self (Nat.pow_le_pow_right (by decide) (by omega))
  have hm := divHalfEven_le a (d <<< ((a / d).log2 - 52))
  show ((a / d).log2 - 52) * binadeSize + divHalfEven a (d <<< ((a / d).log2 - 52)) ≤ _
  generalize (a / d).log2 - 52 = p at *
  have : p * binadeSize ≤ k * binadeSize := Nat.mul_le_mul_right _ hp
  rw [Nat.add_mul]
  omega

/-- A whole number of up to 64 bits, in any unit, has a code far below the limit. -/
theorem nearestCode_shifted_le {n : Nat} (h : n ≤ 0x10000000000000000) (k : Nat) :
    nearestCode (n <<< k) 1 ≤ (k + 14) * binadeSize := by
  refine nearestCode_le (k := k + 12) ?_
  rw [Nat.div_one, Nat.shiftLeft_eq]
  have hn : n * 2 ^ k ≤ 2 ^ (64 + k) := by
    rw [Nat.pow_add]
    exact Nat.mul_le_mul_right _ h
  rcases Nat.eq_zero_or_pos (n * 2 ^ k) with h0 | h0
  · simp [h0]
  · refine Nat.le_of_lt_succ ((Nat.log2_lt (by omega)).2 (Nat.lt_of_le_of_lt hn ?_))
    exact Nat.pow_lt_pow_right (by decide) (by omega)

/-- A whole number of up to 64 bits is in range, whatever it rounds to. -/
theorem nearestCode_natural_lt {n : Nat} (h : n ≤ 0x10000000000000000) :
    nearestCode (n * one) 1 < codeLimit := by
  have bound := nearestCode_shifted_le h 1074
  have shifted : n <<< 1074 = n * one := by
    simp only [one, Nat.shiftLeft_eq, Nat.one_mul]
  rw [shifted] at bound
  exact Nat.lt_of_le_of_lt bound (by decide)

/-- The double nearest to a whole number of up to 64 bits. -/
def ofInt (n : Int) (h : n.natAbs ≤ 0x10000000000000000) : Binary64 :=
  ⟨decide (n < 0), nearestCode (n.natAbs * one) 1, nearestCode_natural_lt h⟩

/-- The double nearest to a natural number of up to 64 bits. -/
def ofNat (n : Nat) (h : n ≤ 0x10000000000000000) : Binary64 :=
  ⟨false, nearestCode (n * one) 1, nearestCode_natural_lt h⟩

/-- The rounded product of two doubles, unless it overflows. -/
def mul? (x y : Binary64) : Option Binary64 :=
  nearest? (x.negative != y.negative) (x.units * y.units) one

/-- The rounded quotient of two doubles, unless it overflows. The divisor is not zero. -/
def div? (x y : Binary64) : Option Binary64 :=
  nearest? (x.negative != y.negative) (x.units * one) y.units

/-- The double nearest to `10 ^ k`, unless it overflows. -/
def powerOfTen? (k : Nat) : Option Binary64 :=
  nearest? false (Nat.pow 10 k * one) 1

/-- Whether the exact value of a double is a whole number. -/
def isWhole (x : Binary64) : Bool :=
  x.units % one == 0

/-- The exact value of a whole double; the fraction of any other is cut off. -/
def toInt (x : Binary64) : Int :=
  if x.negative then -(x.units / one : Nat) else (x.units / one : Nat)

/-- Flip the sign. -/
def neg (x : Binary64) : Binary64 :=
  { x with negative := !x.negative }

end Binary64

end Workflow
