import Workflow.Number.Decimal
import Mathlib.Algebra.Order.Field.Rat
import Mathlib.Tactic.FieldSimp
import Mathlib.Tactic.Linarith
import Mathlib.Tactic.NormNum
import Mathlib.Tactic.Positivity

/-!
# The exact value of a number

A number of a JSON text stands for a rational: a whole number for itself, and a double for its
magnitude in units of `2 ^ (-1074)`, with its sign. Rounding is exact on the grid of the code it
ends in, so the double nearest to a number is a multiple of that grid's spacing. From `2 ^ 63` up
to below `2 ^ 64` the spacing is 2048.
-/

namespace Workflow

namespace Binary64

theorem one_pos : 0 < one := by
  decide

/-- Which power of two the number one is does not matter below. -/
theorem exists_one_eq : ∃ k, one = 2 ^ k := by
  rw [one]
  generalize 1074 = k
  exact ⟨k, Nat.one_shiftLeft k⟩

/-- The number that a double stands for. -/
def exact (x : Binary64) : ℚ :=
  (if x.negative then -1 else 1) * (x.units / one)

/-- A whole number of ones, if it is one, is what a division leaves no rest of. -/
theorem cast_div_one_eq_iff {units : Nat} {n : Int} :
    (units / one : ℚ) = n ↔ units % one = 0 ∧ ((units / one : Nat) : Int) = n := by
  have positive : (one : ℚ) ≠ 0 := by exact_mod_cast one_pos.ne'
  rw [div_eq_iff positive]
  constructor
  · intro same
    have same : (units : Int) = n * one := by exact_mod_cast same
    have natural : 0 ≤ n := by
      refine nonneg_of_mul_nonneg_left ?_ (Int.natCast_pos.mpr one_pos)
      exact same ▸ Int.natCast_nonneg _
    obtain ⟨k, rfl⟩ := Int.eq_ofNat_of_zero_le natural
    have same : units = k * one := by exact_mod_cast same
    rw [same, Nat.mul_mod_left, Nat.mul_div_cancel _ one_pos]
    exact ⟨rfl, rfl⟩
  · rintro ⟨whole, rfl⟩
    have same : units = units / one * one :=
      (Nat.div_mul_cancel (Nat.dvd_of_mod_eq_zero whole)).symm
    exact_mod_cast same

/-- A double stands for a whole number if it is whole, and for the one that it is read as. -/
theorem exact_eq_intCast_iff {x : Binary64} {n : Int} :
    x.exact = n ↔ x.isWhole ∧ x.toInt = n := by
  rw [exact, isWhole, toInt, beq_iff_eq]
  cases x.negative with
  | false => simpa using cast_div_one_eq_iff
  | true =>
      have turned : -(x.units / one : ℚ) = n ↔ (x.units / one : ℚ) = ((-n : Int) : ℚ) := by
        rw [neg_eq_iff_eq_neg, Int.cast_neg]
      simp only [if_true, neg_one_mul, turned, cast_div_one_eq_iff]
      exact and_congr_right fun _ => eq_comm.trans (neg_eq_iff_eq_neg.trans eq_comm)

/-! ## Codes and their magnitudes -/

theorem significand_lt (code : Nat) : significand code < 2 * binadeSize := by
  have small := Nat.mod_lt code (show 0 < binadeSize by decide)
  rw [significand]
  split <;> omega

/-- A code stands for as many units of its last place as its significand says. -/
theorem unitsOfCode_eq (code : Nat) :
    unitsOfCode code = significand code * 2 ^ unitExponent code :=
  Nat.shiftLeft_eq _ _

/-- A great magnitude is a multiple of a great unit. -/
theorem dvd_unitsOfCode {code k : Nat} (great : 2 ^ (52 + k) ≤ unitsOfCode code) :
    2 ^ k ∣ unitsOfCode code := by
  rw [unitsOfCode_eq] at great ⊢
  refine Dvd.dvd.mul_left (Nat.pow_dvd_pow 2 ?_) _
  have within : 2 ^ (52 + k) < 2 ^ (53 + unitExponent code) := by
    refine Nat.lt_of_le_of_lt great ?_
    rw [Nat.pow_add]
    exact Nat.mul_lt_mul_of_pos_right (significand_lt code) (Nat.two_pow_pos _)
  have := (Nat.pow_lt_pow_iff_right (by decide)).mp within
  omega

/-- A significand of full length, placed in its binade, is read as itself; one beyond the last
of them is the first of the next binade. In the lowest place a significand may be shorter. -/
theorem unitsOfCode_add {p q : Nat} (least : p = 0 ∨ binadeSize ≤ q) (most : q ≤ 2 * binadeSize) :
    unitsOfCode (p * binadeSize + q) = q * 2 ^ p := by
  have positive : 0 < binadeSize := by decide
  rw [unitsOfCode_eq, significand, unitExponent]
  rcases Nat.lt_or_ge q binadeSize with short | full
  · obtain rfl : p = 0 := least.resolve_right (Nat.not_le.mpr short)
    simp [short, Nat.div_eq_of_lt short]
  · obtain ⟨r, rfl⟩ := Nat.exists_eq_add_of_le full
    have spread : p * binadeSize + (binadeSize + r) = r + (p + 1) * binadeSize := by
      rw [Nat.add_mul, Nat.one_mul]
      omega
    have beyond : ¬ r + (p + 1) * binadeSize < binadeSize := by
      rw [Nat.add_mul, Nat.one_mul]
      omega
    rw [spread, if_neg beyond, Nat.add_mul_mod_self_right, Nat.add_mul_div_right _ _ positive]
    rcases Nat.lt_or_ge r binadeSize with inside | next
    · rw [Nat.mod_eq_of_lt inside, Nat.div_eq_of_lt inside, Nat.zero_add, Nat.add_sub_cancel]
    · obtain rfl : r = binadeSize := by omega
      rw [Nat.mod_self, Nat.div_self positive, Nat.add_zero, Nat.add_sub_cancel_left, Nat.pow_add,
        Nat.mul_comm (2 ^ p), ← Nat.mul_assoc, pow_one, Nat.mul_two]

/-! ## Rounding -/

theorem log2_mul_two_pow {n : Nat} (positive : n ≠ 0) (k : Nat) :
    (n * 2 ^ k).log2 = n.log2 + k := by
  have scaled : n * 2 ^ k ≠ 0 := Nat.mul_ne_zero positive (Nat.two_pow_pos k).ne'
  rw [Nat.log2_eq_iff scaled, Nat.add_right_comm, Nat.pow_add, Nat.pow_add]
  exact ⟨Nat.mul_le_mul_right _ (Nat.log2_self_le positive),
    Nat.mul_lt_mul_of_pos_right Nat.lt_log2_self (Nat.two_pow_pos _)⟩

theorem div_le_divHalfEven (a d : Nat) : a / d ≤ divHalfEven a d := by
  unfold divHalfEven
  simp only
  split
  · exact Nat.le_refl _
  · split <;> omega

/-- A common factor does not count in a rounded quotient. -/
theorem divHalfEven_mul_right (a d : Nat) {k : Nat} (positive : 0 < k) :
    divHalfEven (a * k) (d * k) = divHalfEven a d := by
  unfold divHalfEven
  simp only [Nat.mul_div_mul_right _ _ positive, Nat.mul_mod_mul_right, ← Nat.mul_assoc,
    Nat.mul_lt_mul_right positive]

/-- The magnitude of the code nearest to a ratio is the ratio rounded to the unit of the code's
last place. -/
theorem unitsOfCode_nearestCode (a d : Nat) :
    unitsOfCode (nearestCode a d) =
      divHalfEven a (d * 2 ^ ((a / d).log2 - 52)) * 2 ^ ((a / d).log2 - 52) := by
  rw [nearestCode]
  simp only [Nat.shiftLeft_eq]
  have above := divHalfEven_le a (d * 2 ^ ((a / d).log2 - 52))
  have below := div_le_divHalfEven a (d * 2 ^ ((a / d).log2 - 52))
  rw [← Nat.div_div_eq_div_mul] at above below
  refine unitsOfCode_add ?_ ?_
  · rcases Nat.le_total (a / d).log2 52 with short | full
    · exact .inl (by omega)
    · refine .inr (Nat.le_trans ?_ below)
      rw [Nat.le_div_iff_mul_le (Nat.two_pow_pos _), show binadeSize = 2 ^ 52 from rfl,
        ← Nat.pow_add]
      have : a / d ≠ 0 := by
        intro zero
        simp [zero] at full
      rw [Nat.add_sub_cancel' full]
      exact Nat.log2_self_le this
  · refine Nat.le_trans above (Nat.succ_le_of_lt ?_)
    rw [Nat.div_lt_iff_lt_mul (Nat.two_pow_pos _), show 2 * binadeSize = 2 ^ 53 from rfl,
      ← Nat.pow_add]
    exact Nat.lt_of_lt_of_le Nat.lt_log2_self (Nat.pow_le_pow_right (by decide) (by omega))

/-! ## Around the end of the 64-bit range -/

/-- A double without a sign stands for as many ones as its units make. -/
theorem exact_of_units_eq {x : Binary64} {m : Nat} (natural : x.negative = false)
    (same : x.units = m * one) : x.exact = m := by
  have positive : (one : ℚ) ≠ 0 := by exact_mod_cast one_pos.ne'
  rw [exact, natural, same]
  simp [positive]

/-- From `2 ^ 63` on, doubles are multiples of 2048. -/
theorem exists_exact_eq {x : Binary64} (great : 2 ^ 63 ≤ x.exact) :
    ∃ k : Nat, x.exact = (k * 2048 : Nat) := by
  have natural : x.negative = false := by
    by_contra negative
    have : x.exact ≤ 0 := by
      rw [exact, if_pos (by simpa using negative), neg_one_mul, neg_nonpos]
      positivity
    linarith
  have long : 2 ^ 63 * one ≤ x.units := by
    have positive : (0 : ℚ) < one := by exact_mod_cast one_pos
    rw [exact, natural, if_neg Bool.false_ne_true, one_mul, le_div_iff₀ positive] at great
    exact_mod_cast great
  obtain ⟨bits, one_eq⟩ := exists_one_eq
  rw [one_eq, ← Nat.pow_add] at long
  obtain ⟨k, same⟩ := dvd_unitsOfCode (k := 11 + bits) (by rwa [← Nat.add_assoc])
  refine ⟨k, exact_of_units_eq natural ?_⟩
  rw [units, same, one_eq, Nat.pow_add, Nat.mul_comm, Nat.mul_assoc]

/-- A number with 64 bits is rounded to a multiple of 2048. -/
theorem exact_ofInt_of_long {n : Nat} {small : (n : Int).natAbs ≤ 0x10000000000000000}
    (bits : n.log2 = 63) : (ofInt n small).exact = (divHalfEven n 2048 * 2048 : Nat) := by
  refine exact_of_units_eq (decide_eq_false (Int.not_lt.mpr (Int.natCast_nonneg n))) ?_
  obtain ⟨k, one_eq⟩ := exists_one_eq
  have positive : n ≠ 0 := by
    rintro rfl
    simp at bits
  have place : (n * 2 ^ k / 1).log2 - 52 = 11 + k := by
    rw [Nat.div_one, log2_mul_two_pow positive, bits]
    omega
  show unitsOfCode (nearestCode (n * one) 1) = _
  rw [one_eq, unitsOfCode_nearestCode, place, Nat.one_mul, Nat.pow_add,
    divHalfEven_mul_right _ _ (Nat.two_pow_pos _), Nat.mul_assoc]

end Binary64

/-- The number that a number of a text stands for. -/
def Number.exact : Number → ℚ
  | .integer n _ => n
  | .real x => x.exact

end Workflow
