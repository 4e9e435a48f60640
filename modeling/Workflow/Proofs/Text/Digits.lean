import Workflow.Text.Digits
import Mathlib.Algebra.Group.Nat.Defs

/-!
# Numbers and their decimal digits

The standard digits of a natural number are read back as that number by the readers of
this library. They stop where something other than a digit follows, and only zero has
a leading zero.
-/

namespace Workflow

/-- The value of digits is the standard library's, with the factors the other way round. -/
theorem digitsValue_eq_ofDigitChars (digits : List Char) :
    digitsValue digits = Nat.ofDigitChars 10 digits 0 := by
  rw [digitsValue, Nat.ofDigitChars_eq_foldl]
  congr
  funext n c
  rw [digitValue, Nat.mul_comm]

/-- A digit's place among the characters. -/
theorem toNat_of_isDigit {c : Char} (digit : c.isDigit = true) :
    48 ≤ c.toNat ∧ c.toNat ≤ 57 := by
  simpa [Char.isDigit, UInt32.le_iff_toNat_le] using digit

theorem digitValue_lt {c : Char} (digit : c.isDigit = true) : digitValue c < 10 := by
  have place := toNat_of_isDigit digit
  have zero : '0'.toNat = 48 := rfl
  rw [digitValue, zero]
  omega

/-- Some digits have less than ten times as many values for each digit more. -/
theorem digitsValue_lt {digits : List Char} (all : ∀ c ∈ digits, c.isDigit = true) :
    digitsValue digits < 10 ^ digits.length := by
  have after (start : Nat) : digits.foldl (fun n c => n * 10 + digitValue c) start <
      (start + 1) * 10 ^ digits.length := by
    induction digits generalizing start with
    | nil => simp
    | cons c rest ih =>
        obtain ⟨digit, others⟩ := List.forall_mem_cons.mp all
        have small := digitValue_lt digit
        calc rest.foldl (fun n c => n * 10 + digitValue c) (start * 10 + digitValue c)
            < (start * 10 + digitValue c + 1) * 10 ^ rest.length := ih others _
          _ ≤ ((start + 1) * 10) * 10 ^ rest.length := Nat.mul_le_mul_right _ (by omega)
          _ = (start + 1) * 10 ^ (c :: rest).length := by
            rw [Nat.mul_assoc, List.length_cons, Nat.pow_succ, Nat.mul_comm 10]
  have whole := after 0
  rwa [Nat.zero_add, Nat.one_mul] at whole

@[simp] theorem digitsValue_toDigits (n : Nat) : digitsValue (Nat.toDigits 10 n) = n := by
  rw [digitsValue_eq_ofDigitChars, Nat.ofDigitChars_ten_toDigits]

theorem isDigit_of_mem_toDigits {n : Nat} {c : Char} (h : c ∈ Nat.toDigits 10 n) :
    c.isDigit = true :=
  Nat.isDigit_of_mem_toDigits (by decide) (by decide) h

theorem toDigits_injective {m n : Nat} (h : Nat.toDigits 10 m = Nat.toDigits 10 n) : m = n := by
  rw [← digitsValue_toDigits m, h, digitsValue_toDigits]

theorem toString_nat_injective {m n : Nat} (h : toString m = toString n) : m = n := by
  apply toDigits_injective
  simpa [Nat.toString_eq_ofList_toDigits] using congrArg String.toList h

/-- Digits are taken as far as they go. -/
theorem takeDigits_append_of_digits {digits rest : List Char}
    (all : ∀ c ∈ digits, c.isDigit = true) (stop : ∀ c ∈ rest.head?, c.isDigit = false) :
    takeDigits (digits ++ rest) = (digits, rest) := by
  have none_taken : rest.takeWhile Char.isDigit = [] ∧ rest.dropWhile Char.isDigit = rest := by
    cases rest with
    | nil => exact ⟨rfl, rfl⟩
    | cons c tail =>
        have hc : c.isDigit = false := stop c rfl
        simp [hc]
  rw [takeDigits, List.takeWhile_append_of_pos all, List.dropWhile_append_of_pos all,
    none_taken.1, none_taken.2, List.append_nil]

theorem takeDigits_takeDigits (text : List Char) :
    takeDigits (takeDigits text).1 = ((takeDigits text).1, []) := by
  have digits : ∀ c ∈ (takeDigits text).1, c.isDigit = true :=
    List.all_eq_true.mp List.all_takeWhile
  have stop : ∀ c ∈ ([] : List Char).head?, c.isDigit = false := nofun
  have whole := takeDigits_append_of_digits digits stop
  rwa [List.append_nil] at whole

/-- Digits are taken up to something else; if that is there, what comes later does not matter. -/
theorem takeDigits_append_of_left {text : List Char} (left : (takeDigits text).2 ≠ [])
    (more : List Char) :
    takeDigits (text ++ more) = ((takeDigits text).1, (takeDigits text).2 ++ more) := by
  have stop := List.head?_dropWhile_not Char.isDigit text
  conv => lhs; rw [← takeDigits_append text, List.append_assoc]
  refine takeDigits_append_of_digits (List.all_eq_true.mp List.all_takeWhile) ?_
  rw [takeDigits] at left ⊢
  generalize text.dropWhile Char.isDigit = rest at *
  cases rest with
  | nil => exact absurd rfl left
  | cons c tail =>
      rintro _ ⟨⟩
      exact stop

theorem takeDigits_toDigits_append (n : Nat) {rest : List Char}
    (stop : ∀ c ∈ rest.head?, c.isDigit = false) :
    takeDigits (Nat.toDigits 10 n ++ rest) = (Nat.toDigits 10 n, rest) :=
  takeDigits_append_of_digits (fun _ => isDigit_of_mem_toDigits) stop

/-- A number above zero starts with another digit than zero. -/
theorem head?_toDigits_ne_zero {n : Nat} (positive : 0 < n) :
    (Nat.toDigits 10 n).head? ≠ some '0' := by
  induction n using Nat.strongRecOn with
  | ind n ih =>
      rw [Nat.toDigits_eq_if (by decide)]
      split
      · rename_i small
        have : ∀ d, d < 10 → 0 < d → Nat.digitChar d ≠ '0' := by decide
        simpa using this n small positive
      · rename_i large
        have smaller := ih (n / 10) (by omega) (by omega)
        rwa [List.head?_append, Option.or_of_isSome (by simp [List.isSome_head?])]

end Workflow
