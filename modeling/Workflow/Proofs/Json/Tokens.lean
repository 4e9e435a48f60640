import Workflow.Json.ParseTree
import Workflow.Json.Printer
import Workflow.Proofs.Text.Digits

/-!
# Reading back strings and numbers

A quoted string is read back as the string, whatever characters it has, because every
character that may not stand for itself has an escape of its own. A whole number is read
back as that number as long as what follows it cannot belong to a numeral.

Whether the text of a double is read back is a question about its digits, not about
JSON. `Number.ReadsBack` is what a number must meet so that any value it occurs in is
read back.
-/

namespace Workflow

namespace ParseTree

/-! ## Strings -/

/-- A piece stands for a character, whatever pieces come after it. -/
def Piece.StandsFor (piece : Piece) (c : Char) : Prop :=
  ∀ pieces, joinPieces (piece :: pieces) = (joinPieces pieces).map (c :: ·)

theorem Piece.char_standsFor (c : Char) : (Piece.char c).StandsFor c :=
  fun _ => rfl

/-- A code unit outside the surrogates is a character by itself. -/
theorem Piece.unit_standsFor {n : Nat} (small : n < 0xD800) :
    (Piece.unit n).StandsFor (Char.ofNat n) := by
  have not_high : isHighSurrogate n = false := by simp [isHighSurrogate]; omega
  have not_low : isLowSurrogate n = false := by simp [isLowSurrogate]; omega
  intro pieces
  cases pieces with
  | nil => simp [joinPieces, not_high, not_low]
  | cons next rest =>
      cases next with
      | char c => simp [joinPieces, not_high, not_low]
      | unit m => simp [joinPieces, not_high, not_low]

/-- The hexadecimal digits of a control character. -/
theorem codeUnit?_control :
    ∀ n < 0x20, codeUnit? '0' '0' (Json.hexDigit (n / 16)) (Json.hexDigit (n % 16)) = some n := by
  decide

/-- A character is escaped by a letter, by its code, or not at all. -/
theorem escape_cases (c : Char) :
    (∃ e, e ≠ 'u' ∧ shortEscape? e = some c ∧ Json.escape c = ['\\', e]) ∨
      (c.toNat < 0x20 ∧ Json.escape c =
        ['\\', 'u', '0', '0', Json.hexDigit (c.toNat / 16), Json.hexDigit (c.toNat % 16)]) ∨
      (0x20 ≤ c.toNat ∧ c ≠ '"' ∧ c ≠ '\\' ∧ Json.escape c = [c]) := by
  unfold Json.escape
  split
  · exact .inl ⟨'"', by decide, by simp [shortEscape?, *], rfl⟩
  split
  · exact .inl ⟨'\\', by decide, by simp [shortEscape?, *], rfl⟩
  split
  · exact .inl ⟨'b', by decide, by simp [shortEscape?, *], rfl⟩
  split
  · exact .inl ⟨'f', by decide, by simp [shortEscape?, *], rfl⟩
  split
  · exact .inl ⟨'n', by decide, by simp [shortEscape?, *], rfl⟩
  split
  · exact .inl ⟨'r', by decide, by simp [shortEscape?, *], rfl⟩
  split
  · exact .inl ⟨'t', by decide, by simp [shortEscape?, *], rfl⟩
  split
  · exact .inr (.inl ⟨‹_›, rfl⟩)
  · exact .inr (.inr ⟨by omega, ‹_›, ‹_›, rfl⟩)

/-- One escape is read as one piece, which stands for the character escaped. -/
theorem readPieces_escape (c : Char) (text : List Char) :
    ∃ piece : Piece, piece.StandsFor c ∧ readPieces (Json.escape c ++ text) =
      (readPieces text).map fun read => (piece :: read.1, read.2) := by
  rcases escape_cases c with ⟨e, plain, means, escaped⟩ | ⟨control, escaped⟩ |
    ⟨printable, notQuote, notBackslash, escaped⟩
  · refine ⟨.char c, Piece.char_standsFor c, ?_⟩
    rw [escaped, List.cons_append, List.cons_append, List.nil_append, readPieces]
    · cases readPieces text <;> simp [means]
    · simp [plain]
  · have itself : Char.ofNat c.toNat = c := Char.ofNat_toNat c
    have standsFor := Piece.unit_standsFor (Nat.lt_trans control (by decide : 0x20 < 0xD800))
    rw [itself] at standsFor
    refine ⟨.unit c.toNat, standsFor, ?_⟩
    simp only [escaped, List.cons_append, List.nil_append, readPieces,
      codeUnit?_control c.toNat control]
    cases readPieces text <;> rfl
  · refine ⟨.char c, Piece.char_standsFor c, ?_⟩
    rw [escaped, List.cons_append, List.nil_append, readPieces]
    · rw [if_neg (by simp [notBackslash]; omega)]
      cases readPieces text <;> rfl
    · simpa using notQuote
    · simp [notBackslash]
    · simp [notBackslash]

/-- A quoted string is read back as the string. -/
theorem readString_quote (s : String) (rest : List Char) :
    readString (s.toList.flatMap Json.escape ++ '"' :: rest) = some (some s, rest) := by
  have pieces_back : ∀ cs : List Char, ∃ pieces,
      readPieces (cs.flatMap Json.escape ++ '"' :: rest) = some (pieces, rest) ∧
        joinPieces pieces = some cs := by
    intro cs
    induction cs with
    | nil => exact ⟨[], rfl, rfl⟩
    | cons c cs ih =>
        obtain ⟨pieces, tail, joined⟩ := ih
        obtain ⟨piece, standsFor, head⟩ :=
          readPieces_escape c (cs.flatMap Json.escape ++ '"' :: rest)
        refine ⟨piece :: pieces, ?_, ?_⟩
        · rw [List.flatMap_cons, List.append_assoc, head, tail]
          rfl
        · rw [standsFor, joined]
          rfl
  obtain ⟨pieces, read, joined⟩ := pieces_back s.toList
  simp [readString, read, joined]

/-! ## Numbers -/

end ParseTree

namespace Number

theorem le_foldl_digits (digits : List Char) (n : Nat) :
    n ≤ digits.foldl (fun n c => n * 10 + digitValue c) n := by
  induction digits generalizing n with
  | nil => exact Nat.le_refl _
  | cons c rest ih =>
      have := ih (n * 10 + digitValue c)
      rw [List.foldl_cons]
      omega

/-- Digits whose value is within the limit are all taken. -/
theorem extend_of_le {n : Nat} {digits : List Char}
    (small : digits.foldl (fun n c => n * 10 + digitValue c) n ≤ maxSignificand) :
    extend n digits = (digits.foldl (fun n c => n * 10 + digitValue c) n, []) := by
  induction digits generalizing n with
  | nil => rfl
  | cons c rest ih =>
      rw [List.foldl_cons] at small ⊢
      have next := Nat.le_trans (le_foldl_digits rest _) small
      simp only [extend, if_pos next, ih small]

theorem ofDigits?_toDigits (negative : Bool) {n : Nat} (small : n ≤ maxSignificand) :
    ofDigits? negative (Nat.toDigits 10 n) [] none = some (ofSignificand negative n small) := by
  have value : (Nat.toDigits 10 n).foldl (fun n c => n * 10 + digitValue c) 0 = n :=
    digitsValue_toDigits n
  have taken : extend 0 (Nat.toDigits 10 n) = (n, []) := by
    rw [extend_of_le (by rwa [value]), value]
  simp only [ofDigits?, taken, extend]
  rfl

end Number

namespace ParseTree

/-- A text that does not go on with a numeral. -/
def EndsNumeral (rest : List Char) : Prop :=
  ∀ c ∈ rest.head?, c.isDigit = false ∧ c ≠ '.' ∧ c ≠ 'e' ∧ c ≠ 'E'

theorem readFraction_of_endsNumeral {rest : List Char} (ends : EndsNumeral rest) :
    readFraction rest = some ([], rest) := by
  cases rest with
  | nil => rfl
  | cons c tail =>
      obtain ⟨-, point, -, -⟩ := ends c rfl
      rw [readFraction]
      simp [point]

theorem readExponent_of_endsNumeral {rest : List Char} (ends : EndsNumeral rest) :
    readExponent rest = some (none, rest) := by
  cases rest with
  | nil => rfl
  | cons c tail =>
      obtain ⟨-, -, small, large⟩ := ends c rfl
      rw [readExponent] <;> simp [small, large]

/-- The digits of a natural number are the whole part of a numeral: there is at least one,
and a zero in front is the only one. -/
theorem readWhole_toDigits (n : Nat) {rest : List Char}
    (ends : ∀ c ∈ rest.head?, c.isDigit = false) :
    readWhole (Nat.toDigits 10 n ++ rest) = some (Nat.toDigits 10 n, rest) := by
  have taken := takeDigits_toDigits_append n ends
  unfold readWhole
  rw [taken]
  rcases Nat.eq_zero_or_pos n with rfl | positive
  · rfl
  · have first := head?_toDigits_ne_zero positive
    cases digits : Nat.toDigits 10 n with
    | nil => exact absurd digits Nat.toDigits_ne_nil
    | cons c tail =>
        rw [digits] at first
        have notZero : c ≠ '0' := by simpa using first
        simp [notZero]

/-- A numeral of digits only. -/
theorem readUnsigned_toDigits (negative : Bool) {n : Nat} (small : n ≤ Number.maxSignificand)
    {rest : List Char} (ends : EndsNumeral rest) :
    readUnsigned negative (Nat.toDigits 10 n ++ rest) =
      some (.number (some (Number.ofSignificand negative n small)), rest) := by
  simp [readUnsigned, readWhole_toDigits n fun c member => (ends c member).1,
    readFraction_of_endsNumeral ends, readExponent_of_endsNumeral ends,
    Number.ofDigits?_toDigits negative small]

/-- A numeral of digits around a point. -/
theorem readUnsigned_point (negative : Bool) (n : Nat) {fraction rest : List Char}
    (digits : ∀ c ∈ fraction, c.isDigit = true) (some_ : fraction ≠ [])
    (ends : EndsNumeral rest) :
    readUnsigned negative (Nat.toDigits 10 n ++ '.' :: (fraction ++ rest)) =
      some (.number (Number.ofDigits? negative (Nat.toDigits 10 n) fraction none), rest) := by
  have whole : readWhole (Nat.toDigits 10 n ++ '.' :: (fraction ++ rest)) =
      some (Nat.toDigits 10 n, '.' :: (fraction ++ rest)) :=
    readWhole_toDigits n (by simp)
  have point : readFraction ('.' :: (fraction ++ rest)) = some (fraction, rest) := by
    rw [readFraction, takeDigits_append_of_digits digits fun c member => (ends c member).1]
    cases fraction with
    | nil => exact absurd rfl some_
    | cons c tail => rfl
  simp [readUnsigned, whole, point, readExponent_of_endsNumeral ends]

/-- A numeral with its sign. -/
def readNumber : List Char → Option (ParseTree × List Char)
  | '-' :: text => readUnsigned true text
  | text => readUnsigned false text

theorem readNumber_toDigits_append (n : Nat) (rest : List Char) :
    readNumber (Nat.toDigits 10 n ++ rest) = readUnsigned false (Nat.toDigits 10 n ++ rest) := by
  cases digits : Nat.toDigits 10 n with
  | nil => exact absurd digits Nat.toDigits_ne_nil
  | cons c tail =>
      have digit : c.isDigit = true :=
        isDigit_of_mem_toDigits (n := n) (by rw [digits]; exact List.mem_cons_self)
      rw [List.cons_append, readNumber]
      rintro text same
      cases same
      cases digit

/-- A numeral starts with a digit or a sign. -/
theorem head?_of_readNumber {text : List Char} {read : ParseTree × List Char}
    (h : readNumber text = some read) : ∃ c ∈ text.head?, c.isDigit = true ∨ c = '-' := by
  cases text with
  | nil => cases h
  | cons c tail =>
      refine ⟨c, rfl, ?_⟩
      by_cases minus : c = '-'
      · exact .inr minus
      · rw [readNumber] at h
        · cases digit : c.isDigit with
          | true => exact .inl rfl
          | false => simp [readUnsigned, readWhole, takeDigits, digit] at h
        · simp [minus]

end ParseTree

namespace Number

/-- A number whose text is read back as that number. -/
def ReadsBack (number : Number) : Prop :=
  ∀ rest, ParseTree.EndsNumeral rest → ParseTree.readNumber (Json.numberText number ++ rest) =
    some (.number (some number), rest)

/-- Whole numbers are read back. -/
theorem readsBack_integer (n : Int)
    (inRange : -0x8000000000000000 ≤ n ∧ n < 0x10000000000000000) :
    (integer n inRange).ReadsBack := by
  intro rest ends
  have small : n.natAbs ≤ maxSignificand := by
    unfold maxSignificand
    omega
  rw [Json.numberText, Json.integerText]
  split
  · rename_i negative
    rw [List.cons_append, ParseTree.readNumber, ParseTree.readUnsigned_toDigits true small ends]
    have bounds : 0 < n.natAbs ∧ n.natAbs ≤ 0x8000000000000000 := by omega
    have itself : -(n.natAbs : Int) = n := by omega
    simp only [ofSignificand, dif_pos bounds, itself]
    rfl
  · have itself : (n.natAbs : Int) = n := Int.natAbs_of_nonneg (by omega)
    rw [ParseTree.readNumber_toDigits_append, ParseTree.readUnsigned_toDigits false small ends]
    simp [ofSignificand, itself]

/-- A double without sign and exponent is read back if its digits stand for it. -/
theorem readsBack_real {x : Binary64} {n : Nat} {fraction : List Char}
    (written : x.text = Nat.toDigits 10 n ++ '.' :: fraction)
    (digits : ∀ c ∈ fraction, c.isDigit = true) (some_ : fraction ≠ [])
    (value : ofDigits? false (Nat.toDigits 10 n) fraction none = some (.real x)) :
    (real x).ReadsBack := by
  intro rest ends
  rw [Json.numberText, written, List.append_assoc, List.cons_append,
    ParseTree.readNumber_toDigits_append, ParseTree.readUnsigned_point false n digits some_ ends,
    value]

end Number

end Workflow
