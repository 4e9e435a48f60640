import Workflow.Timestamp.Text
import Workflow.Proofs.Text.Digits
import Mathlib.Algebra.Group.Nat.Defs

/-!
# Reading back timestamps

A written timestamp is read back as the same one, in any year and down to the nanosecond, and
with its leap second if that comes at the end of a minute. Any other leap second is written as the
second after it, and is read back as that. What is read, and what a clock shows, has none of these.

Every field is written in digits that fill its width, so each reader stops where the next separator
stands. The exceptions are a year with a sign, which may have more digits and is read up to the
separator, and the fraction of a second, where nothing follows.
-/

namespace Workflow

/-- Leading zeros do not count. -/
theorem digitsValue_replicate_zero_append (count : Nat) (digits : List Char) :
    digitsValue (List.replicate count '0' ++ digits) = digitsValue digits := by
  induction count with
  | zero => rfl
  | succ count ih =>
      rw [List.replicate_succ, List.cons_append, ← ih]
      rfl

theorem isWhiteSpace_of_isDigit {c : Char} (digit : c.isDigit = true) :
    isWhiteSpace c = false := by
  have bounds := toNat_of_isDigit digit
  simp only [isWhiteSpace, Bool.or_eq_false_iff, Bool.and_eq_false_imp, decide_eq_true_eq,
    decide_eq_false_iff_not, beq_eq_false_iff_ne]
  omega

namespace Timestamp

/-! ## Padded numbers -/

theorem isDigit_of_mem_padded {width n : Nat} {c : Char} (member : c ∈ padded width n) :
    c.isDigit = true := by
  rcases List.mem_append.mp member with zero | digit
  · rw [List.eq_of_mem_replicate zero]
    rfl
  · exact Workflow.isDigit_of_mem_toDigits digit

@[simp] theorem digitsValue_padded (width n : Nat) : digitsValue (padded width n) = n := by
  rw [padded, digitsValue_replicate_zero_append, digitsValue_toDigits]

theorem padded_ne_nil (width n : Nat) : padded width n ≠ [] :=
  List.append_ne_nil_of_right_ne_nil _ Nat.toDigits_ne_nil

/-- A number that fits its width fills it. -/
theorem length_padded {width n : Nat} (wide : 0 < width) (fits : n < 10 ^ width) :
    (padded width n).length = width := by
  have short := (Nat.length_toDigits_le_iff (by decide) wide).mpr fits
  rw [padded, List.length_append, List.length_replicate]
  omega

/-- A padded number starts with a digit. -/
theorem exists_padded_eq_cons (width n : Nat) :
    ∃ c digits, padded width n = c :: digits ∧ c.isDigit = true := by
  obtain ⟨c, digits, split⟩ := List.exists_cons_of_ne_nil (padded_ne_nil width n)
  exact ⟨c, digits, split, isDigit_of_mem_padded (split ▸ List.mem_cons_self)⟩

/-! ## Readers -/

theorem trimStart_cons {c : Char} (shows : isWhiteSpace c = false) (rest : List Char) :
    trimStart (c :: rest) = c :: rest := by
  rw [trimStart, List.dropWhile_cons_of_neg (by rw [shows]; exact Bool.false_ne_true)]

theorem trimStart_padded (width n : Nat) (rest : List Char) :
    trimStart (padded width n ++ rest) = padded width n ++ rest := by
  obtain ⟨c, digits, split, digit⟩ := exists_padded_eq_cons width n
  rw [split]
  exact trimStart_cons (isWhiteSpace_of_isDigit digit) _

/-- Digits are read up to the width, or up to something that is not a digit. -/
theorem readDigits_append {width : Nat} {digits rest : List Char}
    (all : ∀ c ∈ digits, c.isDigit = true) (filled : digits ≠ []) (fits : digits.length ≤ width)
    (stop : digits.length = width ∨ ∀ c ∈ rest.head?, c.isDigit = false) :
    readDigits width (digits ++ rest) = some (digits, rest) := by
  have none_taken : (rest.take (width - digits.length)).takeWhile Char.isDigit = [] := by
    rcases stop with full | stop
    · rw [full, Nat.sub_self, List.take_zero, List.takeWhile_nil]
    · cases rest with
      | nil => rw [List.take_nil, List.takeWhile_nil]
      | cons c tail =>
          have hc : c.isDigit = false := stop c rfl
          cases width - digits.length with
          | zero => rw [List.take_zero, List.takeWhile_nil]
          | succ left => simp [hc]
  have taken : ((digits ++ rest).take width).takeWhile Char.isDigit = digits := by
    rw [List.take_append, List.take_of_length_le fits, List.takeWhile_append_of_pos all,
      none_taken, List.append_nil]
  rw [readDigits, taken]
  cases digits with
  | nil => exact absurd rfl filled
  | cons c tail => simp

/-- A padded number that fills its width is read to its end. -/
theorem readDigits_padded {width n : Nat} (wide : 0 < width) (fits : n < 10 ^ width)
    (rest : List Char) :
    readDigits width (padded width n ++ rest) = some (padded width n, rest) := by
  have full := length_padded wide fits
  exact readDigits_append (fun _ => isDigit_of_mem_padded) (padded_ne_nil width n)
    (Nat.le_of_eq full) (.inl full)

theorem readNumber_padded {width n : Nat} (wide : 0 < width) (fits : n < 10 ^ width)
    (rest : List Char) : readNumber width (padded width n ++ rest) = some (n, rest) := by
  rw [readNumber, trimStart_padded, readDigits_padded wide fits]
  exact congrArg (fun value => some (value, rest)) (digitsValue_padded width n)

theorem readSeparator_cons {separator : Char} (shows : isWhiteSpace separator = false)
    (rest : List Char) : readSeparator separator (separator :: rest) = some rest := by
  rw [readSeparator, trimStart_cons shows]
  exact if_pos rfl

/-- A year that starts with a digit has no sign. -/
theorem readYear_of_isDigit {c : Char} (digit : c.isDigit = true) (text : List Char) :
    readYear (c :: text) =
      (readDigits 4 (c :: text)).bind fun read => some ((digitsValue read.1 : Int), read.2) := by
  rw [readYear, trimStart_cons (isWhiteSpace_of_isDigit digit)]
  split
  · rename_i minus
    cases minus
    exact absurd digit (by decide)
  · rename_i plus
    cases plus
    exact absurd digit (by decide)
  · rfl

theorem readYear_yearText (year : Int) (rest : List Char) :
    readYear (yearText year ++ '-' :: rest) = some (year, '-' :: rest) := by
  unfold yearText
  split
  · rename_i plain
    obtain ⟨c, digits, split, digit⟩ := exists_padded_eq_cons 4 year.toNat
    have read := @readDigits_padded 4 year.toNat (by decide) (by omega) ('-' :: rest)
    have unsigned := readYear_of_isDigit digit (digits ++ '-' :: rest)
    rw [← List.cons_append, ← split, read, Option.bind_some, digitsValue_padded,
      Int.toNat_of_nonneg plain.1] at unsigned
    exact unsigned
  · rename_i signed
    have read : readDigits (padded 4 year.natAbs ++ '-' :: rest).length
        (padded 4 year.natAbs ++ '-' :: rest) = some (padded 4 year.natAbs, '-' :: rest) := by
      refine readDigits_append (fun _ => isDigit_of_mem_padded) (padded_ne_nil 4 _) ?_ (.inr ?_)
      · rw [List.length_append]
        exact Nat.le_add_right _ _
      · intro c first
        cases first
        rfl
    split
    · rename_i negative
      rw [List.cons_append, readYear, trimStart_cons rfl]
      simp only [read]
      show some (-(digitsValue (padded 4 year.natAbs) : Int), '-' :: rest) = _
      rw [digitsValue_padded]
      congr 2
      omega
    · rename_i positive
      rw [List.cons_append, readYear, trimStart_cons rfl]
      simp only [read]
      show some ((digitsValue (padded 4 year.natAbs) : Int), '-' :: rest) = _
      rw [digitsValue_padded]
      congr 2
      omega

/-- A fraction in as many digits as it needs. -/
theorem readFraction_padded {width n : Nat} (wide : 0 < width) (narrow : width ≤ 9)
    (fits : n < 10 ^ width) :
    readFraction ('.' :: padded width n) = some (n * 10 ^ (9 - width), []) := by
  have full := length_padded wide fits
  have read : readDigits 9 (padded width n ++ []) = some (padded width n, []) :=
    readDigits_append (fun _ => isDigit_of_mem_padded) (padded_ne_nil width n)
      (Nat.le_trans (Nat.le_of_eq full) narrow) (.inr fun c absent => by cases absent)
  rw [List.append_nil] at read
  rw [readFraction, read]
  show some (digitsValue (padded width n) * Nat.pow 10 (9 - (padded width n).length), []) = _
  rw [digitsValue_padded, full]
  rfl

theorem readFraction_fractionText {nanosecond : Nat} (small : nanosecond < nanosPerSecond) :
    readFraction (fractionText nanosecond) = some (nanosecond, []) := by
  have small : nanosecond < 1000000000 := small
  unfold fractionText
  split
  · rename_i zero
    rw [zero]
    rfl
  split
  · rename_i millis
    rw [readFraction_padded (by decide) (by decide) (by omega)]
    congr 2
    omega
  split
  · rename_i micros
    rw [readFraction_padded (by decide) (by decide) (by omega)]
    congr 2
    omega
  · rw [readFraction_padded (by decide) (by decide) (by omega)]
    congr 2
    omega

/-- Only digits are read, and no more than the width. -/
theorem of_readDigits {width : Nat} {text digits rest : List Char}
    (read : readDigits width text = some (digits, rest)) :
    digits.length ≤ width ∧ ∀ c ∈ digits, c.isDigit = true := by
  unfold readDigits at read
  split at read
  · cases read
  · cases read
    refine ⟨?_, List.all_eq_true.mp List.all_takeWhile⟩
    exact Nat.le_trans (List.takeWhile_sublist _).length_le (List.length_take_le _ _)

/-- A fraction is less than a second. -/
theorem readFraction_lt {text rest : List Char} {nanosecond : Nat}
    (read : readFraction text = some (nanosecond, rest)) : nanosecond < nanosPerSecond := by
  unfold readFraction at read
  split at read
  · obtain ⟨⟨digits, after⟩, taken, same⟩ := Option.bind_eq_some_iff.mp read
    obtain ⟨short, all⟩ := of_readDigits taken
    cases same
    calc digitsValue digits * 10 ^ (9 - digits.length)
        < 10 ^ digits.length * 10 ^ (9 - digits.length) :=
          Nat.mul_lt_mul_of_pos_right (digitsValue_lt all) (Nat.pow_pos (by decide))
      _ = nanosPerSecond := by
        rw [← Nat.pow_add, Nat.add_sub_cancel' short]
        rfl
  · cases read
    decide

/-! ## Leap seconds -/

/-- A leap second, if there is one, comes after the last second of a minute. -/
def Normal (t : Timestamp) : Prop :=
  t.nanosecond < nanosPerSecond ∨ t.second = 59

instance (t : Timestamp) : Decidable t.Normal :=
  inferInstanceAs (Decidable (_ ∨ _))

/-- There is at most one leap second. -/
theorem nanosecond_div_lt (t : Timestamp) : t.nanosecond / nanosPerSecond < 2 :=
  Nat.div_lt_of_lt_mul (Nat.mul_comm .. ▸ t.valid.nanosecond_lt)

/-- A timestamp in which a leap second at another place is the ordinary second that follows. -/
def normalized (t : Timestamp) : Timestamp :=
  if last : t.second = 59 then t
  else { t with
    second := t.second + t.nanosecond / nanosPerSecond
    nanosecond := t.nanosecond % nanosPerSecond
    valid := { t.valid with
      second_lt := by
        have second := t.valid.second_lt
        have carry := t.nanosecond_div_lt
        omega
      nanosecond_lt := Nat.lt_trans (Nat.mod_lt _ (by decide)) (by decide) } }

theorem normal_normalized (t : Timestamp) : t.normalized.Normal := by
  unfold normalized
  split
  · rename_i last
    exact .inr last
  · exact .inl (Nat.mod_lt _ (by decide))

theorem Normal.normalized_eq {t : Timestamp} (normal : t.Normal) : t.normalized = t := by
  unfold normalized
  split
  · rfl
  · rename_i last
    have ordinary := normal.resolve_right last
    obtain ⟨year, month, day, hour, minute, second, nanosecond, valid⟩ := t
    simp only [Nat.div_eq_of_lt ordinary, Nat.mod_eq_of_lt ordinary, Nat.add_zero]

theorem normalized_eq_self_iff {t : Timestamp} : t.normalized = t ↔ t.Normal :=
  ⟨fun same => same ▸ t.normal_normalized, Normal.normalized_eq⟩

/-! ## Timestamps -/

theorem ofFields?_self (t : Timestamp) :
    ofFields? t.year t.month t.day t.hour t.minute t.second t.nanosecond = some t :=
  dif_pos t.valid

/-- The fields that a timestamp is made of. -/
theorem of_ofFields? {year : Int} {month day hour minute second nanosecond : Nat} {t : Timestamp}
    (made : ofFields? year month day hour minute second nanosecond = some t) :
    t.second = second ∧ t.nanosecond = nanosecond := by
  unfold ofFields? at made
  split at made
  · cases made
    exact ⟨rfl, rfl⟩
  · cases made

theorem daysInMonth_le (year : Int) (month : Nat) : daysInMonth year month ≤ 31 := by
  unfold daysInMonth
  split
  · split <;> decide
  all_goals decide

/-- The second and the fraction that are written stand for the normalized ones. -/
theorem ofWritten?_written (t : Timestamp) :
    ofWritten? t.year t.month t.day t.hour t.minute (t.second + t.nanosecond / nanosPerSecond)
      (t.nanosecond % nanosPerSecond) = some t.normalized := by
  have second := t.valid.second_lt
  rcases Nat.le_one_iff_eq_zero_or_eq_one.mp (Nat.le_of_lt_succ t.nanosecond_div_lt) with
    none | one
  · have ordinary : t.nanosecond < nanosPerSecond := Nat.lt_of_div_eq_zero (by decide) none
    rw [none, Nat.mod_eq_of_lt ordinary, Nat.add_zero, ofWritten?, if_neg (Nat.ne_of_lt second),
      ofFields?_self, Normal.normalized_eq (.inl ordinary)]
  · by_cases last : t.second = 59
    · have whole := Nat.mod_add_div t.nanosecond nanosPerSecond
      rw [one, Nat.mul_one] at whole
      rw [one, last, ofWritten?, if_pos rfl, whole, ← last, ofFields?_self,
        Normal.normalized_eq (.inr last)]
    · have early : t.second + t.nanosecond / nanosPerSecond ≠ 60 := by
        rw [one]
        omega
      rw [ofWritten?, if_neg early, normalized, dif_neg last]
      exact dif_pos _

/-- A timestamp is read back as it was written, but a stray leap second as the second after it. -/
theorem ofText?_text (t : Timestamp) : ofText? t.text = some t.normalized := by
  have valid := t.valid
  have month : t.month < 10 ^ 2 := Nat.lt_of_le_of_lt valid.month_le (by decide)
  have day : t.day < 10 ^ 2 :=
    Nat.lt_of_le_of_lt (Nat.le_trans valid.day_le (daysInMonth_le _ _)) (by decide)
  have hour : t.hour < 10 ^ 2 := Nat.lt_trans valid.hour_lt (by decide)
  have minute : t.minute < 10 ^ 2 := Nat.lt_trans valid.minute_lt (by decide)
  have second : t.second + t.nanosecond / nanosPerSecond < 10 ^ 2 := by
    have below := valid.second_lt
    have carry := t.nanosecond_div_lt
    omega
  have fraction : t.nanosecond % nanosPerSecond < nanosPerSecond := Nat.mod_lt _ (by decide)
  have wide : 0 < 2 := by decide
  have dash := readSeparator_cons (show isWhiteSpace '-' = false from rfl)
  have mark := readSeparator_cons (show isWhiteSpace 'T' = false from rfl)
  have colon := readSeparator_cons (show isWhiteSpace ':' = false from rfl)
  simp only [ofText?, text, List.append_assoc, List.cons_append, Option.bind_eq_bind,
    Option.bind_some, readYear_yearText, dash, mark, colon, readNumber_padded wide month,
    readNumber_padded wide day, readNumber_padded wide hour, readNumber_padded wide minute,
    readNumber_padded wide second, readFraction_fractionText fraction]
  exact t.ofWritten?_written

/-! ## Timestamps without stray leap seconds -/

theorem normal_of_ofWritten? {year : Int} {month day hour minute second nanosecond : Nat}
    {t : Timestamp} (small : nanosecond < nanosPerSecond)
    (made : ofWritten? year month day hour minute second nanosecond = some t) : t.Normal := by
  unfold ofWritten? at made
  split at made
  · exact .inr (of_ofFields? made).1
  · exact .inl ((of_ofFields? made).2 ▸ small)

/-- What is read has a leap second at the end of a minute only. -/
theorem normal_of_ofText? {text : List Char} {t : Timestamp} (read : ofText? text = some t) :
    t.Normal := by
  simp only [ofText?, Option.bind_eq_bind, Option.bind_eq_some_iff] at read
  -- what stands before the fraction
  iterate 11 obtain ⟨_, -, read⟩ := read
  obtain ⟨⟨nanosecond, rest⟩, fraction, read⟩ := read
  split at read
  · exact normal_of_ofWritten? (readFraction_lt fraction) read
  · cases read

/-- A clock shows no leap seconds. -/
theorem normal_ofEpochNanos (nanos : Int) : (ofEpochNanos nanos).Normal := by
  unfold ofEpochNanos
  dsimp only
  cases made : ofFields? _ _ _ _ _ _ _ with
  | none => exact .inl (by decide)
  | some t => exact .inl ((of_ofFields? made).2 ▸ Nat.mod_lt _ (by decide))

end Timestamp

end Workflow
