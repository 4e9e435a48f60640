import Workflow.Text.Percent

/-!
# Percent encoding and what it decodes to

Where the percent sign itself is not safe, encoded text decodes to the UTF-8 form of the text,
whatever the text is. So no two texts have one encoding, and an encoding can be told from the
characters that stand in it.
-/

namespace Workflow

namespace Percent

/-! ## Bytes -/

theorem hexValue?_hexDigit : ∀ n < 16, hexValue? (hexDigit n) = some n := by
  decide

theorem hexDigit_ne_slash : ∀ n < 16, hexDigit n ≠ '/' := by
  decide

/-- A byte is read back from its two digits. -/
theorem decode_byte_append (b : UInt8) (rest : List Char) :
    decode (byte b ++ rest) = b :: decode rest := by
  have bound : b.toNat < 256 := b.toNat_lt
  have high := hexValue?_hexDigit (b.toNat / 16) (by omega)
  have low := hexValue?_hexDigit (b.toNat % 16) (by omega)
  have value : 16 * (b.toNat / 16) + b.toNat % 16 = b.toNat := by omega
  simp [byte, decode, high, low, value]

theorem decode_flatMap_byte_append (bytes : List UInt8) (rest : List Char) :
    decode (bytes.flatMap byte ++ rest) = bytes ++ decode rest := by
  induction bytes with
  | nil => rfl
  | cons b bytes ih =>
      rw [List.flatMap_cons, List.append_assoc, decode_byte_append, ih, List.cons_append]

/-- What is not a percent sign stands for itself. -/
theorem decode_cons {c : Char} (plain : c ≠ '%') (rest : List Char) :
    decode (c :: rest) = String.utf8EncodeChar c ++ decode rest := by
  rw [decode]
  intro _ _ _ h
  exact absurd h plain

/-! ## Texts -/

variable {safe : Char → Bool}

theorem encode_cons (c : Char) (text : List Char) :
    encode safe (c :: text) =
      (if safe c then [c] else (String.utf8EncodeChar c).flatMap byte) ++ encode safe text :=
  rfl

/-- Encoded text decodes to the bytes of the text. -/
theorem decode_encode (sign : safe '%' = false) (text : List Char) :
    decode (encode safe text) = text.flatMap String.utf8EncodeChar := by
  induction text with
  | nil => rfl
  | cons c text ih =>
      rw [encode_cons, List.flatMap_cons]
      split
      case isTrue h =>
        have plain : c ≠ '%' := by
          rintro rfl
          simp [sign] at h
        rw [List.singleton_append, decode_cons plain, ih]
      case isFalse => rw [decode_flatMap_byte_append, ih]

/-- Encoded text is text again when it is decoded: the one that was encoded. -/
theorem fromUTF8?_decode_encode (sign : safe '%' = false) (text : List Char) :
    String.fromUTF8? ⟨(decode (encode safe text)).toArray⟩ = some (String.ofList text) := by
  have bytes : (⟨(decode (encode safe text)).toArray⟩ : ByteArray) = text.utf8Encode := by
    ext1
    rw [decode_encode sign, List.utf8Encode, List.data_toByteArray]
  rw [bytes, String.fromUTF8?, dif_pos ByteArray.isValidUTF8_utf8Encode]
  rfl

/-- No two texts are encoded so that they decode alike. -/
theorem eq_of_decode_encode (sign : safe '%' = false) {text other : List Char}
    (same : decode (encode safe text) = decode (encode safe other)) : text = other := by
  have read := fromUTF8?_decode_encode sign text
  rw [same, fromUTF8?_decode_encode sign other] at read
  exact (String.ofList_injective (Option.some.inj read)).symm

/-- A safe character of encoded text is one of the text, and any other is part of a byte. -/
theorem mem_encode {c : Char} {text : List Char} (h : c ∈ encode safe text) :
    (c ∈ text ∧ safe c = true) ∨ c = '%' ∨ ∃ n < 16, c = hexDigit n := by
  obtain ⟨d, d_mem, h⟩ := List.mem_flatMap.mp h
  split at h
  case isTrue is_safe =>
    obtain rfl := List.mem_singleton.mp h
    exact .inl ⟨d_mem, is_safe⟩
  case isFalse =>
    obtain ⟨b, -, h⟩ := List.mem_flatMap.mp h
    have bound : b.toNat < 256 := b.toNat_lt
    simp only [byte, List.mem_cons, List.not_mem_nil, or_false] at h
    obtain rfl | rfl | rfl := h
    · exact .inr (.inl rfl)
    · exact .inr (.inr ⟨_, by omega, rfl⟩)
    · exact .inr (.inr ⟨_, by omega, rfl⟩)

/-- A slash stands in encoded text only if it is safe and stands in the text. -/
theorem slash_not_mem_encode {text : List Char} (h : safe '/' = false ∨ '/' ∉ text) :
    '/' ∉ encode safe text := by
  intro slash
  obtain ⟨inside, is_safe⟩ | sign | ⟨n, bound, digit⟩ := mem_encode slash
  · obtain unsafely | outside := h
    · simp [is_safe] at unsafely
    · exact outside inside
  · simp at sign
  · exact hexDigit_ne_slash n bound digit.symm

end Percent

end Workflow
