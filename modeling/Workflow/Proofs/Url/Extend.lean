import Mathlib.Data.List.Basic
import Workflow.Proofs.Url.Path
import Workflow.Remote.Unreachable

/-!
# Addresses below another

A segment that is added to an address decodes to the text it was given as, without the tabs and
line ends of it. It is one segment of the new path unless it is a dot or two dots, or becomes that
when they are dropped. The path that segments are added to is known by its text, and a slash at the
end of that makes no difference.
-/

namespace Workflow

namespace Url

/-! ## Segments that are carried out -/

/-- The small form of a character is the character itself, but for capital letters. -/
theorem toLower_cases (c : Char) :
    c.toLower = c ∨ c.toLower.toNat = c.toNat + 32 ∧ 65 ≤ c.toNat ∧ c.toNat ≤ 90 := by
  by_cases capital : c.val ≥ 'A'.val ∧ c.val ≤ 'Z'.val
  · have bounds : 65 ≤ c.toNat ∧ c.toNat ≤ 90 := capital
    have code : c.toLower.toNat = (c.val + 32).toNat := congrArg Char.toNat (dif_pos capital)
    rw [UInt32.toNat_add, Char.toNat_val] at code
    exact .inr ⟨code.trans (Nat.mod_eq_of_lt (by simp; omega)), bounds⟩
  · exact .inl (dif_neg capital)

/-- Below the small letters, nothing is the small form of another character. -/
theorem eq_of_toLower {c d : Char} (below : d.toNat < 97) (h : c.toLower = d) : c = d := by
  obtain same | ⟨code, low, -⟩ := toLower_cases c
  · exact same.symm.trans h
  · rw [h] at code
    omega

theorem e_of_toLower {c : Char} (h : c.toLower = 'e') : c = 'e' ∨ c = 'E' := by
  obtain same | ⟨code, -, -⟩ := toLower_cases c
  · exact .inl (same.symm.trans h)
  · rw [h] at code
    have small : 'e'.toNat = 'E'.toNat + 32 := rfl
    have capital : c.toNat = 'E'.toNat := by omega
    exact .inr (Char.toNat_inj.mp capital)

/-- A dot as it may be written in a segment. -/
def IsDot (text : List Char) : Prop :=
  text.map Char.toLower = ['.'] ∨ text.map Char.toLower = ['%', '2', 'e']

theorem isHere_iff {segment : List Char} : isHere segment = true ↔ IsDot segment := by
  simp only [isHere, List.contains_cons, List.contains_nil, Bool.or_false, Bool.or_eq_true,
    beq_iff_eq, ← String.toList_inj, String.toList_ofList]
  rfl

theorem exists_dots_of_isUp {segment : List Char} (up : isUp segment = true) :
    ∃ first second, segment = first ++ second ∧ IsDot first ∧ IsDot second := by
  have written : ∃ first second : List Char, segment.map Char.toLower = first ++ second ∧
      (first = ['.'] ∨ first = ['%', '2', 'e']) ∧ (second = ['.'] ∨ second = ['%', '2', 'e']) := by
    simp only [isUp, List.contains_cons, List.contains_nil, Bool.or_false, Bool.or_eq_true,
      beq_iff_eq, ← String.toList_inj, String.toList_ofList] at up
    obtain text | text | text | text := up
    · exact ⟨['.'], _, text, .inl rfl, .inl rfl⟩
    · exact ⟨['.'], _, text, .inl rfl, .inr rfl⟩
    · exact ⟨['%', '2', 'e'], _, text, .inr rfl, .inl rfl⟩
    · exact ⟨['%', '2', 'e'], _, text, .inr rfl, .inr rfl⟩
  obtain ⟨_, _, text, first_dot, second_dot⟩ := written
  obtain ⟨first, second, rfl, rfl, rfl⟩ := List.map_eq_append_iff.mp text
  exact ⟨first, second, rfl, first_dot, second_dot⟩

/-- A dot decodes to a dot, whatever follows it. -/
theorem IsDot.decode_append {dot : List Char} (h : IsDot dot) (rest : List Char) :
    Percent.decode (dot ++ rest) = 0x2E :: Percent.decode rest := by
  obtain h | h := h
  · obtain ⟨c, rfl, dot⟩ := List.map_eq_singleton_iff.mp h
    obtain rfl := eq_of_toLower (by decide) dot
    rfl
  · simp only [List.map_eq_cons_iff, List.map_eq_nil_iff] at h
    obtain ⟨a, _, rfl, sign, b, _, rfl, two, c, _, rfl, e, rfl⟩ := h
    obtain rfl := eq_of_toLower (by decide) sign
    obtain rfl := eq_of_toLower (by decide) two
    obtain rfl | rfl := e_of_toLower e <;> rfl

theorem decode_of_isHere {segment : List Char} (here : isHere segment = true) :
    Percent.decode segment = [0x2E] := by
  have decoded := (isHere_iff.mp here).decode_append []
  rwa [List.append_nil] at decoded

theorem decode_of_isUp {segment : List Char} (up : isUp segment = true) :
    Percent.decode segment = [0x2E, 0x2E] := by
  obtain ⟨first, second, rfl, first_dot, second_dot⟩ := exists_dots_of_isUp up
  have decoded := second_dot.decode_append []
  rw [List.append_nil] at decoded
  rw [first_dot.decode_append, decoded]
  rfl

/-! ## Encoded segments -/

/-- What is written of a segment: all of it but tabs and line ends. -/
def kept (segment : List Char) : List Char :=
  segment.filter (!isDropped ·)

theorem encodeSegment_eq (special : Bool) (segment : List Char) :
    encodeSegment special segment = Percent.encode (inSegment special) (kept segment) := rfl

theorem kept_eq_self_iff {segment : List Char} :
    kept segment = segment ↔ ∀ c ∈ segment, isDropped c = false := by
  simp [kept, List.filter_eq_self]

@[simp] theorem kept_kept (segment : List Char) : kept (kept segment) = kept segment := by
  simp [kept]

/-- What is dropped may as well be dropped before. -/
theorem encodeSegment_kept (special : Bool) (segment : List Char) :
    encodeSegment special (kept segment) = encodeSegment special segment := by
  rw [encodeSegment_eq, kept_kept, encodeSegment_eq]

theorem inSegment_sign (special : Bool) : inSegment special '%' = false := by
  cases special <;> decide

theorem inSegment_slash (special : Bool) : inSegment special '/' = false := by
  cases special <;> decide

variable {special : Bool}

theorem slash_not_mem_encodeSegment (segment : List Char) :
    '/' ∉ encodeSegment special segment :=
  Percent.slash_not_mem_encode (.inl (inSegment_slash special))

/-- An added segment decodes to what is written of it. -/
theorem decoded?_encodeSegment (segment : List Char) :
    decoded? (encodeSegment special segment) = some (.ofList (kept segment)) :=
  Percent.fromUTF8?_decode_encode (inSegment_sign special) (kept segment)

theorem isHere_encodeSegment {segment : List Char} :
    isHere (encodeSegment special segment) = true ↔ kept segment = ['.'] := by
  rw [encodeSegment_eq]
  constructor
  · intro here
    apply Percent.eq_of_decode_encode (inSegment_sign special)
    rw [decode_of_isHere here]
    cases special <;> decide
  · intro dot
    rw [dot]
    cases special <;> decide

theorem isUp_encodeSegment {segment : List Char} :
    isUp (encodeSegment special segment) = true ↔ kept segment = ['.', '.'] := by
  rw [encodeSegment_eq]
  constructor
  · intro up
    apply Percent.eq_of_decode_encode (inSegment_sign special)
    rw [decode_of_isUp up]
    cases special <;> decide
  · intro dots
    rw [dots]
    cases special <;> decide

/-! ## Where segments are added -/

/-- A path without its only segment if that is empty. -/
def opened (path : List (List Char)) : List (List Char) :=
  if path = [[]] then [] else path

/-- What stands of a path before the segments that are added to it. -/
def stem (path : List (List Char)) : List (List Char) :=
  opened (dropFinalSlash path)

theorem opened_append (path : List (List Char)) {segment : List Char} (some_text : segment ≠ []) :
    opened (path ++ [segment]) = path ++ [segment] := by
  rw [opened, if_neg]
  intro single
  have last := congrArg List.getLast? single
  simp [some_text] at last

/-- One up from a segment that is no drive is what stands before it. -/
theorem shorten_append (path : List (List Char)) {segment : List Char}
    (not_drive : isDrive segment = false) : shorten (path ++ [segment]) = path := by
  simp [shorten, not_drive]

/-- A segment other than a dot or two dots is added as it is encoded. -/
theorem appendSegment_eq {scheme : List Char} (special : isSpecialScheme scheme = true)
    (not_file : isFileScheme scheme = false) (path : List (List Char)) (segment : List Char) :
    appendSegment scheme path segment =
      if segment = ['.'] ∨ segment = ['.', '.'] then path
      else if kept segment = ['.', '.'] then shorten (opened path) ++ [[]]
      else if kept segment = ['.'] then opened path ++ [[]]
      else opened path ++ [encodeSegment true segment] := by
  simp only [appendSegment, addSegment, special, not_file, isUp_encodeSegment,
    isHere_encodeSegment, opened, Bool.false_and, Bool.false_eq_true, if_true, if_false]

/-- A segment that stands for itself is added as it is. -/
theorem appendSegment_word {scheme : List Char} (special : isSpecialScheme scheme = true)
    (not_file : isFileScheme scheme = false) (path : List (List Char)) {word : List Char}
    (plain : kept word = word ∧ encodeSegment true word = word)
    (not_dots : word ≠ ['.'] ∧ word ≠ ['.', '.']) :
    appendSegment scheme path word = opened path ++ [word] := by
  rw [appendSegment_eq special not_file, plain.1, plain.2, if_neg (not_or.mpr not_dots),
    if_neg not_dots.2, if_neg not_dots.1]

/-- A text less one slash at its end. -/
def lessSlash (text : List Char) : List Char :=
  if text.getLast? = some '/' then text.dropLast else text

theorem getLast?_text_append {segment : List Char} (path : List (List Char))
    (whole : '/' ∉ segment) :
    (Path.segments (path ++ [segment])).text.getLast? = some '/' ↔ segment = [] := by
  rw [Path.text_append, Path.text_cons, Path.text_nil, List.append_nil]
  obtain rfl | ⟨front, c, rfl⟩ := List.eq_nil_or_concat' segment
  · simp
  · have other : c ≠ '/' := by
      rintro rfl
      simp at whole
    simp [other, List.getLast?_cons]

/-- The stem of a path is written as the path less one slash at its end, but for the path of two
slashes, which loses both. -/
theorem text_stem {path : List (List Char)} (divided : Divided path) (not_bare : path ≠ [[], []]) :
    (Path.segments (stem path)).text = lessSlash (Path.segments path).text := by
  obtain ⟨front, last, rfl⟩ := (List.eq_nil_or_concat' path).resolve_left divided.ne_nil
  have slash := getLast?_text_append front (divided.whole last (by simp))
  by_cases empty : last = []
  · subst empty
    have front_only : stem (front ++ [[]]) = front := by
      cases front with
      | nil => rfl
      | cons first front =>
          have kept_whole : first :: front ≠ [[]] := fun bare => not_bare (by simp [bare])
          rw [stem, dropFinalSlash, if_pos ⟨by simp, List.getLast?_concat⟩, List.dropLast_concat,
            opened, if_neg kept_whole]
    rw [front_only, lessSlash, if_pos (slash.mpr rfl), Path.text_append]
    simp
  · have unchanged : stem (front ++ [last]) = front ++ [last] := by
      rw [stem, dropFinalSlash, if_neg (by simp [empty]), opened_append front empty]
    rw [unchanged, lessSlash, if_neg (mt slash.mp empty)]

theorem whole_stem {path : List (List Char)} (divided : Divided path) :
    ∀ segment ∈ stem path, '/' ∉ segment := by
  intro segment mem
  have dropped : segment ∈ dropFinalSlash path := by
    rw [stem, opened] at mem
    split at mem
    · cases mem
    · exact mem
  rw [dropFinalSlash] at dropped
  split at dropped
  · exact divided.whole segment (List.dropLast_subset path dropped)
  · exact divided.whole segment dropped

/-- A path whose text ends in no slash has text in its last segment. -/
theorem getLast?_ne_of_text {path : List (List Char)} (divided : Divided path)
    (open_end : (Path.segments path).text.getLast? ≠ some '/') : path.getLast? ≠ some [] := by
  obtain ⟨front, last, rfl⟩ := (List.eq_nil_or_concat' path).resolve_left divided.ne_nil
  rw [List.getLast?_concat]
  intro empty
  exact open_end
    ((getLast?_text_append front (divided.whole last (by simp))).mpr (Option.some.inj empty))

/-- A path with one slash more has an empty segment more. -/
theorem eq_append_of_text {path slashed : List (List Char)} (divided : Divided path)
    (slashed_divided : Divided slashed)
    (text : (Path.segments slashed).text = (Path.segments path).text ++ ['/']) :
    slashed = path ++ [[]] := by
  have longer_whole : ∀ segment ∈ path ++ [[]], '/' ∉ segment :=
    List.forall_mem_append.mpr ⟨divided.whole, by simp⟩
  apply Path.segments_eq_of_text slashed_divided.whole longer_whole
  rw [text, Path.text_append]
  rfl

/-- An address with one slash more at the end of its path, where there was none, is the same for
all that is added. -/
theorem below?_slash {base slashed : Url} {path : List (List Char)} (divided : Divided path)
    (base_path : base.path = .segments path)
    (slashed_path : slashed.path = .segments (path ++ [[]]))
    (same : slashed = { base with path := slashed.path }) (open_end : path.getLast? ≠ some [])
    (segments : List String) : slashed.below? segments = base.below? segments := by
  have longer : 1 < (path ++ [[]]).length := by
    have some_segment := List.length_pos_iff.mpr divided.ne_nil
    simpa using some_segment
  have dropped : dropFinalSlash (path ++ [[]]) = path := by
    rw [dropFinalSlash, if_pos ⟨longer, List.getLast?_concat⟩, List.dropLast_concat]
  have unchanged : dropFinalSlash path = path := if_neg fun h => open_end h.2
  rw [same, slashed_path, below?, below?, base_path]
  simp only [dropped, unchanged]

end Url

end Workflow
