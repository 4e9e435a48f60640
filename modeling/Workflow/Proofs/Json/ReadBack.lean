import Workflow.Json.Decode
import Workflow.Proofs.Json.Layout

/-!
# Reading back values

A written value is read back as the tree that has the same shape, in either layout and
whatever else follows, so long as its numbers are. The tree in turn has a value when it
does not nest too deep: the same one, but for the order of members, which is by key in
every value that is read.
-/

namespace Workflow

namespace ParseTree

mutual

/-- The tree that the text of a value is read as. -/
def ofJson : Json → ParseTree
  | .null => .null
  | .bool b => .bool b
  | .number n => .number (some n)
  | .string s => .string (some s)
  | .array items => .array (ofItems items)
  | .object members => .object (ofMembers members)

def ofItems : List Json → List ParseTree
  | [] => []
  | item :: rest => ofJson item :: ofItems rest

def ofMembers : List (String × Json) → List (Option String × ParseTree)
  | [] => []
  | (key, value) :: rest => (some key, ofJson value) :: ofMembers rest

end

end ParseTree

/-- A value all of whose numbers are read back. -/
inductive Json.Legible : Json → Prop
  | null : Legible .null
  | bool (b : Bool) : Legible (.bool b)
  | number {n : Number} : n.ReadsBack → Legible (.number n)
  | string (s : String) : Legible (.string s)
  | array {items : List Json} : (∀ item ∈ items, Legible item) → Legible (.array items)
  | object {members : List (String × Json)} :
      (∀ entry ∈ members, Legible entry.2) → Legible (.object members)

namespace ParseTree

/-! ## White space -/

theorem isSpace_cases {c : Char} (space : isSpace c = true) :
    c = ' ' ∨ c = '\t' ∨ c = '\n' ∨ c = '\r' := by
  simpa [isSpace, or_assoc] using space

theorem skipSpace_append {space : List Char} (blank : ∀ c ∈ space, isSpace c = true)
    (text : List Char) : skipSpace (space ++ text) = skipSpace text :=
  List.dropWhile_append_of_pos blank

theorem skipSpace_cons {c : Char} (notSpace : isSpace c = false) (text : List Char) :
    skipSpace (c :: text) = c :: text := by
  simp [skipSpace, notSpace]

theorem endsNumeral_append {space rest : List Char} (blank : ∀ c ∈ space, isSpace c = true)
    (ends : EndsNumeral rest) : EndsNumeral (space ++ rest) := by
  cases space with
  | nil => exact ends
  | cons c tail =>
      intro d member
      cases member
      rcases isSpace_cases (blank c List.mem_cons_self) with rfl | rfl | rfl | rfl <;> decide

/-- Space before a value changes nothing. -/
theorem readValue_append_space {space : List Char} (blank : ∀ c ∈ space, isSpace c = true)
    (fuel : Nat) (text : List Char) : readValue fuel (space ++ text) = readValue fuel text := by
  cases fuel with
  | zero => rfl
  | succ fuel => rw [readValue, readValue, skipSpace_append blank]

theorem readItems_append_space {space : List Char} (blank : ∀ c ∈ space, isSpace c = true)
    (fuel : Nat) (text : List Char) : readItems fuel (space ++ text) = readItems fuel text := by
  cases fuel with
  | zero => rfl
  | succ fuel => rw [readItems, readItems, readValue_append_space blank]

theorem readMembers_append_space {space : List Char} (blank : ∀ c ∈ space, isSpace c = true)
    (fuel : Nat) (text : List Char) :
    readMembers fuel (space ++ text) = readMembers fuel text := by
  cases fuel with
  | zero => rfl
  | succ fuel => rw [readMembers, readMembers, skipSpace_append blank]

/-- Nor does it matter whether space was skipped already. -/
theorem readItems_skipSpace (fuel : Nat) (text : List Char) :
    readItems fuel (skipSpace text) = readItems fuel text := by
  have blank : ∀ c ∈ text.takeWhile isSpace, isSpace c = true :=
    fun _ member => List.all_eq_true.mp List.all_takeWhile _ member
  have split : text.takeWhile isSpace ++ skipSpace text = text :=
    List.takeWhile_append_dropWhile
  rw [← readItems_append_space blank, split]

/-! ## Values without parts -/

/-- A numeral is read as a value. -/
theorem readValue_of_readNumber {text : List Char} {read : ParseTree × List Char}
    (h : readNumber text = some read) (fuel : Nat) : readValue (fuel + 1) text = some read := by
  obtain ⟨c, first, kind⟩ := head?_of_readNumber h
  cases text with
  | nil => cases first
  | cons d tail =>
      cases first
      rcases kind with digit | rfl
      · have notSpace : isSpace c = false := by
          cases space : isSpace c with
          | false => rfl
          | true =>
              rcases isSpace_cases space with rfl | rfl | rfl | rfl <;> cases digit
        have unskipped : skipSpace (c :: tail) = c :: tail := skipSpace_cons notSpace tail
        rw [readNumber] at h
        · rw [readValue, unskipped]
          split
          case h_8 => exact h
          all_goals
            rename_i same
            cases same
            cases digit
        · intro _ same
          cases same
          cases digit
      · exact h

/-! ## Steps of the reader -/

theorem readItems_last {fuel : Nat} {text rest tail : List Char} {item : ParseTree}
    (read : readValue fuel text = some (item, rest)) (close : skipSpace rest = ']' :: tail) :
    readItems (fuel + 1) text = some ([item], tail) := by
  rw [readItems, read]
  simp [close]

theorem readItems_more {fuel : Nat} {text rest more tail : List Char} {item : ParseTree}
    {items : List ParseTree} (read : readValue fuel text = some (item, rest))
    (comma : skipSpace rest = ',' :: more) (others : readItems fuel more = some (items, tail)) :
    readItems (fuel + 1) text = some (item :: items, tail) := by
  rw [readItems, read]
  simp [comma, others]

/-- An array with items; an item never starts with the closing bracket. -/
theorem readValue_array {fuel : Nat} {text tail : List Char} {items : List ParseTree}
    (read : readItems fuel text = some (items, tail)) :
    readValue (fuel + 1) ('[' :: text) = some (.array items, tail) := by
  have open_ : ∀ rest, skipSpace text ≠ ']' :: rest := by
    intro rest close
    rw [← readItems_skipSpace, close] at read
    cases fuel with
    | zero => cases read
    | succ fuel =>
        cases fuel with
        | zero => cases read
        | succ fuel => cases read
  rw [readValue, skipSpace_cons (by decide)]
  simp [readItems_skipSpace, read]

/-- A member is a key, a colon and a value. -/
theorem readMembers_last {fuel : Nat} {text value rest tail : List Char} {key : Option String}
    {tree : ParseTree} {between : List Char} (name : readString text = some (key, between))
    (colon : skipSpace between = ':' :: value) (read : readValue fuel value = some (tree, rest))
    (close : skipSpace rest = '}' :: tail) :
    readMembers (fuel + 1) ('"' :: text) = some ([(key, tree)], tail) := by
  rw [readMembers, skipSpace_cons (by decide)]
  simp [name, colon, read, close]

theorem readMembers_more {fuel : Nat} {text value rest more tail : List Char}
    {key : Option String} {tree : ParseTree} {members : List (Option String × ParseTree)}
    {between : List Char} (name : readString text = some (key, between))
    (colon : skipSpace between = ':' :: value) (read : readValue fuel value = some (tree, rest))
    (comma : skipSpace rest = ',' :: more)
    (others : readMembers fuel more = some (members, tail)) :
    readMembers (fuel + 1) ('"' :: text) = some ((key, tree) :: members, tail) := by
  rw [readMembers, skipSpace_cons (by decide)]
  simp [name, colon, read, comma, others]

/-- An object with members; a member never starts with the closing brace. -/
theorem readValue_object {fuel : Nat} {space text tail : List Char}
    {members : List (Option String × ParseTree)} (blank : ∀ c ∈ space, isSpace c = true)
    (read : readMembers fuel ('"' :: text) = some (members, tail)) :
    readValue (fuel + 1) ('{' :: (space ++ '"' :: text)) = some (.object members, tail) := by
  have skipped : skipSpace (space ++ '"' :: text) = '"' :: text := by
    rw [skipSpace_append blank, skipSpace_cons (by decide)]
  rw [readValue, skipSpace_cons (by decide)]
  simp [skipped, read]

end ParseTree

namespace Layout

open ParseTree

variable {layout : Layout}

/-- A value is read back under a layout, by as many calls as twice its length. -/
def ReadsBack (layout : Layout) (value : Json) : Prop :=
  ∀ depth fuel rest, 2 * (layout.spell depth value).length ≤ fuel → EndsNumeral rest →
    readValue fuel (layout.spell depth value ++ rest) = some (ofJson value, rest)

theorem endsNumeral_mark {c : Char} (mark : c = ',' ∨ c = ']' ∨ c = '}') (rest : List Char) :
    EndsNumeral (c :: rest) := by
  intro d member
  cases member
  rcases mark with rfl | rfl | rfl <;> decide

theorem endsNumeral_gap (depth : Nat) {c : Char} (mark : c = ',' ∨ c = ']' ∨ c = '}')
    (rest : List Char) : EndsNumeral (layout.gap depth ++ c :: rest) :=
  endsNumeral_append (layout.gap_space depth) (endsNumeral_mark mark rest)

theorem skipSpace_gap (depth : Nat) {c : Char} (notSpace : isSpace c = false)
    (rest : List Char) : skipSpace (layout.gap depth ++ c :: rest) = c :: rest := by
  rw [skipSpace_append (layout.gap_space depth), skipSpace_cons notSpace]

/-- No value is written as nothing, so there is fuel for a first call. -/
theorem readsBack_of_succ {value : Json} (written : ∀ depth, layout.spell depth value ≠ [])
    (reads : ∀ depth fuel rest, 2 * (layout.spell depth value).length ≤ fuel + 1 →
      EndsNumeral rest → readValue (fuel + 1) (layout.spell depth value ++ rest) =
        some (ofJson value, rest)) : layout.ReadsBack value := by
  intro depth fuel rest enough ends
  have := List.length_pos_iff.mpr (written depth)
  obtain ⟨fuel, rfl⟩ := Nat.exists_eq_succ_of_ne_zero (by omega : fuel ≠ 0)
  exact reads depth fuel rest enough ends

theorem readsBack_null : layout.ReadsBack .null :=
  readsBack_of_succ (by simp [spell]) fun _ _ _ _ _ => rfl

theorem readsBack_bool (b : Bool) : layout.ReadsBack (.bool b) := by
  refine readsBack_of_succ (by cases b <;> simp [spell]) ?_
  intro _ _ _ _ _
  cases b <;> rfl

theorem readsBack_number {n : Number} (h : n.ReadsBack) : layout.ReadsBack (.number n) := by
  refine readsBack_of_succ ?_ ?_
  · intro depth empty
    obtain ⟨c, first, -⟩ := head?_of_readNumber (h [] (by intro _ none; cases none))
    rw [List.append_nil, show Json.numberText n = [] from empty] at first
    cases first
  · intro _ fuel rest _ ends
    exact readValue_of_readNumber (h rest ends) fuel

theorem readString_quote_append (s : String) (rest : List Char) :
    ∃ text, Json.quote s ++ rest = '"' :: text ∧ readString text = some (some s, rest) := by
  refine ⟨s.toList.flatMap Json.escape ++ '"' :: rest, ?_, readString_quote s rest⟩
  simp [Json.quote]

theorem readsBack_string (s : String) : layout.ReadsBack (.string s) := by
  refine readsBack_of_succ (by simp [spell, Json.quote]) ?_
  intro depth fuel rest _ _
  obtain ⟨text, quoted, read⟩ := readString_quote_append s rest
  rw [show layout.spell depth (.string s) = Json.quote s from rfl, quoted, readValue,
    skipSpace_cons (by decide)]
  simp [read, ofJson]

/-! ## Arrays and objects -/

/-- The items of an array are read back to its bracket, one call for each. -/
theorem readItems_spell {item : Json} {rest : List Json} (first : layout.ReadsBack item)
    (others : ∀ item ∈ rest, layout.ReadsBack item) (outer depth fuel : Nat)
    (tail : List Char) (enough : 2 * ((layout.spell depth item).length +
      (layout.spellItems depth rest).length) + 1 ≤ fuel) :
    readItems fuel (layout.spell depth item ++ (layout.spellItems depth rest ++
      (layout.gap outer ++ ']' :: tail))) = some (ofItems (item :: rest), tail) := by
  obtain ⟨fuel, rfl⟩ := Nat.exists_eq_succ_of_ne_zero (by omega : fuel ≠ 0)
  induction rest generalizing item fuel with
  | nil =>
      exact readItems_last
        (first depth fuel _ (by omega) (endsNumeral_gap outer (by decide) tail))
        (skipSpace_gap outer (by decide) tail)
  | cons next more ih =>
      simp only [spellItems, List.append_assoc, List.length_append, List.length_cons,
        List.cons_append] at enough ⊢
      refine readItems_more
        (first depth fuel _ (by omega) (endsNumeral_mark (by decide) _))
        (skipSpace_cons (by decide) _) ?_
      rw [readItems_append_space (layout.gap_space depth)]
      obtain ⟨fuel, rfl⟩ := Nat.exists_eq_succ_of_ne_zero (by omega : fuel ≠ 0)
      exact ih (others next List.mem_cons_self)
        (fun item member => others item (List.mem_cons_of_mem _ member)) fuel (by omega)

theorem readsBack_array {items : List Json} (h : ∀ item ∈ items, layout.ReadsBack item) :
    layout.ReadsBack (.array items) := by
  cases items with
  | nil => exact readsBack_of_succ (by simp [spell]) fun _ _ _ _ _ => rfl
  | cons item more =>
      refine readsBack_of_succ (by simp [spell]) ?_
      intro depth fuel rest enough _
      simp only [spell, List.append_assoc, List.length_append, List.length_cons,
        List.cons_append, List.nil_append] at enough ⊢
      refine readValue_array ?_
      rw [readItems_append_space (layout.gap_space (depth + 1))]
      exact readItems_spell (h item List.mem_cons_self)
        (fun item member => h item (List.mem_cons_of_mem _ member)) depth (depth + 1) fuel rest
        (by omega)

/-- The members of an object are read back to its brace, one call for each. -/
theorem readMembers_spell {key : String} {value : Json} {rest : List (String × Json)}
    (first : layout.ReadsBack value) (others : ∀ entry ∈ rest, layout.ReadsBack entry.2)
    (outer depth fuel : Nat) (tail : List Char)
    (enough : 2 * ((Json.quote key).length + (layout.spell depth value).length +
      (layout.spellMembers depth rest).length) + 1 ≤ fuel) :
    readMembers fuel (Json.quote key ++ (':' :: (layout.colonGap ++
      (layout.spell depth value ++ (layout.spellMembers depth rest ++
        (layout.gap outer ++ '}' :: tail)))))) = some (ofMembers ((key, value) :: rest), tail) := by
  obtain ⟨fuel, rfl⟩ := Nat.exists_eq_succ_of_ne_zero (by omega : fuel ≠ 0)
  induction rest generalizing key value fuel with
  | nil =>
      obtain ⟨text, quoted, name⟩ := readString_quote_append key _
      have ends : EndsNumeral (layout.gap outer ++ '}' :: tail) :=
        endsNumeral_gap outer (by decide) tail
      have read := first depth fuel _ (by omega) ends
      rw [← readValue_append_space layout.colonGap_space] at read
      rw [quoted]
      exact readMembers_last name (skipSpace_cons (by decide) _) read
        (skipSpace_gap outer (by decide) tail)
  | cons next more ih =>
      obtain ⟨nextKey, nextValue⟩ := next
      have second : layout.ReadsBack nextValue := others (nextKey, nextValue) List.mem_cons_self
      simp only [spellMembers, List.append_assoc, List.length_append, List.length_cons,
        List.cons_append] at enough ⊢
      obtain ⟨text, quoted, name⟩ := readString_quote_append key _
      rw [quoted]
      refine readMembers_more name (skipSpace_cons (by decide) _)
        ((readValue_append_space layout.colonGap_space _ _).trans
          (first depth fuel _ (by omega) (endsNumeral_mark (by decide) _)))
        (skipSpace_cons (by decide) _) ?_
      rw [readMembers_append_space (layout.gap_space depth)]
      obtain ⟨fuel, rfl⟩ := Nat.exists_eq_succ_of_ne_zero (by omega : fuel ≠ 0)
      exact ih second (fun entry member => others entry (List.mem_cons_of_mem _ member)) fuel
        (by omega)

theorem readsBack_object {members : List (String × Json)}
    (h : ∀ entry ∈ members, layout.ReadsBack entry.2) : layout.ReadsBack (.object members) := by
  cases members with
  | nil => exact readsBack_of_succ (by simp [spell]) fun _ _ _ _ _ => rfl
  | cons entry more =>
      obtain ⟨key, value⟩ := entry
      refine readsBack_of_succ (by simp [spell]) ?_
      intro depth fuel rest enough _
      simp only [spell, List.append_assoc, List.length_append, List.length_cons,
        List.cons_append, List.nil_append] at enough ⊢
      have first : layout.ReadsBack value := h (key, value) List.mem_cons_self
      have read : readMembers fuel (Json.quote key ++ _) = _ := readMembers_spell first
        (fun entry member => h entry (List.mem_cons_of_mem _ member)) depth (depth + 1) fuel rest
        (by omega)
      obtain ⟨text, quoted, -⟩ := readString_quote_append key _
      rw [quoted] at read ⊢
      exact readValue_object (layout.gap_space (depth + 1)) read

/-! ## Whole texts -/

/-- A legible value is read back under every layout. -/
theorem readsBack_of_legible {value : Json} (legible : value.Legible) :
    layout.ReadsBack value := by
  induction legible with
  | null => exact readsBack_null
  | bool b => exact readsBack_bool b
  | number h => exact readsBack_number h
  | string s => exact readsBack_string s
  | array _ ih => exact readsBack_array ih
  | object _ ih => exact readsBack_object ih

/-- A text that is nothing but a value is read as the tree of the value, to its end. -/
theorem readFirst_spell {value : Json} (legible : value.Legible) :
    readFirst (String.ofList (layout.spell 0 value)) = some (ofJson value, []) := by
  have reads : layout.ReadsBack value := readsBack_of_legible legible
  have whole := reads 0 (2 * (layout.spell 0 value).length + 2) [] (by omega)
    (by intro _ none; cases none)
  rw [readFirst, String.length_ofList, String.toList_ofList]
  rwa [List.append_nil] at whole

end Layout

theorem ParseTree.read_of_readFirst {text : String} {tree : ParseTree}
    (first : readFirst text = some (tree, [])) : ParseTree.read text = some tree := by
  rw [ParseTree.read, first]
  rfl

namespace Json

theorem Legible.readFirst_compact {value : Json} (legible : value.Legible) :
    ParseTree.readFirst value.compact = some (ParseTree.ofJson value, []) := by
  rw [compact, ← Layout.spell_compact 0]
  exact Layout.readFirst_spell legible

theorem Legible.readFirst_pretty {value : Json} (legible : value.Legible) :
    ParseTree.readFirst value.pretty = some (ParseTree.ofJson value, []) := by
  rw [pretty, ← Layout.spell_indented]
  exact Layout.readFirst_spell legible

theorem Legible.read_compact {value : Json} (legible : value.Legible) :
    ParseTree.read value.compact = some (ParseTree.ofJson value) :=
  ParseTree.read_of_readFirst legible.readFirst_compact

theorem Legible.read_pretty {value : Json} (legible : value.Legible) :
    ParseTree.read value.pretty = some (ParseTree.ofJson value) :=
  ParseTree.read_of_readFirst legible.readFirst_pretty

end Json

end Workflow
