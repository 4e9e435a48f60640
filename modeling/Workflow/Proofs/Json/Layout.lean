import Workflow.Proofs.Json.Tokens

/-!
# One text for both layouts

The compact and the indented form of a value differ in white space alone. A layout says
where there is some, and both forms are the text of a value under their layout. What is
shown of the text under any layout, above all that it is read back, holds of both.
-/

namespace Workflow

open ParseTree (isSpace)

/-- The white space of a written value. -/
structure Layout where
  /-- What comes before an item or a closing bracket inside so many containers. -/
  gap : Nat → List Char
  /-- What comes between a colon and its value. -/
  colonGap : List Char
  gap_space : ∀ depth, ∀ c ∈ gap depth, isSpace c = true
  colonGap_space : ∀ c ∈ colonGap, isSpace c = true

namespace Layout

/-- No white space at all. -/
def compact : Layout where
  gap _ := []
  colonGap := []
  gap_space _ _ member := absurd member List.not_mem_nil
  colonGap_space _ member := absurd member List.not_mem_nil

/-- A line for every item and member. -/
def indented : Layout where
  gap := Json.lineBreak
  colonGap := [' ']
  gap_space depth c member := by
    rcases List.mem_cons.mp member with rfl | member
    · rfl
    · rw [List.eq_of_mem_replicate member]
      rfl
  colonGap_space c member := by
    rw [List.mem_singleton.mp member]
    rfl

@[simp] theorem compact_gap (depth : Nat) : compact.gap depth = [] := rfl

@[simp] theorem compact_colonGap : compact.colonGap = [] := rfl

@[simp] theorem indented_gap (depth : Nat) : indented.gap depth = Json.lineBreak depth := rfl

@[simp] theorem indented_colonGap : indented.colonGap = [' '] := rfl

variable (layout : Layout)

mutual

/-- The text of a value inside so many containers. -/
def spell (depth : Nat) : Json → List Char
  | .null => ['n', 'u', 'l', 'l']
  | .bool true => ['t', 'r', 'u', 'e']
  | .bool false => ['f', 'a', 'l', 's', 'e']
  | .number n => Json.numberText n
  | .string s => Json.quote s
  | .array [] => ['[', ']']
  | .array (item :: rest) =>
    '[' :: layout.gap (depth + 1) ++ spell (depth + 1) item ++ spellItems (depth + 1) rest ++
      layout.gap depth ++ [']']
  | .object [] => ['{', '}']
  | .object ((key, value) :: rest) =>
    '{' :: layout.gap (depth + 1) ++ Json.quote key ++ ':' :: layout.colonGap ++
      spell (depth + 1) value ++ spellMembers (depth + 1) rest ++ layout.gap depth ++ ['}']

/-- The items after the first. -/
def spellItems (depth : Nat) : List Json → List Char
  | [] => []
  | item :: rest => ',' :: layout.gap depth ++ spell depth item ++ spellItems depth rest

/-- The members after the first. -/
def spellMembers (depth : Nat) : List (String × Json) → List Char
  | [] => []
  | (key, value) :: rest =>
    ',' :: layout.gap depth ++ Json.quote key ++ ':' :: layout.colonGap ++ spell depth value ++
      spellMembers depth rest

end

mutual

/-- Without any space the text is the compact one. -/
theorem spell_compact (depth : Nat) : ∀ value, compact.spell depth value = value.print
  | .null | .bool true | .bool false | .number _ | .string _ => rfl
  | .array [] | .object [] => rfl
  | .array (item :: rest) => by
      simp [spell, Json.print, spell_compact (depth + 1) item,
        spellItems_compact (depth + 1) item rest]
  | .object ((key, value) :: rest) => by
      simp [spell, Json.print, spell_compact (depth + 1) value,
        spellMembers_compact (depth + 1) (key, value) rest]

theorem spellItems_compact (depth : Nat) (first : Json) : ∀ rest,
    Json.printItems (first :: rest) = first.print ++ compact.spellItems depth rest
  | [] => by simp [Json.printItems, spellItems]
  | item :: rest => by
      simp [Json.printItems, spellItems, spell_compact depth item,
        spellItems_compact depth item rest]

theorem spellMembers_compact (depth : Nat) (first : String × Json) : ∀ rest,
    Json.printMembers (first :: rest) =
      Json.quote first.1 ++ ':' :: first.2.print ++ compact.spellMembers depth rest
  | [] => by simp [Json.printMembers, spellMembers]
  | (key, value) :: rest => by
      simp [Json.printMembers, spellMembers, spell_compact depth value,
        spellMembers_compact depth (key, value) rest]

end

mutual

/-- With a line for every item and member the text is the indented one. -/
theorem spell_indented (depth : Nat) :
    ∀ value, indented.spell depth value = value.printIndented depth
  | .null | .bool true | .bool false | .number _ | .string _ => rfl
  | .array [] | .object [] => rfl
  | .array (item :: rest) => by
      simp [spell, Json.printIndented, spell_indented (depth + 1) item,
        spellItems_indented (depth + 1) rest]
  | .object ((key, value) :: rest) => by
      simp [spell, Json.printIndented, spell_indented (depth + 1) value,
        spellMembers_indented (depth + 1) rest]

theorem spellItems_indented (depth : Nat) :
    ∀ rest, indented.spellItems depth rest = Json.printIndentedItems depth rest
  | [] => rfl
  | item :: rest => by
      simp [Json.printIndentedItems, spellItems, spell_indented depth item,
        spellItems_indented depth rest]

theorem spellMembers_indented (depth : Nat) :
    ∀ rest, indented.spellMembers depth rest = Json.printIndentedMembers depth rest
  | [] => rfl
  | (key, value) :: rest => by
      simp [Json.printIndentedMembers, spellMembers, spell_indented depth value,
        spellMembers_indented depth rest]

end

end Layout

end Workflow
