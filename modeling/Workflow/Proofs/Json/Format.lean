import Workflow.Proofs.Json.Members

/-!
# Objects written by field and read by name

A format writes the fields of a value in a fixed order and leaves out those that are absent. It
reads them by name. When each kind of plain value is decoded as it was encoded and no field shares
its name with another, what was written is read back. Reading by name then makes up for whatever
else may happen to the object on its way.

Some values have no text of their own but that of another value, which is then read in their place.
What a value is read as is its normal form.
-/

namespace Workflow

open ParseTree (ofJson ofMembers under Restates ReadsByName)

/-! ## Plain values -/

/-- A plain value is decoded as it was encoded, but for its normal form, and is never written as
`null`. -/
structure Faithful {α : Type} (encode : α → Json) (decode : ParseTree → Option α)
    (normal : α → α := id) : Prop where
  decode_encode : ∀ value, decode (ofJson (encode value)) = some (normal value)
  decode_null : decode .null = none
  legible : ∀ value, (encode value).Legible

theorem faithful_string : Faithful Json.string ParseTree.string? where
  decode_encode _ := rfl
  decode_null := rfl
  legible := .string

namespace Faithful

variable {α : Type} {encode : α → Json} {decode : ParseTree → Option α} {normal : α → α}

theorem required (faithful : Faithful encode decode normal) (value : α) :
    ParseTree.required decode (some (ofJson (encode value))) = some (normal value) :=
  faithful.decode_encode value

theorem optional (faithful : Faithful encode decode normal) (value : Option α) :
    ParseTree.optional decode ((value.map encode).map ofJson) = some (value.map normal) := by
  cases value with
  | none => rfl
  | some value =>
      have read := faithful.decode_encode value
      rw [Option.map_some, Option.map_some]
      generalize ofJson (encode value) = tree at read
      cases tree with
      | null =>
          rw [faithful.decode_null] at read
          cases read
      | _ =>
          show (decode _).map some = some (some (normal value))
          rw [read]
          rfl

theorem legible_some (faithful : Faithful encode decode normal) (value : α) :
    ∀ json ∈ some (encode value), json.Legible := by
  intro json given
  exact Option.mem_some_iff.mp given ▸ faithful.legible value

theorem legible_map (faithful : Faithful encode decode normal) (value : Option α) :
    ∀ json ∈ value.map encode, json.Legible := by
  intro json given
  obtain ⟨value, -, rfl⟩ := Option.map_eq_some_iff.mp given
  exact faithful.legible value

end Faithful

/-! ## Objects as they are written -/

/-- The members of an object whose fields are listed by name, those without a value left out. -/
def filled (fields : List (String × Option Json)) : List (String × Json) :=
  fields.flatMap fun field => field.2.toList.map fun value => (field.1, value)

section Filled

variable {fields : List (String × Option Json)}

/-- What holds of every value of a field holds of every member. -/
theorem forall_mem_filled {holds : Json → Prop}
    (each : ∀ field ∈ fields, ∀ value ∈ field.2, holds value) :
    ∀ entry ∈ filled fields, holds entry.2 := by
  intro entry member
  obtain ⟨field, listed, present⟩ := List.mem_flatMap.mp member
  obtain ⟨value, given, rfl⟩ := List.mem_map.mp present
  exact each field listed value (Option.mem_toList.mp given)

theorem ofMembers_append (front back : List (String × Json)) :
    ofMembers (front ++ back) = ofMembers front ++ ofMembers back := by
  induction front with
  | nil => rfl
  | cons member rest ih => rw [List.cons_append, ofMembers, ofMembers, ih, List.cons_append]

theorem ofMembers_texts (members : List (String × Json)) :
    ∀ member ∈ ofMembers members, member.1 ≠ none := by
  induction members with
  | nil => exact fun _ absent => absurd absent List.not_mem_nil
  | cons member rest ih =>
      rw [ofMembers, List.forall_mem_cons]
      exact ⟨Option.some_ne_none _, ih⟩

theorem under_filled_cons (name : String) (field : String × Option Json) :
    under name (ofMembers (filled (field :: fields))) =
      (if field.1 = name then (field.2.map ofJson).toList else []) ++
        under name (ofMembers (filled fields)) := by
  obtain ⟨key, value⟩ := field
  cases value with
  | none => simp [filled]
  | some value =>
      by_cases same : key = name <;> simp [filled, ofMembers, ParseTree.under_cons, same]

theorem under_filled_of_not_mem {name : String} (absent : name ∉ fields.map Prod.fst) :
    under name (ofMembers (filled fields)) = [] := by
  induction fields with
  | nil => rfl
  | cons field rest ih =>
      rw [List.map_cons, List.mem_cons, not_or] at absent
      rw [under_filled_cons, if_neg (Ne.symm absent.1), ih absent.2, List.append_nil]

/-- Under the name of a field there stands its value, if it has one, and nothing else. -/
theorem under_filled (distinct : (fields.map Prod.fst).Nodup) {field : String × Option Json}
    (listed : field ∈ fields) :
    under field.1 (ofMembers (filled fields)) = (field.2.map ofJson).toList := by
  induction fields with
  | nil => exact absurd listed List.not_mem_nil
  | cons head rest ih =>
      obtain ⟨new, distinct⟩ := List.nodup_cons.mp distinct
      rw [under_filled_cons]
      rcases List.mem_cons.mp listed with rfl | later
      · rw [if_pos rfl, under_filled_of_not_mem new, List.append_nil]
      · have different : head.1 ≠ field.1 := fun same =>
          new (same ▸ List.mem_map_of_mem later)
        rw [if_neg different, List.nil_append, ih distinct later]

/-- An object is read by name as it was written. -/
theorem membersByName?_filled (distinct : (fields.map Prod.fst).Nodup) :
    ParseTree.membersByName? (fields.map Prod.fst) (ofMembers (filled fields)) =
      some (fields.map fun field => field.2.map ofJson) := by
  refine ParseTree.membersByName?_eq_some_iff.mpr ⟨⟨ofMembers_texts _, ?_⟩, ?_⟩
  · intro name listed
    obtain ⟨field, member, rfl⟩ := List.mem_map.mp listed
    rw [under_filled distinct member]
    cases field.2 <;> simp
  · rw [List.map_map]
    refine List.map_congr_left fun field member => ?_
    rw [Function.comp_apply, under_filled distinct member]
    cases field.2 <;> rfl

end Filled

/-! ## Formats -/

/-- A format of objects: how values are written and read, what each of them is read as, the names
that the format knows, those among them that may be left out, and the values that it admits in an
object. -/
structure ObjectFormat (α : Type) where
  encode : α → Json
  decode : ParseTree → Option α
  normal : α → α := id
  known : List String
  optionals : List String
  admits : ParseTree → Prop

namespace ObjectFormat

variable {α : Type} (format : ObjectFormat α)

/-- The text of a value. -/
def text (value : α) : String :=
  (format.encode value).compact

/-- The value that a text stands for. -/
def ofText? (text : String) : Option α :=
  (ParseTree.read text).bind format.decode

/-- A value is decoded from its text. -/
def Survives (value : α) : Prop :=
  format.ofText? (format.text value) = some value

/-- The text of an object and one that says the same object in other words. -/
def Rewords (admits : ParseTree → Prop) (text other : String) : Prop :=
  ∃ members others, ParseTree.read text = some (.object members) ∧
    ParseTree.read other = some (.object others) ∧
    Restates format.known format.optionals admits members others

/-- The text of a value is that of an object and is read as the normal form of the value, and no
text is read differently when it is reworded. -/
structure Sound : Prop where
  ofText?_text : ∀ value, format.ofText? (format.text value) = some (format.normal value)
  object : ∀ value, ∃ members, format.encode value = .object members ∧
    ParseTree.read (format.text value) = some (.object (ofMembers members))
  ofText?_reworded : ∀ text other, format.Rewords format.admits text other →
    format.ofText? other = format.ofText? text

variable {format}

/-- A format survives if it writes its fields in turn, reads them by name, and reads what it has
written. -/
theorem sound_of_fields (fields : α → List (String × Option Json))
    (written : ∀ value, format.encode value = .object (filled (fields value)))
    (legible : ∀ value, ∀ field ∈ fields value, ∀ json ∈ field.2, json.Legible)
    (back : ∀ value, format.decode (ofJson (format.encode value)) = some (format.normal value))
    (reads : ReadsByName format.known format.optionals format.admits format.decode) :
    format.Sound := by
  have read (value : α) :
      ParseTree.read (format.text value) = some (ofJson (format.encode value)) := by
    rw [text, written]
    exact (Json.Legible.object (forall_mem_filled (legible value))).read_compact
  refine ⟨fun value => ?_, fun value => ⟨filled (fields value), written value, ?_⟩, ?_⟩
  · rw [ofText?, read, Option.bind_some, back]
  · rw [read, written, ofJson]
  · rintro text other ⟨members, others, reading, rereading, restates⟩
    rw [ofText?, ofText?, reading, rereading]
    exact reads.decode_eq restates

/-- The values that survive are those in normal form. -/
theorem Sound.survives_iff (sound : format.Sound) {value : α} :
    format.Survives value ↔ format.normal value = value := by
  rw [Survives, sound.ofText?_text, Option.some.injEq]

end ObjectFormat

end Workflow
