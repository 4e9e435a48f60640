import Workflow.Proofs.Json.ReadBack
import Mathlib.Data.List.Nodup

/-!
# What a value is read as

A value that is written and read as a free value comes back with the members of its
objects sorted. Nothing else about it changes, and no reader that looks its members up by
key can tell: sorting changes no lookup when the keys differ.
-/

namespace Workflow

namespace Fields

variable {α : Type} {members : List (String × α)}

theorem lookup_filter (keep : String → Bool) (name : String) :
    (members.filter fun member => keep member.1).lookup name =
      if keep name then members.lookup name else none := by
  induction members with
  | nil => simp
  | cons head rest ih =>
      rw [List.filter_cons, lookup_cons]
      by_cases same : name = head.1
      · subst same
        cases kept : keep head.1 with
        | true => simp [lookup_cons]
        | false => simp [ih, kept]
      · cases kept : keep head.1 with
        | true => simp [lookup_cons, same, ih]
        | false => simp [same, ih]

theorem lookup_eq_none {name : String} (absent : name ∉ members.map Prod.fst) :
    members.lookup name = none := by
  induction members with
  | nil => rfl
  | cons head rest ih =>
      rw [List.map_cons, List.mem_cons, not_or] at absent
      rw [lookup_cons, if_neg absent.1, ih absent.2]

theorem lookup_of_mem (distinct : (members.map Prod.fst).Nodup) {entry : String × α}
    (member : entry ∈ members) : members.lookup entry.1 = some entry.2 := by
  induction members with
  | nil => cases member
  | cons head rest ih =>
      obtain ⟨new, distinct⟩ := List.nodup_cons.mp distinct
      rw [lookup_cons]
      rcases List.mem_cons.mp member with rfl | later
      · rw [if_pos rfl]
      · have different : entry.1 ≠ head.1 := fun same =>
          new (same ▸ List.mem_map_of_mem later)
        rw [if_neg different, ih distinct later]

/-- An entry under a key of its own is found wherever it stands. -/
theorem lookup_cons_eq_or {entry : String × α} (new : entry.1 ∉ members.map Prod.fst)
    (key : String) : (entry :: members).lookup key =
      (members.lookup key).or (if key = entry.1 then some entry.2 else none) := by
  rw [lookup_cons]
  by_cases same : key = entry.1
  · rw [same, lookup_eq_none new, Option.none_or]
  · rw [if_neg same, if_neg same, Option.or_none]

/-- What is put in under different keys is found before what was there. -/
theorem lookup_foldl_insertEntry (distinct : (members.map Prod.fst).Nodup)
    (entries : List (String × α)) (name : String) :
    (members.foldl (fun entries m => insertEntry m.1 m.2 entries) entries).lookup name =
      (members.lookup name).or (entries.lookup name) := by
  induction members generalizing entries with
  | nil => rfl
  | cons head rest ih =>
      obtain ⟨new, distinct⟩ := List.nodup_cons.mp distinct
      rw [List.foldl_cons, ih distinct, lookup_insertEntry, lookup_cons_eq_or new, Option.or_assoc]
      split <;> rfl

/-- Sorting members under different keys changes no lookup. -/
theorem lookup_sortEntries (distinct : (members.map Prod.fst).Nodup) (name : String) :
    (sortEntries members).lookup name = members.lookup name := by
  rw [sortEntries, lookup_foldl_insertEntry distinct, List.lookup_nil, Option.or_none]

theorem Sorted.nodup_keys (sorted : Sorted members) : (members.map Prod.fst).Nodup :=
  List.pairwise_map.mpr (sorted.imp String.ne_of_lt)

/-- The bag of members under different keys answers as the members do. -/
theorem get?_ofMembers {members : List (String × Json)}
    (distinct : (members.map Prod.fst).Nodup) (name : String) :
    (ofMembers members).get? name = members.lookup name :=
  lookup_sortEntries distinct name

end Fields

namespace Json

mutual

/-- A value with the members of all its objects sorted. -/
def sortKeys : Json → Json
  | .array items => .array (sortItems items)
  | .object members => .object (Fields.sortEntries (sortMembers members))
  | value => value

def sortItems : List Json → List Json
  | [] => []
  | item :: rest => sortKeys item :: sortItems rest

def sortMembers : List (String × Json) → List (String × Json)
  | [] => []
  | (key, value) :: rest => (key, sortKeys value) :: sortMembers rest

end

/-- A value inside which containers nest no deeper than a bound. -/
inductive Within : Nat → Json → Prop
  | null {room : Nat} : Within room .null
  | bool {room : Nat} (b : Bool) : Within room (.bool b)
  | number {room : Nat} (n : Number) : Within room (.number n)
  | string {room : Nat} (s : String) : Within room (.string s)
  | array {room : Nat} {items : List Json} :
      (∀ item ∈ items, Within room item) → Within (room + 1) (.array items)
  | object {room : Nat} {members : List (String × Json)} :
      (∀ entry ∈ members, Within room entry.2) → Within (room + 1) (.object members)

end Json

namespace ParseTree

open Json (sortItems sortMembers)

theorem itemsToJson?_ofItems {room : Nat} {items : List Json}
    (h : ∀ item ∈ items, (ofJson item).toJson? room = some item.sortKeys) :
    itemsToJson? room (ofItems items) = some (sortItems items) := by
  induction items with
  | nil => rfl
  | cons item rest ih =>
      have others := ih fun other member => h other (List.mem_cons_of_mem _ member)
      simp [ofItems, itemsToJson?, sortItems, h item List.mem_cons_self, others]

theorem membersToJson?_ofMembers {room : Nat} {members : List (String × Json)}
    (h : ∀ entry ∈ members, (ofJson entry.2).toJson? room = some entry.2.sortKeys) :
    membersToJson? room (ofMembers members) = some (sortMembers members) := by
  induction members with
  | nil => rfl
  | cons entry rest ih =>
      have others := ih fun other member => h other (List.mem_cons_of_mem _ member)
      simp [ofMembers, membersToJson?, sortMembers, h entry List.mem_cons_self, others]

/-- The tree of a value that does not nest too deep stands for the value, sorted. -/
theorem toJson?_ofJson {room : Nat} {value : Json} (within : value.Within room) :
    (ofJson value).toJson? room = some value.sortKeys := by
  induction within with
  | null | bool _ | number _ | string _ => rfl
  | array _ ih =>
      rw [ofJson, toJson?, itemsToJson?_ofItems ih]
      rfl
  | object _ ih =>
      rw [ofJson, toJson?, membersToJson?_ofMembers ih]
      rfl

/-- A list is decoded element by element, each as it was encoded. -/
theorem list?_ofJson {α : Type} {encode : α → Json} {decode : ParseTree → Option α}
    {values : List α} (back : ∀ value ∈ values, decode (ofJson (encode value)) = some value) :
    list? decode (ofJson (.array (values.map encode))) = some values := by
  rw [ofJson, list?]
  induction values with
  | nil => rfl
  | cons value rest ih =>
      have others := ih fun other member => back other (List.mem_cons_of_mem _ member)
      simp [ofItems, back value List.mem_cons_self, others]

/-- What a field has that may be missing is decoded of its tree. -/
theorem exists_of_optional {α : Type} {decode : ParseTree → Option α} {field : Option ParseTree}
    {value : α} (read : optional decode field = some (some value)) :
    ∃ tree, decode tree = some value := by
  unfold optional at read
  split at read
  · cases read
  · cases read
  · obtain ⟨value, decoded, same⟩ := Option.map_eq_some_iff.mp read
    cases same
    exact ⟨_, decoded⟩

/-- What is decoded of a field is its standard value unless it was read. -/
theorem defaulted_cases {α : Type} {decode : ParseTree → Option α} {standard value : α}
    {field : Option ParseTree} (read : defaulted standard decode field = some value) :
    value = standard ∨ ∃ tree, decode tree = some value := by
  cases field with
  | none => exact .inl (Option.some.inj read).symm
  | some tree => exact .inr ⟨tree, read⟩

end ParseTree

namespace Json

/-- A value written in the compact form and read back. -/
theorem ofText?_compact {value : Json} (legible : value.Legible)
    (within : value.Within maxDepth) : ofText? value.compact = some value.sortKeys := by
  rw [ofText?, legible.read_compact]
  exact ParseTree.toJson?_ofJson within

theorem ofText?_pretty {value : Json} (legible : value.Legible)
    (within : value.Within maxDepth) : ofText? value.pretty = some value.sortKeys := by
  rw [ofText?, legible.read_pretty]
  exact ParseTree.toJson?_ofJson within

/-- A whole number within 64 bits is written with its digits, another one as `null`. -/
theorem legible_integer (n : Int) : (integer n).Legible := by
  unfold integer
  split
  · exact .number (Number.readsBack_integer n _)
  · exact .null

theorem within_integer (n : Int) {room : Nat} : (integer n).Within room := by
  unfold integer
  split
  · exact .number _
  · exact .null

@[simp] theorem sortKeys_integer (n : Int) : (integer n).sortKeys = integer n := by
  unfold integer
  split <;> rfl

end Json

end Workflow
