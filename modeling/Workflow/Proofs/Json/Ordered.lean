import Workflow.Proofs.Json.Meaning

/-!
# Values in order

A value that is kept has the members of its objects in increasing order of their keys, each
key once; only a record on its way to be written may have them in another order. Every
value that is read is in order, and a value in order is what sorting makes of it, so it
comes back unchanged when it is written and read.
-/

namespace Workflow

namespace Fields

variable {α : Type} {members : List (String × α)}

/-- Entries in order are not moved by sorting. -/
theorem Sorted.sortEntries_eq (sorted : Sorted members) : sortEntries members = members :=
  eq_of_lookup_eq (sorted_sortEntries members) sorted (lookup_sortEntries sorted.nodup_keys)

theorem mem_of_mem_sortEntries {entry : String × α} (member : entry ∈ sortEntries members) :
    entry ∈ members := by
  have general : ∀ entries : List (String × α),
      entry ∈ members.foldl (fun entries m => insertEntry m.1 m.2 entries) entries →
        entry ∈ members ∨ entry ∈ entries := by
    clear member
    induction members with
    | nil => exact fun _ member => .inr member
    | cons head rest ih =>
        intro entries member
        rcases ih _ member with later | kept
        · exact .inl (List.mem_cons_of_mem _ later)
        · rcases mem_insertEntry kept with rfl | old
          · exact .inl List.mem_cons_self
          · exact .inr old
  exact (general [] member).resolve_right List.not_mem_nil

end Fields

namespace Json

/-- A value in all of whose objects the keys increase. -/
inductive Ordered : Json → Prop
  | null : Ordered .null
  | bool (b : Bool) : Ordered (.bool b)
  | number (n : Number) : Ordered (.number n)
  | string (s : String) : Ordered (.string s)
  | array {items : List Json} : (∀ item ∈ items, Ordered item) → Ordered (.array items)
  | object {members : List (String × Json)} : Fields.Sorted members →
      (∀ entry ∈ members, Ordered entry.2) → Ordered (.object members)

theorem sortItems_eq_self {items : List Json} (h : ∀ item ∈ items, item.sortKeys = item) :
    sortItems items = items := by
  induction items with
  | nil => rfl
  | cons item rest ih =>
      rw [sortItems, h item List.mem_cons_self,
        ih fun other member => h other (List.mem_cons_of_mem _ member)]

theorem sortMembers_eq_self {members : List (String × Json)}
    (h : ∀ entry ∈ members, entry.2.sortKeys = entry.2) : sortMembers members = members := by
  induction members with
  | nil => rfl
  | cons entry rest ih =>
      rw [sortMembers, h entry List.mem_cons_self,
        ih fun other member => h other (List.mem_cons_of_mem _ member)]

theorem Ordered.sortKeys_eq {value : Json} (ordered : value.Ordered) :
    value.sortKeys = value := by
  induction ordered with
  | null | bool _ | number _ | string _ => rfl
  | array _ ih => rw [sortKeys, sortItems_eq_self ih]
  | object sorted _ ih => rw [sortKeys, sortMembers_eq_self ih, sorted.sortEntries_eq]

theorem Ordered.lookup {members : List (String × Json)} {key : String} {value : Json}
    (ordered : Ordered (.object members)) (found : members.lookup key = some value) :
    value.Ordered := by
  obtain ⟨before, after, rfl, -⟩ := List.lookup_eq_some_iff.mp found
  cases ordered with
  | object _ inside => exact inside (key, value) (by simp)

end Json

namespace ParseTree

mutual

/-- Whatever stands in a text, the value that is read from it is in order. -/
theorem ordered_of_toJson? {room : Nat} {value : Json} :
    ∀ tree, toJson? room tree = some value → value.Ordered
  | .null, read => by
      cases read
      exact .null
  | .bool b, read => by
      cases read
      exact .bool b
  | .number n, read => by
      obtain ⟨n, -, rfl⟩ := Option.map_eq_some_iff.mp read
      exact .number n
  | .string s, read => by
      obtain ⟨s, -, rfl⟩ := Option.map_eq_some_iff.mp read
      exact .string s
  | .array items, read => by
      cases room with
      | zero => cases read
      | succ room =>
          obtain ⟨values, inside, rfl⟩ := Option.map_eq_some_iff.mp read
          exact .array (ordered_of_itemsToJson? items inside)
  | .object members, read => by
      cases room with
      | zero => cases read
      | succ room =>
          obtain ⟨entries, inside, rfl⟩ := Option.map_eq_some_iff.mp read
          exact .object (Fields.sorted_sortEntries entries) fun entry member =>
            ordered_of_membersToJson? members inside entry (Fields.mem_of_mem_sortEntries member)

theorem ordered_of_itemsToJson? {room : Nat} {values : List Json} :
    ∀ items, itemsToJson? room items = some values → ∀ value ∈ values, value.Ordered
  | [], read, _, member => by
      cases read
      cases member
  | item :: rest, read, value, member => by
      simp only [itemsToJson?, bind, Option.bind_eq_some_iff] at read
      obtain ⟨first, readFirst, others, readOthers, same⟩ := read
      cases same
      rcases List.mem_cons.mp member with rfl | member
      · exact ordered_of_toJson? item readFirst
      · exact ordered_of_itemsToJson? rest readOthers value member

theorem ordered_of_membersToJson? {room : Nat} {entries : List (String × Json)} :
    ∀ members, membersToJson? room members = some entries →
      ∀ entry ∈ entries, entry.2.Ordered
  | [], read, _, member => by
      cases read
      cases member
  | (key, tree) :: rest, read, entry, member => by
      simp only [membersToJson?, bind, Option.bind_eq_some_iff] at read
      obtain ⟨name, -, first, readFirst, others, readOthers, same⟩ := read
      cases same
      rcases List.mem_cons.mp member with rfl | member
      · exact ordered_of_toJson? tree readFirst
      · exact ordered_of_membersToJson? rest readOthers entry member

end

end ParseTree

/-- A value read from a text is in order. -/
theorem Json.ordered_of_ofText? {text : String} {value : Json}
    (read : Json.ofText? text = some value) : value.Ordered := by
  simp only [Json.ofText?, bind, Option.bind_eq_some_iff] at read
  obtain ⟨tree, -, read⟩ := read
  exact ParseTree.ordered_of_toJson? tree read

namespace Fields

/-- A bag all of whose values are in order. -/
def Ordered (fields : Fields) : Prop :=
  ∀ entry ∈ fields.entries, entry.2.Ordered

theorem ordered_empty : empty.Ordered :=
  fun _ member => absurd member List.not_mem_nil

theorem Ordered.toJson {fields : Fields} (ordered : fields.Ordered) : fields.toJson.Ordered :=
  .object fields.sorted ordered

theorem Ordered.insert {fields : Fields} {value : Json} (ordered : fields.Ordered)
    (name : String) (inOrder : value.Ordered) : (fields.insert name value).Ordered := by
  intro entry member
  rcases mem_insertEntry member with rfl | old
  · exact inOrder
  · exact ordered entry old

theorem ordered_ofMembers {members : List (String × Json)}
    (inOrder : ∀ entry ∈ members, entry.2.Ordered) : (ofMembers members).Ordered :=
  fun entry member => inOrder entry (mem_of_mem_sortEntries member)

/-- A bag in order is the bag of its own entries. -/
theorem ofMembers_entries (fields : Fields) : ofMembers fields.entries = fields := by
  obtain ⟨entries, sorted⟩ := fields
  simp only [ofMembers, sorted.sortEntries_eq]

end Fields

end Workflow
