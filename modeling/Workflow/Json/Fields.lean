import Workflow.Json.Basic

/-!
# Field bags

A field bag maps names to JSON values. It is kept as a list of entries in increasing order of
their names, each name once, and the order is part of the type: two bags that answer every lookup
alike are equal, and a bag is always written with its keys sorted.

`insert` overwrites, so reading an object's members one after the other keeps the last of several
with the same key.
-/

namespace Workflow

namespace Fields

/-- Put an entry into a sorted list of entries, in place of one with the same key. -/
def insertEntry {α : Type} (key : String) (value : α) : List (String × α) → List (String × α)
  | [] => [(key, value)]
  | (k, v) :: rest =>
    if key < k then (key, value) :: (k, v) :: rest
    else if key = k then (key, value) :: rest
    else (k, v) :: insertEntry key value rest

/-- The entries of a list of members: sorted by key, the last of equal keys kept. -/
def sortEntries {α : Type} (members : List (String × α)) : List (String × α) :=
  members.foldl (fun entries m => insertEntry m.1 m.2 entries) []

/-- Entries in increasing order of their keys, each key once. -/
def Sorted {α : Type} (entries : List (String × α)) : Prop :=
  entries.Pairwise fun a b => a.1 < b.1

variable {α : Type}

theorem mem_insertEntry {key : String} {value : α} {entries : List (String × α)}
    {e : String × α} (h : e ∈ insertEntry key value entries) :
    e = (key, value) ∨ e ∈ entries := by
  induction entries with
  | nil => simpa [insertEntry] using h
  | cons head rest ih =>
    unfold insertEntry at h
    split at h
    · simpa using h
    · split at h
      · rcases List.mem_cons.1 h with h | h
        · exact .inl h
        · exact .inr (List.mem_cons_of_mem _ h)
      · rcases List.mem_cons.1 h with h | h
        · exact .inr (h ▸ List.mem_cons_self)
        · exact (ih h).imp id (List.mem_cons_of_mem _)

theorem sorted_insertEntry {key : String} {value : α} {entries : List (String × α)}
    (h : Sorted entries) : Sorted (insertEntry key value entries) := by
  induction entries with
  | nil => simp [insertEntry, Sorted]
  | cons head rest ih =>
    obtain ⟨hhead, hrest⟩ := List.pairwise_cons.1 h
    unfold insertEntry
    split
    · rename_i hlt
      refine List.pairwise_cons.2 ⟨fun e he => ?_, h⟩
      rcases List.mem_cons.1 he with he | he
      · exact he ▸ hlt
      · exact String.lt_trans hlt (hhead e he)
    · split
      · rename_i heq
        exact List.pairwise_cons.2 ⟨fun e he => heq ▸ hhead e he, hrest⟩
      · rename_i hlt hne
        refine List.pairwise_cons.2 ⟨fun e he => ?_, ih hrest⟩
        rcases mem_insertEntry he with he | he
        · subst he
          show head.1 < key
          grind
        · exact hhead e he

theorem sorted_sortEntries (members : List (String × α)) : Sorted (sortEntries members) := by
  have general : ∀ (members entries : List (String × α)), Sorted entries →
      Sorted (members.foldl (fun entries m => insertEntry m.1 m.2 entries) entries) := by
    intro members
    induction members with
    | nil => exact fun _ h => h
    | cons m rest ih => exact fun _ h => ih _ (sorted_insertEntry h)
  exact general members [] List.Pairwise.nil

theorem lookup_cons (name : String) (entry : String × α) (rest : List (String × α)) :
    (entry :: rest).lookup name = if name = entry.1 then some entry.2 else rest.lookup name := by
  obtain ⟨key, value⟩ := entry
  rw [List.lookup_cons]
  by_cases h : name = key
  · simp [h]
  · have : (name == key) = false := by simpa using h
    simp [h, this]

theorem lookup_insertEntry {key name : String} {value : α} {entries : List (String × α)} :
    (insertEntry key value entries).lookup name =
      if name = key then some value else entries.lookup name := by
  induction entries with
  | nil => simp [insertEntry, lookup_cons]
  | cons head rest ih =>
    obtain ⟨k, v⟩ := head
    unfold insertEntry
    by_cases hlt : key < k
    · simp [hlt, lookup_cons]
    · by_cases heq : key = k
      · subst heq
        by_cases hn : name = key <;> simp [lookup_cons, hn]
      · by_cases hn : name = key
        · subst hn
          simp [hlt, heq, lookup_cons, ih]
        · simp [hlt, heq, lookup_cons, ih, hn]

theorem lookup_eq_none_of_lt {name : String} {l : List (String × α)}
    (h : ∀ e ∈ l, name < e.1) : l.lookup name = none := by
  induction l with
  | nil => rfl
  | cons head rest ih =>
    have hlt := h head List.mem_cons_self
    rw [lookup_cons, if_neg fun heq => String.lt_irrefl _ (heq ▸ hlt)]
    exact ih fun e he => h e (List.mem_cons_of_mem _ he)

/-- Sorted lists of entries that answer every lookup alike are the same list. -/
theorem eq_of_lookup_eq {a b : List (String × α)} (ha : Sorted a) (hb : Sorted b)
    (h : ∀ name, a.lookup name = b.lookup name) : a = b := by
  induction a generalizing b with
  | nil =>
    cases b with
    | nil => rfl
    | cons head rest => simpa [lookup_cons] using h head.1
  | cons x xs ih =>
    obtain ⟨hx, hxs⟩ := List.pairwise_cons.1 ha
    cases b with
    | nil => simpa [lookup_cons] using h x.1
    | cons y ys =>
      obtain ⟨hy, hys⟩ := List.pairwise_cons.1 hb
      have keys : x.1 = y.1 := by
        rcases (by grind : x.1 < y.1 ∨ x.1 = y.1 ∨ y.1 < x.1) with hlt | heq | hlt
        · have hxy := h x.1
          rw [lookup_eq_none_of_lt (l := y :: ys)] at hxy
          · simp [lookup_cons] at hxy
          · intro e he
            rcases List.mem_cons.1 he with he | he
            · exact he ▸ hlt
            · exact String.lt_trans hlt (hy e he)
        · exact heq
        · have hxy := h y.1
          rw [lookup_eq_none_of_lt (l := x :: xs)] at hxy
          · simp [lookup_cons] at hxy
          · intro e he
            rcases List.mem_cons.1 he with he | he
            · exact he ▸ hlt
            · exact String.lt_trans hlt (hx e he)
      have values : x.2 = y.2 := by
        have := h x.1
        simpa [lookup_cons, keys] using this
      have heads : x = y := Prod.ext keys values
      subst heads
      congr 1
      refine ih hxs hys fun name => ?_
      by_cases hn : name = x.1
      · subst hn
        rw [lookup_eq_none_of_lt hx, lookup_eq_none_of_lt hy]
      · simpa [lookup_cons, hn] using h name

end Fields

/-- A bag of named JSON values. -/
structure Fields where
  entries : List (String × Json)
  sorted : Fields.Sorted entries
deriving DecidableEq, Repr

namespace Fields

/-- The bag without entries. -/
def empty : Fields := ⟨[], .nil⟩

instance : Inhabited Fields := ⟨empty⟩

/-- The bag of an object's members; the last of several with one key counts. -/
def ofMembers (members : List (String × Json)) : Fields :=
  ⟨sortEntries members, sorted_sortEntries members⟩

/-- The value under a name. -/
def get? (fields : Fields) (name : String) : Option Json :=
  fields.entries.lookup name

/-- Set the value under a name. -/
def insert (fields : Fields) (name : String) (value : Json) : Fields :=
  ⟨insertEntry name value fields.entries, sorted_insertEntry fields.sorted⟩

/-- The bag of the entries whose name passes a test. -/
def filter (fields : Fields) (keep : String → Bool) : Fields :=
  ⟨fields.entries.filter (keep ·.1), fields.sorted.filter _⟩

/-- A bag as a JSON object. -/
def toJson (fields : Fields) : Json :=
  .object fields.entries

@[simp] theorem get?_empty (name : String) : empty.get? name = none := rfl

@[simp] theorem get?_insert (fields : Fields) (key name : String) (value : Json) :
    (fields.insert key value).get? name = if name = key then some value else fields.get? name :=
  lookup_insertEntry

/-- A bag is known by its lookups. -/
@[ext] theorem ext_get? {a b : Fields} (h : ∀ name, a.get? name = b.get? name) : a = b := by
  have := eq_of_lookup_eq a.sorted b.sorted h
  cases a; cases b; simpa using this

end Fields

end Workflow
