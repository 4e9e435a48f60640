import Workflow.Proofs.Json.Meaning
import Mathlib.Data.List.Perm.Basic
import Mathlib.Data.List.Zip

/-!
# Objects read by name

An object of a known format is read by the names of its fields, so all that counts of its members
is which values stand under each of these names. The same object can be said in many ways: with
its members in another order, with `null` for an optional field that it lacks, and with members
of other names.

Two kinds of formats read such objects alike. Most look at nothing but their own fields. One
that is flattened into another holds on to all members before it picks its own, and so it refuses
an object with a value in it that cannot be held.
-/

namespace Workflow

namespace ParseTree

/-- The values that stand under a name. -/
def under (name : String) (members : List (Option String × ParseTree)) : List ParseTree :=
  members.filterMap fun member => if member.1 = some name then some member.2 else none

section Under

variable (name : String) (members others : List (Option String × ParseTree))

@[simp] theorem under_nil : under name [] = [] := rfl

theorem under_cons (key : Option String) (value : ParseTree) :
    under name ((key, value) :: members) =
      if key = some name then value :: under name members else under name members := by
  by_cases same : key = some name <;> simp [under, same]

@[simp] theorem under_append :
    under name (members ++ others) = under name members ++ under name others :=
  List.filterMap_append

end Under

variable {names known optionals : List String} {name : String} {admits : ParseTree → Prop}
  {members others : List (Option String × ParseTree)}

theorem under_eq_nil (absent : ∀ member ∈ members, member.1 ≠ some name) :
    under name members = [] := by
  rw [under, List.filterMap_eq_nil_iff]
  intro member present
  exact if_neg (absent member present)

theorem under_perm (name : String) (perm : others.Perm members) :
    (under name others).Perm (under name members) :=
  perm.filterMap _

/-- Keys have texts, and no name of a format occurs twice. -/
structure Keyed (names : List String) (members : List (Option String × ParseTree)) : Prop where
  texts : ∀ member ∈ members, member.1 ≠ none
  once : ∀ name ∈ names, (under name members).length ≤ 1

theorem keyed_nil : Keyed names [] :=
  ⟨fun _ absent => absurd absent List.not_mem_nil, fun _ _ => Nat.zero_le 1⟩

theorem keyed_cons_iff {key : String} {value : ParseTree} :
    Keyed names ((some key, value) :: members) ↔
      Keyed names members ∧ (key ∈ names → under key members = []) := by
  constructor
  · rintro ⟨texts, once⟩
    refine ⟨⟨fun member present => texts member (List.mem_cons_of_mem _ present), ?_⟩, ?_⟩
    · intro name listed
      have short := once name listed
      rw [under_cons] at short
      split at short
      · exact Nat.le_of_succ_le short
      · exact short
    · intro listed
      have short := once key listed
      rw [under_cons, if_pos rfl] at short
      exact List.eq_nil_of_length_eq_zero (by simpa using short)
  · rintro ⟨⟨texts, once⟩, new⟩
    refine ⟨?_, ?_⟩
    · simpa using texts
    · intro name listed
      rw [under_cons]
      split
      · rename_i same
        cases same
        simp [new listed]
      · exact once name listed

theorem keyed_append_iff {more : List String} :
    Keyed (names ++ more) members ↔ Keyed names members ∧ Keyed more members := by
  constructor
  · rintro ⟨texts, once⟩
    exact ⟨⟨texts, fun name listed => once name (List.mem_append_left _ listed)⟩,
      texts, fun name listed => once name (List.mem_append_right _ listed)⟩
  · rintro ⟨⟨texts, first⟩, -, second⟩
    exact ⟨texts, fun name listed =>
      (List.mem_append.mp listed).elim (first name) (second name)⟩

/-- One more member fills the place of its name, which must not be filled already. -/
theorem membersByName?_cons {place : String → Option ParseTree}
    (read : membersByName? names members = some (names.map place)) (key : String)
    (value : ParseTree) :
    membersByName? names ((some key, value) :: members) =
      if key ∈ names ∧ place key ≠ none then none
      else some (names.map fun name => if key = name then some value else place name) := by
  have step : membersByName? names ((some key, value) :: members) =
      (membersByName? names members).bind fun places =>
        if (names.zip places).any fun entry => entry.1 == key && entry.2.isSome then none
        else some ((names.zip places).map fun entry =>
          if entry.1 == key then some value else entry.2) := by
    rw [membersByName?]
    rfl
  have taken : ((names.map fun name => (name, place name)).any
      fun entry => entry.1 == key && entry.2.isSome) = true ↔
        key ∈ names ∧ place key ≠ none := by
    simp only [List.any_map, List.any_eq_true, Function.comp_apply, Bool.and_eq_true, beq_iff_eq,
      Option.isSome_iff_ne_none]
    constructor
    · rintro ⟨name, listed, rfl, filled⟩
      exact ⟨listed, filled⟩
    · rintro ⟨listed, filled⟩
      exact ⟨key, listed, rfl, filled⟩
  rw [step, read, Option.bind_some, ← List.map_prod_left_eq_zip]
  by_cases full : key ∈ names ∧ place key ≠ none
  · rw [if_pos (taken.mpr full), if_pos full]
  · rw [if_neg (mt taken.mp full), if_neg full, List.map_map]
    refine congrArg some (List.map_congr_left fun name _ => ?_)
    rcases eq_or_ne key name with rfl | different
    · simp
    · simp [different, different.symm]

/-- Members are read by name if their keys allow it, and each name gets what stands under it. -/
theorem membersByName?_eq_some_iff {places : List (Option ParseTree)} :
    membersByName? names members = some places ↔
      Keyed names members ∧ places = names.map fun name => (under name members).head? := by
  induction members generalizing places with
  | nil =>
      rw [membersByName?, Option.some.injEq, and_iff_right keyed_nil]
      exact eq_comm
  | cons member rest ih =>
      obtain ⟨key, value⟩ := member
      cases key with
      | none =>
          refine iff_of_false (by simp [membersByName?]) ?_
          rintro ⟨keyed, -⟩
          exact keyed.texts _ List.mem_cons_self rfl
      | some key =>
          rw [keyed_cons_iff]
          cases read : membersByName? names rest with
          | none =>
              refine iff_of_false (by simp [membersByName?, read]) ?_
              rintro ⟨⟨keyed, -⟩, -⟩
              have := ih.mpr ⟨keyed, rfl⟩
              rw [read] at this
              cases this
          | some found =>
              obtain ⟨keyed, rfl⟩ := ih.mp read
              rw [membersByName?_cons read, and_iff_right keyed]
              simp only [ne_eq, List.head?_eq_none_iff, under_cons, Option.some.injEq]
              split
              · rename_i taken
                refine iff_of_false (Option.some_ne_none _).symm ?_
                rintro ⟨new, -⟩
                exact taken.2 (new taken.1)
              · rename_i free
                have new : key ∈ names → under key rest = [] := fun listed =>
                  Classical.not_not.mp fun filled => free ⟨listed, filled⟩
                rw [and_iff_right new, Option.some.injEq, eq_comm]
                refine Eq.congr_right (List.map_congr_left fun name _ => ?_)
                split <;> rfl

theorem membersByName?_eq_none (unkeyed : ¬ Keyed names members) :
    membersByName? names members = none :=
  Option.eq_none_iff_forall_ne_some.mpr fun _ read => unkeyed (membersByName?_eq_some_iff.mp read).1

/-! ## The same object in other words -/

/-- The members of an object said differently: in another order, with `null` for optional fields
that they lack, and with more members, of names that are not known and values that are
admitted. -/
inductive Restates (known optionals : List String) (admits : ParseTree → Prop)
    (members others : List (Option String × ParseTree)) : Prop
  | intro (nulls : List String) (extras : List (String × ParseTree)) :
      nulls.Nodup → (∀ name ∈ nulls, name ∈ optionals ∧ under name members = []) →
      (∀ extra ∈ extras, extra.1 ∉ known ∧ admits extra.2) →
      others.Perm (members ++ (nulls.map fun name => (some name, .null)) ++
        extras.map fun extra => (some extra.1, extra.2)) →
      Restates known optionals admits members others

theorem under_nulls {nulls : List String} (distinct : nulls.Nodup) :
    under name (nulls.map fun name => (some name, .null)) =
      if name ∈ nulls then [.null] else [] := by
  induction nulls with
  | nil => rfl
  | cons head rest ih =>
      obtain ⟨new, distinct⟩ := List.nodup_cons.mp distinct
      rw [List.map_cons, under_cons, ih distinct]
      by_cases same : name = head
      · subst same
        simp [new]
      · simp [same, Ne.symm same]

/-- Under a known name there still stands the same, or `null` where there was nothing. -/
theorem Restates.under_cases (restates : Restates known optionals admits members others)
    (listed : name ∈ known) :
    (under name others).Perm (under name members) ∨
      name ∈ optionals ∧ under name members = [] ∧ under name others = [.null] := by
  obtain ⟨nulls, extras, distinct, lacking, unknown, perm⟩ := restates
  have added : under name (extras.map fun extra => (some extra.1, extra.2)) = [] := by
    refine under_eq_nil fun member present same => ?_
    obtain ⟨extra, given, rfl⟩ := List.mem_map.mp present
    cases same
    exact (unknown extra given).1 listed
  have whole := under_perm name perm
  rw [under_append, under_append, under_nulls distinct, added, List.append_nil] at whole
  by_cases null : name ∈ nulls
  · right
    rw [if_pos null, (lacking name null).2, List.nil_append] at whole
    exact ⟨(lacking name null).1, (lacking name null).2, List.perm_singleton.mp whole⟩
  · left
    rwa [if_neg null, List.append_nil] at whole

theorem Restates.keyed_iff (restates : Restates known optionals admits members others) :
    Keyed known others ↔ Keyed known members := by
  have texts : (∀ member ∈ others, member.1 ≠ none) ↔ ∀ member ∈ members, member.1 ≠ none := by
    obtain ⟨nulls, extras, distinct, lacking, unknown, perm⟩ := restates
    simp only [perm.mem_iff, List.mem_append, or_imp, forall_and, List.forall_mem_map]
    simp
  have once (name : String) (listed : name ∈ known) :
      (under name others).length ≤ 1 ↔ (under name members).length ≤ 1 := by
    rcases restates.under_cases listed with perm | ⟨-, lacking, null⟩
    · rw [perm.length_eq]
    · simp [lacking, null]
  constructor
  · exact fun keyed => ⟨texts.mp keyed.texts,
      fun name listed => (once name listed).mp (keyed.once name listed)⟩
  · exact fun keyed => ⟨texts.mpr keyed.texts,
      fun name listed => (once name listed).mpr (keyed.once name listed)⟩

/-- What is read under the known names is the same, but that a missing optional field may be
`null`. -/
def Agrees (known optionals : List String) (place other : String → Option ParseTree) : Prop :=
  ∀ name ∈ known,
    other name = place name ∨ name ∈ optionals ∧ place name = none ∧ other name = some .null

theorem Restates.agrees (restates : Restates known optionals admits members others)
    (keyed : Keyed known members) :
    Agrees known optionals (fun name => (under name members).head?)
      fun name => (under name others).head? := by
  intro name listed
  rcases restates.under_cases listed with perm | ⟨optional, lacking, null⟩
  · have same : under name others = under name members := by
      have short := keyed.once name listed
      generalize under name members = values at perm short
      cases values with
      | nil => exact perm.eq_nil
      | cons value rest =>
          obtain rfl := List.eq_nil_of_length_eq_zero
            (Nat.le_zero.mp (Nat.le_of_succ_le_succ short))
          exact List.perm_singleton.mp perm
    exact .inl (congrArg List.head? same)
  · exact .inr ⟨optional, congrArg List.head? lacking, congrArg List.head? null⟩

variable {α : Type} {place other : String → Option ParseTree}

theorem Agrees.eq (agrees : Agrees known optionals place other) (listed : name ∈ known)
    (needed : name ∉ optionals) : other name = place name :=
  (agrees name listed).resolve_right fun optional => needed optional.1

theorem Agrees.optional (agrees : Agrees known optionals place other) (listed : name ∈ known)
    (decode : ParseTree → Option α) :
    optional decode (other name) = optional decode (place name) := by
  rcases agrees name listed with same | ⟨-, lacking, null⟩
  · rw [same]
  · rw [lacking, null]
    rfl

/-- A decoder that looks at the fields of known names only and takes `null` for an optional one
as nothing, but refuses every object with a value in it that is not admitted. -/
structure ReadsByName (known optionals : List String) (admits : ParseTree → Prop)
    (decode : ParseTree → Option α) : Prop where
  admits_null : admits .null
  refuses : ∀ members, (∃ member ∈ members, ¬ admits member.2) → decode (.object members) = none
  by_name : ∃ make : List (Option ParseTree) → Option α,
    (∀ members, (∀ member ∈ members, admits member.2) →
      decode (.object members) = (membersByName? known members).bind make) ∧
    ∀ place other, Agrees known optionals place other →
      make (known.map other) = make (known.map place)

/-- Such a decoder cannot tell in which words an object is said. -/
theorem ReadsByName.decode_eq {decode : ParseTree → Option α}
    (reads : ReadsByName known optionals admits decode)
    (restates : Restates known optionals admits members others) :
    decode (.object others) = decode (.object members) := by
  have admitted : (∀ member ∈ others, admits member.2) ↔ ∀ member ∈ members, admits member.2 := by
    obtain ⟨nulls, extras, distinct, lacking, unknown, perm⟩ := restates
    simp only [perm.mem_iff, List.mem_append, or_imp, forall_and, List.forall_mem_map,
      reads.admits_null, implies_true, and_true]
    exact and_iff_left fun extra given => (unknown extra given).2
  obtain ⟨make, decode_eq, make_eq⟩ := reads.by_name
  by_cases all : ∀ member ∈ members, admits member.2
  · rw [decode_eq others (admitted.mpr all), decode_eq members all]
    by_cases keyed : Keyed known members
    · rw [membersByName?_eq_some_iff.mpr ⟨keyed, rfl⟩,
        membersByName?_eq_some_iff.mpr ⟨restates.keyed_iff.mpr keyed, rfl⟩]
      exact make_eq _ _ (restates.agrees keyed)
    · rw [membersByName?_eq_none keyed, membersByName?_eq_none (mt restates.keyed_iff.mp keyed)]
  · have held {members} (barred : ¬ ∀ member ∈ members, admits member.2) :
        decode (.object members) = none :=
      reads.refuses members (by simpa using barred)
    rw [held all, held (mt admitted.mp all)]

/-- A decoder that reads the fields of its names admits every value under other names. -/
theorem readsByName_of_fields {decode : ParseTree → Option α}
    {make : List (Option ParseTree) → Option α}
    (decode_eq : ∀ members, decode (.object members) = (membersByName? known members).bind make)
    (make_eq : ∀ place other, Agrees known optionals place other →
      make (known.map other) = make (known.map place)) :
    ReadsByName known optionals (fun _ => True) decode where
  admits_null := trivial
  refuses := by
    rintro members ⟨member, -, barred⟩
    exact absurd trivial barred
  by_name := ⟨make, fun members _ => decode_eq members, make_eq⟩

/-! ## Objects that are held as a whole -/

variable {room : Nat}

theorem isSome_membersToJson?_iff : (membersToJson? room members).isSome ↔
    ∀ member ∈ members, member.1 ≠ none ∧ (member.2.toJson? room).isSome := by
  induction members with
  | nil => simp [membersToJson?]
  | cons member rest ih =>
      obtain ⟨key, value⟩ := member
      rw [List.forall_mem_cons, ← ih]
      cases key with
      | none => simp [membersToJson?]
      | some key =>
          cases read : value.toJson? room with
          | none => simp [membersToJson?, read]
          | some value => cases others : membersToJson? room rest <;>
              simp [membersToJson?, read, others]

/-- All members but those of the names are held. -/
theorem openFields?_object (names : List String) (room : Nat)
    (members : List (Option String × ParseTree)) :
    (object members).openFields? names room =
      (membersToJson? room
        (members.filter fun member => member.1.all fun key => !names.contains key)).bind
          fun _ => membersByName? names members := rfl

/-- Where every value can be held, an open object is read like any other. -/
theorem openFields?_of_held (held : ∀ member ∈ members, (member.2.toJson? room).isSome) :
    (object members).openFields? names room = membersByName? names members := by
  rw [openFields?_object]
  cases others : membersToJson? room
      (members.filter fun member => member.1.all fun key => !names.contains key) with
  | some values => rfl
  | none =>
      refine (membersByName?_eq_none fun keyed => ?_).symm
      refine Option.not_isSome_iff_eq_none.mpr others (isSome_membersToJson?_iff.mpr ?_)
      intro member kept
      have present := List.mem_of_mem_filter kept
      exact ⟨keyed.texts member present, held member present⟩

theorem openFields?_eq_none {member : Option String × ParseTree} (present : member ∈ members)
    (unheld : member.2.toJson? room = none) (unknown : ∀ name ∈ names, member.1 ≠ some name) :
    (object members).openFields? names room = none := by
  have kept : member ∈ members.filter
      fun member => member.1.all fun key => !names.contains key := by
    refine List.mem_filter.mpr ⟨present, ?_⟩
    obtain ⟨key, value⟩ := member
    cases key with
    | none => rfl
    | some key =>
        have new : key ∉ names := fun listed => unknown key listed rfl
        simpa using new
  rw [openFields?_object]
  cases others : membersToJson? room
      (members.filter fun member => member.1.all fun key => !names.contains key) with
  | none => rfl
  | some values =>
      have readable :=
        (isSome_membersToJson?_iff.mp (Option.isSome_of_eq_some others) member kept).2
      rw [unheld] at readable
      cases readable

end ParseTree

end Workflow
