import Workflow.Proofs.Engine.Local

/-!
# Names of records

A definition is run by its name, so a name should stand for one record. A new record is
refused without a name or under a taken one. An update is not: it may take the name of a
record away or give it that of another. That is the only way in which names go wrong:
as long as no update does it, every record has a name of its own and a run by name is a
run of the one record with that name.
-/

namespace Workflow

namespace LocalEngine

variable {engine next : LocalEngine} {clock : Clock}

/-- Every record has a name, and no two have the same. -/
structure Named (engine : LocalEngine) : Prop where
  name_ne_empty : ∀ record ∈ engine.definitions, record.name ≠ ""
  names_nodup : (engine.definitions.map Record.name).Nodup

/-- A request is an update that leaves the record it changes without a name or with the
name of another record. -/
def Misnames (engine : LocalEngine) (request : Request) : Prop :=
  ∃ id payload old, request = .update id payload ∧ engine.definition? id = some old ∧
    (payload.name = "" ∨
      payload.name ≠ old.name ∧ payload.name ∈ engine.definitions.map Record.name)

/-- In a list of distinct names one may be changed to any that is not among the others. -/
theorem nodup_rename_iff {before after : List String} {old : String}
    (distinct : (before ++ old :: after).Nodup) (new : String) :
    (before ++ new :: after).Nodup ↔ ¬ (new ≠ old ∧ new ∈ before ++ old :: after) := by
  rw [List.nodup_middle, List.nodup_cons] at distinct
  obtain ⟨once, others⟩ := distinct
  rw [List.nodup_middle, List.nodup_cons, and_iff_left others]
  by_cases same : new = old
  · subst same
    simpa using once
  · simp [same]

/-! ## One request -/

theorem Named.appended {record : Record} (named : engine.Named) (name : record.name ≠ "")
    (free : ∀ old ∈ engine.definitions, old.name ≠ record.name) :
    (engine.append record).Named where
  name_ne_empty old member := by
    rcases List.mem_append.mp member with held | new
    · exact named.name_ne_empty old held
    · rw [List.mem_singleton.mp new]
      exact name
  names_nodup := by
    rw [append, List.map_append, List.map_singleton]
    apply List.nodup_append.mpr
    refine ⟨named.names_nodup, List.nodup_singleton _, ?_⟩
    intro held listed new last same
    obtain ⟨old, member, rfl⟩ := List.mem_map.mp listed
    exact free old member (same.trans (List.mem_singleton.mp last))

/-- With a changed record in its place an engine is as well named as the new name allows. -/
theorem named_replace_iff {before after : List Record} {old record : Record}
    (named : engine.Named) (split : engine.definitions = before ++ old :: after) :
    ({ engine with definitions := before ++ record :: after } : LocalEngine).Named ↔
      ¬ (record.name = "" ∨
        record.name ≠ old.name ∧ record.name ∈ engine.definitions.map Record.name) := by
  have names_nodup := named.names_nodup
  have name_ne_empty := named.name_ne_empty
  rw [split, List.map_append, List.map_cons] at names_nodup
  rw [split] at name_ne_empty
  have rename := nodup_rename_iff names_nodup record.name
  rw [not_or, split, List.map_append, List.map_cons, ← rename]
  constructor
  · intro renamed
    exact ⟨renamed.name_ne_empty record (by simp), by simpa using renamed.names_nodup⟩
  · rintro ⟨present, distinct⟩
    refine ⟨?_, by simpa using distinct⟩
    intro other member
    rcases List.mem_append.mp member with front | back
    · exact name_ne_empty other (List.mem_append_left _ front)
    · rcases List.mem_cons.mp back with rfl | back
      · exact present
      · exact name_ne_empty other (by simp [back])

/-- Serving a request keeps the names in order unless it misnames a record. -/
theorem Named.serves_iff (named : engine.Named) {request : Request}
    {answer : Except EngineError Reply} (serves : engine.Serves clock request answer next) :
    next.Named ↔ ¬ engine.Misnames request := by
  cases serves with
  | fails request failure failed =>
      apply iff_of_true named
      rintro ⟨id, payload, old, rfl, found, -⟩
      obtain ⟨before, after, -, -, -, done⟩ :=
        change_of_definition? clock (withPayload payload) found
      rw [respond, done] at failed
      cases failed
  | creates creation present free =>
      apply iff_of_true (named.appended present free)
      rintro ⟨id, payload, old, same, -⟩
      cases same
  | edits request edit before old after edits split earlier =>
      have found : engine.definition? old.id = some old := by
        apply List.find?_eq_some_iff_append.mpr
        exact ⟨decide_eq_true rfl, before, after, split, by simpa using earlier⟩
      rw [named_replace_iff named split]
      cases request with
      | update id payload =>
          cases edits
          apply not_congr
          constructor
          · intro bad
            exact ⟨_, payload, old, rfl, found, bad⟩
          · rintro ⟨_, _, other, same, again, bad⟩
            cases same
            cases found.symm.trans again
            exact bad
      | setStatus id status =>
          cases edits
          have kept := named.name_ne_empty old (by simp [split])
          apply iff_of_true
          · rintro (empty | ⟨renamed, -⟩)
            · exact kept empty
            · exact renamed rfl
          · rintro ⟨_, _, _, same, -⟩
            cases same
      | _ => cases edits
  | executes name context run =>
      apply iff_of_true ⟨named.name_ne_empty, named.names_nodup⟩
      rintro ⟨_, _, _, same, -⟩
      cases same
  | lists | shows | showsRuns =>
      apply iff_of_true named
      rintro ⟨_, _, _, same, -⟩
      cases same

theorem Named.serve_iff (named : engine.Named) (clock : Clock) (request : Request) :
    (engine.serve clock request).2.Named ↔ ¬ engine.Misnames request :=
  named.serves_iff (engine.serve_serves clock request)

/-- To run a name is refused if no record has the name. Otherwise one record only has it, and
that one is run. -/
def RunsTheNamed (engine : LocalEngine) (clock : Clock) (name : String) (context : Json) : Prop :=
  ((∀ record ∈ engine.definitions, record.name ≠ name) ∧
    engine.serve clock (.execute name context) =
      (.error ⟨.executeByName, .notFound (byName name)⟩, engine)) ∨
  ∃ before record after, engine.definitions = before ++ record :: after ∧ record.name = name ∧
    (∀ other ∈ before ++ after, other.name ≠ name) ∧
    ∃ run : Run, run.definitionId = record.id ∧ engine.serve clock (.execute name context) =
      (.ok .executed,
        { engine with runs := engine.runs ++ [run], lastRunId := engine.lastRunId + 1 })

theorem Named.runsTheNamed (named : engine.Named) (clock : Clock) (name : String) (context : Json) :
    engine.RunsTheNamed clock name context := by
  cases found : engine.named? name with
  | none =>
      left
      refine ⟨by simpa [named?] using found, ?_⟩
      simp [serve, respond, execute, found, Except.map, Request.operation]
  | some record =>
      right
      obtain ⟨run, refers, done⟩ := execute_of_named? clock found
      obtain ⟨hit, before, after, split, -⟩ := List.find?_eq_some_iff_append.mp found
      have same : record.name = name := of_decide_eq_true hit
      have distinct := named.names_nodup
      rw [split, List.map_append, List.map_cons, List.nodup_middle, ← List.map_append,
        List.nodup_cons] at distinct
      refine ⟨before, record, after, split, same, ?_, run, refers, ?_⟩
      · intro other member taken
        exact distinct.1 (List.mem_map.mpr ⟨other, member, taken.trans same.symm⟩)
      · simp [serve, respond, done, Except.map]

/-! ## Many requests -/

/-- The engine after requests that are served at the given times, one after the other. -/
def serveAll (engine : LocalEngine) (calls : List (Clock × Request)) : LocalEngine :=
  calls.foldl (fun engine call => (engine.serve call.1 call.2).2) engine

/-- Names are in order at every point of a run exactly when none of its requests misnames
a record. -/
theorem Named.serveAll_iff (named : engine.Named) (calls : List (Clock × Request)) :
    (∀ served rest, calls = served ++ rest → (engine.serveAll served).Named) ↔
      ∀ served call rest, calls = served ++ call :: rest →
        ¬ (engine.serveAll served).Misnames call.2 := by
  induction calls generalizing engine with
  | nil =>
      apply iff_of_true
      · intro served rest none
        rw [(List.append_eq_nil_iff.mp none.symm).1]
        exact named
      · intro served call rest none
        simp at none
  | cons first others ih =>
      have step := named.serve_iff first.1 first.2
      constructor
      · intro throughout
        have next := throughout [first] others rfl
        intro served call rest split
        cases served with
        | nil =>
            cases split
            exact step.mp next
        | cons _ served =>
            cases split
            refine (ih next).mp ?_ served call rest rfl
            intro served rest split
            exact throughout (first :: served) rest (by rw [split, List.cons_append])
      · intro never
        have next := step.mpr (never [] first others rfl)
        intro served rest split
        cases served with
        | nil => exact named
        | cons _ served =>
            cases split
            refine (ih next).mpr ?_ served rest rfl
            intro served call rest split
            exact never (first :: served) call rest (by rw [split, List.cons_append])

/-- An engine that starts without records, or with records that have a name of their own
each, has names in order throughout a run exactly when no update of the run takes away
the name of a record or gives it that of another. And as long as names are in order, to
run a name is to run the only record that has it. -/
theorem names_kept_iff {records : List Record} (present : ∀ record ∈ records, record.name ≠ "")
    (distinct : (records.map Record.name).Nodup) (calls : List (Clock × Request)) :
    ((∀ served rest, calls = served ++ rest → ((ofRecords records).serveAll served).Named) ↔
      ∀ served call rest, calls = served ++ call :: rest →
        ¬ ((ofRecords records).serveAll served).Misnames call.2) ∧
    ∀ served rest, calls = served ++ rest → ((ofRecords records).serveAll served).Named →
      ∀ clock name context,
        ((ofRecords records).serveAll served).RunsTheNamed clock name context := by
  have named : (ofRecords records).Named := ⟨present, distinct⟩
  exact ⟨named.serveAll_iff calls, fun _ _ _ inOrder => inOrder.runsTheNamed⟩

/-- A record under a name. -/
def recordNamed (id : Int64) (name : String) : Record :=
  { (default : Record) with id, name }

/-- A payload under a name. -/
def payloadNamed (name : String) : Payload :=
  { (default : Payload) with name }

/-- A record is renamed, another one is stored under the name that is free by then, and that
name is run. -/
def reusedName : List (Clock × Request) :=
  [(0, .update 7 (payloadNamed "bills")), (1, .create (.active (payloadNamed "orders"))),
    (2, .execute "orders" .null)]

theorem names_kept_iff_reusedName :
    (∀ record ∈ [recordNamed 7 "orders"], record.name ≠ "") ∧
    ([recordNamed 7 "orders"].map Record.name).Nodup ∧
    (((∀ served rest, reusedName = served ++ rest →
        ((ofRecords [recordNamed 7 "orders"]).serveAll served).Named) ↔
      ∀ served call rest, reusedName = served ++ call :: rest →
        ¬ ((ofRecords [recordNamed 7 "orders"]).serveAll served).Misnames call.2) ∧
    ∀ served rest, reusedName = served ++ rest →
      ((ofRecords [recordNamed 7 "orders"]).serveAll served).Named → ∀ clock name context,
        ((ofRecords [recordNamed 7 "orders"]).serveAll served).RunsTheNamed clock name
          context) := by
  have present : ∀ record ∈ [recordNamed 7 "orders"], record.name ≠ "" := by decide
  have distinct : ([recordNamed 7 "orders"].map Record.name).Nodup := by decide
  exact ⟨present, distinct, names_kept_iff present distinct reusedName⟩

/-- Two records are stored, and the second is given the name of the first. -/
def takenName : List (Clock × Request) :=
  [(0, .create (.active (payloadNamed "a"))), (0, .create (.active (payloadNamed "b"))),
    (0, .update 2 (payloadNamed "a"))]

/-- Names do not stay in order whatever is asked. -/
theorem not_names_always_kept : ¬ ∀ records : List Record,
    (∀ record ∈ records, record.name ≠ "") → (records.map Record.name).Nodup →
      ∀ calls, ((ofRecords records).serveAll calls).Named := by
  intro claim
  have named := claim [] (by simp) List.nodup_nil takenName
  have names : ((ofRecords []).serveAll takenName).definitions.map Record.name = ["a", "a"] := by
    rfl
  have distinct := named.names_nodup
  rw [names] at distinct
  exact absurd distinct (by decide)

end LocalEngine

end Workflow
