import Workflow.Proofs.Engine.Names
import Mathlib.Data.List.Induction

/-!
# What an engine keeps

Requests add to what an engine holds and change some of it in place. No record is removed or
moved, none gets another number or another origin, and a new one is numbered after all that
there are, whatever numbers the engine was given to start with. Runs are only added, under
the numbers one, two, three and so on.

What one request may do to a record is a relation between the record before and after it.
That a whole run of requests keeps what the engine held is put together from it.
-/

namespace Workflow

/-- A record that may have changed, but not in its number or in where it came from. -/
structure Record.SameOrigin (old new : Record) : Prop where
  id : new.id = old.id
  createdBy : new.createdBy = old.createdBy
  createdAt : new.createdAt = old.createdAt

namespace Record.SameOrigin

theorem refl (record : Record) : record.SameOrigin record :=
  ⟨rfl, rfl, rfl⟩

theorem trans {a b c : Record} (first : a.SameOrigin b) (second : b.SameOrigin c) :
    a.SameOrigin c :=
  ⟨second.id.trans first.id, second.createdBy.trans first.createdBy,
    second.createdAt.trans first.createdAt⟩

end Record.SameOrigin

/-- What a request may make of a record that the engine holds. An update leaves its origin and
its status alone, a change of status everything but the status and the time of the change, and
both leave it as it is if it has another number. No other request changes a record. -/
def Request.Permits : Request → Record → Record → Prop
  | .update id _, old, new =>
    old.SameOrigin new ∧ new.status = old.status ∧ (old.id ≠ id → new = old)
  | .setStatus id _, old, new =>
    new = { old with status := new.status, updatedAt := new.updatedAt } ∧ (old.id ≠ id → new = old)
  | _, old, new => new = old

namespace Request.Permits

variable {request : Request} {old new : Record}

theorem refl (request : Request) (record : Record) : request.Permits record record := by
  cases request with
  | update id payload => exact ⟨.refl record, rfl, fun _ => rfl⟩
  | setStatus id status => exact ⟨rfl, fun _ => rfl⟩
  | _ => rfl

theorem sameOrigin (permits : request.Permits old new) : old.SameOrigin new := by
  cases request with
  | update id payload => exact permits.1
  | setStatus id status =>
      rw [permits.1]
      exact ⟨rfl, rfl, rfl⟩
  | _ =>
      cases permits
      exact .refl old

/-- A change in place is one that its request permits. -/
theorem of_edit {edit : Record → Record} (edits : request.edit? = some (old.id, edit))
    (clock : Clock) :
    request.Permits old ((edit old).stamped clock) := by
  cases request with
  | update id payload =>
      cases edits
      exact ⟨⟨rfl, rfl, rfl⟩, rfl, fun other => absurd rfl other⟩
  | setStatus id status =>
      cases edits
      exact ⟨rfl, fun other => absurd rfl other⟩
  | _ => cases edits

end Request.Permits

namespace LocalEngine

variable {engine next later : LocalEngine} {clock : Clock}

/-- A later state of an engine. Every record is still in its place, changed at most in a way
that a relation allows, every record that was added has a higher number than those there were,
and the runs are still there. -/
structure Retains (R : Record → Record → Prop) (engine later : LocalEngine) : Prop where
  kept : ∀ (i : Nat) old, engine.definitions[i]? = some old →
    ∃ new, later.definitions[i]? = some new ∧ R old new
  added : ∀ (i : Nat) new, engine.definitions.length ≤ i → later.definitions[i]? = some new →
    ∀ old ∈ engine.definitions, old.id.toInt < new.id.toInt
  runs : engine.runs <+: later.runs

theorem retains_of_definitions_eq {R : Record → Record → Prop} (refl : ∀ record, R record record)
    (definitions : later.definitions = engine.definitions) (runs : engine.runs <+: later.runs) :
    engine.Retains R later where
  kept i old held := ⟨old, definitions ▸ held, refl old⟩
  added i new outside held := by
    rw [definitions, List.getElem?_eq_none outside] at held
    cases held
  runs := runs

theorem Retains.mono {R S : Record → Record → Prop} (imp : ∀ old new, R old new → S old new)
    (retains : engine.Retains R later) : engine.Retains S later where
  kept i old held := by
    obtain ⟨new, still, allowed⟩ := retains.kept i old held
    exact ⟨new, still, imp old new allowed⟩
  added := retains.added
  runs := retains.runs

/-- What is kept from each state to the next is kept. -/
theorem Retains.trans (first : engine.Retains Record.SameOrigin next)
    (second : next.Retains Record.SameOrigin later) :
    engine.Retains Record.SameOrigin later where
  kept i old held := by
    obtain ⟨mid, still, same⟩ := first.kept i old held
    obtain ⟨new, after, again⟩ := second.kept i mid still
    exact ⟨new, after, same.trans again⟩
  added i new outside held old member := by
    by_cases within : i < next.definitions.length
    · -- the record was added on the way, and later requests left its number alone
      have there : next.definitions[i]? = some next.definitions[i] :=
        List.getElem?_eq_getElem within
      obtain ⟨again, after, same⟩ := second.kept i _ there
      cases held.symm.trans after
      rw [same.id]
      exact first.added i _ outside there old member
    · obtain ⟨j, held_j⟩ := List.mem_iff_getElem?.mp member
      obtain ⟨mid, still, same⟩ := first.kept j old held_j
      rw [← same.id]
      exact second.added i new (Nat.le_of_not_lt within) held mid (List.mem_of_getElem? still)
  runs := first.runs.trans second.runs

/-! ## One request -/

/-- Serving a request keeps what the engine holds. -/
theorem Numbered.retains (numbered : engine.Numbered) {request : Request}
    {answer : Except EngineError Reply} (serves : engine.Serves clock request answer next)
    (room : engine.definitions.length < next.definitions.length →
      engine.lastDefinitionId.toInt < Int64.maxValue.toInt) :
    engine.Retains request.Permits next := by
  cases serves with
  | creates creation named free =>
      have longer : engine.definitions.length <
          (engine.append (engine.created clock creation)).definitions.length := by
        simp [append]
      have next_id := toInt_succ (room longer)
      refine ⟨?_, ?_, List.prefix_refl _⟩
      · intro i old held
        have inside := (List.getElem?_eq_some_iff.mp held).1
        exact ⟨old, by rw [append, List.getElem?_append_left inside, held], .refl _ old⟩
      · intro i new outside held old member
        rw [append, List.getElem?_append_right outside] at held
        have last : new = engine.created clock creation :=
          List.mem_singleton.mp (List.mem_of_getElem? held)
        have below := numbered.id_le old member
        rw [last, created_id, next_id]
        omega
  | edits request edit before old after edits split earlier =>
      have place (i : Nat) : (before ++ (edit old).stamped clock :: after)[i]? =
          if i = before.length then some ((edit old).stamped clock)
          else engine.definitions[i]? := by
        rw [split]
        rcases Nat.lt_trichotomy i before.length with inFront | rfl | behind
        · rw [if_neg (by omega), List.getElem?_append_left inFront,
            List.getElem?_append_left inFront]
        · simp
        · obtain ⟨k, rfl⟩ := Nat.exists_eq_add_of_lt behind
          rw [if_neg (by omega), List.getElem?_append_right (by omega),
            List.getElem?_append_right (by omega)]
          simp [Nat.add_assoc]
      have here : engine.definitions[before.length]? = some old := by simp [split]
      refine ⟨?_, ?_, List.prefix_refl _⟩
      · intro i record held
        show ∃ new, (before ++ (edit old).stamped clock :: after)[i]? = some new ∧ _
        rw [place]
        by_cases same : i = before.length
        · subst same
          cases here.symm.trans held
          exact ⟨_, if_pos rfl, .of_edit edits clock⟩
        · exact ⟨record, (if_neg same).trans held, .refl _ record⟩
      · intro i new outside held
        have longer : before.length < engine.definitions.length := by simp [split]
        rw [place, if_neg (by omega), List.getElem?_eq_none outside] at held
        cases held
  | executes name context run number =>
      exact retains_of_definitions_eq (.refl _) rfl (List.prefix_append _ _)
  | fails request failure failed =>
      exact retains_of_definitions_eq (.refl _) rfl (List.prefix_refl _)
  | lists | shows | showsRuns =>
      exact retains_of_definitions_eq (.refl _) rfl (List.prefix_refl _)

/-- Runs are numbered from one in the order in which they were made. -/
structure RunsNumbered (engine : LocalEngine) : Prop where
  id_eq : ∀ (i : Nat) run, engine.runs[i]? = some run → run.id = Int64.ofNat (i + 1)
  last_eq : engine.lastRunId = Int64.ofNat engine.runs.length

theorem runsNumbered_ofRecords (records : List Record) : (ofRecords records).RunsNumbered where
  id_eq i run held := by cases held
  last_eq := rfl

theorem RunsNumbered.of_serves (numbered : engine.RunsNumbered) {request : Request}
    {answer : Except EngineError Reply} (serves : engine.Serves clock request answer next) :
    next.RunsNumbered := by
  cases serves with
  | executes name context run number =>
      have new : run.id = Int64.ofNat (engine.runs.length + 1) := by
        rw [number, numbered.last_eq, Int64.ofNat_add]
        rfl
      constructor
      · intro i other held
        rcases Nat.lt_or_ge i engine.runs.length with before | last
        · rw [List.getElem?_append_left before] at held
          exact numbered.id_eq i other held
        · obtain ⟨k, rfl⟩ := Nat.exists_eq_add_of_le last
          rw [List.getElem?_append_right last, Nat.add_sub_cancel_left] at held
          cases k with
          | zero =>
              cases held
              exact new
          | succ k => cases held
      · rw [← number, new, List.length_append, List.length_singleton]
  | fails request failure failed => exact numbered
  | lists | shows | showsRuns => exact numbered
  | creates creation named free => exact ⟨numbered.id_eq, numbered.last_eq⟩
  | edits request edit before old after edits split earlier =>
      exact ⟨numbered.id_eq, numbered.last_eq⟩

/-- A request that fails leaves everything as it was. -/
theorem Serves.eq_of_error {request : Request} {error : EngineError}
    (serves : engine.Serves clock request (.error error) next) : next = engine := by
  cases serves
  rfl

/-! ## Many requests -/

theorem serveAll_append (engine : LocalEngine) (front back : List (Clock × Request)) :
    engine.serveAll (front ++ back) = (engine.serveAll front).serveAll back :=
  List.foldl_append

theorem serveAll_length_le (engine : LocalEngine) (requests : List (Clock × Request)) :
    engine.definitions.length ≤ (engine.serveAll requests).definitions.length := by
  induction requests generalizing engine with
  | nil => exact Nat.le_refl _
  | cons first rest ih =>
      have grows := (engine.serve_serves first.1 first.2).length_cases
      have later := ih (engine.serve first.1 first.2).2
      rw [serveAll] at later ⊢
      rw [List.foldl_cons]
      omega

/-- While there are numbers left an engine keeps them distinct, and what it has used of them
went to new records. -/
theorem Numbered.serveAll {engine : LocalEngine} (numbered : engine.Numbered)
    (requests : List (Clock × Request))
    (room : engine.lastDefinitionId.toInt + (engine.serveAll requests).definitions.length ≤
      Int64.maxValue.toInt + engine.definitions.length) :
    (engine.serveAll requests).Numbered ∧
      (engine.serveAll requests).lastDefinitionId.toInt + engine.definitions.length =
        engine.lastDefinitionId.toInt + (engine.serveAll requests).definitions.length := by
  induction requests generalizing engine with
  | nil => exact ⟨numbered, rfl⟩
  | cons first rest ih =>
      have serves := engine.serve_serves first.1 first.2
      have later := (engine.serve first.1 first.2).2.serveAll_length_le rest
      have further : engine.serveAll (first :: rest) =
          (engine.serve first.1 first.2).2.serveAll rest := rfl
      rw [further] at room ⊢
      -- a record that the request adds takes the next number, of which enough are left
      have numbers : engine.definitions.length <
          (engine.serve first.1 first.2).2.definitions.length →
          engine.lastDefinitionId.toInt < Int64.maxValue.toInt := by
        intro longer
        omega
      have next := numbered.of_serves serves numbers
      rcases serves.length_cases with ⟨same, last⟩ | ⟨longer, last⟩
      · rw [← same, ← last] at room ⊢
        exact ih next room
      · have succ := toInt_succ (numbers (by omega))
        rw [← last] at succ
        obtain ⟨still, used⟩ := ih next (by omega)
        exact ⟨still, by omega⟩

/-- Runs of an engine that started without any are numbered from one. -/
theorem RunsNumbered.serveAll (numbered : engine.RunsNumbered) (calls : List (Clock × Request)) :
    (engine.serveAll calls).RunsNumbered := by
  induction calls generalizing engine with
  | nil => exact numbered
  | cons first rest ih => exact ih (numbered.of_serves (engine.serve_serves first.1 first.2))

/-- As long as there are numbers left, what an engine held before some requests it holds after
them. -/
theorem Numbered.retains_serveAll (numbered : engine.Numbered) (calls : List (Clock × Request))
    (room : engine.lastDefinitionId.toInt + (engine.serveAll calls).definitions.length ≤
      Int64.maxValue.toInt + engine.definitions.length) :
    engine.Retains Record.SameOrigin (engine.serveAll calls) := by
  induction calls using List.reverseRecOn with
  | nil => exact retains_of_definitions_eq .refl rfl (List.prefix_refl _)
  | append_singleton front last ih =>
      have serves := (engine.serveAll front).serve_serves last.1 last.2
      have step : engine.serveAll (front ++ [last]) =
          ((engine.serveAll front).serve last.1 last.2).2 := engine.serveAll_append front [last]
      rw [step] at room ⊢
      have grows := serves.length_cases
      obtain ⟨still, used⟩ := numbered.serveAll front (by omega)
      refine (ih (by omega)).trans ((still.retains serves ?_).mono fun _ _ =>
        Request.Permits.sameOrigin)
      intro longer
      omega

/-- An engine never loses, rewrites or renumbers what it holds. Let it start with records of
distinct numbers and serve any requests at any times, as long as there are numbers for the
records that they add. Then at every point of the run the numbers are distinct and the runs are
numbered from one, everything there is stays to the end of the run, in its place and with its
number and origin, and what is added later has higher numbers. The next request changes a
record only in the way it is meant to, and if it fails it changes nothing at all. -/
theorem nothing_lost {records : List Record} (distinct : (records.map Record.id).Nodup)
    (calls : List (Clock × Request)) :
    let seeded := ofRecords records
    let added : Int := (seeded.serveAll calls).definitions.length - records.length
    seeded.lastDefinitionId.toInt + added ≤ Int64.maxValue.toInt →
      ∀ served rest, calls = served ++ rest →
        let engine := seeded.serveAll served
        (engine.definitions.map Record.id).Nodup ∧
        (∀ (i : Nat) run, engine.runs[i]? = some run → run.id = Int64.ofNat (i + 1)) ∧
        engine.Retains Record.SameOrigin (seeded.serveAll calls) ∧
        ∀ clock request others, rest = (clock, request) :: others →
          engine.Retains request.Permits (engine.serve clock request).2 ∧
          ∀ error, (engine.serve clock request).1 = .error error →
            (engine.serve clock request).2 = engine := by
  intro seeded added room served rest split engine
  have held : seeded.definitions.length = records.length := rfl
  have whole : seeded.serveAll calls = engine.serveAll rest := by
    rw [split]
    exact seeded.serveAll_append served rest
  have later := engine.serveAll_length_le rest
  rw [← whole] at later
  have enough : seeded.lastDefinitionId.toInt + engine.definitions.length ≤
      Int64.maxValue.toInt + seeded.definitions.length := by
    omega
  obtain ⟨numbered, used⟩ : engine.Numbered ∧ engine.lastDefinitionId.toInt +
      seeded.definitions.length = seeded.lastDefinitionId.toInt + engine.definitions.length :=
    (numbered_ofRecords distinct).serveAll served enough
  have runs : engine.RunsNumbered := (runsNumbered_ofRecords records).serveAll served
  refine ⟨numbered.ids_nodup, runs.id_eq, ?_, ?_⟩
  · rw [whole]
    exact numbered.retains_serveAll rest (by rw [← whole]; omega)
  · rintro clock request others rfl
    have serves := engine.serve_serves clock request
    have further := (engine.serve clock request).2.serveAll_length_le others
    have final : seeded.serveAll calls = (engine.serve clock request).2.serveAll others := whole
    rw [← final] at further
    refine ⟨numbered.retains serves (fun longer => by omega), ?_⟩
    intro error failed
    rw [failed] at serves
    exact serves.eq_of_error

/-- Records under numbers that are out of order, one of them below zero. -/
def strayNumbers : List Record :=
  [recordNamed 3 "bills", recordNamed (-1) "orders"]

/-- A record is added, another one is renamed, the new one is archived and run, and a record is
asked for that does not exist. -/
def upkeep : List (Clock × Request) :=
  [(0, .create (.active (payloadNamed "returns"))), (1, .update (-1) (payloadNamed "sales")),
    (2, .setStatus 4 .archived), (3, .execute "returns" .null), (4, .setStatus 9 .draft)]

theorem nothing_lost_upkeep :
    let seeded := ofRecords strayNumbers
    let added : Int := (seeded.serveAll upkeep).definitions.length - strayNumbers.length
    (strayNumbers.map Record.id).Nodup ∧
      seeded.lastDefinitionId.toInt + added ≤ Int64.maxValue.toInt ∧
      ∀ served rest, upkeep = served ++ rest →
        let engine := seeded.serveAll served
        (engine.definitions.map Record.id).Nodup ∧
        (∀ (i : Nat) run, engine.runs[i]? = some run → run.id = Int64.ofNat (i + 1)) ∧
        engine.Retains Record.SameOrigin (seeded.serveAll upkeep) ∧
        ∀ clock request others, rest = (clock, request) :: others →
          engine.Retains request.Permits (engine.serve clock request).2 ∧
          ∀ error, (engine.serve clock request).1 = .error error →
            (engine.serve clock request).2 = engine := by
  intro seeded added
  have distinct : (strayNumbers.map Record.id).Nodup := by decide
  have room : seeded.lastDefinitionId.toInt + added ≤ Int64.maxValue.toInt := by decide +kernel
  exact ⟨distinct, room, nothing_lost distinct upkeep room⟩

end LocalEngine

end Workflow
