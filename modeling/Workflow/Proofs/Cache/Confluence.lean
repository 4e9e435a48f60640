import Workflow.Proofs.Cache.LatestRequest
import Workflow.Proofs.Cache.Landings
import Mathlib.Data.List.Pairwise
import Mathlib.Data.List.Perm.Basic
import Mathlib.Order.Nat

/-!
# Settling calls in any order

A write in place neither adds a record to the list nor moves one. When the latest request
wins, two of them to the same part leave what the newer one writes, whichever comes first,
and two to different parts have nothing to do with one another. So the calls in flight that
write in place may be settled in any order.

One thing does depend on the order: a changed status reaches the open definition only if
that is open when the reply comes. The list is not touched by this. A slate is therefore
compared with the cache either as a whole or without the open definition.
-/

namespace Workflow

theorem Part.overlaps_self (part : Part) : part.Overlaps part := by
  cases part <;> simp

/-- Whether a part can be written in place and is shown: all such parts are, or all but the
open definition. -/
def Part.shown (all : Bool) : Part → Bool
  | .list => false
  | .entry _ => true
  | .current => all

/-- A write that changes the cache in place. -/
inductive Write.InPlace : Write → Prop
  | replace (record : Record) : InPlace (.replace record)
  | current (record : Record) : InPlace (.current record)

namespace Write.InPlace

variable {all : Bool} {write : Write} {part : Part}

/-- What is written in place has nothing to do with another part that is shown. -/
theorem not_overlaps (inPlace : write.InPlace) (shown : part.shown all = true)
    (differ : write.part ≠ part) : ¬ write.part.Overlaps part := by
  intro overlap
  cases inPlace with
  | replace record =>
      obtain rfl | same := overlap
      · exact absurd shown Bool.false_ne_true
      · exact differ same.symm
  | current record => exact differ (Eq.symm overlap)

theorem of_not_shown (inPlace : write.InPlace) (hidden : ¬ write.part.shown all = true) :
    all = false ∧ ∃ record, write = .current record := by
  cases inPlace with
  | replace record => exact absurd rfl hidden
  | current record => exact ⟨Bool.eq_false_iff.mpr hidden, record, rfl⟩

end Write.InPlace

/-- Whether the replies to an operation are written in place, if they are written at all. -/
def Operation.keepsPlaces : Operation → Bool
  | .getDefinition | .updateDefinition | .executeByName | .setStatus | .listRuns => true
  | .listDefinitions | .createDefinition => false

theorem Request.inPlace_of_mem_writes {snapshot : Snapshot} {request : Request} {reply : Reply}
    {write : Write} (keeps : request.operation.keepsPlaces = true)
    (asked : write ∈ request.writes snapshot reply) : write.InPlace := by
  unfold Request.writes at asked
  split at asked
  · exact absurd keeps Bool.false_ne_true
  · exact List.mem_singleton.mp asked ▸ .current _
  · exact absurd keeps Bool.false_ne_true
  · rcases List.mem_pair.mp asked with rfl | rfl
    · exact .replace _
    · exact .current _
  · split at asked
    · rcases List.mem_pair.mp asked with rfl | rfl
      · exact .replace _
      · exact .current _
    · exact List.mem_singleton.mp asked ▸ .replace _
  · exact absurd asked List.not_mem_nil

/-- Two writes that a reply asks for are to different parts. -/
theorem Request.parts_differ {snapshot : Snapshot} {reply : Reply} {a b : Write}
    (request : Request) (aAsked : a ∈ request.writes snapshot reply)
    (bAsked : b ∈ request.writes snapshot reply) (differ : a ≠ b) : a.part ≠ b.part := by
  have : Std.Symm fun a b : Write => ¬ a.part.Overlaps b.part :=
    ⟨fun _ _ apart overlap => apart overlap.symm⟩
  have apart := (request.writes_disjoint snapshot reply).forall aAsked bAsked differ
  intro same
  rw [same] at apart
  exact apart b.part.overlaps_self

/-! ## Two writes in place -/

namespace Snapshot

variable {a b : Write}

/-- Writes in place to different parts do not meet. -/
theorem perform_comm (aInPlace : a.InPlace) (bInPlace : b.InPlace) (differ : a.part ≠ b.part)
    (snapshot : Snapshot) :
    (snapshot.perform a).perform b = (snapshot.perform b).perform a := by
  cases aInPlace with
  | current opened =>
      cases bInPlace with
      | current other => exact absurd rfl differ
      | replace other => rfl
  | replace record =>
      cases bInPlace with
      | current other => rfl
      | replace other =>
          have apart : record.id ≠ other.id := fun same => differ (congrArg Part.entry same)
          simp only [perform, replaceRecord, List.map_map, mk.injEq, and_true]
          apply List.map_congr_left
          intro entry _
          by_cases first : entry.id = record.id
          · simp [first, apart]
          · by_cases second : entry.id = other.id
            · simp [second, apart.symm]
            · simp [first, second]

/-- Of two writes in place to one part only the later one counts. -/
theorem perform_perform (aInPlace : a.InPlace) (bInPlace : b.InPlace) (same : a.part = b.part)
    (snapshot : Snapshot) : (snapshot.perform a).perform b = snapshot.perform b := by
  cases aInPlace with
  | current opened =>
      cases bInPlace with
      | current other => rfl
      | replace other => exact absurd same (by simp [Write.part])
  | replace record =>
      cases bInPlace with
      | current other => exact absurd same (by simp [Write.part])
      | replace other =>
          have equal : record.id = other.id := Part.entry.inj same
          simp only [perform, replaceRecord, List.map_map, mk.injEq, and_true]
          apply List.map_congr_left
          intro entry _
          by_cases first : entry.id = record.id
          · simp [first, equal]
          · simp [← equal, first]

end Snapshot

/-! ## Marks after a write -/

namespace Watermarks

variable {marks : Watermarks} {epoch : Nat} {write : Write} {part : Part}

theorem mark_record_of_overlaps (distinct : marks.Distinct) (overlap : write.part.Overlaps part) :
    (marks.record epoch write).mark part = max (marks.mark part) epoch := by
  apply eq_of_forall_ge_iff
  intro bound
  rw [mark_record_le_iff distinct, Nat.max_le]
  exact and_congr_right fun _ => ⟨fun new => new overlap, fun le _ => le⟩

theorem mark_record_of_apart (distinct : marks.Distinct) (apart : ¬ write.part.Overlaps part) :
    (marks.record epoch write).mark part = marks.mark part := by
  apply eq_of_forall_ge_iff
  intro bound
  rw [mark_record_le_iff distinct]
  exact and_iff_left fun overlap => absurd overlap apart

end Watermarks

/-! ## Slates -/

/-- What is cached, and for each part that can be written in place the epoch of the newest
write to it. -/
structure Slate where
  snapshot : Snapshot
  mark : Part → Nat

namespace Slate

variable {slate : Slate} {a b : Nat × Write}

/-- Perform a write in place and set the mark of its part to its epoch. -/
def perform (slate : Slate) (entry : Nat × Write) : Slate :=
  ⟨slate.snapshot.perform entry.2, Function.update slate.mark entry.2.part entry.1⟩

/-- Perform a write in place unless a newer one has been. -/
def offer (slate : Slate) (entry : Nat × Write) : Slate :=
  if slate.mark entry.2.part ≤ entry.1 then slate.perform entry else slate

theorem mark_perform_of_eq {part : Part} (same : a.2.part = part) :
    (slate.perform a).mark part = a.1 := by
  rw [← same]
  exact Function.update_self _ _ _

theorem mark_perform_of_ne (slate : Slate) {part : Part} (differ : a.2.part ≠ part) :
    (slate.perform a).mark part = slate.mark part :=
  Function.update_of_ne differ.symm _ _

theorem perform_comm (aInPlace : a.2.InPlace) (bInPlace : b.2.InPlace)
    (differ : a.2.part ≠ b.2.part) :
    (slate.perform a).perform b = (slate.perform b).perform a := by
  simp only [perform, mk.injEq]
  exact ⟨Snapshot.perform_comm aInPlace bInPlace differ _, Function.update_comm differ _ _ _⟩

theorem perform_perform (aInPlace : a.2.InPlace) (bInPlace : b.2.InPlace)
    (same : a.2.part = b.2.part) : (slate.perform a).perform b = slate.perform b := by
  simp only [perform, mk.injEq, same, Function.update_idem, and_true]
  exact Snapshot.perform_perform aInPlace bInPlace same _

theorem offer_of_le (fresh : slate.mark a.2.part ≤ a.1) : slate.offer a = slate.perform a :=
  if_pos fresh

theorem offer_of_not_le (old : ¬ slate.mark a.2.part ≤ a.1) : slate.offer a = slate :=
  if_neg old

/-- A newer write makes up for an older one to the same part that came before it. -/
theorem offer_newer (aInPlace : a.2.InPlace) (bInPlace : b.2.InPlace)
    (same : a.2.part = b.2.part) (newer : a.1 < b.1) :
    (slate.offer a).offer b = slate.offer b := by
  by_cases fresh : slate.mark a.2.part ≤ a.1
  · have before : slate.mark b.2.part ≤ b.1 := by
      rw [← same]
      omega
    have after : (slate.perform a).mark b.2.part ≤ b.1 := by
      rw [mark_perform_of_eq same]
      omega
    rw [offer_of_le fresh, offer_of_le after, offer_of_le before,
      perform_perform aInPlace bInPlace same]
  · rw [offer_of_not_le fresh]

/-- An older write to the same part comes to nothing after a newer one. -/
theorem offer_older (same : a.2.part = b.2.part) (older : b.1 < a.1) :
    (slate.offer a).offer b = slate.offer a := by
  apply offer_of_not_le
  by_cases fresh : slate.mark a.2.part ≤ a.1
  · rw [offer_of_le fresh, mark_perform_of_eq same]
    omega
  · rw [offer_of_not_le fresh, ← same]
    omega

/-- Writes in place to different parts are judged each by its own mark. -/
theorem offer_comm_of_ne (aInPlace : a.2.InPlace) (bInPlace : b.2.InPlace)
    (differ : a.2.part ≠ b.2.part) : (slate.offer a).offer b = (slate.offer b).offer a := by
  have aMark := mark_perform_of_ne slate differ.symm
  have bMark := mark_perform_of_ne slate differ
  by_cases aFresh : slate.mark a.2.part ≤ a.1
  · by_cases bFresh : slate.mark b.2.part ≤ b.1
    · rw [offer_of_le aFresh, offer_of_le bFresh, offer_of_le (bMark ▸ bFresh),
        offer_of_le (aMark ▸ aFresh), perform_comm aInPlace bInPlace differ]
    · rw [offer_of_le aFresh, offer_of_not_le bFresh, offer_of_not_le (bMark ▸ bFresh),
        offer_of_le aFresh]
  · by_cases bFresh : slate.mark b.2.part ≤ b.1
    · rw [offer_of_not_le aFresh, offer_of_le bFresh, offer_of_not_le (aMark ▸ aFresh)]
    · rw [offer_of_not_le aFresh, offer_of_not_le bFresh, offer_of_not_le aFresh]

/-- Two writes in place may come in either order unless they are of one epoch and to one
part. -/
theorem offer_comm (aInPlace : a.2.InPlace) (bInPlace : b.2.InPlace)
    (distinct : a.1 = b.1 → a.2.part ≠ b.2.part) :
    (slate.offer a).offer b = (slate.offer b).offer a := by
  by_cases same : a.2.part = b.2.part
  · rcases Nat.lt_trichotomy a.1 b.1 with newer | equal | older
    · rw [offer_newer aInPlace bInPlace same newer, offer_older same.symm newer]
    · exact absurd same (distinct equal)
    · rw [offer_older same older, offer_newer bInPlace aInPlace same.symm older]
  · exact offer_comm_of_ne aInPlace bInPlace same

/-! ## What a slate shows of the cache -/

/-- A slate shows the list that a replica has and, where it shows all, what is open. -/
structure Shows (slate : Slate) (all : Bool) (replica : Replica) : Prop where
  distinct : replica.marks.Distinct
  definitions : slate.snapshot.definitions = replica.snapshot.definitions
  current : all = true → slate.snapshot.current = replica.snapshot.current
  mark_eq : ∀ part, part.shown all = true → slate.mark part = replica.marks.mark part

/-- Every replica has a slate. -/
theorem shows_self {replica : Replica} (distinct : replica.marks.Distinct) (all : Bool) :
    Shows ⟨replica.snapshot, replica.marks.mark⟩ all replica :=
  ⟨distinct, rfl, fun _ => rfl, fun _ _ => rfl⟩

variable {all : Bool} {replica : Replica} {epoch : Nat} {write : Write}

theorem Shows.perform (shows : slate.Shows all replica) (inPlace : write.InPlace)
    (fresh : replica.marks.mark write.part ≤ epoch) :
    (slate.perform (epoch, write)).Shows all (replica.perform epoch write) where
  distinct := shows.distinct.record epoch write
  definitions := by
    cases inPlace with
    | replace record => exact congrArg (Snapshot.replaceRecord record) shows.definitions
    | current record => exact shows.definitions
  current whole := by
    cases inPlace with
    | replace record => exact shows.current whole
    | current record => rfl
  mark_eq part shown := by
    by_cases same : write.part = part
    · subst same
      rw [Replica.perform,
        Watermarks.mark_record_of_overlaps shows.distinct write.part.overlaps_self,
        Nat.max_eq_right fresh]
      exact mark_perform_of_eq rfl
    · have apart := inPlace.not_overlaps shown same
      rw [Replica.perform, Watermarks.mark_record_of_apart shows.distinct apart,
        ← shows.mark_eq part shown]
      exact mark_perform_of_ne slate same

/-- What is written to the open definition is of no account where that is not shown. -/
theorem Shows.unseen (shows : slate.Shows false replica) (record : Record) :
    slate.Shows false (replica.perform epoch (.current record)) where
  distinct := shows.distinct.record _ _
  definitions := shows.definitions
  current whole := absurd whole Bool.false_ne_true
  mark_eq part shown := by
    have differ : Part.current ≠ part := by
      rintro rfl
      exact absurd shown Bool.false_ne_true
    have apart := (Write.InPlace.current record).not_overlaps shown differ
    rw [Replica.perform, Watermarks.mark_record_of_apart shows.distinct apart]
    exact shows.mark_eq part shown

/-- A slate to which the writes of a reply are offered goes on to show what is cached. -/
theorem Shows.performAll (shows : slate.Shows all replica) {writes : List Write}
    (inPlace : ∀ write ∈ writes, write.InPlace) :
    (((writes.filter (·.part.shown all)).map (Prod.mk epoch)).foldl offer slate).Shows all
      (replica.performAll .latestRequestWins epoch writes).replica := by
  induction writes generalizing slate replica with
  | nil => exact shows
  | cons write rest ih =>
      obtain ⟨here, later⟩ := List.forall_mem_cons.mp inPlace
      rw [Replica.performAll]
      by_cases shown : write.part.shown all = true
      · rw [List.filter_cons, if_pos shown, List.map_cons, List.foldl_cons]
        have same := shows.mark_eq write.part shown
        by_cases fresh : replica.marks.mark write.part ≤ epoch
        · rw [if_pos (Watermarks.admits_latestRequestWins_iff.mpr fresh),
            offer_of_le (same ▸ fresh)]
          exact ih (shows.perform here fresh) later
        · rw [if_neg (mt Watermarks.admits_latestRequestWins_iff.mp fresh),
            offer_of_not_le (same ▸ fresh)]
          exact ih shows later
      · rw [List.filter_cons, if_neg shown]
        obtain ⟨rfl, record, rfl⟩ := here.of_not_shown shown
        split
        · exact ih (shows.unseen record) later
        · exact ih shows later

end Slate

/-! ## Calls that are settled -/

/-- How a call in flight comes to its end. -/
inductive Ending where
  | answered (answer : Except EngineError Reply)
  | dropped

/-- What happens when the flight of an epoch comes to its end. -/
def Ending.event (epoch : Nat) : Ending → Session.Event
  | .answered answer => .answer epoch answer
  | .dropped => .drop epoch

/-- A request whose reply is written in place and, where all is shown, alike whatever is
open. -/
structure Request.Steady (all : Bool) (request : Request) : Prop where
  keepsPlaces : request.operation.keepsPlaces = true
  notStatus : all = true → request.operation ≠ .setStatus

/-- What shows of a steady request's reply does not depend on what is cached. -/
theorem Request.Steady.writes_eq {all : Bool} {request : Request} (steady : request.Steady all)
    (snapshot other : Snapshot) (reply : Reply) :
    (request.writes snapshot reply).filter (·.part.shown all) =
      (request.writes other reply).filter (·.part.shown all) := by
  cases request with
  | setStatus id status =>
      have listOnly : all = false := by
        cases all with
        | false => rfl
        | true => exact absurd rfl (steady.notStatus rfl)
      subst listOnly
      cases reply with
      | definition record =>
          have listed : ∀ cached : Snapshot,
              ((setStatus id status).writes cached (.definition record)).filter
                (·.part.shown false) = [.replace record] := by
            intro cached
            rw [writes]
            split <;> rfl
          rw [listed, listed]
      | _ => rfl
  | _ => cases reply <;> rfl

/-- The writes that show of what a flight comes to. -/
def Flight.offers (flight : Flight) (all : Bool) : Ending → List (Nat × Write)
  | .answered (.ok reply) =>
      ((flight.request.writes .empty reply).filter (·.part.shown all)).map (Prod.mk flight.epoch)
  | _ => []

namespace Session

variable {session : Session} {all : Bool} {ending : Nat → Ending} {epoch other : Nat}
  {slate : Slate}

/-- Settle calls in flight one after another, each in its own way. -/
def settleAll (session : Session) (ending : Nat → Ending) (epochs : List Nat) : Session :=
  session.run (epochs.map fun epoch => (ending epoch).event epoch)

/-- The writes that show of what the flight of an epoch comes to. -/
def offers (session : Session) (all : Bool) (ending : Nat → Ending) (epoch : Nat) :
    List (Nat × Write) :=
  (session.flight? epoch).toList.flatMap fun flight => flight.offers all (ending epoch)

theorem offers_of_none (absent : session.flight? epoch = none) :
    session.offers all ending epoch = [] := by
  simp [offers, absent]

theorem offers_of_some {flight : Flight} (found : session.flight? epoch = some flight) :
    session.offers all ending epoch = flight.offers all (ending epoch) := by
  simp [offers, found]

theorem mem_offers {entry : Nat × Write} (offered : entry ∈ session.offers all ending epoch) :
    ∃ flight reply, session.flight? epoch = some flight ∧ ending epoch = .answered (.ok reply) ∧
      entry.1 = epoch ∧ entry.2 ∈ flight.request.writes .empty reply := by
  cases found : session.flight? epoch with
  | none =>
      rw [offers_of_none found] at offered
      exact absurd offered List.not_mem_nil
  | some flight =>
      rw [offers_of_some found] at offered
      unfold Flight.offers at offered
      split at offered
      · rename_i reply answered
        obtain ⟨write, asked, rfl⟩ := List.mem_map.mp offered
        exact ⟨flight, reply, rfl, answered, (flight?_eq_some found).2,
          (List.mem_filter.mp asked).1⟩
      · exact absurd offered List.not_mem_nil

theorem step_event_of_none (absent : session.flight? epoch = none) (ending : Ending) :
    session.step (ending.event epoch) = (session, []) := by
  cases ending with
  | answered answer => exact step_answer_of_none absent answer
  | dropped => exact step_drop_of_none absent

theorem step_event_flights {flight : Flight} (found : session.flight? epoch = some flight)
    (ending : Ending) :
    (session.step (ending.event epoch)).1.flights = session.flightsWithout epoch := by
  cases ending with
  | answered answer =>
      cases answer with
      | ok reply => rw [Ending.event, step_answer_ok found]
      | error error => rw [Ending.event, step_answer_error found]
  | dropped => rw [Ending.event, step_drop found]

/-- A flight that comes to its end leaves the others where they are. -/
theorem flight?_step_event_of_ne (differ : other ≠ epoch) (ending : Ending) :
    (session.step (ending.event epoch)).1.flight? other = session.flight? other := by
  cases found : session.flight? epoch with
  | none => rw [step_event_of_none found]
  | some flight =>
      rw [flight?, step_event_flights found, flightsWithout, List.find?_filter, flight?]
      congr 1
      funext flying
      by_cases same : flying.epoch = other
      · simp [same, differ]
      · simp [same]

/-- A slate to which the writes of a call that ends are offered goes on to show what is
cached. -/
theorem shows_step_event (ending : Nat → Ending)
    (latest : session.store.policy = .latestRequestWins)
    (shows : slate.Shows all session.store.replica)
    (steady : ∀ flight, session.flight? epoch = some flight → flight.request.Steady all) :
    ((session.offers all ending epoch).foldl Slate.offer slate).Shows all
      (session.step ((ending epoch).event epoch)).1.store.replica := by
  cases found : session.flight? epoch with
  | none =>
      rw [offers_of_none found, step_event_of_none found]
      exact shows
  | some flight =>
      rw [offers_of_some found]
      cases ending epoch with
      | answered answer =>
          cases answer with
          | ok reply =>
              have still := (steady flight found).writes_eq .empty session.store.replica.snapshot
                reply
              rw [Ending.event, step_answer_ok found, Replica.merge, latest, Flight.offers, still]
              apply shows.performAll
              intro write asked
              exact Request.inPlace_of_mem_writes (steady flight found).keepsPlaces asked
          | error error =>
              rw [Ending.event, step_answer_error found]
              exact shows
      | dropped =>
          rw [Ending.event, step_drop found]
          exact shows

/-- The same holds of calls that are settled one after another: none of them changes what the
others have in flight. -/
theorem shows_settleAll (ending : Nat → Ending)
    (latest : session.store.policy = .latestRequestWins)
    (shows : slate.Shows all session.store.replica) {epochs : List Nat} (distinct : epochs.Nodup)
    (steady : ∀ epoch ∈ epochs, ∀ flight, session.flight? epoch = some flight →
      flight.request.Steady all) :
    ((epochs.flatMap (session.offers all ending)).foldl Slate.offer slate).Shows all
      (session.settleAll ending epochs).store.replica := by
  induction epochs generalizing session slate with
  | nil => exact shows
  | cons epoch rest ih =>
      obtain ⟨new, unique⟩ := List.nodup_cons.mp distinct
      have still : ∀ later ∈ rest,
          (session.step ((ending epoch).event epoch)).1.flight? later = session.flight? later := by
        intro later member
        apply flight?_step_event_of_ne
        rintro rfl
        exact new member
      have after := shows_step_event ending latest shows (steady epoch List.mem_cons_self)
      have settled := ih ((session.step_policy _).trans latest) after unique (by
        intro later member flight found
        rw [still later member] at found
        exact steady later (List.mem_cons_of_mem _ member) flight found)
      have same : rest.flatMap ((session.step ((ending epoch).event epoch)).1.offers all ending) =
          rest.flatMap (session.offers all ending) := by
        apply List.flatMap_congr
        intro later member
        rw [offers, offers, still later member]
      rw [same] at settled
      rw [List.flatMap_cons, List.foldl_append]
      exact settled

/-- What calls come to may be offered to a slate in any order: writes of different calls are
of different epochs, and writes of one call are to different parts. -/
theorem foldl_offers_perm {first second : List Nat} (perm : first.Perm second)
    (steady : ∀ epoch ∈ first, ∀ flight, session.flight? epoch = some flight →
      flight.request.Steady all) (slate : Slate) :
    (first.flatMap (session.offers all ending)).foldl Slate.offer slate =
      (second.flatMap (session.offers all ending)).foldl Slate.offer slate := by
  apply (perm.flatMap_right _).foldl_eq'
  intro a aOffered b bOffered slate
  obtain ⟨aEpoch, aMember, aOffer⟩ := List.mem_flatMap.mp aOffered
  obtain ⟨bEpoch, bMember, bOffer⟩ := List.mem_flatMap.mp bOffered
  obtain ⟨aFlight, aReply, aFound, aAnswered, rfl, aAsked⟩ := mem_offers aOffer
  obtain ⟨bFlight, bReply, bFound, bAnswered, rfl, bAsked⟩ := mem_offers bOffer
  have aInPlace := Request.inPlace_of_mem_writes (steady _ aMember _ aFound).keepsPlaces aAsked
  have bInPlace := Request.inPlace_of_mem_writes (steady _ bMember _ bFound).keepsPlaces bAsked
  by_cases equal : a = b
  · rw [equal]
  · apply Slate.offer_comm aInPlace bInPlace
    intro sameEpoch
    rw [← sameEpoch, aFound] at bFound
    cases bFound
    rw [← sameEpoch, aAnswered] at bAnswered
    cases bAnswered
    exact aFlight.request.parts_differ aAsked bAsked fun same => equal (Prod.ext sameEpoch same)

/-- When the latest request wins, calls in flight whose replies are written in place may be
settled in any order, each with its own answer or none: the list comes out the same, and so
does the open definition unless one of them sets a status. -/
theorem settleAll_perm (order : StepOrder) (events : List Event) (ending : Nat → Ending)
    {first second : List Nat} (perm : first.Perm second) (distinct : first.Nodup) :
    let session := (ofStore (.empty .latestRequestWins order)).run events
    let one := (session.settleAll ending first).store
    let other := (session.settleAll ending second).store
    (∀ epoch ∈ first, ∀ flight, session.flight? epoch = some flight →
        flight.request.operation.keepsPlaces = true) →
      one.snapshot.definitions = other.snapshot.definitions ∧
        ((∀ epoch ∈ first, ∀ flight, session.flight? epoch = some flight →
            flight.request.operation ≠ .setStatus) → one.current = other.current) := by
  intro session one other keeps
  have latest : session.store.policy = .latestRequestWins := run_policy events
  have marks : session.store.replica.marks.Distinct :=
    (run_accounts .latestRequestWins order events).covers.distinct
  have agree : ∀ all, (∀ epoch ∈ first, ∀ flight, session.flight? epoch = some flight →
      flight.request.Steady all) →
      ∃ slate : Slate, slate.Shows all one.replica ∧ slate.Shows all other.replica := by
    intro all steady
    have shows := Slate.shows_self marks all
    have here := shows_settleAll ending latest shows distinct steady
    have there := shows_settleAll ending latest shows (perm.nodup_iff.mp distinct)
      fun epoch member => steady epoch (perm.mem_iff.mpr member)
    rw [← foldl_offers_perm perm steady] at there
    exact ⟨_, here, there⟩
  constructor
  · obtain ⟨slate, here, there⟩ := agree false fun epoch member flight found =>
      ⟨keeps epoch member flight found, fun whole => absurd whole Bool.false_ne_true⟩
    exact here.definitions.symm.trans there.definitions
  · intro noStatus
    obtain ⟨slate, here, there⟩ := agree true fun epoch member flight found =>
      ⟨keeps epoch member flight found, fun _ => noStatus epoch member flight found⟩
    exact (here.current rfl).symm.trans (there.current rfl)

/-- A changed status is seen in the open definition only if that is open by then. -/
example :
    let session := (ofStore (.empty .latestRequestWins .insertion)).run
      [.call (.request (.get 0)), .call (.request (.setStatus 0 default))]
    let ending := fun epoch => if epoch = 1
      then Ending.answered (.ok (.definition { (default : Record) with version := "1" }))
      else Ending.answered (.ok (.definition { (default : Record) with version := "2" }))
    (session.settleAll ending [1, 2]).store.current ≠
      (session.settleAll ending [2, 1]).store.current := by
  decide

/-- A record is listed; then it is changed twice, opened and executed, and nothing of this is
answered yet. -/
def pendingChanges (record : Record) (payload : Payload) : List Event :=
  [.call (.request .list), .answer 1 (.ok (.definitions [record])),
    .call (.request (.update record.id payload)), .call (.request (.update record.id payload)),
    .call (.request (.get record.id)), .call (.request (.execute record.name .null))]

/-- Both changes succeed, the record is opened as the first of them left it, and the execution
is given up. -/
def changesEnding (record : Record) : Nat → Ending
  | 2 | 4 => .answered (.ok (.definition { record with version := "2" }))
  | 3 => .answered (.ok (.definition { record with version := "3" }))
  | _ => .dropped

theorem settleAll_perm_pendingChanges :
    let session := (ofStore (.empty .latestRequestWins .insertion)).run
      (pendingChanges default default)
    let one := (session.settleAll (changesEnding default) [2, 3, 4, 5]).store
    let other := (session.settleAll (changesEnding default) [5, 4, 3, 2]).store
    (∀ flight ∈ session.flights, flight.request.operation.keepsPlaces = true ∧
        flight.request.operation ≠ .setStatus) ∧
      one.snapshot.definitions = [{ (default : Record) with version := "3" }] ∧
      one.snapshot.definitions = other.snapshot.definitions ∧ one.current = other.current := by
  intro session one other
  have steady : ∀ flight ∈ session.flights, flight.request.operation.keepsPlaces = true ∧
      flight.request.operation ≠ .setStatus := by decide
  have perm : [2, 3, 4, 5].Perm [5, 4, 3, 2] := by decide
  obtain ⟨listed, opened⟩ := settleAll_perm .insertion (pendingChanges default default)
    (changesEnding default) perm (by decide)
    fun epoch _ flight found => (steady flight (flight?_eq_some found).1).1
  refine ⟨steady, rfl, listed, opened ?_⟩
  intro epoch _ flight found
  exact (steady flight (flight?_eq_some found).1).2

end Session

end Workflow
