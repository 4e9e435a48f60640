import Workflow.Cache.Snapshot

/-!
# Merging replies that overtake one another

Every request has an epoch, its number in the order of issue, and replies may come in any order.
One policy merges each reply as it comes. The other keeps, for each part of the cache, the epoch
of the newest write to it, and refuses a write that is older than that. Replacing the list counts
as a write to every entry, so it must be no older than any write to an entry.
-/

namespace Workflow

/-- How replies that come out of order are merged. -/
inductive MergePolicy where
  /-- Every reply is merged as it comes. -/
  | lastWriteWins
  /-- No write replaces one whose request was issued later. -/
  | latestRequestWins
deriving DecidableEq, Repr, Inhabited

/-- The epochs of the newest writes to each part of the cache, zero before any. -/
structure Watermarks where
  list : Nat
  current : Nat
  /-- Epochs of writes to single entries that no newer list has replaced. -/
  entries : List (Int64 × Nat)
deriving DecidableEq, Repr, Inhabited

namespace Watermarks

/-- Nothing has been written. -/
def zero : Watermarks :=
  ⟨0, 0, []⟩

/-- The epoch of the newest write to the entries with a number. -/
def entry (marks : Watermarks) (id : Int64) : Nat :=
  max marks.list ((marks.entries.lookup id).getD 0)

/-- The epoch of the newest write to any single entry. -/
def newestEntry (marks : Watermarks) : Nat :=
  marks.entries.foldl (fun newest mark => max newest mark.2) 0

/-- The epoch that a write must have reached in order not to be stale. -/
def required (marks : Watermarks) : Write → Nat
  | .list _ => max marks.list marks.newestEntry
  | .put record | .replace record => marks.entry record.id
  | .current _ => marks.current

/-- Raise the mark of a number in a list of marks. -/
def raise (id : Int64) (epoch : Nat) : List (Int64 × Nat) → List (Int64 × Nat)
  | [] => [(id, epoch)]
  | (other, mark) :: rest =>
    if other = id then (other, max mark epoch) :: rest else (other, mark) :: raise id epoch rest

/-- The marks after a write. -/
def record (marks : Watermarks) (epoch : Nat) : Write → Watermarks
  | .list _ => { marks with
      list := max marks.list epoch
      entries := marks.entries.filter fun mark => epoch < mark.2 }
  | .put record | .replace record => { marks with entries := raise record.id epoch marks.entries }
  | .current _ => { marks with current := max marks.current epoch }

/-- Whether a policy lets a write of an epoch through. -/
def admits (marks : Watermarks) (policy : MergePolicy) (epoch : Nat) (write : Write) : Bool :=
  policy = .lastWriteWins || marks.required write ≤ epoch

end Watermarks

/-- What is cached together with how recent it is. -/
structure Replica where
  snapshot : Snapshot
  marks : Watermarks
deriving DecidableEq, Repr, Inhabited

/-- The cache after a reply, and which of the reply's writes were let through and which refused. -/
structure Merged where
  replica : Replica
  written : List Write
  refused : List Write
deriving DecidableEq, Repr

namespace Replica

/-- Nothing is cached. -/
def empty : Replica :=
  ⟨.empty, .zero⟩

/-- The cache after a write that is let through. -/
def perform (replica : Replica) (epoch : Nat) (write : Write) : Replica :=
  ⟨replica.snapshot.perform write, replica.marks.record epoch write⟩

/-- Perform the writes of a reply that are let through, in order. -/
def performAll (replica : Replica) (policy : MergePolicy) (epoch : Nat) : List Write → Merged
  | [] => ⟨replica, [], []⟩
  | write :: rest =>
    if replica.marks.admits policy epoch write then
      let merged := (replica.perform epoch write).performAll policy epoch rest
      { merged with written := write :: merged.written }
    else
      let merged := replica.performAll policy epoch rest
      { merged with refused := write :: merged.refused }

/-- Merge a reply to the request of an epoch. -/
def merge (replica : Replica) (policy : MergePolicy) (epoch : Nat) (request : Request)
    (reply : Reply) : Merged :=
  replica.performAll policy epoch (request.writes replica.snapshot reply)

end Replica

end Workflow
