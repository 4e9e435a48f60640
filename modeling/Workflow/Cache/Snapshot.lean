import Workflow.Engine.Request

/-!
# What a client has cached

A client keeps the list of definitions as it last saw them and the one that is open. A reply of
the engine reaches the cache as a sequence of writes, each to one part of it: the whole list, the
entries of the list with one number, or the open definition.
-/

namespace Workflow

/-- The cached definitions and the open one. -/
structure Snapshot where
  definitions : List Record
  /-- The definition that is open for viewing or editing. -/
  current : Option Record
deriving DecidableEq, Repr, Inhabited

/-- A write to one part of the cache. -/
inductive Write where
  /-- Replace the whole list. -/
  | list (records : List Record)
  /-- Replace the first entry with the record's number, or append one. -/
  | put (record : Record)
  /-- Replace every entry with the record's number. -/
  | replace (record : Record)
  /-- Open a record. -/
  | current (record : Record)
deriving DecidableEq, Repr

namespace Snapshot

/-- The cache of a client that has seen nothing. -/
def empty : Snapshot :=
  ⟨[], none⟩

/-- The first cached record with a given number. -/
def definition? (snapshot : Snapshot) (id : Int64) : Option Record :=
  snapshot.definitions.find? fun record => record.id = id

/-- The first cached record with a given name. -/
def named? (snapshot : Snapshot) (name : String) : Option Record :=
  snapshot.definitions.find? fun record => record.name = name

/-- A list with a record in place of the first entry with its number, or else at the end. -/
def putRecord (record : Record) : List Record → List Record
  | [] => [record]
  | entry :: rest => if entry.id = record.id then record :: rest else entry :: putRecord record rest

/-- A list with a record in place of every entry with its number. -/
def replaceRecord (record : Record) (records : List Record) : List Record :=
  records.map fun entry => if entry.id = record.id then record else entry

/-- The cache after a write. -/
def perform (snapshot : Snapshot) : Write → Snapshot
  | .list records => { snapshot with definitions := records }
  | .put record => { snapshot with definitions := putRecord record snapshot.definitions }
  | .replace record => { snapshot with definitions := replaceRecord record snapshot.definitions }
  | .current record => { snapshot with current := some record }

end Snapshot

/-- The writes that a reply to a request asks for, in their order. A changed status reaches the
open definition only if that is the one whose status changed. A reply of another kind than the
request calls for changes nothing. -/
def Request.writes (snapshot : Snapshot) : Request → Reply → List Write
  | .list, .definitions records => [.list records]
  | .get _, .definition record => [.current record]
  | .create _, .definition record => [.put record, .current record]
  | .update .., .definition record => [.replace record, .current record]
  | .setStatus .., .definition record =>
    if snapshot.current.any (·.id = record.id) then [.replace record, .current record]
    else [.replace record]
  | _, _ => []

end Workflow
