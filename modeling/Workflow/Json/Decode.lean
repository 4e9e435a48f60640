import Workflow.Json.Fields
import Workflow.Json.ParseTree

/-!
# Giving a parse tree its meaning

A tree is read either as a free value or as something whose shape is known. A free value may not
nest deeper than 127 containers, counted from the outermost of the text, and every number and
string in it must have a value. Something of known shape is read field by field: an object with
the known names in any order, each at most once, and with any other members, which are not looked
into; or an array with the fields in their order.
-/

namespace Workflow

/-- How deep containers may nest. -/
def Json.maxDepth : Nat := 127

namespace ParseTree

mutual

/-- A tree as a free value that may still nest `room` containers deep. Objects are sorted by key
and keep the last of several members with one key. -/
def toJson? (room : Nat) : ParseTree → Option Json
  | .null => some .null
  | .bool b => some (.bool b)
  | .number n => n.map .number
  | .string s => s.map .string
  | .array items =>
    match room with
    | 0 => none
    | room + 1 => (itemsToJson? room items).map .array
  | .object members =>
    match room with
    | 0 => none
    | room + 1 =>
      (membersToJson? room members).map fun members => .object (Fields.sortEntries members)

/-- Items as free values. -/
def itemsToJson? (room : Nat) : List ParseTree → Option (List Json)
  | [] => some []
  | item :: rest => do
    let value ← toJson? room item
    return value :: (← itemsToJson? room rest)

/-- Members as free values, in their order. -/
def membersToJson? (room : Nat) : List (Option String × ParseTree) →
    Option (List (String × Json))
  | [] => some []
  | (key, value) :: rest => do
    let key ← key
    let value ← toJson? room value
    return (key, value) :: (← membersToJson? room rest)

end

/-! ## Plain types -/

/-- A string. -/
def string? : ParseTree → Option String
  | .string s => s
  | _ => none

/-- A whole number, written as one. -/
def integer? : ParseTree → Option Int
  | .number (some (.integer n _)) => some n
  | _ => none

/-- A whole number in the range of signed 64-bit integers. -/
def int64? (tree : ParseTree) : Option Int64 := do
  let n ← tree.integer?
  if n ≤ Int64.maxValue.toInt then return Int64.ofInt n else none

/-- A whole number in the range of unsigned 64-bit integers. -/
def uint64? (tree : ParseTree) : Option UInt64 := do
  let n ← tree.integer?
  if 0 ≤ n then return UInt64.ofNat n.toNat else none

/-- A number as a double, rounded if it is a large whole number. -/
def binary64? : ParseTree → Option Binary64
  | .number n => n.map Number.toBinary64
  | _ => none

/-- The elements of an array, each read alike. -/
def list? {α : Type} (element : ParseTree → Option α) : ParseTree → Option (List α)
  | .array items => items.mapM element
  | _ => none

/-- The name of an enumeration's case: a string, or an object whose only member has the name as
key and no content. -/
def caseName? : ParseTree → Option String
  | .string s => s
  | .object [(key, .null)] => key
  | _ => none

/-! ## Records -/

/-- Members under known names: one place per name, filled if the name occurs. A name that occurs
twice, or a key without a text, is refused. -/
def membersByName? (names : List String) :
    List (Option String × ParseTree) → Option (List (Option ParseTree))
  | [] => some (names.map fun _ => none)
  | (key, value) :: rest => do
    let key ← key
    let places ← membersByName? names rest
    if (names.zip places).any fun (name, place) => name == key && place.isSome then none
    return (names.zip places).map fun (name, place) => if name == key then some value else place

/-- The fields of a record in the order of `names`: from an object by name, from an array by
position. An array may stop early but may not have more elements than there are names. -/
def fields? (names : List String) : ParseTree → Option (List (Option ParseTree))
  | .object members => membersByName? names members
  | .array items =>
    if items.length ≤ names.length then
      some (items.map some ++ List.replicate (names.length - items.length) none)
    else none
  | _ => none

/-- The fields of a record that must be an object and whose other members must be free values
with room for `room` more containers each. -/
def openFields? (names : List String) (room : Nat) : ParseTree → Option (List (Option ParseTree))
  | .object members => do
    let others := members.filter fun (key, _) => key.all fun key => !names.contains key
    let _ ← membersToJson? room others
    membersByName? names members
  | _ => none

/-- A field that must be there. -/
def required {α : Type} (decode : ParseTree → Option α) (field : Option ParseTree) : Option α :=
  field.bind decode

/-- A field that may be missing or null. -/
def optional {α : Type} (decode : ParseTree → Option α) : Option ParseTree → Option (Option α)
  | none | some .null => some none
  | some tree => (decode tree).map some

/-- A field with a value of its own when missing. -/
def defaulted {α : Type} (value : α) (decode : ParseTree → Option α) :
    Option ParseTree → Option α
  | none => some value
  | some tree => decode tree

end ParseTree

namespace Json

/-- A free value from its text. -/
def ofText? (text : String) : Option Json := do
  (← ParseTree.read text).toJson? maxDepth

end Json

end Workflow
