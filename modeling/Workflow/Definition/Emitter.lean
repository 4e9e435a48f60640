import Workflow.Definition.Emission
import Std.Data.HashMap

/-!
# Emitting steps in place

An emission says what the books are after each step. Here they are kept entry by entry: the
places of the names come from a table, the counters are counted up with every edge, and after a
step is emitted they are counted down one by one, each in a turn of its own. The turns have no
bound other than the steps that get ready.

A turn that looks at a place without an entry or counts down a counter that is at zero stops the
work with a fault. That none does is therefore a fact about the counters, and not about a
subtraction that ends at zero.
-/

namespace Workflow

/-- What stops the work on the books. -/
inductive CounterFault where
  /-- Nothing is kept for the place. -/
  | missing (place : Nat)
  /-- The counter of the place is at zero and should be counted down. -/
  | belowZero (place : Nat)
deriving DecidableEq, Repr

/-! ## Setting up -/

/-- The place of every name; if several steps have it, that of the last. -/
def Graph.placeTable (graph : Graph) : Std.HashMap String Nat :=
  .ofList (graph.steps.zipIdx.map fun entry => (entry.1.name, entry.2))

/-- What is noted of the edges, place by place. -/
structure Tally where
  /-- The number of edges into the step. -/
  waiting : List Nat
  /-- Where the edges out of the step lead, in edge order. -/
  outgoing : List (List Nat)
deriving DecidableEq, Repr

namespace Tally

/-- Before the first edge is noted. -/
def blank (size : Nat) : Tally where
  waiting := .replicate size 0
  outgoing := .replicate size []

/-- Note an edge between two places. -/
def link (tally : Tally) (source target : Nat) : Except CounterFault Tally :=
  match tally.outgoing[source]?, tally.waiting[target]? with
  | none, _ => .error (.missing source)
  | some _, none => .error (.missing target)
  | some targets, some count => .ok
      { waiting := tally.waiting.set target (count + 1)
        outgoing := tally.outgoing.set source (targets ++ [target]) }

/-- Note an edge, unless one of its ends has no place. -/
def note (table : Std.HashMap String Nat) (tally : Tally) (edge : Edge) :
    Except CounterFault Tally :=
  match table[edge.source]?, table[edge.target]? with
  | some source, some target => tally.link source target
  | _, _ => .ok tally

end Tally

/-- The emission of steps under way. -/
structure Emitter where
  books : Emission
  /-- For every place, where the edges out of its step lead. -/
  outgoing : List (List Nat)
  /-- Where those edges of the step emitted last lead that are not yet counted down. -/
  pending : List Nat
deriving DecidableEq, Repr

/-- All edges are noted and no step is emitted: those without an edge into them are ready. -/
def Tally.emitter (tally : Tally) : Emitter where
  books :=
    { waiting := tally.waiting
      ready := (tally.waiting.zipIdx.filter fun (count, _) => count = 0).map Prod.snd
      emitted := [] }
  outgoing := tally.outgoing
  pending := []

/-- The edges of a graph are noted one after the other, and the emission of its steps can start. -/
def Graph.emitter (graph : Graph) : Except CounterFault Emitter :=
  (graph.edges.foldlM (Tally.note graph.placeTable) (.blank graph.size)).map Tally.emitter

/-! ## Turns -/

namespace Emitter

/-- What a turn comes to. -/
inductive Turn where
  | on (emitter : Emitter)
  /-- All edges are counted down, and no step is ready. -/
  | ended
  | stopped (fault : CounterFault)
deriving DecidableEq, Repr

/-- Count down the counter of a place. Its step gets ready when the counter comes to zero. -/
def countDown (emitter : Emitter) (target : Nat) (pending : List Nat) : Turn :=
  match emitter.books.waiting[target]? with
  | none => .stopped (.missing target)
  | some 0 => .stopped (.belowZero target)
  | some (count + 1) =>
    let ready := emitter.books.ready
    .on { emitter with
      books := { emitter.books with
        waiting := emitter.books.waiting.set target count
        ready := if count = 0 then insertAscending target ready else ready }
      pending }

/-- Emit the step at a place. -/
def emit (emitter : Emitter) (place : Nat) (ready : List Nat) : Turn :=
  match emitter.outgoing[place]? with
  | none => .stopped (.missing place)
  | some pending =>
    .on { emitter with
      books := { emitter.books with ready, emitted := emitter.books.emitted ++ [place] }
      pending }

/-- The edges out of the step emitted last come first, then the first step that is ready. -/
def turn (emitter : Emitter) : Turn :=
  match emitter.pending, emitter.books.ready with
  | target :: pending, _ => emitter.countDown target pending
  | [], place :: ready => emitter.emit place ready
  | [], [] => .ended

end Emitter

end Workflow
