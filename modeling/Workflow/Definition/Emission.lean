import Workflow.Graph.Basic

/-!
# The order in which steps are emitted

A definition lists its steps either in the order in which they were inserted, or in an order that
follows the edges: every step after all steps with an edge to it, and among the steps that may
come next always the one inserted first.

The second order is found by emitting one step at a time. An `Emission` holds for every step the
number of edges it still waits for, the steps that wait for none, in insertion order, and what
has been emitted. Steps are referred to by their place in insertion order. If a cycle of edges
holds some steps back, fewer steps are emitted than there are.
-/

namespace Workflow

/-- How the steps of a definition are ordered. -/
inductive StepOrder where
  | insertion
  | edges
deriving DecidableEq, Repr, Inhabited

namespace Graph

/-- The edges as pairs of places in insertion order, source first. -/
def links (graph : Graph) : List (Nat × Nat) :=
  graph.edges.filterMap fun edge => do
    return (← graph.indexOf? edge.source, ← graph.indexOf? edge.target)

end Graph

/-- Put a number into an ascending list. -/
def insertAscending (n : Nat) : List Nat → List Nat
  | [] => [n]
  | m :: rest => if n ≤ m then n :: m :: rest else m :: insertAscending n rest

/-- How far the emission of steps has come. -/
structure Emission where
  /-- For every step, the number of edges into it from steps not yet emitted. -/
  waiting : List Nat
  /-- The steps not yet emitted that wait for no other, in ascending order. -/
  ready : List Nat
  /-- The steps emitted so far, in order. -/
  emitted : List Nat
deriving DecidableEq, Repr

namespace Emission

/-- The number of links into a place. -/
def degree (links : List (Nat × Nat)) (place : Nat) : Nat :=
  links.countP fun link => link.2 = place

/-- Before the first step is emitted. -/
def start (links : List (Nat × Nat)) (size : Nat) : Emission where
  waiting := (List.range size).map (degree links)
  ready := (List.range size).filter fun place => degree links place = 0
  emitted := []

/-- The source of one link into a place has been emitted. -/
def release (state : Emission) (place : Nat) : Emission :=
  let waiting := state.waiting.modify place (· - 1)
  if waiting[place]? = some 0 then
    { state with waiting, ready := insertAscending place state.ready }
  else
    { state with waiting }

/-- Where the links out of a place lead, in edge order. -/
def targets (links : List (Nat × Nat)) (place : Nat) : List Nat :=
  (links.filter fun link => link.1 = place).map Prod.snd

/-- Emit the first of the steps that are ready, if there is one. -/
def next? (links : List (Nat × Nat)) (state : Emission) : Option Emission :=
  match state.ready with
  | [] => none
  | place :: ready =>
    some <| (targets links place).foldl release
      { state with ready, emitted := state.emitted ++ [place] }

/-- Emit at most `count` steps. -/
def run (links : List (Nat × Nat)) : (count : Nat) → Emission → Emission
  | 0, state => state
  | count + 1, state =>
    match next? links state with
    | none => state
    | some state => run links count state

end Emission

namespace Graph

/-- The places of the steps in an order that follows the edges, unless a cycle prevents one. -/
def edgeOrder? (graph : Graph) : Option (List Nat) :=
  let emitted := (Emission.run graph.links graph.size (.start graph.links graph.size)).emitted
  if emitted.length = graph.size then some emitted else none

/-- The places of the steps in a given order, unless a cycle prevents it. -/
def placesIn? (graph : Graph) : StepOrder → Option (List Nat)
  | .insertion => some (List.range graph.size)
  | .edges => graph.edgeOrder?

end Graph

end Workflow
