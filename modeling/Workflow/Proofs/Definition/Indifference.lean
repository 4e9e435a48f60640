import Workflow.Proofs.Definition.EdgeOrder
import Mathlib.Data.List.Sort

/-!
# What compiling does not look at

Of a step only its name, its type and the fields of its kind are compiled. Labels, places on
the canvas and other fields have no part in the outcome, be it a definition, an error or a
warning. Nor have the edges in insertion order. In the order of the edges it counts which
steps are joined, but not how often, in which sequence and under which identifiers.

For the last of these two emissions are run side by side. Their counts differ where one of
them has parallel links, but both have exact books, so the same steps are ready.
-/

namespace Workflow

namespace StepNode

/-- Two steps with the same name and type and the same values for the fields of that type. -/
structure Alike (node other : StepNode) : Prop where
  name_eq : node.name = other.name
  type_eq : node.type = other.type
  field_eq : ∀ descriptor, StepDescriptor.ofTag? node.type = some descriptor →
    ∀ spec ∈ descriptor.fields, node.field? spec.name = other.field? spec.name

variable {node other : StepNode}

/-- Reading a field needs no more of a step than its name, for errors, and that field. -/
theorem read_congr {α : Type} {kind : StepKind} {field : String}
    {reading : FieldSpec → Json → Except FieldDefect α} (named : node.name = other.name)
    (agree : ∀ spec ∈ kind.fields, node.field? spec.name = other.field? spec.name) :
    node.read kind field reading = other.read kind field reading := by
  unfold read
  split
  · rw [named]
  · rename_i spec found
    have listed : spec ∈ kind.fields := List.mem_of_find?_eq_some found
    rw [value, value, agree spec listed, named]

theorem action_congr {kind : StepKind} (named : node.name = other.name)
    (agree : ∀ spec ∈ kind.fields, node.field? spec.name = other.field? spec.name) :
    node.action kind = other.action kind := by
  simp only [action, read_congr named agree]

/-- Alike steps compile alike, also to the same error. -/
theorem Alike.compile_eq (alike : node.Alike other) : node.compile = other.compile := by
  have sameKind : other.kind? = node.kind? := by rw [kind?, kind?, alike.type_eq]
  unfold compile
  rw [sameKind]
  split
  · rw [alike.name_eq, alike.type_eq]
  · rename_i kind known
    have tagged : StepDescriptor.ofTag? node.type = some kind.descriptor := by
      rw [StepDescriptor.ofTag?, ← kind?, known, Option.map_some]
    rw [action_congr alike.name_eq (alike.field_eq _ tagged), alike.name_eq]

end StepNode

/-! ## Emissions side by side -/

namespace Emission

variable {links others : List (Nat × Nat)} {size : Nat}

/-- Exact books over the same links, however often each is drawn, have the same places
ready once the same are emitted. -/
theorem Tracks.ready_eq {state other : Emission} (books : Tracks links size [] state)
    (again : Tracks others size [] other)
    (linked : ∀ i j, Linked links i j ↔ Linked others i j)
    (emitted : state.emitted = other.emitted) : state.ready = other.ready := by
  apply books.ascending.eq_of_mem_iff again.ascending
  intro place
  rw [books.mem_ready, again.mem_ready, emitted]
  simp only [List.count_nil, Nat.add_zero, openLinks_eq_zero_iff, linked]

theorem run_emitted_congr {state other : Emission} (inside : ∀ link ∈ links, link.2 < size)
    (within : ∀ link ∈ others, link.2 < size) (linked : ∀ i j, Linked links i j ↔ Linked others i j)
    (count : Nat) (books : Tracks links size [] state) (again : Tracks others size [] other)
    (emitted : state.emitted = other.emitted) :
    (run links count state).emitted = (run others count other).emitted := by
  induction count generalizing state other with
  | zero => exact emitted
  | succ count ih =>
      have ready := books.ready_eq again linked emitted
      unfold run
      cases next : next? links state with
      | none =>
          have stuck : next? others other = none :=
            next?_eq_none_iff.mpr (ready ▸ next?_eq_none_iff.mp next)
          rw [stuck]
          exact emitted
      | some after =>
          obtain ⟨place, rest, first, done⟩ := next?_eq_some_iff.mp next
          have goesOn : ∃ follower, next? others other = some follower ∧
              follower.emitted = other.emitted ++ [place] :=
            ⟨_, next?_eq_some_iff.mpr ⟨place, rest, ready ▸ first, rfl⟩,
              foldl_release_emitted _ _⟩
          obtain ⟨follower, follows, grown⟩ := goesOn
          rw [follows]
          apply ih (books.next inside next) (again.next within follows)
          rw [← done, foldl_release_emitted, grown, emitted]

end Emission

namespace Graph

variable {graph other : Graph}

/-- An order by the edges depends on the names and on which of them are joined. -/
theorem edgeOrder?_congr (named : graph.names = other.names)
    (joins : ∀ source target, graph.Joins source target ↔ other.Joins source target) :
    graph.edgeOrder? = other.edgeOrder? := by
  have indices : ∀ name, graph.indexOf? name = other.indexOf? name := by
    intro name
    have byName : ∀ g : Graph, g.indexOf? name = g.names.findIdx? fun n => n = name := by
      intro g
      rw [names, List.findIdx?_map]
      rfl
    rw [byName, byName, named]
  have linked : ∀ i j, Emission.Linked graph.links i j ↔ Emission.Linked other.links i j := by
    intro i j
    simp only [linked_iff_indexOf?, joins, indices]
  have sized : graph.size = other.size := by
    simpa [names, size] using congrArg List.length named
  have emitted : (Emission.final graph.links graph.size).emitted =
      (Emission.final other.links other.size).emitted := by
    rw [sized]
    refine Emission.run_emitted_congr ?_ (fun link member => (links_inside other link member).2)
      linked other.size (Emission.start_tracks _ _) (Emission.start_tracks _ _) rfl
    intro link member
    exact sized ▸ (links_inside graph link member).2
  apply Option.ext
  intro places
  rw [edgeOrder?_eq_some_iff, edgeOrder?_eq_some_iff, emitted, sized]

/-- The outcomes of compiling steps decide the outcome for those at given places. -/
theorem mapM_stepsAt_congr
    (compiled : graph.steps.map StepNode.compile = other.steps.map StepNode.compile)
    (places : List Nat) :
    (graph.stepsAt places).mapM StepNode.compile =
      (other.stepsAt places).mapM StepNode.compile := by
  have outcomes : ∀ g : Graph, (g.stepsAt places).mapM StepNode.compile =
      (places.filterMap ((g.steps.map StepNode.compile)[·]?)).mapM id := by
    intro g
    have mapped : places.filterMap ((g.steps.map StepNode.compile)[·]?) =
        (g.stepsAt places).map StepNode.compile := by
      simp [stepsAt, List.map_filterMap]
    rw [mapped, List.mapM_map]
    rfl
  rw [outcomes, outcomes, compiled]

/-- Whether in insertion order or in that of the edges, graphs with alike steps have the same
definition, the same error and the same warnings, provided that in the order of the edges
the same steps are joined. -/
theorem compile_indifferent (order : StepOrder) (name version : String)
    (alike : List.Forall₂ StepNode.Alike graph.steps other.steps)
    (joins : order = .edges →
      ∀ source target, graph.Joins source target ↔ other.Joins source target) :
    graph.compile order name version = other.compile order name version ∧
      graph.compileText order name version = other.compileText order name version ∧
      graph.compileWarnings order name version = other.compileWarnings order name version := by
  have sameOn : ∀ {β : Type} (f : StepNode → β), (∀ node other, node.Alike other →
      f node = f other) → graph.steps.map f = other.steps.map f := by
    intro β f equal
    rw [← List.forall₂_eq_eq_eq, List.forall₂_map_left_iff, List.forall₂_map_right_iff]
    exact alike.imp equal
  have named : graph.names = other.names := sameOn _ fun _ _ => StepNode.Alike.name_eq
  have compiled := sameOn _ fun _ _ => StepNode.Alike.compile_eq
  have placed : graph.placesIn? order = other.placesIn? order := by
    cases order with
    | insertion => rw [placesIn?, placesIn?, size, size, alike.length_eq]
    | edges => exact edgeOrder?_congr named (joins rfl)
  have same : graph.compile order name version = other.compile order name version := by
    simp only [compile, placed, mapM_stepsAt_congr compiled]
  exact ⟨same, by rw [compileText, compileText, same], by
    rw [compileWarnings, compileWarnings, same]⟩

/-- `parallelPair` with other labels and places, with fields that do not count, and with its
two edges drawn once. -/
def redrawnPair : Graph where
  steps := [
    ⟨"wait", "delay", "Pause", .ofMembers [("delayMs", .null), ("service", .bool true)], .grid 4⟩,
    ⟨"call", "external_event", "Call", .ofMembers [("delayMs", .bool true)], .grid 1⟩]
  edges := [⟨"only", "call", "wait"⟩]
  lastSuffix := 7

theorem compile_indifferent_redrawnPair :
    parallelPair.compile .edges "order" "1" = redrawnPair.compile .edges "order" "1" ∧
      parallelPair.compileText .edges "order" "1" =
        redrawnPair.compileText .edges "order" "1" ∧
      parallelPair.compileWarnings .edges "order" "1" =
        redrawnPair.compileWarnings .edges "order" "1" := by
  refine compile_indifferent .edges "order" "1"
    (.cons ⟨rfl, rfl, ?_⟩ (.cons ⟨rfl, rfl, ?_⟩ .nil)) ?_
  · intro descriptor known
    cases (Option.some.inj known : StepKind.delay.descriptor = descriptor)
    decide
  · intro descriptor known
    cases (Option.some.inj known : StepKind.externalEvent.descriptor = descriptor)
    decide
  · intro _ source target
    simp [Joins, parallelPair, redrawnPair]

end Graph

end Workflow
