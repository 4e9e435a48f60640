import Workflow.Proofs.Definition.Compile
import Workflow.Proofs.Definition.Emission
import Workflow.Proofs.Graph.Reachable

/-!
# Compiling in the order of the edges

Edges join names and an emission works on places. In a well-formed graph the two say the
same: a place is linked to another exactly when an edge joins the names that stand
there. So the edges have a cycle exactly when the emission leaves steps behind, and
otherwise every step comes after all steps with an edge to it.
-/

namespace Workflow

open Relation (TransGen)

namespace Graph

/-- An edge leads from one step to another. -/
def Joins (graph : Graph) (source target : String) : Prop :=
  ∃ edge ∈ graph.edges, edge.source = source ∧ edge.target = target

/-- The edges lead from some step back to it, be it by one edge from it to itself. -/
def Cyclic (graph : Graph) : Prop :=
  ∃ name, TransGen graph.Joins name name

variable {graph : Graph}

/-- An edge as a pair of places, source first. -/
def linkOf? (graph : Graph) (edge : Edge) : Option (Nat × Nat) := do
  return (← graph.indexOf? edge.source, ← graph.indexOf? edge.target)

theorem links_eq_filterMap (graph : Graph) : graph.links = graph.edges.filterMap graph.linkOf? :=
  rfl

theorem linkOf?_eq_some_iff {edge : Edge} {i j : Nat} : graph.linkOf? edge = some (i, j) ↔
    graph.indexOf? edge.source = some i ∧ graph.indexOf? edge.target = some j := by
  unfold linkOf?
  cases graph.indexOf? edge.source <;> cases graph.indexOf? edge.target <;> simp

theorem linked_iff_indexOf? {i j : Nat} :
    Emission.Linked graph.links i j ↔ ∃ source target, graph.Joins source target ∧
      graph.indexOf? source = some i ∧ graph.indexOf? target = some j := by
  unfold Emission.Linked Joins
  rw [links_eq_filterMap, List.mem_filterMap]
  constructor
  · rintro ⟨edge, member, link⟩
    exact ⟨_, _, ⟨edge, member, rfl, rfl⟩, linkOf?_eq_some_iff.mp link⟩
  · rintro ⟨_, _, ⟨edge, member, rfl, rfl⟩, ends⟩
    exact ⟨edge, member, linkOf?_eq_some_iff.mpr ends⟩

theorem linked_iff (distinct : graph.names.Nodup) {i j : Nat} :
    Emission.Linked graph.links i j ↔ ∃ source target, graph.Joins source target ∧
      graph.names[i]? = some source ∧ graph.names[j]? = some target := by
  simp only [linked_iff_indexOf?, indexOf?_eq_some_iff distinct]

/-- The ends of a link are places of the graph. -/
theorem links_inside (graph : Graph) :
    ∀ link ∈ graph.links, link.1 < graph.size ∧ link.2 < graph.size := by
  rintro ⟨i, j⟩ member
  obtain ⟨_, _, -, hi, hj⟩ := linked_iff_indexOf?.mp member
  exact ⟨indexOf?_lt hi, indexOf?_lt hj⟩

/-- The ends of an edge stand at places of the graph. -/
theorem WellFormed.exists_places (formed : graph.WellFormed) {edge : Edge}
    (member : edge ∈ graph.edges) :
    ∃ i j : Nat, graph.names[i]? = some edge.source ∧ graph.names[j]? = some edge.target := by
  obtain ⟨i, hi⟩ := List.mem_iff_getElem?.mp (formed.source_mem edge member)
  obtain ⟨j, hj⟩ := List.mem_iff_getElem?.mp (formed.target_mem edge member)
  exact ⟨i, j, hi, hj⟩

/-- A path of edges is a path of links between the places of its ends. -/
theorem transGen_linked_of_joins (formed : graph.WellFormed) {source target : String}
    (path : TransGen graph.Joins source target) :
    ∃ i j, graph.names[i]? = some source ∧ graph.names[j]? = some target ∧
      TransGen (Emission.Linked graph.links) i j := by
  have placed : ∀ {source target}, graph.Joins source target →
      ∃ i j : Nat, graph.names[i]? = some source ∧ graph.names[j]? = some target := by
    rintro _ _ ⟨edge, member, rfl, rfl⟩
    exact formed.exists_places member
  induction path with
  | single joined =>
      obtain ⟨i, j, hi, hj⟩ := placed joined
      exact ⟨i, j, hi, hj, .single ((linked_iff formed.names_nodup).mpr
        ⟨_, _, joined, hi, hj⟩)⟩
  | tail _ joined ih =>
      obtain ⟨i, k, hi, hk, links⟩ := ih
      obtain ⟨_, j, _, hj⟩ := placed joined
      exact ⟨i, j, hi, hj, links.tail ((linked_iff formed.names_nodup).mpr
        ⟨_, _, joined, hk, hj⟩)⟩

theorem transGen_joins_of_linked (formed : graph.WellFormed) {i j : Nat}
    (path : TransGen (Emission.Linked graph.links) i j) :
    ∃ source target, graph.names[i]? = some source ∧ graph.names[j]? = some target ∧
      TransGen graph.Joins source target := by
  induction path with
  | single linked =>
      obtain ⟨source, target, joined, hi, hj⟩ := (linked_iff formed.names_nodup).mp linked
      exact ⟨source, target, hi, hj, .single joined⟩
  | tail _ linked ih =>
      obtain ⟨source, middle, hi, hk, path⟩ := ih
      obtain ⟨_, target, joined, again, hj⟩ := (linked_iff formed.names_nodup).mp linked
      cases hk.symm.trans again
      exact ⟨source, target, hi, hj, path.tail joined⟩

/-- Names and places agree on whether there is a cycle: a name has one place. -/
theorem cyclic_iff_linked (formed : graph.WellFormed) :
    graph.Cyclic ↔ ∃ place, TransGen (Emission.Linked graph.links) place place := by
  constructor
  · rintro ⟨name, path⟩
    obtain ⟨i, j, hi, hj, links⟩ := transGen_linked_of_joins formed path
    cases place_unique formed.names_nodup hi hj
    exact ⟨i, links⟩
  · rintro ⟨place, links⟩
    obtain ⟨source, target, hi, hj, path⟩ := transGen_joins_of_linked formed links
    cases hi.symm.trans hj
    exact ⟨source, path⟩

/-! ## The order itself -/

theorem edgeOrder?_eq_some_iff {places : List Nat} : graph.edgeOrder? = some places ↔
    (Emission.final graph.links graph.size).emitted = places ∧ places.length = graph.size := by
  unfold edgeOrder? Emission.final
  simp only
  split
  · rename_i all
    constructor
    · rintro h
      cases h
      exact ⟨rfl, all⟩
    · rintro ⟨rfl, _⟩
      rfl
  · rename_i fewer
    constructor
    · intro h
      cases h
    · rintro ⟨rfl, all⟩
      exact absurd all fewer

theorem final_tracks (graph : Graph) :
    Emission.Tracks graph.links graph.size [] (Emission.final graph.links graph.size) :=
  Emission.final_tracks fun link member => (links_inside graph link member).2

/-- An order by the edges has every place once. -/
theorem edgeOrder?_perm {places : List Nat}
    (h : graph.edgeOrder? = some places) : places.Perm (List.range graph.size) := by
  obtain ⟨rfl, all⟩ := edgeOrder?_eq_some_iff.mp h
  exact (final_tracks graph).emitted_perm_iff.mpr all

/-- Whatever the order, it has every place once. -/
theorem placesIn?_perm {order : StepOrder} {places : List Nat}
    (h : graph.placesIn? order = some places) : places.Perm (List.range graph.size) := by
  cases order with
  | insertion =>
      cases h
      exact .refl _
  | edges => exact edgeOrder?_perm h

/-- The names of a compiled graph are those of the graph. -/
theorem compile_names_perm {order : StepOrder} {name version : String} {definition : Definition}
    (h : graph.compile order name version = .ok definition) :
    (definition.steps.map Step.name).Perm graph.names := by
  obtain ⟨-, -, places, steps, placed, compiled, rfl⟩ := compile_eq_ok_iff.mp h
  rw [compiled.map_name]
  exact (stepsAt_perm (placesIn?_perm placed)).map _

/-- There is no order by the edges exactly when they have a cycle. -/
theorem edgeOrder?_eq_none_iff (formed : graph.WellFormed) :
    graph.edgeOrder? = none ↔ graph.Cyclic := by
  have books := final_tracks graph
  have inside := links_inside graph
  rw [cyclic_iff_linked formed]
  constructor
  · intro stuck
    have fewer : ¬ (Emission.final graph.links graph.size).emitted.length = graph.size := by
      intro all
      cases stuck.symm.trans (edgeOrder?_eq_some_iff.mpr ⟨rfl, all⟩)
    have missing : ∃ place < graph.size,
        place ∉ (Emission.final graph.links graph.size).emitted := by
      by_contra! every
      apply fewer
      refine Nat.le_antisymm (by simpa using books.emitted_subperm.length_le) ?_
      simpa using (List.nodup_range.subperm fun place member =>
        every place (List.mem_range.mp member)).length_le
    obtain ⟨place, small, left⟩ := missing
    exact books.exists_cycle (fun link member => (inside link member).1)
      (Emission.final_ready fun link member => (inside link member).2) small left
  · rintro ⟨place, path⟩
    cases placed : graph.edgeOrder? with
    | none => rfl
    | some places =>
        obtain ⟨rfl, -⟩ := edgeOrder?_eq_some_iff.mp placed
        have small : place < graph.size := by
          obtain ⟨_, -, linked⟩ := Relation.TransGen.tail'_iff.mp path
          exact (inside _ linked).2
        have emitted := (edgeOrder?_perm placed).mem_iff.mpr (List.mem_range.mpr small)
        exact absurd (books.idxOf_lt path emitted).2 (Nat.lt_irrefl _)

/-- In the list of steps in the order of the edges the source of every edge stands
somewhere before its target. -/
theorem edgeOrder?_follows (formed : graph.WellFormed) {places : List Nat}
    (h : graph.edgeOrder? = some places) : ∀ edge ∈ graph.edges, ∃ before after,
      (graph.stepsAt places).map StepNode.name = before ++ edge.target :: after ∧
        edge.source ∈ before := by
  intro edge member
  obtain ⟨i, j, hi, hj⟩ := formed.exists_places member
  have linked : Emission.Linked graph.links i j :=
    (linked_iff formed.names_nodup).mpr ⟨_, _, ⟨edge, member, rfl, rfl⟩, hi, hj⟩
  have emitted : j ∈ places := (edgeOrder?_perm h).mem_iff.mpr
    (List.mem_range.mpr (links_inside graph _ linked).2)
  obtain ⟨before, after, split⟩ := List.append_of_mem emitted
  obtain ⟨same, -⟩ := edgeOrder?_eq_some_iff.mp h
  have earlier := (final_tracks graph).sources_first before j after (same.trans split) i linked
  refine ⟨before.filterMap (graph.names[·]?), after.filterMap (graph.names[·]?), ?_,
    List.mem_filterMap.mpr ⟨i, earlier, hi⟩⟩
  rw [map_name_stepsAt, split, List.filterMap_append, List.filterMap_cons_some hj]

/-- Steps that compile in the one order do in the other, to the same compiled steps. -/
theorem exists_compiled_edgeOrder {places : List Nat}
    {listed : List Step} (h : graph.edgeOrder? = some places)
    (compiled : Compiled graph.steps listed) :
    ∃ sorted, Compiled (graph.stepsAt places) sorted ∧ sorted.Perm listed := by
  obtain ⟨sorted, steps, same⟩ := List.perm_comp_forall₂
    (stepsAt_perm (edgeOrder?_perm h)) compiled
  exact ⟨sorted, steps, same⟩

/-- In insertion order a definition lists the compiled steps as they stand. -/
theorem compile_insertion_eq_ok {name version : String} {listed : Definition}
    (h : graph.compile .insertion name version = .ok listed) :
    isBlank name = false ∧ isBlank version = false ∧ Compiled graph.steps listed.steps ∧
      listed.name = name ∧ listed.version = version := by
  obtain ⟨named, versioned, _, steps, placed, compiled, rfl⟩ := compile_eq_ok_iff.mp h
  cases placed
  rw [stepsAt_range] at compiled
  exact ⟨named, versioned, compiled, rfl, rfl⟩

/-- The edges add one reason to fail, a cycle. -/
theorem compile_edges_eq_error_iff (formed : graph.WellFormed) {name version : String}
    {listed : Definition} (h : graph.compile .insertion name version = .ok listed)
    {error : CompileError} :
    graph.compile .edges name version = .error error ↔ graph.Cyclic ∧ error = .cycle := by
  obtain ⟨named, versioned, compiled, -, -⟩ := compile_insertion_eq_ok h
  rw [← edgeOrder?_eq_none_iff formed]
  refine compile_eq_error_iff_of_compiled named versioned ?_
  intro places placed
  obtain ⟨sorted, steps, -⟩ := exists_compiled_edgeOrder placed compiled
  exact ⟨sorted, steps⟩

/-- One definition has the steps of another, each once, and the source of every edge of a
graph before its target. -/
structure Topological (graph : Graph) (listed sorted : Definition) : Prop where
  name_eq : sorted.name = listed.name
  version_eq : sorted.version = listed.version
  steps_perm : sorted.steps.Perm listed.steps
  distinct : (sorted.steps.map Step.name).Nodup
  target_mem : ∀ edge ∈ graph.edges, edge.target ∈ sorted.steps.map Step.name
  source_before : ∀ edge ∈ graph.edges,
    (sorted.steps.map Step.name).idxOf edge.source <
      (sorted.steps.map Step.name).idxOf edge.target

theorem topological_of_compile (formed : graph.WellFormed) {name version : String}
    {listed sorted : Definition} (compiles : graph.compile .insertion name version = .ok listed)
    (h : graph.compile .edges name version = .ok sorted) : graph.Topological listed sorted := by
  obtain ⟨-, -, compiled, hn, hv⟩ := compile_insertion_eq_ok compiles
  obtain ⟨-, -, places, steps, placed, done, rfl⟩ := compile_eq_ok_iff.mp h
  obtain ⟨others, again, same⟩ := exists_compiled_edgeOrder placed compiled
  cases done.unique again
  have distinct : (steps.map Step.name).Nodup := by
    rw [(same.map _).nodup_iff, compiled.map_name]
    exact formed.names_nodup
  have follows : ∀ edge ∈ graph.edges, ∃ before after,
      steps.map Step.name = before ++ edge.target :: after ∧ edge.source ∈ before := by
    rw [done.map_name]
    exact edgeOrder?_follows formed placed
  refine ⟨hn.symm, hv.symm, same, distinct, ?_, ?_⟩
  · intro edge member
    obtain ⟨before, after, split, -⟩ := follows edge member
    simp [split]
  · intro edge member
    obtain ⟨before, after, split, earlier⟩ := follows edge member
    rw [split] at distinct ⊢
    have fresh : edge.target ∉ before := fun twice =>
      (List.nodup_append.mp distinct).2.2 _ twice _ List.mem_cons_self rfl
    exact idxOf_lt_idxOf_of_mem_front earlier fresh

/-- A graph that compiles in insertion order compiles in the order of its edges unless
these have a cycle, which is then what is reported. The steps are the same, compiled
alike, and the source of every edge, parallel ones included, comes before its target. -/
theorem compile_edges_topological {name version : String} {listed : Definition}
    (reachable : graph.Reachable)
    (compiles : graph.compile .insertion name version = .ok listed) :
    ((∃ error, graph.compile .edges name version = .error error) ↔ graph.Cyclic) ∧
      (graph.Cyclic → graph.compile .edges name version = .error .cycle) ∧
      (¬ graph.Cyclic → ∃ sorted, graph.compile .edges name version = .ok sorted ∧
        graph.Topological listed sorted) := by
  have formed := reachable.wellFormed
  have fails : ∀ error, graph.compile .edges name version = .error error ↔
      graph.Cyclic ∧ error = .cycle := fun _ => compile_edges_eq_error_iff formed compiles
  refine ⟨?_, ?_, ?_⟩
  · constructor
    · rintro ⟨error, h⟩
      exact ((fails error).mp h).1
    · intro cyclic
      exact ⟨.cycle, (fails .cycle).mpr ⟨cyclic, rfl⟩⟩
  · intro cyclic
    exact (fails .cycle).mpr ⟨cyclic, rfl⟩
  · intro acyclic
    cases compiled : graph.compile .edges name version with
    | error error => exact absurd ((fails error).mp compiled).1 acyclic
    | ok sorted => exact ⟨sorted, rfl, topological_of_compile formed compiles compiled⟩

/-- Two parallel edges against the order of insertion. -/
def parallelPair : Graph where
  steps := [⟨"wait", "delay", "wait", .empty, .origin⟩,
    ⟨"call", "external_event", "call", .empty, .origin⟩]
  edges := [⟨"call-wait", "call", "wait"⟩, ⟨"call-wait-1", "call", "wait"⟩]

theorem compile_edges_topological_parallelPair :
    ((∃ error, parallelPair.compile .edges "order" "1" = .error error) ↔ parallelPair.Cyclic) ∧
      (parallelPair.Cyclic → parallelPair.compile .edges "order" "1" = .error .cycle) ∧
      (¬ parallelPair.Cyclic → ∃ sorted, parallelPair.compile .edges "order" "1" = .ok sorted ∧
        parallelPair.Topological ⟨"order", "1", [⟨"wait", .delay 1000⟩,
          ⟨"call", .externalEvent "WORKFLOW_EVENT"⟩]⟩ sorted) := by
  have built : Graph.ofParts parallelPair.steps parallelPair.edges = .ok parallelPair := by rfl
  exact compile_edges_topological (.ofParts built) (by rfl)

end Graph

end Workflow
