import Workflow.Proofs.Definition.Acceptance

/-!
# Where an order by the edges starts

An entry point is a step that no edge leads to. These are the steps that an emission finds
ready before anything is emitted, in the same order, so the first of them comes first in the
order by the edges. All other steps lie behind them: the source of an edge is emitted before its
target, and whoever goes back from source to source gets to ever earlier steps until one has no
edge leading to it.

A graph in which there is a way back from every step has a cycle. Hence without an entry point no
order by the edges can be found, however few of the steps are on the cycle.
-/

namespace Workflow

open Relation (ReflTransGen)

namespace Emission

variable {links : List (Nat × Nat)} {size : Nat}

/-- The places that are ready before anything is emitted: those that nothing is linked to. -/
theorem mem_start_ready {place : Nat} : place ∈ (start links size).ready ↔
    place < size ∧ ∀ source, ¬ Linked links source place := by
  rw [(start_tracks links size).mem_ready, List.count_nil, Nat.add_zero, openLinks_eq_zero_iff]
  simp [start]

/-- What is emitted next is the first of the places that are ready. -/
theorem next?_emits_first {state after : Emission} (next : next? links state = some after) :
    ∃ first others, state.ready = first :: others ∧ after.emitted = state.emitted ++ [first] := by
  obtain ⟨first, others, ready, rfl⟩ := next?_eq_some_iff.mp next
  exact ⟨first, others, ready, foldl_release_emitted _ _⟩

/-- The first place that is ready is the first to be emitted. -/
theorem head?_final (links : List (Nat × Nat)) (size : Nat) :
    (final links size).emitted.head? = (start links size).ready.head? := by
  cases size with
  | zero => rfl
  | succ count =>
      rw [final, run]
      cases next : next? links (start links (count + 1)) with
      | none =>
          rw [next?_eq_none_iff.mp next]
          rfl
      | some after =>
          obtain ⟨first, others, ready, grown⟩ := next?_emits_first next
          have front : after.emitted <+: (run links count after).emitted :=
            emitted_prefix_run count after
          obtain ⟨rest, split⟩ := front
          rw [ready, List.head?_cons, ← split, grown]
          rfl

/-- From an emitted place the links lead back to one that nothing is linked to: a source was
emitted before its target, so the way back ends. -/
theorem Tracks.exists_root {state : Emission} (books : Tracks links size [] state) {place : Nat}
    (emitted : place ∈ state.emitted) :
    ∃ root ∈ (start links size).ready, ReflTransGen (Linked links) root place := by
  induction position : state.emitted.idxOf place using Nat.strong_induction_on
    generalizing place with
  | _ _ ih =>
      subst position
      by_cases entered : ∃ source, Linked links source place
      · obtain ⟨source, linked⟩ := entered
        obtain ⟨member, earlier⟩ := books.idxOf_lt (.single linked) emitted
        obtain ⟨root, free, path⟩ := ih _ earlier member rfl
        exact ⟨root, free, path.tail linked⟩
      · have free := mem_start_ready.mpr ⟨books.bounded place emitted, not_exists.mp entered⟩
        exact ⟨place, free, .refl⟩

end Emission

namespace Graph

variable {graph : Graph}

@[simp] theorem length_names (graph : Graph) : graph.names.length = graph.size := by
  rw [names, List.length_map, size]

theorem mem_successors_iff {source target : String} :
    target ∈ graph.successors source ↔ graph.Joins source target := by
  simp [successors, Joins, and_assoc]

/-- The names of a graph are what stands at its places. -/
theorem filterMap_names_range (graph : Graph) :
    (List.range graph.size).filterMap (graph.names[·]?) = graph.names := by
  rw [← map_name_stepsAt, stepsAt_range, names]

/-- A place is linked from another exactly if an edge leads to the step there. -/
theorem exists_linked_iff (formed : graph.WellFormed) {place : Nat} {name : String}
    (here : graph.names[place]? = some name) :
    (∃ source, Emission.Linked graph.links source place) ↔
      ∃ edge ∈ graph.edges, edge.target = name := by
  constructor
  · rintro ⟨source, linked⟩
    obtain ⟨_, _, ⟨edge, member, rfl, rfl⟩, -, there⟩ := (linked_iff formed.names_nodup).mp linked
    exact ⟨edge, member, Option.some.inj (there.symm.trans here)⟩
  · rintro ⟨edge, member, rfl⟩
    obtain ⟨source, there⟩ := List.mem_iff_getElem?.mp (formed.source_mem edge member)
    exact ⟨source, (linked_iff formed.names_nodup).mpr
      ⟨_, _, ⟨edge, member, rfl, rfl⟩, there, here⟩⟩

/-- The entry points are the steps that are ready before any is emitted, in this order. -/
theorem entryPoints_eq (formed : graph.WellFormed) : graph.entryPoints =
    (Emission.start graph.links graph.size).ready.filterMap (graph.names[·]?) := by
  have listed : graph.entryPoints = ((List.range graph.size).filterMap (graph.names[·]?)).filter
      fun name => graph.edges.all fun edge => edge.target ≠ name := by
    rw [filterMap_names_range, entryPoints]
  rw [listed, Emission.start, List.filter_filterMap, List.filterMap_filter]
  refine List.filterMap_congr fun place _ => ?_
  cases here : graph.names[place]? with
  | none => simp
  | some name =>
      have entered := exists_linked_iff formed here
      have free : Emission.degree graph.links place = 0 ↔
          ¬ ∃ source, Emission.Linked graph.links source place := by
        rw [← Emission.openLinks_nil, Emission.openLinks_eq_zero_iff]
        simp
      simp [Option.filter, free, entered]

/-- One step lies behind another: following edges any number of times leads to it. -/
def LiesBehind (graph : Graph) (step entry : String) : Prop :=
  ReflTransGen (fun source target => target ∈ graph.successors source) entry step

/-- What is linked to by places is reached by edges. -/
theorem liesBehind_of_linked (formed : graph.WellFormed) {i j : Nat} {entry step : String}
    (path : ReflTransGen (Emission.Linked graph.links) i j) (first : graph.names[i]? = some entry)
    (last : graph.names[j]? = some step) : graph.LiesBehind step entry := by
  induction path generalizing step with
  | refl =>
      cases first.symm.trans last
      exact .refl
  | tail _ linked ih =>
      obtain ⟨_, _, joined, here, there⟩ := (linked_iff formed.names_nodup).mp linked
      cases last.symm.trans there
      exact (ih here).tail (mem_successors_iff.mpr joined)

/-- What is ready before anything is emitted is a step of the graph. -/
theorem exists_name_of_start {place : Nat}
    (ready : place ∈ (Emission.start graph.links graph.size).ready) :
    ∃ entry, graph.names[place]? = some entry := by
  obtain ⟨inside, -⟩ := Emission.mem_start_ready.mp ready
  rw [← length_names] at inside
  exact ⟨_, List.getElem?_eq_getElem inside⟩

/-- An order by the edges starts with the first entry point. -/
theorem edgeOrder?_starts (formed : graph.WellFormed) (inhabited : graph.steps ≠ [])
    {places : List Nat} (found : graph.edgeOrder? = some places) :
    ∃ first later entry others, places = first :: later ∧ graph.names[first]? = some entry ∧
      graph.entryPoints = entry :: others := by
  obtain ⟨rfl, all⟩ := edgeOrder?_eq_some_iff.mp found
  have emits : (Emission.final graph.links graph.size).emitted ≠ [] := by
    intro none
    rw [none, List.length_nil] at all
    exact inhabited (List.length_eq_zero_iff.mp all.symm)
  obtain ⟨first, later, emitted⟩ := List.exists_cons_of_ne_nil emits
  have starts := Emission.head?_final graph.links graph.size
  rw [emitted, List.head?_cons] at starts
  obtain ⟨others, ready⟩ := List.head?_eq_some_iff.mp starts.symm
  obtain ⟨entry, here⟩ := exists_name_of_start (ready ▸ List.mem_cons_self)
  refine ⟨first, later, entry, others.filterMap (graph.names[·]?), emitted, here, ?_⟩
  rw [entryPoints_eq formed, ready, List.filterMap_cons_some here]

/-- Every step of a graph with an order by the edges lies behind an entry point. -/
theorem exists_entryPoint (formed : graph.WellFormed) {places : List Nat}
    (found : graph.edgeOrder? = some places) {step : String} (known : step ∈ graph.names) :
    ∃ entry ∈ graph.entryPoints, graph.LiesBehind step entry := by
  obtain ⟨place, here⟩ := List.mem_iff_getElem?.mp known
  obtain ⟨inside, -⟩ := List.getElem?_eq_some_iff.mp here
  have emitted : place ∈ (Emission.final graph.links graph.size).emitted := by
    obtain ⟨same, -⟩ := edgeOrder?_eq_some_iff.mp found
    rw [same, (edgeOrder?_perm found).mem_iff, List.mem_range]
    rwa [length_names] at inside
  obtain ⟨root, ready, path⟩ := (final_tracks graph).exists_root emitted
  obtain ⟨entry, first⟩ := exists_name_of_start ready
  refine ⟨entry, ?_, liesBehind_of_linked formed path first here⟩
  rw [entryPoints_eq formed]
  exact List.mem_filterMap.mpr ⟨root, ready, first⟩

/-- Under a name and a version, the edges are refused exactly if they have no order. -/
theorem compile_edges_eq_cycle_iff (formed : graph.WellFormed) {name version : String}
    (named : isBlank name = false) (versioned : isBlank version = false) :
    graph.compile .edges name version = .error .cycle ↔ graph.edgeOrder? = none := by
  rw [edgeOrder?_eq_none_iff formed, compile_eq_error_iff formed]
  constructor
  · intro violation
    cases violation with
    | cycle _ _ _ cyclic => exact cyclic
    | step _ _ _ _ _ violation => cases violation
  · exact .cycle named versioned rfl

/-- Entry points explain the order by the edges. Where the edges of a graph with steps are not
refused as a cycle, there is an entry point, the first of them is the step emitted first, and every
step lies behind one of them. Where there is no entry point the edges are refused. -/
theorem entry_points_explain_order (reachable : graph.Reachable) (inhabited : graph.steps ≠ [])
    {name version : String} (named : isBlank name = false) (versioned : isBlank version = false) :
    (graph.compile .edges name version ≠ .error .cycle →
      (∃ first later entry others, graph.edgeOrder? = some (first :: later) ∧
        graph.names[first]? = some entry ∧ graph.entryPoints = entry :: others) ∧
      ∀ step ∈ graph.names, ∃ entry ∈ graph.entryPoints, graph.LiesBehind step entry) ∧
    (graph.entryPoints = [] → graph.compile .edges name version = .error .cycle) := by
  have formed := reachable.wellFormed
  rw [Ne, compile_edges_eq_cycle_iff formed named versioned]
  constructor
  · intro ordered
    obtain ⟨places, found⟩ := Option.ne_none_iff_exists'.mp ordered
    obtain ⟨first, later, entry, others, rfl, starts⟩ := edgeOrder?_starts formed inhabited found
    exact ⟨⟨first, later, entry, others, found, starts⟩,
      fun step known => exists_entryPoint formed found known⟩
  · intro none
    by_contra ordered
    obtain ⟨places, found⟩ := Option.ne_none_iff_exists'.mp ordered
    obtain ⟨_, _, _, _, -, -, starts⟩ := edgeOrder?_starts formed inhabited found
    rw [none] at starts
    cases starts

/-- Two steps that lead to each other, and a third behind them. -/
def ring : Graph where
  steps := ["x", "y", "z"].map fun name => ⟨name, "delay", name, .empty, .origin⟩
  edges := [⟨"x-y", "x", "y"⟩, ⟨"y-x", "y", "x"⟩, ⟨"y-z", "y", "z"⟩]

/-- The first step of one graph is no entry point and is overtaken by the second; the other graph
has no entry point although only two of its steps are on the cycle. -/
theorem entry_points_explain_order_overtaking :
    (overtaking.compile .edges "order" "1" ≠ .error .cycle ∧
      overtaking.entryPoints = ["b", "c", "d"] ∧
      (∃ later, overtaking.edgeOrder? = some (1 :: later)) ∧ overtaking.names[1]? = some "b" ∧
      ∀ step ∈ overtaking.names, ∃ entry ∈ ["b", "c", "d"], overtaking.LiesBehind step entry) ∧
    ring.entryPoints = [] ∧ ring.compile .edges "order" "1" = .error .cycle := by
  have built : Graph.ofParts overtaking.steps overtaking.edges = .ok overtaking := by rfl
  have alsoBuilt : Graph.ofParts ring.steps ring.edges = .ok ring := by rfl
  have overtakes : overtaking.Reachable := .ofParts built
  have turns : ring.Reachable := .ofParts alsoBuilt
  have placed : overtaking.edgeOrder? = some [1, 2, 0, 3] := by decide
  have entries : overtaking.entryPoints = ["b", "c", "d"] := by decide
  have none : ring.entryPoints = [] := by decide
  have named : isBlank "order" = false := by decide
  have versioned : isBlank "1" = false := by decide
  have ordered : overtaking.compile .edges "order" "1" ≠ .error .cycle := by
    rw [Ne, compile_edges_eq_cycle_iff overtakes.wellFormed named versioned, placed]
    exact Option.some_ne_none _
  obtain ⟨explains, -⟩ :=
    entry_points_explain_order overtakes (List.cons_ne_nil _ _) named versioned
  obtain ⟨-, refuses⟩ := entry_points_explain_order turns (List.cons_ne_nil _ _) named versioned
  obtain ⟨⟨first, later, entry, others, found, starts, listed⟩, behind⟩ := explains ordered
  cases placed.symm.trans found
  cases entries.symm.trans listed
  rw [entries] at behind
  exact ⟨⟨ordered, entries, ⟨_, placed⟩, starts, behind⟩, none, refuses none⟩

end Graph

end Workflow
