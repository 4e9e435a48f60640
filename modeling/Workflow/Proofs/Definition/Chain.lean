import Workflow.Proofs.Definition.EdgeOrder
import Workflow.Proofs.Definition.Format
import Workflow.Proofs.Definition.Stable

/-!
# Graphs whose edges lead forward

Where every edge leads from an earlier step to a later one, the order of the edges is that
of insertion: after the first steps are emitted the next one waits for nothing, and it
comes first among those that are ready. A graph opened from a definition is of this kind,
since its edges only join each step to the next. It compiles alike in both orders.
-/

namespace Workflow

namespace Emission

variable {links : List (Nat × Nat)} {size : Nat}

/-- Forward links leave the next place ready, in front of all others. -/
theorem Tracks.head_ready {state : Emission} (books : Tracks links size [] state)
    (forward : ∀ link ∈ links, link.1 < link.2) {count : Nat} (left : count < size)
    (emitted : state.emitted = List.range count) : ∃ rest, state.ready = count :: rest := by
  have free : ∀ place, place ∈ state.ready ↔ place < size ∧ count ≤ place ∧
      ∀ source, Linked links source place → source < count := by
    intro place
    rw [books.mem_ready, List.count_nil, Nat.add_zero, openLinks_eq_zero_iff, emitted]
    simp only [List.mem_range, Nat.not_lt]
  have ready : count ∈ state.ready :=
    (free count).mpr ⟨left, Nat.le_refl count, fun source linked => forward (source, count) linked⟩
  cases same : state.ready with
  | nil =>
      rw [same] at ready
      exact absurd ready List.not_mem_nil
  | cons first rest =>
      have above := books.ascending
      rw [same] at ready above
      obtain ⟨-, least, -⟩ := (free first).mp (same ▸ List.mem_cons_self)
      rcases List.mem_cons.mp ready with rfl | later
      · exact ⟨rest, rfl⟩
      · have := (List.pairwise_cons.mp above).1 count later
        omega

theorem run_emitted_of_forward (forward : ∀ link ∈ links, link.1 < link.2)
    (inside : ∀ link ∈ links, link.2 < size) (count : Nat) {state : Emission}
    (books : Tracks links size [] state) {done : Nat} (all : done + count = size)
    (emitted : state.emitted = List.range done) :
    (run links count state).emitted = List.range size := by
  induction count generalizing state done with
  | zero => rw [run, emitted, ← all, Nat.add_zero]
  | succ count ih =>
      obtain ⟨rest, first⟩ := books.head_ready forward (by omega) emitted
      have next : next? links state = some ((targets links done).foldl release
          { state with ready := rest, emitted := state.emitted ++ [done] }) :=
        next?_eq_some_iff.mpr ⟨done, rest, first, rfl⟩
      rw [run, next]
      refine ih (books.next inside next) (by omega : done + 1 + count = size) ?_
      rw [foldl_release_emitted, emitted, List.range_succ]

end Emission

namespace Graph

variable {graph : Graph}

/-- Every edge leads from a step to one that was inserted later. -/
def Forward (graph : Graph) : Prop :=
  ∀ source target, graph.Joins source target → ∀ i j, graph.indexOf? source = some i →
    graph.indexOf? target = some j → i < j

theorem Forward.edgeOrder?_eq (forward : graph.Forward) :
    graph.edgeOrder? = some (List.range graph.size) := by
  refine edgeOrder?_eq_some_iff.mpr ⟨?_, List.length_range⟩
  refine Emission.run_emitted_of_forward ?_ (fun link member => (links_inside graph link member).2)
    graph.size (Emission.start_tracks _ _) (Nat.zero_add _) rfl
  rintro ⟨i, j⟩ linked
  obtain ⟨source, target, joined, hi, hj⟩ := linked_iff_indexOf?.mp linked
  exact forward source target joined i j hi hj

theorem Forward.compile_eq (forward : graph.Forward) (order : StepOrder)
    (name version : String) :
    graph.compile order name version = graph.compile .insertion name version := by
  cases order with
  | insertion => rfl
  | edges => rw [compile, compile, placesIn?, placesIn?, forward.edgeOrder?_eq]

/-- The edges of a graph opened from a definition join each step to the next. -/
theorem forward_of_ofJson {value : Json} (loaded : ofJson value = .ok graph) :
    graph.Forward := by
  have distinct := (ofJson_wellFormed loaded).names_nodup
  obtain ⟨_, _, -, -, built⟩ := builtFrom_of_ofJson loaded
  rintro _ _ ⟨edge, member, rfl, rfl⟩ i j hi hj
  have pair : (edge.source, edge.target) ∈ graph.names.zip graph.names.tail :=
    built.edges ▸ List.mem_map_of_mem member
  obtain ⟨k, place⟩ := List.mem_iff_getElem?.mp pair
  rw [List.getElem?_zip_eq_some, List.getElem?_tail] at place
  obtain ⟨first, second⟩ := place
  have hk := place_unique distinct ((indexOf?_eq_some_iff distinct).mp hi) first
  have next := place_unique distinct ((indexOf?_eq_some_iff distinct).mp hj) second
  omega

/-- What the compiler writes for a graph without blank step names opens as a graph that
compiles to it again, whatever the order then and now. -/
theorem exists_recompile {order : StepOrder} {name version : String} {definition : Definition}
    (formed : graph.WellFormed) (notBlank : ∀ step ∈ graph.names, isBlank step = false)
    (compiles : graph.compile order name version = .ok definition) :
    ∃ opened, ofDefinitionText definition.text = .ok opened ∧
      ∀ order, opened.compile order name version = .ok definition := by
  obtain ⟨opened, opens, again⟩ :=
    exists_compile_of_proper (proper_of_compile formed notBlank compiles)
  obtain ⟨-, -, _, _, -, -, rfl⟩ := compile_eq_ok_iff.mp compiles
  refine ⟨opened, (ofDefinitionText_text _).trans opens, fun order => ?_⟩
  rw [(forward_of_ofJson opens).compile_eq]
  exact again

end Graph

end Workflow
