import Workflow.Proofs.Graph.Reachable

/-!
# Which steps and edges form a graph

Steps and edges fit together if no two steps have one name, no two edges have one identifier, and
every edge joins two of the steps. Such parts form the graph of these steps and edges, in this
order, and other parts form none.

What is reported of parts that do not fit is the first fault. A name that an earlier step has
counts before all edges. Of the edges the first one that does not fit to those before it counts,
and of this edge first its identifier, then its source, then its target. A graph file is held to the
same, whatever follows the graph in it.
-/

namespace Workflow

/-- What is wrong with an edge first, given the names that its ends may have and the identifiers
that are taken. -/
inductive Edge.Fault (names taken : List String) (edge : Edge) : GraphError → Prop
  | id : edge.id ∈ taken → Fault names taken edge (.duplicateEdge edge.id)
  | source : edge.id ∉ taken → edge.source ∉ names →
      Fault names taken edge (.unknownStep edge.source)
  | target : edge.id ∉ taken → edge.source ∈ names → edge.target ∉ names →
      Fault names taken edge (.unknownStep edge.target)

/-- It does not matter in which order identifiers were taken. -/
theorem Edge.Fault.perm {names taken others : List String} {edge : Edge} {error : GraphError}
    (fault : edge.Fault names taken error) (same : taken.Perm others) :
    edge.Fault names others error := by
  cases fault with
  | id again => exact .id (same.mem_iff.mp again)
  | source fresh unknown => exact .source (fun old => fresh (same.mem_iff.mpr old)) unknown
  | target fresh known unknown =>
      exact .target (fun old => fresh (same.mem_iff.mpr old)) known unknown

/-- Each check is made after those before it have passed, so an edge has one fault at most. -/
theorem Edge.Fault.unique {names taken : List String} {edge : Edge} {error other : GraphError}
    (fault : edge.Fault names taken error) (another : edge.Fault names taken other) :
    error = other := by
  cases fault <;> cases another <;> first | rfl | contradiction

namespace Graph

/-- Edges with different identifiers between steps with the given names. -/
structure EdgesFit (names : List String) (edges : List Edge) : Prop where
  ids_nodup : (edges.map Edge.id).Nodup
  source_mem : ∀ edge ∈ edges, edge.source ∈ names
  target_mem : ∀ edge ∈ edges, edge.target ∈ names

/-- Steps with different names, and edges that fit to them. -/
structure PartsFit (steps : List StepNode) (edges : List Edge) : Prop where
  names_nodup : (steps.map StepNode.name).Nodup
  edges : EdgesFit (steps.map StepNode.name) edges

/-- What is wrong with steps and edges first. -/
inductive FirstFault (steps : List StepNode) (edges : List Edge) : GraphError → Prop
  | name {before after : List StepNode} {node : StepNode} : steps = before ++ node :: after →
      (before.map StepNode.name).Nodup → node.name ∈ before.map StepNode.name →
      FirstFault steps edges (.duplicateName node.name)
  | edge {before after : List Edge} {edge : Edge} {error : GraphError} :
      (steps.map StepNode.name).Nodup → edges = before ++ edge :: after →
      EdgesFit (steps.map StepNode.name) before →
      edge.Fault (steps.map StepNode.name) (before.map Edge.id) error →
      FirstFault steps edges error

/-! ## The two scans -/

/-- The scan of the names stops at a name that it has seen, in the list or before it. -/
theorem firstRepeated_eq_some_iff {seen names : List String} {name : String} :
    firstRepeated seen names = some name ↔ ∃ before after, names = before ++ name :: after ∧
      firstRepeated seen before = none ∧ (name ∈ before ∨ name ∈ seen) := by
  induction names generalizing seen with
  | nil => simp [firstRepeated]
  | cons first rest ih =>
      by_cases again : first ∈ seen
      · rw [firstRepeated, if_pos again, Option.some.injEq]
        constructor
        · rintro rfl
          exact ⟨[], rest, rfl, rfl, .inr again⟩
        · rintro ⟨before, after, split, clean, -⟩
          cases before with
          | nil => exact (List.cons.inj split).1
          | cons head _ =>
              cases split
              simp [firstRepeated, again] at clean
      · rw [firstRepeated, if_neg again, ih]
        constructor
        · rintro ⟨before, after, rfl, clean, repeated⟩
          refine ⟨first :: before, after, rfl, ?_, ?_⟩
          · rwa [firstRepeated, if_neg again]
          · simpa [or_assoc, or_left_comm] using repeated
        · rintro ⟨before, after, split, clean, repeated⟩
          cases before with
          | nil =>
              cases split
              exact absurd repeated (by simpa using again)
          | cons head before =>
              cases split
              rw [firstRepeated, if_neg again] at clean
              refine ⟨before, after, rfl, clean, ?_⟩
              simpa [or_assoc, or_left_comm] using repeated

/-- An edge at which the scan of the edges stops has a fault, and the scan goes on after any
other. -/
theorem firstDefect_cons_cases (names taken : List String) (edge : Edge) :
    (∃ error, edge.Fault names taken error ∧
      ∀ rest, firstDefect names taken (edge :: rest) = some error) ∨
    (∀ error, ¬ edge.Fault names taken error) ∧
      ∀ rest,
        firstDefect names taken (edge :: rest) = firstDefect names (edge.id :: taken) rest := by
  by_cases again : edge.id ∈ taken
  · exact .inl ⟨_, .id again, fun rest => by simp [firstDefect, again]⟩
  · by_cases hs : edge.source ∈ names
    · by_cases ht : edge.target ∈ names
      · refine .inr ⟨?_, fun rest => by simp [firstDefect, again, hs, ht]⟩
        rintro _ (taken | ⟨-, unknown⟩ | ⟨-, -, unknown⟩)
        · exact again taken
        · exact unknown hs
        · exact unknown ht
      · exact .inl ⟨_, .target again hs ht, fun rest => by simp [firstDefect, again, hs, ht]⟩
    · exact .inl ⟨_, .source again hs, fun rest => by simp [firstDefect, again, hs]⟩

/-- The scan of the edges stops at the first that has a fault. -/
theorem firstDefect_eq_some_iff {names seen : List String} {edges : List Edge}
    {error : GraphError} : firstDefect names seen edges = some error ↔
      ∃ before edge after, edges = before ++ edge :: after ∧ firstDefect names seen before = none ∧
        edge.Fault names (before.map Edge.id ++ seen) error := by
  induction edges generalizing seen with
  | nil => simp [firstDefect]
  | cons first rest ih =>
      have later : ∀ before : List Edge, (before.map Edge.id ++ first.id :: seen).Perm
          ((first :: before).map Edge.id ++ seen) := fun _ => List.perm_middle
      obtain ⟨found, fault, stops⟩ | ⟨sound, goesOn⟩ := firstDefect_cons_cases names seen first
      · rw [stops, Option.some.injEq]
        constructor
        · rintro rfl
          exact ⟨[], first, rest, rfl, rfl, fault⟩
        · rintro ⟨before, edge, after, split, clean, another⟩
          cases before with
          | nil =>
              cases split
              exact fault.unique another
          | cons _ before =>
              cases split
              cases (stops before).symm.trans clean
      · rw [goesOn, ih]
        constructor
        · rintro ⟨before, edge, after, rfl, clean, fault⟩
          exact ⟨first :: before, edge, after, rfl, (goesOn before).trans clean,
            fault.perm (later before)⟩
        · rintro ⟨before, edge, after, split, clean, fault⟩
          cases before with
          | nil =>
              cases split
              exact absurd fault (sound error)
          | cons _ before =>
              cases split
              exact ⟨before, edge, after, rfl, (goesOn before).symm.trans clean,
                fault.perm (later before).symm⟩

theorem edgesFit_iff {names : List String} {edges : List Edge} :
    EdgesFit names edges ↔ firstDefect names [] edges = none := by
  rw [firstDefect_eq_none_iff]
  constructor
  · intro fit
    exact ⟨fit.ids_nodup, by simp, fun edge member =>
      ⟨fit.source_mem edge member, fit.target_mem edge member⟩⟩
  · rintro ⟨unique, -, ends⟩
    exact ⟨unique, fun edge member => (ends edge member).1, fun edge member => (ends edge member).2⟩

/-! ## Parts and files -/

theorem partsFit_iff_wellFormed {steps : List StepNode} {edges : List Edge} :
    PartsFit steps edges ↔ (⟨steps, edges, 0⟩ : Graph).WellFormed := by
  constructor
  · intro fit
    exact ⟨fit.names_nodup, fit.edges.ids_nodup, fit.edges.source_mem, fit.edges.target_mem⟩
  · intro formed
    exact ⟨formed.names_nodup, formed.edgeIds_nodup, formed.source_mem, formed.target_mem⟩

/-- Parts that fit together form the graph of just these parts. -/
theorem ofParts_eq_ok_iff_partsFit {steps : List StepNode} {edges : List Edge} {graph : Graph} :
    ofParts steps edges = .ok graph ↔ PartsFit steps edges ∧
      graph.steps = steps ∧ graph.edges = edges ∧ graph.lastSuffix = 0 := by
  rw [ofParts_eq_ok_iff, ← partsFit_iff_wellFormed]
  obtain ⟨_, _, _⟩ := graph
  simp [eq_comm]

/-- The name at which the scan of the names stops is that of the first step whose name an earlier
one has. -/
theorem firstRepeated_names_iff {steps : List StepNode} {name : String} :
    firstRepeated [] (steps.map StepNode.name) = some name ↔ ∃ before node after,
      steps = before ++ node :: after ∧ (before.map StepNode.name).Nodup ∧
        node.name ∈ before.map StepNode.name ∧ node.name = name := by
  rw [firstRepeated_eq_some_iff]
  constructor
  · rintro ⟨_, _, split, clean, earlier⟩
    obtain ⟨before, _, rfl, rfl, tail⟩ := List.map_eq_append_iff.mp split
    obtain ⟨node, after, rfl, rfl, -⟩ := List.map_eq_cons_iff.mp tail
    exact ⟨before, node, after, rfl, (firstRepeated_eq_none_iff.mp clean).1,
      by simpa using earlier, rfl⟩
  · rintro ⟨before, node, after, rfl, distinct, earlier, rfl⟩
    refine ⟨before.map StepNode.name, after.map StepNode.name, by simp, ?_, .inl earlier⟩
    exact firstRepeated_eq_none_iff.mpr ⟨distinct, by simp⟩

/-- The edges are looked at once the names are found to be different. -/
theorem ofParts_eq_error_cases {steps : List StepNode} {edges : List Edge} {error : GraphError} :
    ofParts steps edges = .error error ↔
      (∃ name, firstRepeated [] (steps.map StepNode.name) = some name ∧
        .duplicateName name = error) ∨
      firstRepeated [] (steps.map StepNode.name) = none ∧
        firstDefect (steps.map StepNode.name) [] edges = some error := by
  cases repeated : firstRepeated [] (steps.map StepNode.name) with
  | some name => simp [ofParts, repeated]
  | none =>
      cases defect : firstDefect (steps.map StepNode.name) [] edges with
      | some other => simp [ofParts, repeated, defect]
      | none => simp [ofParts, repeated, defect]

/-- Parts that form no graph are refused for their first fault. -/
theorem ofParts_eq_error_iff {steps : List StepNode} {edges : List Edge} {error : GraphError} :
    ofParts steps edges = .error error ↔ FirstFault steps edges error := by
  rw [ofParts_eq_error_cases, firstDefect_eq_some_iff, firstRepeated_eq_none_iff]
  constructor
  · rintro (⟨name, repeated, rfl⟩ | ⟨⟨distinct, -⟩, before, edge, after, split, clean, fault⟩)
    · obtain ⟨before, node, after, split, unique, earlier, rfl⟩ :=
        firstRepeated_names_iff.mp repeated
      exact .name split unique earlier
    · rw [List.append_nil] at fault
      exact .edge distinct split (edgesFit_iff.mpr clean) fault
  · rintro (⟨split, unique, earlier⟩ | ⟨distinct, split, fit, fault⟩)
    · exact .inl ⟨_, firstRepeated_names_iff.mpr ⟨_, _, _, split, unique, earlier, rfl⟩, rfl⟩
    · refine .inr ⟨⟨distinct, by simp⟩, _, _, _, split, edgesFit_iff.mp fit, ?_⟩
      rwa [List.append_nil]

/-- A file is refused for its parts exactly if they have a fault. -/
theorem ofText_eq_graph_error_iff {text : String} {error : GraphError} :
    ofText text = .error (.graph error) ↔ ∃ tree rest steps edges,
      ParseTree.readFirst text = some (tree, rest) ∧ partsOfTree? tree = some (steps, edges) ∧
        FirstFault steps edges error := by
  simp only [← ofParts_eq_error_iff]
  rw [ofText]
  cases first : ParseTree.readFirst text with
  | none => simp
  | some read =>
      obtain ⟨tree, rest⟩ := read
      cases parts : partsOfTree? tree with
      | none => simp [parts]
      | some both =>
          obtain ⟨steps, edges⟩ := both
          cases built : Graph.ofParts steps edges with
          | error defect => simp [parts, built]
          | ok found =>
              by_cases ended : ParseTree.skipSpace rest = [] <;> simp [parts, built, ended]

/-- Steps and edges form a graph exactly if they fit together: the graph of just these, in this
order. Otherwise their first fault is reported. The same holds of the parts that a file has. -/
theorem parts_settled_by_first_fault :
    (∀ steps edges graph, ofParts steps edges = .ok graph ↔ PartsFit steps edges ∧
      graph.steps = steps ∧ graph.edges = edges ∧ graph.lastSuffix = 0) ∧
    (∀ steps edges error, ofParts steps edges = .error error ↔ FirstFault steps edges error) ∧
    (∀ text graph, ofText text = .ok graph ↔ ∃ tree rest,
      ParseTree.readFirst text = some (tree, rest) ∧
        partsOfTree? tree = some (graph.steps, graph.edges) ∧ PartsFit graph.steps graph.edges ∧
          graph.lastSuffix = 0 ∧ ParseTree.skipSpace rest = []) ∧
    (∀ text error, ofText text = .error (.graph error) ↔ ∃ tree rest steps edges,
      ParseTree.readFirst text = some (tree, rest) ∧ partsOfTree? tree = some (steps, edges) ∧
        FirstFault steps edges error) := by
  refine ⟨fun _ _ _ => ofParts_eq_ok_iff_partsFit, fun _ _ _ => ofParts_eq_error_iff, ?_,
    fun _ _ => ofText_eq_graph_error_iff⟩
  intro text graph
  rw [ofText_eq_ok_iff]
  constructor
  · rintro ⟨tree, rest, _, _, read, parts, built, ended⟩
    obtain ⟨fit, rfl, rfl, unused⟩ := ofParts_eq_ok_iff_partsFit.mp built
    exact ⟨tree, rest, read, parts, fit, unused, List.isEmpty_iff.mp ended⟩
  · rintro ⟨tree, rest, read, parts, fit, unused, ended⟩
    have built := ofParts_eq_ok_iff_partsFit.mpr ⟨fit, rfl, rfl, unused⟩
    exact ⟨tree, rest, _, _, read, parts, built, List.isEmpty_iff.mpr ended⟩

end Graph

end Workflow
