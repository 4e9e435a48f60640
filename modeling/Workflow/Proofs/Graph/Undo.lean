import Workflow.Proofs.Graph.Session

/-!
# Taking back what was done

What a connection or a new step puts into a graph stands at the end of a list, and is known by an
identifier or a name that nothing before it has. So it is what the opposite operation finds, and
without it the graph is the one there was. Removing a step takes the edges that touch it as well.
A new step has none, since in a well-formed graph edges only join steps.

In general a removed step and its edges are all that a graph loses.
-/

namespace Workflow

namespace Graph

variable {graph : Graph}

/-! ## The last of a list -/

section

variable {α : Type} {p : α → Bool} {front : List α} {last : α}

theorem eraseIdx_length_append (front : List α) (last : α) :
    (front ++ [last]).eraseIdx front.length = front := by
  rw [List.eraseIdx_append_of_length_le (Nat.le_refl _), Nat.sub_self, List.eraseIdx_cons_zero,
    List.append_nil]

/-- The only element with a property is found where it stands, at the end. -/
theorem findIdx?_append_singleton (others : ∀ a ∈ front, p a = false) (found : p last = true) :
    (front ++ [last]).findIdx? p = some front.length := by
  have none : front.findIdx? p = none := List.findIdx?_eq_none_iff.mpr others
  simp [List.findIdx?_append, none, found]

theorem find?_append_singleton (others : ∀ a ∈ front, p a = false) (found : p last = true) :
    (front ++ [last]).find? p = some last := by
  have none : front.find? p = none :=
    List.find?_eq_none.mpr fun a member => by simp [others a member]
  simp [List.find?_append, none, found]

end

/-! ## Opposite operations -/

/-- The last edge can be taken out if its identifier is no other edge's. -/
theorem disconnect_append {edge : Edge} (unused : edge.id ∉ graph.edgeIds) :
    disconnect { graph with edges := graph.edges ++ [edge] } edge.id = .ok (edge, graph) := by
  have others : ∀ other ∈ graph.edges, decide (other.id = edge.id) = false := by
    intro other member
    exact decide_eq_false fun same => unused (same ▸ List.mem_map_of_mem member)
  rw [disconnect, findIdx?_append_singleton others (by simp),
    find?_append_singleton others (by simp)]
  simp only [eraseIdx_length_append]

/-- Nothing touches a name that is no step's. -/
theorem WellFormed.filter_edges_eq_self (formed : graph.WellFormed) {name : String}
    (free : name ∉ graph.names) :
    (graph.edges.filter fun edge => edge.source ≠ name && edge.target ≠ name) = graph.edges := by
  apply List.filter_eq_self.mpr
  intro edge member
  have hs : edge.source ≠ name := fun same => free (same ▸ formed.source_mem edge member)
  have ht : edge.target ≠ name := fun same => free (same ▸ formed.target_mem edge member)
  simp [hs, ht]

/-- The last step can be taken out if its name is free in the graph without it. -/
theorem WellFormed.removeStep_append (formed : graph.WellFormed) {node : StepNode}
    (free : node.name ∉ graph.names) (suffix : Nat) :
    removeStep ⟨graph.steps ++ [node], graph.edges, suffix⟩ node.name =
      .ok (node, { graph with lastSuffix := suffix }) := by
  have others : ∀ other ∈ graph.steps, decide (other.name = node.name) = false := by
    intro other member
    exact decide_eq_false fun same => free (same ▸ List.mem_map_of_mem member)
  rw [removeStep, indexOf?, step?, findIdx?_append_singleton others (by simp),
    find?_append_singleton others (by simp)]
  simp only [eraseIdx_length_append, formed.filter_edges_eq_self free]

/-- A step is removed together with the edges that touch it, and with nothing else. -/
theorem WellFormed.exists_removeStep_eq (formed : graph.WellFormed) {name : String}
    (known : name ∈ graph.names) :
    ∃ node, graph.step? name = some node ∧ graph.removeStep name = .ok (node, { graph with
      steps := graph.steps.filter (·.name ≠ name)
      edges := graph.edges.filter fun edge => edge.source ≠ name && edge.target ≠ name }) := by
  obtain ⟨⟨node, left⟩, removed⟩ := exists_removeStep known
  obtain ⟨i, place, found, rfl⟩ := removeStep_ok_cases removed
  rw [eraseIdx_eq_filter formed.names_nodup place] at removed
  exact ⟨node, found, removed⟩

/-- In a graph that can be built and edited, a connection is undone by taking out its edge, and a
new step by removing it, except that a generated name's number is not given back. Removing any
step leaves the other steps, and exactly the edges that begin and end at other steps, as they
were and in their order. -/
theorem edits_undone (reachable : graph.Reachable) :
    (∀ source target id drawn, graph.connect source target = .ok (id, drawn) →
      drawn.disconnect id = .ok (⟨id, source, target⟩, graph)) ∧
    (∀ node grown, graph.insertStep node = .ok grown →
      grown.removeStep node.name = .ok (node, graph)) ∧
    (∀ kind label now name grown, graph.addStep kind label now = .ok (name, grown) →
      grown.removeStep name = .ok (⟨name, kind.tag, label, .empty, .grid graph.size⟩,
        { graph with lastSuffix := grown.lastSuffix })) ∧
    ∀ name ∈ graph.names, ∃ node,
      graph.step? name = some node ∧ graph.removeStep name = .ok (node, { graph with
        steps := graph.steps.filter (·.name ≠ name)
        edges := graph.edges.filter fun edge => edge.source ≠ name && edge.target ≠ name }) := by
  have formed := reachable.wellFormed
  refine ⟨?_, ?_, ?_, ?_⟩
  · intro source target id drawn connected
    obtain ⟨-, -, rfl, rfl⟩ := connect_ok_cases connected
    exact @disconnect_append graph ⟨_, source, target⟩ (freeEdgeId_spec graph source target).2
  · intro node grown inserted
    obtain ⟨free, rfl⟩ := insertStep_eq_ok_iff.mp inserted
    exact formed.removeStep_append free graph.lastSuffix
  · intro kind label now name grown added
    obtain ⟨-, free, rfl⟩ := addStep_ok_cases added
    exact @WellFormed.removeStep_append graph formed
      ⟨name, kind.tag, label, .empty, .grid graph.size⟩ free _
  · exact fun name known => formed.exists_removeStep_eq known

/-- Two steps joined by two edges, and each by one to itself. -/
def tangled : Graph :=
  Graph.empty.session [.add .condition "Branch" 1000, .add .delay "Wait" 1000,
    .connect "condition-1000" "delay-1001", .connect "condition-1000" "delay-1001",
    .connect "delay-1001" "delay-1001", .connect "condition-1000" "condition-1000"]

/-- A step that is to be inserted under its own name. -/
def telling : StepNode :=
  ⟨"Tell", "notification", "Tell somebody", .empty, .origin⟩

theorem edits_undone_tangled : tangled.Reachable ∧
    (∃ id drawn, tangled.connect "condition-1000" "delay-1001" = .ok (id, drawn) ∧
      drawn.disconnect id = .ok (⟨id, "condition-1000", "delay-1001"⟩, tangled)) ∧
    (∃ grown, tangled.insertStep telling = .ok grown ∧
      grown.removeStep "Tell" = .ok (telling, tangled)) ∧
    (∃ name grown, tangled.addStep .delay "Wait longer" 999 = .ok (name, grown) ∧
      grown.removeStep name = .ok (⟨name, "delay", "Wait longer", .empty, .grid 2⟩,
        { tangled with lastSuffix := grown.lastSuffix })) ∧
    "delay-1001" ∈ tangled.names ∧
    ∃ node, tangled.step? "delay-1001" = some node ∧
      tangled.removeStep "delay-1001" = .ok (node, { tangled with
        steps := tangled.steps.filter (·.name ≠ "delay-1001")
        edges := tangled.edges.filter fun edge =>
          edge.source ≠ "delay-1001" && edge.target ≠ "delay-1001" }) := by
  have reachable : tangled.Reachable := .session .empty _
  obtain ⟨connected, inserted, added, removed⟩ := edits_undone reachable
  have known : "delay-1001" ∈ tangled.names := by decide
  exact ⟨reachable, ⟨_, _, rfl, connected _ _ _ _ rfl⟩, ⟨_, rfl, inserted telling _ rfl⟩,
    ⟨_, _, rfl, added .delay "Wait longer" 999 _ _ rfl⟩, known, removed _ known⟩

/-- Of its four edges only the one that does not touch the removed step is left. -/
example : (tangled.perform (.remove "delay-1001")).edges =
    [⟨"condition-1000-condition-1000", "condition-1000", "condition-1000"⟩] := by
  rfl

end Graph

end Workflow
