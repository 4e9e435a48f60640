import Workflow.Definition.Load
import Workflow.Proofs.Graph.WellFormed

/-!
# What loading a definition builds

A definition has a graph when each entry of its list of steps describes a step and the
names of these steps differ. The graph then has exactly these steps, in order, and one
edge from each to the next. Drawing the edges cannot fail: both ends of every edge are
steps by then.
-/

namespace Workflow

namespace Graph

/-- The steps that entries describe, the first of which has the given index. -/
def EntryNodes (index : Nat) (entries : List Json) (nodes : List StepNode) : Prop :=
  List.Forall₂ (fun entry node => nodeOfEntry entry.2 entry.1 = .ok node)
    (entries.zipIdx index) nodes

theorem entryNodes_nil {index : Nat} {nodes : List StepNode} :
    EntryNodes index [] nodes ↔ nodes = [] :=
  List.forall₂_nil_left_iff

theorem entryNodes_cons {index : Nat} {entry : Json} {rest : List Json}
    {nodes : List StepNode} : EntryNodes index (entry :: rest) nodes ↔
      ∃ node others, nodeOfEntry index entry = .ok node ∧ EntryNodes (index + 1) rest others ∧
        nodes = node :: others := by
  unfold EntryNodes
  rw [List.zipIdx_cons, List.forall₂_cons_left_iff]

/-- One entry gets in: its step is made and stands at the end. -/
def enter (graph : Graph) (index : Nat) (entry : Json) : Except LoadError Graph := do
  let node ← (nodeOfEntry index entry).mapError .malformed
  (graph.insertStep node).mapError .graph

theorem insertEntries_cons (graph : Graph) (index : Nat) (entry : Json) (rest : List Json) :
    graph.insertEntries index (entry :: rest) =
      (graph.enter index entry >>= fun grown => grown.insertEntries (index + 1) rest) := by
  rw [insertEntries, enter, bind_assoc]

theorem enter_eq_ok_iff {graph grown : Graph} {index : Nat} {entry : Json} :
    graph.enter index entry = .ok grown ↔
      ∃ node, nodeOfEntry index entry = .ok node ∧ node.name ∉ graph.names ∧
        { graph with steps := graph.steps ++ [node] } = grown := by
  rw [enter, Except.bind_eq_ok_iff]
  simp only [Except.mapError_eq_ok_iff, insertStep_eq_ok_iff]

/-- Entries get in when all of them describe steps and no name is taken, neither by a
step of the graph nor by an earlier entry. -/
theorem insertEntries_eq_ok_iff {graph loaded : Graph} {index : Nat} {entries : List Json}
    (distinct : graph.names.Nodup) :
    graph.insertEntries index entries = .ok loaded ↔
      ∃ nodes, EntryNodes index entries nodes ∧
        (graph.names ++ nodes.map StepNode.name).Nodup ∧
        { graph with steps := graph.steps ++ nodes } = loaded := by
  induction entries generalizing graph index with
  | nil =>
      simp only [insertEntries, entryNodes_nil]
      constructor
      · rintro h
        cases h
        exact ⟨[], rfl, by simpa using distinct, by simp⟩
      · rintro ⟨_, rfl, -, rfl⟩
        simp
  | cons entry rest ih =>
      rw [insertEntries_cons, Except.bind_eq_ok_iff]
      constructor
      · rintro ⟨_, entered, h⟩
        obtain ⟨node, described, free, rfl⟩ := enter_eq_ok_iff.mp entered
        obtain ⟨nodes, following, unique, rfl⟩ := (ih (nodup_names_append distinct free)).mp h
        refine ⟨node :: nodes, entryNodes_cons.mpr ⟨node, nodes, described, following, rfl⟩,
          ?_, ?_⟩
        · simpa [names] using unique
        · simp
      · rintro ⟨_, described, unique, rfl⟩
        obtain ⟨node, nodes, first, following, rfl⟩ := entryNodes_cons.mp described
        have free : node.name ∉ graph.names := by
          intro taken
          exact (List.nodup_append.mp unique).2.2 _ taken _ (by simp) rfl
        refine ⟨_, enter_eq_ok_iff.mpr ⟨node, first, free, rfl⟩,
          (ih (nodup_names_append distinct free)).mpr ⟨nodes, following, ?_, by simp⟩⟩
        simpa [names] using unique

/-- Between steps of the graph a chain is always drawn, and nothing else changes. -/
theorem connectChain_eq_ok (graph : Graph) (chain : List String)
    (steps : ∀ name ∈ chain, name ∈ graph.names) :
    ∃ drawn : List Edge, graph.connectChain chain =
        .ok { graph with edges := graph.edges ++ drawn } ∧
      drawn.map (fun edge => (edge.source, edge.target)) = chain.zip chain.tail := by
  induction chain generalizing graph with
  | nil => exact ⟨[], by simp [connectChain], rfl⟩
  | cons source rest ih =>
      cases rest with
      | nil => exact ⟨[], by simp [connectChain], rfl⟩
      | cons target rest =>
          have first := connect_eq_ok (steps source (by simp)) (steps target (by simp))
          obtain ⟨drawn, done, ends⟩ := ih { graph with
            edges := graph.edges ++ [⟨graph.freeEdgeId source target, source, target⟩] }
            (fun name member => steps name (List.mem_cons_of_mem _ member))
          refine ⟨⟨graph.freeEdgeId source target, source, target⟩ :: drawn, ?_, ?_⟩
          · rw [connectChain, first]
            simpa [bind, Except.bind] using done
          · simp only [List.map_cons, ends]
            rfl

theorem WellFormed.connectChain {graph joined : Graph} {chain : List String}
    (formed : graph.WellFormed) (h : graph.connectChain chain = .ok joined) :
    joined.WellFormed := by
  induction chain generalizing graph with
  | nil =>
      cases h
      exact formed
  | cons source rest ih =>
      cases rest with
      | nil =>
          cases h
          exact formed
      | cons target rest =>
          rw [Graph.connectChain, Except.bind_eq_ok_iff] at h
          obtain ⟨⟨id, middle⟩, first, h⟩ := h
          exact ih (formed.connect first) h

/-- A graph is opened from a definition exactly with the steps that its entries
describe; what the definition holds besides its steps has no part in it. -/
theorem ofJson_eq_ok_iff {value : Json} {graph : Graph} :
    ofJson value = .ok graph ↔
      ∃ members entries nodes, value = .object members ∧ stepEntries members = .ok entries ∧
        EntryNodes 0 entries nodes ∧ (nodes.map StepNode.name).Nodup ∧
        connectChain ⟨nodes, [], 0⟩ (nodes.map StepNode.name) = .ok graph := by
  cases value with
  | object members =>
      rw [ofJson, Except.bind_eq_ok_iff]
      constructor
      · rintro ⟨entries, listed, h⟩
        obtain ⟨loaded, inserted, h⟩ := Except.bind_eq_ok_iff.mp h
        obtain ⟨nodes, described, unique, rfl⟩ :=
          (insertEntries_eq_ok_iff (by exact List.nodup_nil)).mp inserted
        exact ⟨members, entries, nodes, rfl, Except.mapError_eq_ok_iff.mp listed, described,
          unique, Except.mapError_eq_ok_iff.mp h⟩
      · rintro ⟨_, entries, nodes, same, listed, described, unique, chained⟩
        cases same
        refine ⟨entries, Except.mapError_eq_ok_iff.mpr listed, Except.bind_eq_ok_iff.mpr
          ⟨⟨nodes, [], 0⟩, ?_, Except.mapError_eq_ok_iff.mpr chained⟩⟩
        exact (insertEntries_eq_ok_iff (by exact List.nodup_nil)).mpr
          ⟨nodes, described, unique, rfl⟩
  | null | bool _ | number _ | string _ | array _ =>
      constructor
      · intro h
        cases h
      · rintro ⟨_, _, _, same, _⟩
        cases same

/-- Entries that describe steps under different names always make a graph. -/
theorem exists_ofJson {members : List (String × Json)} {entries : List Json}
    {nodes : List StepNode} (listed : stepEntries members = .ok entries)
    (described : EntryNodes 0 entries nodes) (unique : (nodes.map StepNode.name).Nodup) :
    ∃ graph, ofJson (.object members) = .ok graph ∧ graph.steps = nodes := by
  obtain ⟨drawn, chained, -⟩ := connectChain_eq_ok ⟨nodes, [], 0⟩
    (nodes.map StepNode.name) (fun _ member => member)
  exact ⟨_, ofJson_eq_ok_iff.mpr ⟨members, entries, nodes, rfl, listed, described, unique,
    chained⟩, rfl⟩

/-- The steps of an opened graph, from the entries of its definition. -/
theorem steps_of_ofJson {members : List (String × Json)} {entries : List Json} {graph : Graph}
    (listed : stepEntries members = .ok entries) (h : ofJson (.object members) = .ok graph) :
    EntryNodes 0 entries graph.steps := by
  obtain ⟨_, _, nodes, same, found, described, -, chained⟩ := ofJson_eq_ok_iff.mp h
  cases same
  cases listed.symm.trans found
  obtain ⟨drawn, joined, -⟩ := connectChain_eq_ok ⟨nodes, [], 0⟩
    (nodes.map StepNode.name) (fun _ member => member)
  cases chained.symm.trans joined
  exact described

theorem ofJson_wellFormed {value : Json} {graph : Graph} (h : ofJson value = .ok graph) :
    graph.WellFormed := by
  obtain ⟨_, _, nodes, -, -, -, unique, chained⟩ := ofJson_eq_ok_iff.mp h
  have formed : WellFormed ⟨nodes, [], 0⟩ :=
    ⟨unique, List.nodup_nil, fun _ h => absurd h List.not_mem_nil,
      fun _ h => absurd h List.not_mem_nil⟩
  exact formed.connectChain chained

end Graph

end Workflow
