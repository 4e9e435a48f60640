import Workflow.Proofs.Definition.Reload
import Workflow.Proofs.Graph.Session
import Workflow.Proofs.Json.Ordered

/-!
# Where a graph comes from

A graph is fresh when it was just built: from nothing, from parts, from a file or from a
definition. Every other graph is what a session of edits has made of a fresh one. If the
values that are put into steps are in order then so are the fields of all steps, since
everything that is read is in order.

The last suffix of a graph tells whether a step got a generated name since the graph was
fresh. It is zero until then, and never zero again.
-/

namespace Workflow

open Workflow.Graph (nodeOfEntry EntryNodes)

/-! ## Fields in order -/

theorem StepNode.ordered_setProperty {node : StepNode} {key : String} {value : Json}
    (ordered : node.fields.Ordered) (inOrder : value.Ordered) :
    (node.setProperty key value).fields.Ordered := by
  unfold setProperty
  split
  · exact ordered
  · split
    · cases value <;> exact ordered
    · exact ordered.insert key inOrder

theorem StepNode.ordered_setProperties {node : StepNode} {properties : Fields}
    (ordered : node.fields.Ordered) (inOrder : properties.Ordered) :
    (node.setProperties properties).fields.Ordered := by
  have general : ∀ (entries : List (String × Json)) (node : StepNode), node.fields.Ordered →
      (∀ entry ∈ entries, entry.2.Ordered) →
        (entries.foldl (fun node entry => node.setProperty entry.1 entry.2)
          node).fields.Ordered := by
    intro entries
    induction entries with
    | nil => exact fun _ ordered _ => ordered
    | cons entry rest ih =>
        intro node ordered inOrder
        exact ih _ (StepNode.ordered_setProperty ordered (inOrder entry List.mem_cons_self))
          fun other member => inOrder other (List.mem_cons_of_mem _ member)
  exact general properties.entries node ordered inOrder

/-- An edit that puts only values in order into a step. -/
def Edit.Ordered : Edit → Prop
  | .insert node => node.fields.Ordered
  | .update _ properties => properties.Ordered
  | _ => True

namespace Graph

/-- A graph all of whose steps have fields in order. -/
def Ordered (graph : Graph) : Prop :=
  ∀ node ∈ graph.steps, node.fields.Ordered

variable {graph changed : Graph}

theorem Yields.ordered {edit : Edit} (yields : graph.Yields edit changed)
    (ordered : graph.Ordered) (inOrder : edit.Ordered) : changed.Ordered := by
  cases yields with
  | added _ =>
      intro node member
      rcases List.mem_append.mp member with old | new
      · exact ordered node old
      · rw [List.mem_singleton.mp new]
        exact Fields.ordered_empty
  | inserted _ =>
      intro node member
      rcases List.mem_append.mp member with old | new
      · exact ordered node old
      · rw [List.mem_singleton.mp new]
        exact inOrder
  | @updated name properties i _ =>
      intro node member
      obtain ⟨j, place⟩ := List.mem_iff_getElem?.mp member
      rw [List.getElem?_modify] at place
      obtain ⟨old, found, rfl⟩ := Option.map_eq_some_iff.mp place
      have before := ordered old (List.mem_of_getElem? found)
      split
      · exact StepNode.ordered_setProperties before inOrder
      · exact before
  | connected _ _ => exact ordered
  | disconnected _ => exact ordered
  | removed _ => exact fun node member => ordered node ((List.eraseIdx_sublist _ _).mem member)

theorem Ordered.session (ordered : graph.Ordered) {edits : List Edit}
    (inOrder : ∀ edit ∈ edits, edit.Ordered) : (graph.session edits).Ordered := by
  induction edits generalizing graph with
  | nil => exact ordered
  | cons edit rest ih =>
      rw [session_cons]
      refine ih ?_ fun other member => inOrder other (List.mem_cons_of_mem _ member)
      rcases graph.perform_cases edit with yields | same
      · exact yields.ordered ordered (inOrder edit List.mem_cons_self)
      · rwa [same]

/-! ## Fresh graphs -/

/-- The graphs that were built and not edited yet. A value that is handed over to be put
into steps is in order. -/
inductive Fresh : Graph → Prop
  | empty : Fresh .empty
  | ofParts {steps : List StepNode} {edges : List Edge} {graph : Graph} :
      Graph.ofParts steps edges = .ok graph → (∀ node ∈ steps, node.fields.Ordered) → Fresh graph
  | ofText {text : String} {graph : Graph} : Graph.ofText text = .ok graph → Fresh graph
  | ofJson {value : Json} {graph : Graph} :
      Graph.ofJson value = .ok graph → value.Ordered → Fresh graph
  | ofDefinitionText {text : String} {graph : Graph} :
      Graph.ofDefinitionText text = .ok graph → Fresh graph

theorem Fresh.reachable (fresh : graph.Fresh) : graph.Reachable := by
  cases fresh with
  | empty => exact .empty
  | ofParts built _ => exact .ofParts built
  | ofText read => exact .ofText read
  | ofJson loaded _ => exact .ofJson loaded
  | ofDefinitionText loaded => exact .ofDefinitionText loaded

theorem ordered_of_stepTree {tree : ParseTree} {node : StepNode}
    (read : StepNode.ofTree? tree = some node) : node.fields.Ordered := by
  simp only [StepNode.ofTree?, bind, Option.bind_eq_some_iff] at read
  obtain ⟨places, -, read⟩ := read
  split at read
  · simp only [Option.bind_eq_some_iff] at read
    obtain ⟨_, -, _, -, _, -, fields, bag, _, -, same⟩ := read
    cases same
    rcases ParseTree.defaulted_cases bag with rfl | ⟨tree, bag⟩
    · exact Fields.ordered_empty
    · rw [Fields.ofTree?] at bag
      split at bag
      · rename_i members found
        cases bag
        cases ParseTree.ordered_of_toJson? tree found with
        | object _ inside => exact Fields.ordered_ofMembers inside
      · cases bag
  · cases read

/-- The steps that a file lists have fields in order. -/
theorem ordered_of_partsOfTree? {tree : ParseTree} {steps : List StepNode} {edges : List Edge}
    (read : partsOfTree? tree = some (steps, edges)) : ∀ node ∈ steps, node.fields.Ordered := by
  simp only [partsOfTree?, bind, Option.bind_eq_some_iff] at read
  obtain ⟨places, -, read⟩ := read
  split at read
  · simp only [Option.bind_eq_some_iff] at read
    obtain ⟨listed, found, _, -, same⟩ := read
    cases same
    rcases ParseTree.defaulted_cases found with rfl | ⟨tree, found⟩
    · exact fun _ member => absurd member List.not_mem_nil
    · cases tree with
      | array items => exact Option.forall_of_mapM_eq_some (fun _ _ => ordered_of_stepTree) found
      | null | bool _ | number _ | string _ | object _ => cases found
  · cases read

/-- So have the steps that the entries of a definition describe. -/
theorem ordered_of_nodeOfEntry {index : Nat} {entry : Json} {node : StepNode}
    (inOrder : entry.Ordered) (described : nodeOfEntry index entry = .ok node) :
    node.fields.Ordered := by
  cases inOrder with
  | object _ inside =>
      rw [nodeOfEntry_object, Except.bind_eq_ok_iff] at described
      obtain ⟨_, -, described⟩ := described
      obtain ⟨_, -, described⟩ := Except.bind_eq_ok_iff.mp described
      cases described
      exact Fields.ordered_ofMembers fun entry member =>
        inside entry (List.mem_of_mem_filter member)
  | null | bool _ | number _ | string _ | array _ => cases described

theorem ordered_of_entryNodes {index : Nat} {entries : List Json} {nodes : List StepNode}
    (inOrder : ∀ entry ∈ entries, entry.Ordered) (described : EntryNodes index entries nodes) :
    ∀ node ∈ nodes, node.fields.Ordered := by
  induction entries generalizing index nodes with
  | nil =>
      cases entryNodes_nil.mp described
      exact fun _ member => absurd member List.not_mem_nil
  | cons entry rest ih =>
      obtain ⟨node, others, first, following, rfl⟩ := entryNodes_cons.mp described
      intro other member
      rcases List.mem_cons.mp member with rfl | member
      · exact ordered_of_nodeOfEntry (inOrder entry List.mem_cons_self) first
      · exact ih (fun entry member => inOrder entry (List.mem_cons_of_mem _ member)) following
          other member

theorem ordered_of_stepEntries {members : List (String × Json)} {entries : List Json}
    (inOrder : (Json.object members).Ordered) (listed : stepEntries members = .ok entries) :
    ∀ entry ∈ entries, entry.Ordered := by
  rw [stepEntries] at listed
  split at listed
  · cases listed
    exact fun _ member => absurd member List.not_mem_nil
  · cases listed
    exact fun _ member => absurd member List.not_mem_nil
  · rename_i found
    cases listed
    cases inOrder.lookup found with
    | array inside => exact inside
  · cases listed

/-- A graph is opened with the steps of its definition and one edge from each to the next. -/
theorem ordered_of_ofJson {value : Json} (inOrder : value.Ordered)
    (loaded : Graph.ofJson value = .ok graph) : graph.Ordered ∧ graph.lastSuffix = 0 := by
  obtain ⟨members, entries, nodes, rfl, listed, described, -, chained⟩ :=
    ofJson_eq_ok_iff.mp loaded
  obtain ⟨drawn, joined, -⟩ := connectChain_eq_ok ⟨nodes, [], 0⟩ (nodes.map StepNode.name)
    fun _ member => member
  cases chained.symm.trans joined
  exact ⟨ordered_of_entryNodes (ordered_of_stepEntries inOrder listed) described, rfl⟩

/-- The steps of a fresh graph have fields in order, and none got a generated name. -/
theorem Fresh.spec (fresh : graph.Fresh) : graph.Ordered ∧ graph.lastSuffix = 0 := by
  cases fresh with
  | empty => exact ⟨fun _ member => absurd member List.not_mem_nil, rfl⟩
  | ofParts built inOrder =>
      obtain ⟨-, rfl⟩ := ofParts_eq_ok_iff.mp built
      exact ⟨inOrder, rfl⟩
  | ofText read =>
      obtain ⟨tree, _, _, _, -, parts, built, -⟩ := ofText_eq_ok_iff.mp read
      obtain ⟨-, rfl⟩ := ofParts_eq_ok_iff.mp built
      exact ⟨ordered_of_partsOfTree? parts, rfl⟩
  | ofJson loaded inOrder => exact ordered_of_ofJson inOrder loaded
  | ofDefinitionText loaded =>
      obtain ⟨value, read, loaded⟩ := ofDefinitionText_eq_ok_iff.mp loaded
      exact ordered_of_ofJson (Json.ordered_of_ofText? read) loaded

/-! ## Generated names -/

/-- One of the edits of a session adds a step under a generated name. -/
inductive Generates : Graph → List Edit → Prop
  | first {graph : Graph} {kind : StepKind} {label : String} {now : Int}
      {answer : String × Graph} {rest : List Edit} :
      graph.addStep kind label now = .ok answer → Generates graph (.add kind label now :: rest)
  | later {graph : Graph} {edit : Edit} {rest : List Edit} :
      Generates (graph.perform edit) rest → Generates graph (edit :: rest)

theorem nextSuffix_pos (graph : Graph) (now : Int) : 0 < graph.nextSuffix now := by
  rw [nextSuffix, maxSuffix]
  omega

theorem Yields.lastSuffix_eq_zero_iff {edit : Edit} (yields : graph.Yields edit changed) :
    changed.lastSuffix = 0 ↔
      graph.lastSuffix = 0 ∧ ∀ kind label now, edit ≠ .add kind label now := by
  cases yields with
  | @added kind label now _ => simp [(nextSuffix_pos graph now).ne']
  | inserted _ | updated _ | connected _ _ | disconnected _ | removed _ => simp

/-- An edit that adds a step sets the last suffix, and no other edit changes it. -/
theorem perform_lastSuffix_eq_zero_iff (graph : Graph) (edit : Edit) :
    (graph.perform edit).lastSuffix = 0 ↔ graph.lastSuffix = 0 ∧
      ∀ kind label now answer, edit = .add kind label now →
        graph.addStep kind label now ≠ .ok answer := by
  rw [perform]
  cases applied : graph.apply edit with
  | ok answer =>
      apply (yields_of_apply applied).lastSuffix_eq_zero_iff.trans
      refine and_congr_right fun _ => ?_
      constructor
      · intro other kind label now _ same
        exact absurd same (other kind label now)
      · rintro fails kind label now rfl
        obtain ⟨built, done, -⟩ := Except.map_eq_ok_iff.mp applied
        exact fails kind label now built rfl done
  | error error =>
      refine ⟨fun zero => ⟨zero, ?_⟩, And.left⟩
      rintro kind label now answer rfl done
      simp [apply, done, Except.map] at applied

theorem session_lastSuffix_eq_zero_iff (graph : Graph) (edits : List Edit) :
    (graph.session edits).lastSuffix = 0 ↔
      graph.lastSuffix = 0 ∧ ¬graph.Generates edits := by
  induction edits generalizing graph with
  | nil =>
      refine ⟨fun zero => ⟨zero, ?_⟩, And.left⟩
      rintro ⟨⟩
  | cons edit rest ih =>
      rw [session_cons, ih, perform_lastSuffix_eq_zero_iff, and_assoc]
      refine and_congr_right fun _ => ?_
      constructor
      · rintro ⟨notNow, notLater⟩ generates
        cases generates with
        | first done => exact notNow _ _ _ _ rfl done
        | later generates => exact notLater generates
      · intro never
        refine ⟨?_, fun generates => never (.later generates)⟩
        rintro kind label now answer rfl done
        exact never (.first done)

end Graph

end Workflow
