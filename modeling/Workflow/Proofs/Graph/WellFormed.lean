import Workflow.Graph.Edit
import Workflow.Proofs.Success
import Workflow.Proofs.Text.Digits
import Mathlib.Data.List.Nodup
import Mathlib.Data.List.Perm.Subperm

/-!
# Well-formed graphs stay well formed

Every edit of a well-formed graph gives a well-formed graph. Steps come in under free
names and leave together with their edges, so only the identifier of a new edge needs
an argument: there is one more candidate than there are edges and the candidates
differ, hence the search for a free one cannot fail.
-/

namespace Workflow

/-! ## Names and types -/

namespace StepNode

/-- What is fixed of a step once it is in a graph. -/
def heading (node : StepNode) : String × String :=
  (node.name, node.type)

@[simp] theorem setProperty_heading (node : StepNode) (key : String) (value : Json) :
    (node.setProperty key value).heading = node.heading := by
  unfold setProperty
  split
  · rfl
  · split
    · cases value <;> rfl
    · rfl

@[simp] theorem setProperties_heading (node : StepNode) (properties : Fields) :
    (node.setProperties properties).heading = node.heading := by
  rw [setProperties]
  induction properties.entries generalizing node with
  | nil => rfl
  | cons entry rest ih => rw [List.foldl_cons, ih, setProperty_heading]

end StepNode

namespace Graph

/-- The names and types of the steps, in order. -/
def outline (graph : Graph) : List (String × String) :=
  graph.steps.map StepNode.heading

theorem mem_names_iff {graph : Graph} {name : String} :
    name ∈ graph.names ↔ ∃ step ∈ graph.outline, step.1 = name := by
  simp [names, outline, StepNode.heading]

theorem map_fst_outline (graph : Graph) : graph.outline.map Prod.fst = graph.names := by
  simp [outline, names, StepNode.heading]

/-- Properties change no name and no type, wherever they are set. -/
theorem outline_setProperties (graph : Graph) (i : Nat) (properties : Fields) :
    ({ graph with steps := graph.steps.modify i (·.setProperties properties) } : Graph).outline =
      graph.outline := by
  apply List.ext_getElem?
  intro j
  simp only [outline, List.getElem?_map, List.getElem?_modify]
  cases graph.steps[j]? with
  | none => rfl
  | some node => by_cases here : i = j <;> simp [here]

/-! ## Looking steps up -/

@[simp] theorem contains_eq_false_iff {graph : Graph} {name : String} :
    graph.contains name = false ↔ name ∉ graph.names := by
  rw [← contains_iff, Bool.not_eq_true]

/-- With distinct names, the place of a name is the place of the step that has it. -/
theorem indexOf?_eq_some_iff {graph : Graph} (distinct : graph.names.Nodup) {name : String}
    {i : Nat} : graph.indexOf? name = some i ↔ graph.names[i]? = some name := by
  rw [indexOf?, List.findIdx?_eq_some_iff_getElem]
  constructor
  · rintro ⟨hi, found, -⟩
    have named : graph.steps[i].name = name := by simpa using found
    simp [names, hi, named]
  · intro h
    rw [names, List.getElem?_map, Option.map_eq_some_iff] at h
    obtain ⟨node, place, rfl⟩ := h
    obtain ⟨hi, rfl⟩ := List.getElem?_eq_some_iff.mp place
    refine ⟨hi, by simp, ?_⟩
    intro j hj same
    have here : j < graph.names.length := by
      simp only [names, List.length_map]
      omega
    have twice : graph.names[j]? = graph.names[i]? := by
      simpa [names, hi, Nat.lt_trans hj hi] using same
    have := (List.getElem?_inj here distinct).mp twice
    omega

theorem indexOf?_lt {graph : Graph} {name : String} {i : Nat}
    (place : graph.indexOf? name = some i) : i < graph.size :=
  (List.findIdx?_eq_some_iff_getElem.mp place).1

/-- Distinct names stand at one place each. -/
theorem place_unique {graph : Graph} (distinct : graph.names.Nodup) {name : String} {i j : Nat}
    (here : graph.names[i]? = some name) (there : graph.names[j]? = some name) : i = j := by
  obtain ⟨inside, -⟩ := List.getElem?_eq_some_iff.mp here
  exact (List.getElem?_inj inside distinct).mp (here.trans there.symm)

/-- Every name of a step has a place. -/
theorem exists_indexOf?_eq {graph : Graph} {name : String} (known : name ∈ graph.names) :
    ∃ i, graph.indexOf? name = some i := by
  obtain ⟨node, listed, named⟩ := List.mem_map.mp known
  apply Option.isSome_iff_exists.mp
  rw [indexOf?, List.findIdx?_isSome, List.any_eq_true]
  exact ⟨node, listed, decide_eq_true named⟩

/-- With distinct names, to take out the step with a name is to keep all others. -/
theorem eraseIdx_eq_filter {steps : List StepNode} {name : String} {i : Nat}
    (distinct : (steps.map StepNode.name).Nodup)
    (place : steps.findIdx? (fun node => node.name = name) = some i) :
    steps.eraseIdx i = steps.filter (·.name ≠ name) := by
  induction steps generalizing i with
  | nil => cases place
  | cons head rest ih =>
      obtain ⟨once, distinct⟩ := List.nodup_cons.mp distinct
      rw [List.findIdx?_cons] at place
      by_cases here : head.name = name
      · subst here
        have others : rest.filter (·.name ≠ head.name) = rest := by
          apply List.filter_eq_self.mpr
          intro node member
          exact decide_eq_true fun same => once (same ▸ List.mem_map_of_mem member)
        have first : i = 0 := by simpa using place.symm
        rw [first, List.eraseIdx_cons_zero, List.filter_cons_of_neg (by simp), others]
      · simp only [here, decide_false, Bool.false_eq_true, if_false,
          Option.map_eq_some_iff] at place
        obtain ⟨j, place, rfl⟩ := place
        simpa [here] using ih distinct place

/-! ## What the operations do -/

section

variable {graph changed : Graph}

theorem insertStep_eq_ok_iff {node : StepNode} :
    graph.insertStep node = .ok changed ↔
      node.name ∉ graph.names ∧ { graph with steps := graph.steps ++ [node] } = changed := by
  unfold insertStep
  cases taken : graph.contains node.name with
  | true => simp [contains_iff.mp taken]
  | false => simp [contains_eq_false_iff.mp taken]

theorem insertStep_eq_error_iff {node : StepNode} {defect : GraphError} :
    graph.insertStep node = .error defect ↔
      node.name ∈ graph.names ∧ .duplicateName node.name = defect := by
  unfold insertStep
  cases taken : graph.contains node.name with
  | true => simp [contains_iff.mp taken]
  | false => simp [contains_eq_false_iff.mp taken]

theorem addStep_ok_cases {kind : StepKind} {label name : String} {now : Int}
    (h : graph.addStep kind label now = .ok (name, changed)) :
    name = generatedName kind (graph.nextSuffix now) ∧ name ∉ graph.names ∧ changed = { graph with
      steps := graph.steps ++ [⟨name, kind.tag, label, .empty, .grid graph.size⟩]
      lastSuffix := graph.nextSuffix now } := by
  by_cases taken : generatedName kind (graph.nextSuffix now) ∈ graph.names
  · simp [addStep, taken] at h
  · simp only [addStep, contains_iff, taken, if_false, Except.ok.injEq, Prod.mk.injEq] at h
    obtain ⟨rfl, rfl⟩ := h
    exact ⟨rfl, taken, rfl⟩

theorem updateFields_ok_cases {name : String} {properties : Fields}
    (h : graph.updateFields name properties = .ok changed) : ∃ i, graph.indexOf? name = some i ∧
      changed = { graph with steps := graph.steps.modify i (·.setProperties properties) } := by
  cases place : graph.indexOf? name with
  | none => simp [updateFields, place] at h
  | some i =>
      simp only [updateFields, place, Except.ok.injEq] at h
      exact ⟨i, rfl, h.symm⟩

theorem disconnect_ok_cases {id : String} {edge : Edge}
    (h : graph.disconnect id = .ok (edge, changed)) :
    ∃ i, graph.edges.findIdx? (fun edge => edge.id = id) = some i ∧
      graph.edges.find? (·.id = id) = some edge ∧
      changed = { graph with edges := graph.edges.eraseIdx i } := by
  cases place : graph.edges.findIdx? (fun edge => edge.id = id) with
  | none => simp [disconnect, place] at h
  | some i =>
      cases found : graph.edges.find? (·.id = id) with
      | none => simp [disconnect, place, found] at h
      | some other =>
          simp only [disconnect, place, found, Except.ok.injEq, Prod.mk.injEq] at h
          obtain ⟨rfl, rfl⟩ := h
          exact ⟨i, rfl, rfl, rfl⟩

theorem removeStep_ok_cases {name : String} {node : StepNode}
    (h : graph.removeStep name = .ok (node, changed)) : ∃ i, graph.indexOf? name = some i ∧
      graph.step? name = some node ∧ changed = { graph with
        steps := graph.steps.eraseIdx i
        edges := graph.edges.filter fun edge => edge.source ≠ name && edge.target ≠ name } := by
  cases place : graph.indexOf? name with
  | none => simp [removeStep, place] at h
  | some i =>
      cases found : graph.step? name with
      | none => simp [removeStep, place, found] at h
      | some other =>
          simp only [removeStep, place, found, Except.ok.injEq, Prod.mk.injEq] at h
          obtain ⟨rfl, rfl⟩ := h
          exact ⟨i, rfl, rfl, rfl⟩

end

/-! ## Steps come and go -/

theorem WellFormed.empty : Graph.empty.WellFormed :=
  ⟨.nil, .nil, fun _ h => absurd h List.not_mem_nil, fun _ h => absurd h List.not_mem_nil⟩

/-- Neither the order of the fields nor the last suffix has a part in being well
formed: only the names of the steps and the edges have. -/
theorem WellFormed.congr {graph other : Graph} (formed : graph.WellFormed)
    (sameNames : other.names = graph.names) (sameEdges : other.edges = graph.edges) :
    other.WellFormed := by
  have sameIds : other.edgeIds = graph.edgeIds := by rw [edgeIds, sameEdges, edgeIds]
  refine ⟨sameNames ▸ formed.names_nodup, sameIds ▸ formed.edgeIds_nodup, ?_, ?_⟩
  · rw [sameNames, sameEdges]
    exact formed.source_mem
  · rw [sameNames, sameEdges]
    exact formed.target_mem

theorem nodup_names_append {graph : Graph} {node : StepNode} (distinct : graph.names.Nodup)
    (free : node.name ∉ graph.names) :
    ({ graph with steps := graph.steps ++ [node] } : Graph).names.Nodup := by
  simp only [names, List.map_append, List.map_cons, List.map_nil]
  exact List.nodup_append.mpr ⟨distinct, List.nodup_singleton _, by
    intro a ha b hb same
    exact free (List.mem_singleton.mp hb ▸ same ▸ ha)⟩

/-- A step whose name is free may stand at the end. -/
theorem WellFormed.append {graph other : Graph} {node : StepNode} (formed : graph.WellFormed)
    (free : node.name ∉ graph.names) (steps : other.steps = graph.steps ++ [node])
    (edges : other.edges = graph.edges) : other.WellFormed := by
  have sameNames : other.names = graph.names ++ [node.name] := by simp [names, steps]
  have sameIds : other.edgeIds = graph.edgeIds := by rw [edgeIds, edges, edgeIds]
  refine ⟨?_, sameIds ▸ formed.edgeIds_nodup, ?_, ?_⟩
  · rw [names, steps]
    exact nodup_names_append formed.names_nodup free
  · intro edge h
    rw [sameNames]
    exact List.mem_append_left _ (formed.source_mem edge (edges ▸ h))
  · intro edge h
    rw [sameNames]
    exact List.mem_append_left _ (formed.target_mem edge (edges ▸ h))

/-- The edges that stay are those that do not touch the step, so their ends are among
the steps that stay. -/
theorem WellFormed.without {graph : Graph} {name : String} {i : Nat}
    (formed : graph.WellFormed) (place : graph.indexOf? name = some i) :
    ({ graph with
      steps := graph.steps.eraseIdx i
      edges := graph.edges.filter fun edge => edge.source ≠ name && edge.target ≠ name } :
        Graph).WellFormed := by
  rw [eraseIdx_eq_filter formed.names_nodup place]
  have remains : ∀ other ∈ graph.names, other ≠ name →
      other ∈ (graph.steps.filter (·.name ≠ name)).map StepNode.name := by
    rintro _ member different
    obtain ⟨step, listed, rfl⟩ := List.mem_map.mp member
    exact List.mem_map_of_mem (List.mem_filter.mpr ⟨listed, decide_eq_true different⟩)
  refine ⟨?_, ?_, ?_, ?_⟩
  · exact (List.filter_sublist.map _).nodup formed.names_nodup
  · exact (List.filter_sublist.map _).nodup formed.edgeIds_nodup
  · intro edge member
    obtain ⟨old, apart⟩ := List.mem_filter.mp member
    exact remains _ (formed.source_mem edge old) (by simp at apart; exact apart.1)
  · intro edge member
    obtain ⟨old, apart⟩ := List.mem_filter.mp member
    exact remains _ (formed.target_mem edge old) (by simp at apart; exact apart.2)

/-! ## New edges -/

/-- Different numbers make different candidates, and none is the bare pair. -/
theorem edgeIdCandidates_nodup (graph : Graph) (source target : String) :
    (graph.edgeIdCandidates source target).Nodup := by
  unfold edgeIdCandidates
  simp only
  generalize source ++ "-" ++ target = base
  refine List.nodup_cons.mpr ⟨?_, ?_⟩
  · rw [List.mem_map]
    rintro ⟨k, -, same⟩
    have longer := congrArg String.length same
    have hyphen : "-".length = 1 := rfl
    simp only [String.length_append] at longer
    omega
  · refine List.Nodup.map ?_ List.nodup_range
    intro j k same
    have digits : toString (j + 1) = toString (k + 1) := by
      have := congrArg String.toList same
      simp only [String.toList_append] at this
      exact String.toList_inj.mp (List.append_cancel_left this)
    have := toString_nat_injective digits
    omega

/-- There are more candidates than edges, so the search ends with one that is free. -/
theorem freeEdgeId_spec (graph : Graph) (source target : String) :
    (graph.edgeIdCandidates source target).find? (· ∉ graph.edgeIds) =
        some (graph.freeEdgeId source target) ∧
      graph.freeEdgeId source target ∉ graph.edgeIds := by
  have free : ∃ id ∈ graph.edgeIdCandidates source target, id ∉ graph.edgeIds := by
    by_contra! taken
    have shorter := ((edgeIdCandidates_nodup graph source target).subperm taken).length_le
    simp only [edgeIdCandidates, edgeIds, List.length_cons, List.length_map,
      List.length_range] at shorter
    omega
  cases found : (graph.edgeIdCandidates source target).find? (· ∉ graph.edgeIds) with
  | none =>
      obtain ⟨id, candidate, unused⟩ := free
      have := List.find?_eq_none.mp found id candidate
      exact absurd unused (by simpa using this)
  | some id =>
      have unused := List.find?_some found
      have chosen : graph.freeEdgeId source target = id := by rw [freeEdgeId, found]; rfl
      rw [chosen]
      exact ⟨rfl, by simpa using unused⟩

/-- Between steps of the graph an edge is always drawn, at the end and under a free
identifier. -/
theorem connect_eq_ok {graph : Graph} {source target : String} (hs : source ∈ graph.names)
    (ht : target ∈ graph.names) :
    graph.connect source target = .ok (graph.freeEdgeId source target,
      { graph with
        edges := graph.edges ++ [⟨graph.freeEdgeId source target, source, target⟩] }) := by
  unfold connect
  simp [contains_iff.mpr hs, contains_iff.mpr ht]

/-- What a successful connection says of the graph before and after it. -/
theorem connect_ok_cases {graph changed : Graph} {source target id : String}
    (h : graph.connect source target = .ok (id, changed)) :
    source ∈ graph.names ∧ target ∈ graph.names ∧ id = graph.freeEdgeId source target ∧
      changed = { graph with edges := graph.edges ++ [⟨id, source, target⟩] } := by
  unfold connect at h
  split at h
  · cases h
  · split at h
    · cases h
    · rename_i hs ht
      cases h
      exact ⟨by simpa using hs, by simpa using ht, rfl, rfl⟩

theorem WellFormed.connect {graph changed : Graph} {source target id : String}
    (formed : graph.WellFormed) (h : graph.connect source target = .ok (id, changed)) :
    changed.WellFormed := by
  obtain ⟨hs, ht, rfl, rfl⟩ := connect_ok_cases h
  have unused := (freeEdgeId_spec graph source target).2
  refine ⟨formed.names_nodup, ?_, ?_, ?_⟩
  · simp only [edgeIds, List.map_append, List.map_cons, List.map_nil]
    exact List.nodup_append.mpr ⟨formed.edgeIds_nodup, List.nodup_singleton _, by
      intro a ha b hb same
      exact unused (List.mem_singleton.mp hb ▸ same ▸ ha)⟩
  · intro edge member
    rcases List.mem_append.mp member with old | new
    · exact formed.source_mem edge old
    · rw [List.mem_singleton.mp new]
      exact hs
  · intro edge member
    rcases List.mem_append.mp member with old | new
    · exact formed.target_mem edge old
    · rw [List.mem_singleton.mp new]
      exact ht

/-! ## What an edit does -/

/-- What an edit that succeeds makes of a graph. -/
inductive Yields (graph : Graph) : Edit → Graph → Prop
  | added {kind : StepKind} {label : String} {now : Int}
      (free : generatedName kind (graph.nextSuffix now) ∉ graph.names) :
      Yields graph (.add kind label now) { graph with
        steps := graph.steps ++ [⟨generatedName kind (graph.nextSuffix now), kind.tag, label,
          .empty, .grid graph.size⟩]
        lastSuffix := graph.nextSuffix now }
  | inserted {node : StepNode} (free : node.name ∉ graph.names) :
      Yields graph (.insert node) { graph with steps := graph.steps ++ [node] }
  | updated {name : String} {properties : Fields} {i : Nat}
      (place : graph.indexOf? name = some i) : Yields graph (.update name properties)
        { graph with steps := graph.steps.modify i (·.setProperties properties) }
  | connected {source target : String} (hs : source ∈ graph.names)
      (ht : target ∈ graph.names) : Yields graph (.connect source target) { graph with
        edges := graph.edges ++ [⟨graph.freeEdgeId source target, source, target⟩] }
  | disconnected {id : String} {i : Nat}
      (place : graph.edges.findIdx? (fun edge => edge.id = id) = some i) :
      Yields graph (.disconnect id) { graph with edges := graph.edges.eraseIdx i }
  | removed {name : String} {i : Nat} (place : graph.indexOf? name = some i) :
      Yields graph (.remove name) { graph with
        steps := graph.steps.eraseIdx i
        edges := graph.edges.filter fun edge => edge.source ≠ name && edge.target ≠ name }

theorem yields_of_apply {graph changed : Graph} {edit : Edit} {result : Edit.Result}
    (h : graph.apply edit = .ok (result, changed)) : graph.Yields edit changed := by
  cases edit with
  | add kind label now =>
      obtain ⟨⟨name, g⟩, done, same⟩ := Except.map_eq_ok_iff.mp h
      cases same
      obtain ⟨rfl, free, rfl⟩ := addStep_ok_cases done
      exact .added free
  | insert node =>
      obtain ⟨g, done, same⟩ := Except.map_eq_ok_iff.mp h
      cases same
      obtain ⟨free, rfl⟩ := insertStep_eq_ok_iff.mp done
      exact .inserted free
  | update name properties =>
      obtain ⟨g, done, same⟩ := Except.map_eq_ok_iff.mp h
      cases same
      obtain ⟨i, place, rfl⟩ := updateFields_ok_cases done
      exact .updated place
  | connect source target =>
      obtain ⟨⟨id, g⟩, done, same⟩ := Except.map_eq_ok_iff.mp h
      cases same
      obtain ⟨hs, ht, rfl, rfl⟩ := connect_ok_cases done
      exact .connected hs ht
  | disconnect id =>
      obtain ⟨⟨edge, g⟩, done, same⟩ := Except.map_eq_ok_iff.mp h
      cases same
      obtain ⟨i, place, -, rfl⟩ := disconnect_ok_cases done
      exact .disconnected place
  | remove name =>
      obtain ⟨⟨node, g⟩, done, same⟩ := Except.map_eq_ok_iff.mp h
      cases same
      obtain ⟨i, place, -, rfl⟩ := removeStep_ok_cases done
      exact .removed place

/-- An edit succeeds or leaves the graph as it was. -/
theorem perform_cases (graph : Graph) (edit : Edit) :
    graph.Yields edit (graph.perform edit) ∨ graph.perform edit = graph := by
  rw [perform]
  cases applied : graph.apply edit with
  | ok answer => exact .inl (yields_of_apply applied)
  | error error => exact .inr rfl

theorem Yields.wellFormed {graph changed : Graph} {edit : Edit}
    (yields : graph.Yields edit changed) (formed : graph.WellFormed) : changed.WellFormed := by
  cases yields with
  | added free => exact formed.append free rfl rfl
  | inserted free => exact formed.append free rfl rfl
  | updated _ =>
      refine formed.congr ?_ rfl
      rw [← map_fst_outline, outline_setProperties, map_fst_outline]
  | connected hs ht => exact formed.connect (connect_eq_ok hs ht)
  | @disconnected id i _ =>
      have fewer := List.eraseIdx_sublist graph.edges i
      exact ⟨formed.names_nodup, (fewer.map _).nodup formed.edgeIds_nodup,
        fun edge member => formed.source_mem edge (fewer.subset member),
        fun edge member => formed.target_mem edge (fewer.subset member)⟩
  | removed place => exact formed.without place

/-- Whatever an edit does, it keeps the graph well formed; one that fails does nothing. -/
theorem WellFormed.perform {graph : Graph} (formed : graph.WellFormed) (edit : Edit) :
    (graph.perform edit).WellFormed := by
  rcases graph.perform_cases edit with yields | same
  · exact yields.wellFormed formed
  · rwa [same]

end Graph

end Workflow
