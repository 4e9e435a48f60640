import Workflow.Proofs.Definition.EdgeOrder
import Workflow.Proofs.Definition.Wire

/-!
# Opening what was compiled

The text of a definition opens as a graph whose steps have the kinds of the compiled ones
and their settings as fields. Such a step compiles to the same settings again, since each
of them was accepted once. What may be lost is a name: a blank one counts as none, and
the step gets a name that is not blank instead.
-/

namespace Workflow

open Workflow.Graph (nodeOfEntry entryType entryName? EntryNodes)

/-! ## Sorted members -/

/-- The members of an entry that become fields. -/
def fieldMembers (members : List (String × Json)) : List (String × Json) :=
  members.filter fun entry => entry.1 ≠ "name" && entry.1 ≠ "type"

theorem nodeOfEntry_object (index : Nat) (members : List (String × Json)) :
    nodeOfEntry index (.object members) = do
      let type ← entryType index members
      let name? ← entryName? index members
      return {
        name := name?.getD (type ++ "-" ++ toString index)
        type
        label := name?.getD (type ++ " Node")
        fields := .ofMembers (fieldMembers members)
        position := .grid index } := by
  rfl

/-- The fields of an entry with different keys: all its members but two, by their keys. -/
theorem get?_ofMembers_fieldMembers {members : List (String × Json)}
    (distinct : (members.map Prod.fst).Nodup) (key : String) :
    (Fields.ofMembers (fieldMembers members)).get? key =
      if key = "name" ∨ key = "type" then none else members.lookup key := by
  have kept : ((fieldMembers members).map Prod.fst).Nodup :=
    distinct.sublist (List.filter_sublist.map _)
  rw [Fields.get?_ofMembers kept]
  refine (Fields.lookup_filter (fun key => key ≠ "name" && key ≠ "type") key).trans ?_
  by_cases own : key = "name" ∨ key = "type"
  · rcases own with rfl | rfl <;> simp
  · obtain ⟨named, typed⟩ := not_or.mp own
    simp [named, typed]

/-- The order in which an entry lists its members has no part in the fields it gives. -/
theorem ofMembers_fieldMembers_sortEntries {members : List (String × Json)}
    (distinct : (members.map Prod.fst).Nodup) :
    Fields.ofMembers (fieldMembers (Fields.sortEntries members)) =
      .ofMembers (fieldMembers members) := by
  apply Fields.ext_get?
  intro key
  rw [get?_ofMembers_fieldMembers (Fields.sorted_sortEntries members).nodup_keys,
    get?_ofMembers_fieldMembers distinct, Fields.lookup_sortEntries distinct]

/-- Nor has it a part in the step that the entry describes. -/
theorem nodeOfEntry_sortEntries (index : Nat) {members : List (String × Json)}
    (distinct : (members.map Prod.fst).Nodup) :
    nodeOfEntry index (.object (Fields.sortEntries members)) =
      nodeOfEntry index (.object members) := by
  simp only [nodeOfEntry_object, entryType, entryName?, Fields.lookup_sortEntries distinct,
    ofMembers_fieldMembers_sortEntries distinct]

namespace Step

/-- The members of a step are its name, its type and its settings, all under different keys. -/
theorem keys_nodup (step : Step) :
    ((("name", Json.string step.name) :: ("type", .string step.kind.tag) ::
      step.action.members).map Prod.fst).Nodup := by
  rw [List.map_cons, List.map_cons, Action.members_keys]
  have every : ∀ kind : StepKind,
      ("name" :: "type" :: kind.fields.map FieldSpec.name).Nodup := by
    intro kind
    cases kind <;> decide
  exact every step.action.kind

theorem sortKeys_toJson (step : Step) : step.toJson.sortKeys =
    .object (Fields.sortEntries (("name", .string step.name) ::
      ("type", .string step.kind.tag) :: step.action.members)) := by
  have settings : ∀ members : List (String × Json),
      (∀ entry ∈ members, (∃ text, entry.2 = .string text) ∨ ∃ n, entry.2 = Json.integer n) →
        Json.sortMembers members = members := by
    intro members scalars
    induction members with
    | nil => rfl
    | cons entry rest ih =>
        have kept : entry.2.sortKeys = entry.2 := by
          rcases scalars entry List.mem_cons_self with ⟨_, same⟩ | ⟨_, same⟩
          · rw [same]
            rfl
          · rw [same, Json.sortKeys_integer]
        rw [Json.sortMembers, kept,
          ih fun other member => scalars other (List.mem_cons_of_mem _ member)]
  simp only [toJson, Json.sortKeys, Json.sortMembers,
    settings step.action.members step.action.members_cases]

end Step

namespace Graph

theorem insertEntries_sortItems (graph : Graph) (index : Nat) (steps : List Step) :
    graph.insertEntries index (Json.sortItems (steps.map Step.toJson)) =
      graph.insertEntries index (steps.map Step.toJson) := by
  induction steps generalizing graph index with
  | nil => rfl
  | cons step rest ih =>
      have first : nodeOfEntry index step.toJson.sortKeys = nodeOfEntry index step.toJson := by
        rw [Step.sortKeys_toJson, nodeOfEntry_sortEntries index step.keys_nodup]
        rfl
      simp only [List.map_cons, Json.sortItems, insertEntries, first, ih]

/-- A definition opens alike from its value and from its value sorted. -/
theorem ofJson_sortKeys (definition : Definition) :
    ofJson definition.toJson.sortKeys = ofJson definition.toJson := by
  have listed : stepEntries (Fields.sortEntries [("name", .string definition.name),
      ("version", .string definition.version),
      ("steps", .array (Json.sortItems (definition.steps.map Step.toJson)))]) =
      .ok (Json.sortItems (definition.steps.map Step.toJson)) := by
    rw [stepEntries, Fields.lookup_sortEntries (by simp)]
    rfl
  have unsorted : stepEntries [("name", .string definition.name),
      ("version", .string definition.version),
      ("steps", .array (definition.steps.map Step.toJson))] =
      .ok (definition.steps.map Step.toJson) := by
    rfl
  simp only [Definition.toJson, Json.sortKeys, Json.sortMembers, ofJson, listed, unsorted,
    Except.mapError, bind, Except.bind, insertEntries_sortItems]

/-- What a text is opened as depends on the value it stands for only. -/
theorem ofDefinitionText_of_value {text : String} {definition : Definition}
    (read : Json.ofText? text = some definition.toJson.sortKeys) :
    ofDefinitionText text = ofDefinition definition := by
  rw [ofDefinitionText, read]
  exact ofJson_sortKeys definition

/-- A definition opens alike from its text and as it is. -/
theorem ofDefinitionText_text (definition : Definition) :
    ofDefinitionText definition.text = ofDefinition definition :=
  ofDefinitionText_of_value (Json.ofText?_compact definition.legible definition.within)

theorem ofDefinitionText_prettyText (definition : Definition) :
    ofDefinitionText definition.prettyText = ofDefinition definition :=
  ofDefinitionText_of_value (Json.ofText?_pretty definition.legible definition.within)

end Graph

/-- Either text of a definition stands for it: the text is decoded as that definition, and it
opens as the same graph as the definition does, or is refused for the same reason. -/
theorem Definition.texts_stand_for_it (definition : Definition) :
    (Definition.ofText? definition.text = some definition ∧
        Graph.ofDefinitionText definition.text = Graph.ofDefinition definition) ∧
      Definition.ofText? definition.prettyText = some definition ∧
        Graph.ofDefinitionText definition.prettyText = Graph.ofDefinition definition := by
  refine ⟨⟨definition.ofText?_text, ?_⟩, definition.ofText?_prettyText, ?_⟩
  · exact Graph.ofDefinitionText_text definition
  · exact Graph.ofDefinitionText_prettyText definition

/-! ## The step of a compiled step -/

/-- An action whose settings are accepted as they are. -/
def Action.Settled (action : Action) : Prop :=
  List.Forall₂ (fun spec setting => setting.1 = spec.name ∧ spec.Accepts setting.2 setting.2)
    action.kind.fields action.members

theorem StepNode.Meets.settled {node : StepNode} {action : Action} (meets : node.Meets action) :
    action.Settled :=
  meets.imp fun _ _ filled => ⟨filled.1, filled.2.again⟩

/-- A step of the kind of an action with its settings as fields. -/
structure StepNode.Shows (node : StepNode) (action : Action) : Prop where
  type_eq : node.type = action.kind.tag
  fields_eq : node.fields = .ofMembers action.members

theorem Action.keys_nodup (action : Action) : (action.members.map Prod.fst).Nodup := by
  have all := Step.keys_nodup ⟨"", action⟩
  exact (List.nodup_cons.mp (List.nodup_cons.mp all).2).2

/-- What shows an action compiles to it, if its settings are accepted. -/
theorem StepNode.Shows.compile {node : StepNode} {action : Action} (shows_ : node.Shows action)
    (settled : action.Settled) : node.compile = .ok ⟨node.name, action⟩ := by
  refine compile_eq_ok_iff.mpr ⟨shows_.type_eq, rfl, ?_⟩
  obtain ⟨same, paired⟩ := List.forall₂_iff_zip.mp settled
  refine List.forall₂_iff_zip.mpr ⟨same, ?_⟩
  intro spec setting member
  obtain ⟨named, accepted⟩ := paired member
  have held : node.fields.get? spec.name = some setting.2 := by
    rw [shows_.fields_eq, Fields.get?_ofMembers action.keys_nodup, ← named]
    exact Fields.lookup_of_mem action.keys_nodup (List.of_mem_zip member).2
  have present : setting.2 ≠ .null := accepted.setting_ne_null
  have counts : node.value spec = setting.2 := by
    rw [value, field?, held]
    simp [Option.filter, present]
  exact ⟨named, counts ▸ accepted⟩

@[simp] theorem isBlank_append (a b : String) : isBlank (a ++ b) = (isBlank a && isBlank b) := by
  simp [isBlank]

theorem StepKind.tag_not_blank (kind : StepKind) : isBlank kind.tag = false := by
  cases kind <;> decide

namespace Step

/-- The step that a compiled step is opened as at an index. -/
def toNode (index : Nat) (step : Step) : StepNode where
  name := if isBlank step.name then step.kind.tag ++ "-" ++ toString index else step.name
  type := step.kind.tag
  label := if isBlank step.name then step.kind.tag ++ " Node" else step.name
  fields := .ofMembers step.action.members
  position := .grid index

theorem nodeOfEntry_toJson (index : Nat) (step : Step) :
    nodeOfEntry index step.toJson = .ok (step.toNode index) := by
  have typed : entryType index (("name", .string step.name) ::
      ("type", .string step.kind.tag) :: step.action.members) = .ok step.kind.tag := by
    rw [entryType, show List.lookup "type" _ = some (Json.string step.kind.tag) from rfl]
    simp [StepKind.tag_not_blank]
  have named : entryName? index (("name", .string step.name) ::
      ("type", .string step.kind.tag) :: step.action.members) =
      .ok (if isBlank step.name then none else some step.name) := by
    rfl
  have settings : fieldMembers (("name", .string step.name) ::
      ("type", .string step.kind.tag) :: step.action.members) = step.action.members := by
    obtain ⟨name, action⟩ := step
    cases action <;> rfl
  rw [toJson, nodeOfEntry_object, typed, named, settings]
  unfold toNode
  by_cases blank : isBlank step.name = true <;> simp [blank, bind, Except.bind, pure, Except.pure]

theorem toNode_shows (index : Nat) (step : Step) : (step.toNode index).Shows step.action :=
  ⟨rfl, rfl⟩

/-- A step is never opened under a blank name. -/
theorem toNode_not_blank (index : Nat) (step : Step) :
    isBlank (step.toNode index).name = false := by
  unfold toNode
  by_cases blank : isBlank step.name = true
  · simp [blank, StepKind.tag_not_blank]
  · simp [blank]

theorem toNode_name {index : Nat} {step : Step} (named : isBlank step.name = false) :
    (step.toNode index).name = step.name := by
  simp [toNode, named]

end Step

/-! ## Whole definitions -/

/-- The steps of a graph that a definition is opened as. -/
def Opened (steps : List Step) (nodes : List StepNode) : Prop :=
  List.Forall₂ (fun step node => ∃ index, node = step.toNode index) steps nodes

theorem opened_of_entryNodes {index : Nat} {steps : List Step} {nodes : List StepNode}
    (described : EntryNodes index (steps.map Step.toJson) nodes) : Opened steps nodes := by
  induction steps generalizing index nodes with
  | nil =>
      rw [Graph.entryNodes_nil.mp described]
      exact .nil
  | cons step rest ih =>
      obtain ⟨node, others, first, following, rfl⟩ := Graph.entryNodes_cons.mp described
      cases (step.nodeOfEntry_toJson index).symm.trans first
      exact .cons ⟨index, rfl⟩ (ih following)

theorem exists_entryNodes (index : Nat) (steps : List Step) :
    ∃ nodes, EntryNodes index (steps.map Step.toJson) nodes := by
  induction steps generalizing index with
  | nil => exact ⟨[], Graph.entryNodes_nil.mpr rfl⟩
  | cons step rest ih =>
      obtain ⟨nodes, described⟩ := ih (index + 1)
      exact ⟨step.toNode index :: nodes, Graph.entryNodes_cons.mpr
        ⟨_, nodes, step.nodeOfEntry_toJson index, described, rfl⟩⟩

namespace Opened

variable {steps : List Step} {nodes : List StepNode}

theorem not_blank (opened : Opened steps nodes) : ∀ node ∈ nodes, isBlank node.name = false := by
  induction opened with
  | nil => intro _ member; cases member
  | cons first _ ih =>
      intro node member
      rcases List.mem_cons.mp member with rfl | member
      · obtain ⟨index, rfl⟩ := first
        exact Step.toNode_not_blank index _
      · exact ih node member

/-- Steps under names that are not blank keep them. -/
theorem keeps (opened : Opened steps nodes) (named : ∀ step ∈ steps, isBlank step.name = false) :
    List.Forall₂ (fun step node => node.name = step.name ∧ node.Shows step.action) steps nodes := by
  have both := (List.forall₂_and_left steps nodes).mpr ⟨named, opened⟩
  refine both.imp ?_
  rintro step _ ⟨blank, index, rfl⟩
  exact ⟨Step.toNode_name blank, Step.toNode_shows index step⟩

theorem map_name (opened : Opened steps nodes)
    (named : ∀ step ∈ steps, isBlank step.name = false) :
    nodes.map StepNode.name = steps.map Step.name := by
  have kept := opened.keeps named
  induction kept with
  | nil => rfl
  | cons first _ ih =>
      rw [List.map_cons, List.map_cons, first.1, ih (List.forall₂_cons.mp opened).2
        fun step member => named step (List.mem_cons_of_mem _ member)]

/-- What is opened under the names of settled steps compiles to them again. -/
theorem compiled (opened : Opened steps nodes)
    (named : ∀ step ∈ steps, isBlank step.name = false)
    (settled : ∀ step ∈ steps, step.action.Settled) : Compiled nodes steps := by
  have both := (List.forall₂_and_left steps nodes).mpr ⟨settled, opened.keeps named⟩
  apply List.Forall₂.flip
  refine both.imp ?_
  rintro step node ⟨settled, same, shows_⟩
  show node.compile = .ok step
  rw [shows_.compile settled, same]

end Opened

namespace Graph

variable {graph : Graph} {order : StepOrder} {name version : String} {definition : Definition}

/-- What a graph compiles to has settled actions only. -/
theorem settled_of_compiled {nodes : List StepNode} {steps : List Step}
    (compiled : Compiled nodes steps) : ∀ step ∈ steps, step.action.Settled := by
  induction compiled with
  | nil => intro _ member; cases member
  | cons first _ ih =>
      intro step member
      rcases List.mem_cons.mp member with rfl | member
      · obtain ⟨-, -, meets⟩ := StepNode.compile_eq_ok_iff.mp first
        exact meets.settled
      · exact ih step member

/-- A definition opens as a graph of its steps, unless two of these get the same name. -/
theorem ofDefinition_opened {loaded : Graph} (h : ofDefinition definition = .ok loaded) :
    Opened definition.steps loaded.steps :=
  opened_of_entryNodes (steps_of_ofJson rfl h)

theorem exists_ofDefinition (named : ∀ step ∈ definition.steps, isBlank step.name = false)
    (distinct : (definition.steps.map Step.name).Nodup) :
    ∃ loaded, ofDefinition definition = .ok loaded := by
  obtain ⟨nodes, described⟩ := exists_entryNodes 0 definition.steps
  have same := (opened_of_entryNodes described).map_name named
  have listed : stepEntries [("name", .string definition.name),
      ("version", .string definition.version),
      ("steps", .array (definition.steps.map Step.toJson))] =
      .ok (definition.steps.map Step.toJson) := by
    rfl
  obtain ⟨loaded, built, -⟩ := exists_ofJson listed described (by rwa [same])
  exact ⟨loaded, built⟩

/-- Compiling, opening and compiling again gives the same text exactly when no step has a
blank name. The graph opened in between has the compiled steps, in order, with their
settings as fields. -/
theorem compileText_reload_iff {text : String} (reachable : graph.Reachable)
    (compiles : graph.compileText order name version = .ok text) :
    ((∃ loaded, ofDefinitionText text = .ok loaded ∧
        loaded.compileText .insertion name version = .ok text) ↔
      ∀ step ∈ graph.names, isBlank step = false) ∧
    ((∀ step ∈ graph.names, isBlank step = false) → ∃ definition loaded,
      graph.compile order name version = .ok definition ∧
        ofDefinitionText text = .ok loaded ∧
        List.Forall₂ (fun step node => node.name = step.name ∧ node.Shows step.action)
          definition.steps loaded.steps) := by
  have formed := reachable.wellFormed
  obtain ⟨definition, done, rfl⟩ := Except.map_eq_ok_iff.mp compiles
  have names := compile_names_perm done
  have named_iff : (∀ step ∈ graph.names, isBlank step = false) ↔
      ∀ step ∈ definition.steps, isBlank step.name = false := by
    simp only [← names.mem_iff, List.forall_mem_map]
  rw [named_iff, ofDefinitionText_text]
  obtain ⟨isNamed, isVersioned, _, steps, -, compiled, rfl⟩ := compile_eq_ok_iff.mp done
  refine ⟨⟨?_, ?_⟩, ?_⟩
  · rintro ⟨loaded, opens, again⟩
    have opened := ofDefinition_opened opens
    obtain ⟨other, redone, same⟩ := Except.map_eq_ok_iff.mp again
    cases Definition.text_injective same
    obtain ⟨-, -, recompiled, -, -⟩ := compile_insertion_eq_ok redone
    intro step member
    have kept : step.name ∈ loaded.steps.map StepNode.name := by
      rw [← recompiled.map_name]
      exact List.mem_map_of_mem member
    obtain ⟨node, present, same⟩ := List.mem_map.mp kept
    rw [← same]
    exact opened.not_blank node present
  · intro named
    obtain ⟨loaded, opens⟩ := exists_ofDefinition named (names.nodup_iff.mpr formed.names_nodup)
    have recompiled := (ofDefinition_opened opens).compiled named (settled_of_compiled compiled)
    refine ⟨loaded, opens, Except.map_eq_ok_iff.mpr ⟨_, ?_, rfl⟩⟩
    refine compile_eq_ok_iff.mpr ⟨isNamed, isVersioned, _, steps, rfl, ?_, rfl⟩
    rwa [stepsAt_range]
  · intro named
    obtain ⟨loaded, opens⟩ := exists_ofDefinition named (names.nodup_iff.mpr formed.names_nodup)
    exact ⟨_, loaded, done, opens, (ofDefinition_opened opens).keeps named⟩

theorem compileText_reload_iff_parallelPair :
    let definition : Definition := ⟨"order", "1",
      [⟨"call", .externalEvent "WORKFLOW_EVENT"⟩, ⟨"wait", .delay 1000⟩]⟩
    ((∃ loaded, ofDefinitionText definition.text = .ok loaded ∧
        loaded.compileText .insertion "order" "1" = .ok definition.text) ↔
      ∀ step ∈ parallelPair.names, isBlank step = false) ∧
    ((∀ step ∈ parallelPair.names, isBlank step = false) → ∃ definition' loaded,
      parallelPair.compile .edges "order" "1" = .ok definition' ∧
        ofDefinitionText definition.text = .ok loaded ∧
        List.Forall₂ (fun step node => node.name = step.name ∧ node.Shows step.action)
          definition'.steps loaded.steps) := by
  have built : Graph.ofParts parallelPair.steps parallelPair.edges = .ok parallelPair := by rfl
  exact compileText_reload_iff (.ofParts built) (by rfl)

end Graph

end Workflow
