import Workflow.Proofs.Graph.Session
import Workflow.Proofs.Json.Ordered

/-!
# Setting properties

What is set in a step is known by what was given for each key. A value for the name or the type
counts for nothing, one for the label only if it is text, and any other goes into the field bag
over what was there. So setting properties twice is like setting them once, with the second ones
put over the first, unless a second label that is no text hides a first one that is.

An update of a graph sets properties in one step and changes nothing else, and finds its step by
a name that no update changes. Hence updates of different steps do not disturb each other.
-/

namespace Workflow

/-- One bag with the entries of another put over its own. -/
def Fields.override (bag upper : Fields) : Fields :=
  .ofMembers (bag.entries ++ upper.entries)

@[simp] theorem Fields.get?_override (bag upper : Fields) (key : String) :
    (bag.override upper).get? key = (upper.get? key).or (bag.get? key) := by
  have merged : (bag.override upper).entries =
      upper.entries.foldl (fun entries m => insertEntry m.1 m.2 entries) bag.entries := by
    change sortEntries (bag.entries ++ upper.entries) = _
    rw [sortEntries, List.foldl_append]
    exact congrArg (upper.entries.foldl _) bag.sorted.sortEntries_eq
  rw [get?, merged]
  exact lookup_foldl_insertEntry upper.sorted.nodup_keys bag.entries key

namespace StepNode

/-! ## What is set in a step -/

/-- The keys that never name a field. -/
def Reserved (key : String) : Prop :=
  key = "name" ∨ key = "type" ∨ key = "label"

instance (key : String) : Decidable (Reserved key) :=
  inferInstanceAs (Decidable (_ ∨ _))

/-- The text that was given for a label, or else the label there was. -/
def labelOr (label : String) : Option Json → String
  | some (.string text) => text
  | _ => label

/-- One step is another after properties were set, with what was given for each key. -/
structure Updated (given : String → Option Json) (node updated : StepNode) : Prop where
  heading : updated.heading = node.heading
  position : updated.position = node.position
  label : updated.label = labelOr node.label (given "label")
  field : ∀ key, updated.fields.get? key =
    if Reserved key then node.fields.get? key else (given key).or (node.fields.get? key)

variable {given later : String → Option Json} {node middle updated other : StepNode}

theorem Updated.unique (first : Updated given node updated) (second : Updated given node other) :
    updated = other := by
  have heading := first.heading.trans second.heading.symm
  have label := first.label.trans second.label.symm
  have position := first.position.trans second.position.symm
  have fields : updated.fields = other.fields := by
    ext1 key
    rw [first.field, second.field]
  obtain ⟨name, type, _, _, _⟩ := updated
  obtain ⟨_, _, _, _, _⟩ := other
  cases heading
  cases label
  cases position
  cases fields
  rfl

theorem updated_none (node : StepNode) : Updated (fun _ => none) node node :=
  ⟨rfl, rfl, rfl, fun key => by split <;> rfl⟩

/-- What is given later comes before what was given first, as long as a later label is text or
there is no first one. -/
theorem Updated.trans (first : Updated given node middle) (second : Updated later middle updated)
    (labels : ∀ value, later "label" = some value →
      (∃ text, value = .string text) ∨ given "label" = none) :
    Updated (fun key => (later key).or (given key)) node updated := by
  refine ⟨second.heading.trans first.heading, second.position.trans first.position, ?_, ?_⟩
  · rw [second.label, first.label]
    cases found : later "label" with
    | none => rfl
    | some value =>
        rcases labels value found with ⟨text, rfl⟩ | absent
        · rfl
        · rw [absent]
          rfl
  · intro key
    rw [second.field, first.field]
    split
    · rfl
    · rw [Option.or_assoc]

/-- The label is set by text and a field by anything; name and type are fixed. -/
theorem setProperty_eq (node : StepNode) (key : String) (value : Json) :
    node.setProperty key value = { node with
      label := if key = "label" then labelOr node.label (some value) else node.label
      fields := if Reserved key then node.fields else node.fields.insert key value } := by
  unfold setProperty
  by_cases fixed : key = "name" ∨ key = "type"
  · have different : key ≠ "label" := by rcases fixed with rfl | rfl <;> decide
    have reserved : Reserved key := fixed.elim .inl fun same => .inr (.inl same)
    rw [if_pos fixed, if_neg different, if_pos reserved]
  · rw [if_neg fixed]
    by_cases label : key = "label"
    · rw [if_pos label, if_pos label, if_pos (.inr (.inr label))]
      cases value <;> rfl
    · have free : ¬Reserved key := by simpa [Reserved, label] using fixed
      rw [if_neg label, if_neg label, if_neg free]

theorem get?_setProperty (node : StepNode) (key other : String) (value : Json) :
    (node.setProperty key value).fields.get? other =
      if other = key ∧ ¬Reserved key then some value else node.fields.get? other := by
  rw [setProperty_eq]
  by_cases reserved : Reserved key <;> simp [reserved]

theorem updated_setProperty (node : StepNode) (key : String) (value : Json) :
    Updated (fun other => if other = key then some value else none) node
      (node.setProperty key value) := by
  refine ⟨setProperty_heading node key value, ?_, ?_, ?_⟩
  · rw [setProperty_eq]
  · rw [setProperty_eq]
    by_cases label : key = "label"
    · rw [if_pos label, if_pos label.symm]
    · rw [if_neg label, if_neg (Ne.symm label)]
      rfl
  · intro other
    rw [get?_setProperty]
    by_cases same : other = key
    · subst same
      by_cases reserved : Reserved other <;> simp [reserved]
    · simp [same]

/-- Setting properties sets what is given under each key. -/
theorem updated_setProperties (node : StepNode) (properties : Fields) :
    Updated properties.get? node (node.setProperties properties) := by
  have general : ∀ (entries : List (String × Json)) (node : StepNode),
      (entries.map Prod.fst).Nodup → Updated (fun key => entries.lookup key) node
        (entries.foldl (fun node entry => node.setProperty entry.1 entry.2) node) := by
    intro entries
    induction entries with
    | nil => exact fun node _ => updated_none node
    | cons entry rest ih =>
        intro node distinct
        obtain ⟨new, distinct⟩ := List.nodup_cons.mp distinct
        simp only [Fields.lookup_cons_eq_or new]
        refine (updated_setProperty node entry.1 entry.2).trans (ih _ distinct) ?_
        intro value found
        refine .inr (if_neg fun same => ?_)
        rw [same, Fields.lookup_eq_none new] at found
        cases found
  exact general properties.entries node properties.sorted.nodup_keys

/-- Setting properties twice is setting them once, with the second ones over the first. -/
theorem setProperties_setProperties (node : StepNode) {first second : Fields}
    (text : ∀ value, second.get? "label" = some value → ∃ label, value = .string label) :
    (node.setProperties first).setProperties second =
      node.setProperties (first.override second) := by
  have both := (updated_setProperties node first).trans (updated_setProperties _ second)
    fun value found => .inl (text value found)
  simp only [← Fields.get?_override] at both
  exact both.unique (updated_setProperties node (first.override second))

/-- What any number of given properties, set one after the other, keep of a step. -/
structure KeepsBut (given : List Fields) (node updated : StepNode) : Prop where
  heading : updated.heading = node.heading
  position : updated.position = node.position
  field : ∀ key, Reserved key ∨ (∀ properties ∈ given, properties.get? key = none) →
    updated.fields.get? key = node.fields.get? key
  untouched : given = [] → updated = node

theorem keepsBut_foldl (given : List Fields) (node : StepNode) :
    node.KeepsBut given (given.foldl setProperties node) := by
  induction given generalizing node with
  | nil => exact ⟨rfl, rfl, fun _ _ => rfl, fun _ => rfl⟩
  | cons properties rest ih =>
      have now := updated_setProperties node properties
      have later := ih (node.setProperties properties)
      refine ⟨later.heading.trans now.heading, later.position.trans now.position, ?_, nofun⟩
      intro key kept
      refine (later.field key (kept.imp_right List.forall_mem_of_forall_mem_cons)).trans ?_
      rw [now.field]
      split
      · rfl
      · rename_i free
        have absent := (kept.resolve_left free) properties List.mem_cons_self
        rw [absent, Option.none_or]

end StepNode

namespace Graph

variable {graph : Graph} {name other : String} {i j : Nat}

/-! ## Updates of a graph -/

theorem indexOf?_eq_outline (graph : Graph) (name : String) :
    graph.indexOf? name = graph.outline.findIdx? fun step => step.1 = name := by
  rw [indexOf?, outline, List.findIdx?_map]
  rfl

/-- A step is found where it was found before, wherever properties were set. -/
theorem indexOf?_setProperties (graph : Graph) (i : Nat) (properties : Fields) (name : String) :
    ({ graph with steps := graph.steps.modify i (·.setProperties properties) } : Graph).indexOf?
      name = graph.indexOf? name := by
  rw [indexOf?_eq_outline, outline_setProperties, ← indexOf?_eq_outline]

theorem updateFields_eq_ok (place : graph.indexOf? name = some i) (properties : Fields) :
    graph.updateFields name properties =
      .ok { graph with steps := graph.steps.modify i (·.setProperties properties) } := by
  rw [updateFields, place]

theorem perform_update_of_some (place : graph.indexOf? name = some i) (properties : Fields) :
    graph.perform (.update name properties) =
      { graph with steps := graph.steps.modify i (·.setProperties properties) } := by
  simp [perform, apply, updateFields_eq_ok place, Except.map]

theorem perform_update_of_none (missing : graph.indexOf? name = none) (properties : Fields) :
    graph.perform (.update name properties) = graph := by
  simp [perform, apply, updateFields, missing, Except.map]

/-- Different names have different places. -/
theorem indexOf?_ne (place : graph.indexOf? name = some i)
    (otherPlace : graph.indexOf? other = some j) (different : other ≠ name) : i ≠ j := by
  rintro rfl
  obtain ⟨_, found, -⟩ := List.findIdx?_eq_some_iff_getElem.mp place
  obtain ⟨_, otherFound, -⟩ := List.findIdx?_eq_some_iff_getElem.mp otherPlace
  exact different ((of_decide_eq_true otherFound).symm.trans (of_decide_eq_true found))

/-- One graph is another after properties were set in the step with a given name. -/
def UpdatedAt (graph : Graph) (name : String) (properties : Fields) (changed : Graph) : Prop :=
  ∃ i node updated, graph.indexOf? name = some i ∧ graph.steps[i]? = some node ∧
    StepNode.Updated properties.get? node updated ∧
      changed = { graph with steps := graph.steps.set i updated }

theorem updatedAt_updateFields (place : graph.indexOf? name = some i) (properties : Fields) :
    graph.UpdatedAt name properties
      { graph with steps := graph.steps.modify i (·.setProperties properties) } := by
  have within : i < graph.steps.length := indexOf?_lt place
  have found : graph.steps[i]? = some graph.steps[i] := List.getElem?_eq_getElem within
  refine ⟨i, graph.steps[i], _, place, found,
    StepNode.updated_setProperties graph.steps[i] properties, ?_⟩
  rw [List.modify_eq_set, found]
  rfl

theorem modify_setProperties_twice (steps : List StepNode) (i : Nat) {first second : Fields}
    (text : ∀ value, second.get? "label" = some value → ∃ label, value = .string label) :
    (steps.modify i (·.setProperties first)).modify i (·.setProperties second) =
      steps.modify i (·.setProperties (first.override second)) := by
  rw [List.modify_modify_eq]
  congr 1
  funext node
  exact StepNode.setProperties_setProperties node text

/-! ## Many updates -/

/-- The properties that updates give to the step at a place, in order. -/
def givenAt (graph : Graph) (updates : List (String × Fields)) (i : Nat) : List Fields :=
  (updates.filter fun update => graph.indexOf? update.1 = some i).map Prod.snd

/-- The graph after updates, those that find no step among them. -/
def updateAll (graph : Graph) (updates : List (String × Fields)) : Graph :=
  graph.session (updates.map fun update => .update update.1 update.2)

theorem updateAll_cons (graph : Graph) (update : String × Fields) (rest : List (String × Fields)) :
    graph.updateAll (update :: rest) =
      (graph.perform (.update update.1 update.2)).updateAll rest := by
  rw [updateAll, List.map_cons, session_cons, updateAll]

theorem givenAt_cons (graph : Graph) (update : String × Fields) (rest : List (String × Fields))
    (i : Nat) : graph.givenAt (update :: rest) i =
      if graph.indexOf? update.1 = some i then update.2 :: graph.givenAt rest i
      else graph.givenAt rest i := by
  rw [givenAt, List.filter_cons]
  split <;> simp_all [givenAt]

/-- Each step gets what the updates give to it, in order, and that is all that they do. -/
theorem updateAll_eq (graph : Graph) (updates : List (String × Fields)) :
    (graph.updateAll updates).edges = graph.edges ∧
      (graph.updateAll updates).lastSuffix = graph.lastSuffix ∧
      (graph.updateAll updates).size = graph.size ∧
      ∀ i, (graph.updateAll updates).steps[i]? =
        graph.steps[i]?.map fun node => (graph.givenAt updates i).foldl .setProperties node := by
  induction updates generalizing graph with
  | nil => exact ⟨rfl, rfl, rfl, fun i => by simp [updateAll, session, givenAt]⟩
  | cons update rest ih =>
      rw [updateAll_cons]
      cases place : graph.indexOf? update.1 with
      | none =>
          simp only [perform_update_of_none place, givenAt_cons, place, reduceCtorEq, if_false]
          exact ih graph
      | some j =>
          rw [perform_update_of_some place]
          obtain ⟨edges, lastSuffix, size, steps⟩ := ih { graph with
            steps := graph.steps.modify j (·.setProperties update.2) }
          refine ⟨edges, lastSuffix, size.trans (List.length_modify ..), fun i => ?_⟩
          rw [steps i, List.getElem?_modify, givenAt_cons, place]
          simp only [givenAt, indexOf?_setProperties]
          cases graph.steps[i]? with
          | none => rfl
          | some node => by_cases here : j = i <;> simp [here]

/-- To set properties of a step twice is to set them once with the second ones over the first,
provided that a second label is text, and updates of two different steps commute. Any updates
together keep the edges, the last suffix and the number of steps. At each place they keep name,
type and position, and the fields under all keys that they do not give to that step or that name
no field, and they keep a step as it is if they give nothing to it. -/
theorem updates_compose (graph : Graph) {name : String} (known : name ∈ graph.names)
    (first second : Fields)
    (text : ∀ value, second.get? "label" = some value → ∃ label, value = .string label) :
    (∃ once both, graph.updateFields name first = .ok once ∧
      once.updateFields name second = .ok both ∧
      graph.updateFields name (first.override second) = .ok both ∧
      graph.UpdatedAt name (first.override second) both) ∧
    (∀ other ∈ graph.names, other ≠ name → ∀ properties, ∃ one two both,
      graph.updateFields name first = .ok one ∧ one.updateFields other properties = .ok both ∧
      graph.updateFields other properties = .ok two ∧ two.updateFields name first = .ok both) ∧
    ∀ updates, (graph.updateAll updates).edges = graph.edges ∧
      (graph.updateAll updates).lastSuffix = graph.lastSuffix ∧
      (graph.updateAll updates).size = graph.size ∧
      ∀ i node, graph.steps[i]? = some node → ∃ updated,
        (graph.updateAll updates).steps[i]? = some updated ∧
          StepNode.KeepsBut (graph.givenAt updates i) node updated := by
  obtain ⟨i, place⟩ := exists_indexOf?_eq known
  refine ⟨?_, ?_, ?_⟩
  · have again := (indexOf?_setProperties graph i first name).trans place
    refine ⟨_, _, updateFields_eq_ok place first, updateFields_eq_ok again second, ?_, ?_⟩
    · rw [updateFields_eq_ok place, modify_setProperties_twice graph.steps i text]
    · rw [modify_setProperties_twice graph.steps i text]
      exact updatedAt_updateFields place (first.override second)
  · intro other member different properties
    obtain ⟨j, otherPlace⟩ := exists_indexOf?_eq member
    have apart : i ≠ j := indexOf?_ne place otherPlace different
    refine ⟨_, _, _, updateFields_eq_ok place first,
      updateFields_eq_ok ((indexOf?_setProperties graph i first other).trans otherPlace) properties,
      updateFields_eq_ok otherPlace properties, ?_⟩
    rw [updateFields_eq_ok ((indexOf?_setProperties graph j properties name).trans place) first]
    simp only [List.modify_modify_ne _ _ _ apart]
  · intro updates
    obtain ⟨edges, lastSuffix, size, steps⟩ := updateAll_eq graph updates
    refine ⟨edges, lastSuffix, size, fun i node found => ⟨_, ?_, StepNode.keepsBut_foldl _ node⟩⟩
    rw [steps i, found]
    rfl

/-- What is set of a waiting step first, a name and a label among it. -/
def firstSettings : Fields :=
  .ofMembers [("name", .string "renamed"), ("label", .string "Wait"), ("delayMs", .integer 50)]

/-- What is set of it then. A field that is null stays in the bag as one. -/
def secondSettings : Fields :=
  .ofMembers [("type", .null), ("label", .string "Wait a bit"), ("delayMs", .null),
    ("batchSize", .integer 3)]

/-- Two steps, one of which has a field under a key that no update sets. -/
def waiting : Graph where
  steps := [⟨"wait", "delay", "", .ofMembers [("name", .bool true)], .origin⟩,
    ⟨"tell", "notification", "Tell", .empty, .origin⟩]
  edges := [⟨"wait-tell", "wait", "tell"⟩]

theorem updates_compose_waiting :
    ("wait" ∈ waiting.names ∧ ∀ value, secondSettings.get? "label" = some value →
      ∃ label, value = .string label) ∧
    (∃ once both, waiting.updateFields "wait" firstSettings = .ok once ∧
      once.updateFields "wait" secondSettings = .ok both ∧
      waiting.updateFields "wait" (firstSettings.override secondSettings) = .ok both ∧
      waiting.UpdatedAt "wait" (firstSettings.override secondSettings) both) ∧
    ("tell" ∈ waiting.names ∧ "tell" ≠ "wait") ∧
    (∃ one two both, waiting.updateFields "wait" firstSettings = .ok one ∧
      one.updateFields "tell" secondSettings = .ok both ∧
      waiting.updateFields "tell" secondSettings = .ok two ∧
      two.updateFields "wait" firstSettings = .ok both) := by
  have known : "wait" ∈ waiting.names := by decide
  have other : "tell" ∈ waiting.names := by decide
  have text : ∀ value, secondSettings.get? "label" = some value →
      ∃ label, value = .string label := by
    have given : secondSettings.get? "label" = some (.string "Wait a bit") := by decide
    intro value found
    exact ⟨_, (Option.some.inj (given.symm.trans found)).symm⟩
  obtain ⟨composed, commuting, -⟩ := updates_compose waiting known firstSettings secondSettings text
  exact ⟨⟨known, text⟩, composed, ⟨other, by decide⟩,
    commuting "tell" other (by decide) secondSettings⟩

/-- The name is not changed, and the field of that name keeps what it held before. -/
example : (waiting.updateAll [("wait", firstSettings), ("wait", secondSettings)]).steps.map
    (fun node => (node.name, node.label, node.fields.entries)) =
      [("wait", "Wait a bit", [("batchSize", .integer 3), ("delayMs", .null),
        ("name", .bool true)]), ("tell", "Tell", [])] := by
  rfl

end Graph

end Workflow
