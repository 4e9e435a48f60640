import Workflow.Proofs.Graph.Origin

/-!
# Graph files are read as they were written

The file of a graph is read as a graph with the same steps and edges. Only the last suffix
is not written, so it starts again at zero, and the graph is the same one just if none of
its steps got a generated name since it was built. No compiler can tell, since the last
suffix has no part in a definition.
-/

namespace Workflow

/-! ## The values that are written -/

theorem Position.legible {position : Position} (x : (Number.real position.x).ReadsBack)
    (y : (Number.real position.y).ReadsBack) : position.toJson.Legible := by
  refine .object ?_
  intro entry member
  simp only [List.mem_cons, List.not_mem_nil, or_false] at member
  rcases member with rfl | rfl
  · exact .number x
  · exact .number y

/-- The coordinates of the first slots of the grid are whole numbers that are read back. -/
theorem Position.legible_grid : ∀ index < 16, (Position.grid index).toJson.Legible := by
  have whole : ∀ index < 16,
      ((Position.grid index).x.text = Nat.toDigits 10 (200 * (index % 4)) ++ ['.', '0'] ∧
        Number.ofDigits? false (Nat.toDigits 10 (200 * (index % 4))) ['0'] none =
          some (.real (Position.grid index).x)) ∧
      (Position.grid index).y.text = Nat.toDigits 10 (120 * (index / 4)) ++ ['.', '0'] ∧
        Number.ofDigits? false (Nat.toDigits 10 (120 * (index / 4))) ['0'] none =
          some (.real (Position.grid index).y) := by
    decide +kernel
  have digits : ∀ c ∈ ['0'], c.isDigit = true := List.forall_mem_singleton.mpr rfl
  have some_ : ['0'] ≠ [] := List.cons_ne_nil _ _
  intro index small
  obtain ⟨⟨writtenX, valueX⟩, writtenY, valueY⟩ := whole index small
  exact Position.legible (Number.readsBack_real writtenX digits some_ valueX)
    (Number.readsBack_real writtenY digits some_ valueY)

theorem StepNode.legible {node : StepNode} (fields : node.fields.toJson.Legible)
    (position : node.position.toJson.Legible) : node.toJson.Legible := by
  refine .object ?_
  intro entry member
  simp only [List.mem_cons, List.not_mem_nil, or_false] at member
  rcases member with rfl | rfl | rfl | rfl | rfl
  · exact .string _
  · exact .string _
  · exact .string _
  · exact fields
  · exact position

/-- The fields of a step may nest as deep as the room inside it allows. -/
theorem StepNode.within_iff {node : StepNode} {room : Nat} :
    node.toJson.Within (room + 1) ↔ node.fields.toJson.Within room := by
  constructor
  · rintro (_ | _)
    rename_i inside
    exact inside ("fields", node.fields.toJson) (by simp)
  · intro fields
    refine .object ?_
    intro entry member
    simp only [List.mem_cons, List.not_mem_nil, or_false] at member
    rcases member with rfl | rfl | rfl | rfl | rfl
    · exact .string _
    · exact .string _
    · exact .string _
    · exact fields
    · cases fields with
      | object _ =>
          refine .object ?_
          intro entry member
          simp only [List.mem_cons, List.not_mem_nil, or_false] at member
          rcases member with rfl | rfl <;> exact .number _

theorem Edge.legible (edge : Edge) : edge.toJson.Legible := by
  refine .object ?_
  intro entry member
  simp only [List.mem_cons, List.not_mem_nil, or_false] at member
  rcases member with rfl | rfl | rfl <;> exact .string _

theorem Edge.within (edge : Edge) {room : Nat} : edge.toJson.Within (room + 1) := by
  refine .object ?_
  intro entry member
  simp only [List.mem_cons, List.not_mem_nil, or_false] at member
  rcases member with rfl | rfl | rfl <;> exact .string _

namespace Graph

variable {graph : Graph}

theorem toJson_legible (h : ∀ node ∈ graph.steps, node.toJson.Legible) :
    graph.toJson.Legible := by
  refine .object ?_
  intro entry member
  simp only [List.mem_cons, List.not_mem_nil, or_false] at member
  rcases member with rfl | rfl
  · refine .array fun item member => ?_
    obtain ⟨node, listed, rfl⟩ := List.mem_map.mp member
    exact h node listed
  · refine .array fun item member => ?_
    obtain ⟨edge, -, rfl⟩ := List.mem_map.mp member
    exact edge.legible

/-- The fields of the steps lie three containers deep, and nothing else lies deeper. -/
theorem toJson_within_iff {room : Nat} : graph.toJson.Within (room + 3) ↔
    ∀ node ∈ graph.steps, node.fields.toJson.Within room := by
  constructor
  · rintro (_ | _) node member
    rename_i inside
    cases inside ("steps", .array (graph.steps.map StepNode.toJson)) (by simp) with
    | array inside =>
        exact StepNode.within_iff.mp (inside node.toJson (List.mem_map_of_mem member))
  · intro inside
    refine .object ?_
    intro entry member
    simp only [List.mem_cons, List.not_mem_nil, or_false] at member
    rcases member with rfl | rfl
    · refine .array fun item member => ?_
      obtain ⟨node, listed, rfl⟩ := List.mem_map.mp member
      exact StepNode.within_iff.mpr (inside node listed)
    · refine .array fun item member => ?_
      obtain ⟨edge, -, rfl⟩ := List.mem_map.mp member
      exact edge.within

end Graph

/-! ## Decoding -/

theorem Position.ofTree?_ofJson (position : Position) :
    Position.ofTree? (ParseTree.ofJson position.toJson) = some position := by
  rfl

theorem Edge.ofTree?_ofJson (edge : Edge) :
    Edge.ofTree? (ParseTree.ofJson edge.toJson) = some edge := by
  rfl

/-- A field bag is decoded as it was encoded if it is in order. -/
theorem Fields.ofTree?_ofJson {fields : Fields} {room : Nat} (ordered : fields.Ordered)
    (within : fields.toJson.Within room) :
    Fields.ofTree? room (ParseTree.ofJson fields.toJson) = some fields := by
  rw [Fields.ofTree?, ParseTree.toJson?_ofJson within, ordered.toJson.sortKeys_eq]
  exact congrArg some fields.ofMembers_entries

theorem StepNode.ofTree?_ofJson {node : StepNode} (ordered : node.fields.Ordered)
    (within : node.fields.toJson.Within (Json.maxDepth - 3)) :
    StepNode.ofTree? (ParseTree.ofJson node.toJson) = some node := by
  have decoded : StepNode.ofTree? (ParseTree.ofJson node.toJson) =
      (Fields.ofTree? (Json.maxDepth - 3) (ParseTree.ofJson node.fields.toJson)).bind
        fun fields => some { node with fields } := by
    rfl
  rw [decoded, Fields.ofTree?_ofJson ordered within]
  rfl

namespace Graph

variable {graph : Graph}

theorem partsOfTree?_ofJson (ordered : graph.Ordered)
    (within : graph.toJson.Within Json.maxDepth) :
    partsOfTree? (ParseTree.ofJson graph.toJson) = some (graph.steps, graph.edges) := by
  have steps_back : ParseTree.list? StepNode.ofTree?
      (ParseTree.ofJson (.array (graph.steps.map StepNode.toJson))) = some graph.steps :=
    ParseTree.list?_ofJson fun node member =>
      StepNode.ofTree?_ofJson (ordered node member) (toJson_within_iff.mp within node member)
  have edges_back : ParseTree.list? Edge.ofTree?
      (ParseTree.ofJson (.array (graph.edges.map Edge.toJson))) = some graph.edges :=
    ParseTree.list?_ofJson fun edge _ => edge.ofTree?_ofJson
  have decoded : partsOfTree? (ParseTree.ofJson graph.toJson) =
      (ParseTree.list? StepNode.ofTree?
        (ParseTree.ofJson (.array (graph.steps.map StepNode.toJson)))).bind fun steps =>
          (ParseTree.list? Edge.ofTree?
            (ParseTree.ofJson (.array (graph.edges.map Edge.toJson)))).bind fun edges =>
              some (steps, edges) := by
    rfl
  rw [decoded, steps_back, edges_back]
  rfl

/-- The text of a well-formed graph is read as that graph with no suffix used yet. -/
theorem ofText_of_readFirst {text : String} (formed : graph.WellFormed)
    (ordered : graph.Ordered) (within : graph.toJson.Within Json.maxDepth)
    (read : ParseTree.readFirst text = some (ParseTree.ofJson graph.toJson, [])) :
    ofText text = .ok { graph with lastSuffix := 0 } :=
  ofText_eq_ok_iff.mpr ⟨_, [], graph.steps, graph.edges, read,
    partsOfTree?_ofJson ordered within,
    ofParts_eq_ok_iff.mpr ⟨formed.congr rfl rfl, rfl⟩, rfl⟩

/-- The last suffix has no part in a definition. -/
theorem compile_forget (graph : Graph) (order : StepOrder) (name version : String) :
    ({ graph with lastSuffix := 0 } : Graph).compile order name version =
      graph.compile order name version := by
  cases order <;> rfl

/-- Either file of a graph is read as a graph with the same steps and edges, whatever edits
the graph went through. It is the same graph exactly if no step got a generated name since
the graph was built, and it always compiles alike. Taken for granted is that the doubles in
the file are read back, and that the file nests no deeper than a reader follows. -/
theorem file_keeps {start : Graph} {edits : List Edit} (fresh : start.Fresh)
    (inOrder : ∀ edit ∈ edits, edit.Ordered)
    (legible : (start.session edits).toJson.Legible)
    (within : (start.session edits).toJson.Within Json.maxDepth) :
    ∀ text ∈ [(start.session edits).text, (start.session edits).prettyText],
      ∃ graph, ofText text = .ok graph ∧ graph.steps = (start.session edits).steps ∧
        graph.edges = (start.session edits).edges ∧ graph.lastSuffix = 0 ∧
        (graph = start.session edits ↔ ¬start.Generates edits) ∧
        ∀ order name version, graph.compile order name version =
          (start.session edits).compile order name version := by
  obtain ⟨ordered, unused⟩ := fresh.spec
  have unnamed := (session_lastSuffix_eq_zero_iff start edits).trans (and_iff_right unused)
  have formed := (fresh.reachable.session edits).wellFormed
  have stays := ordered.session inOrder
  generalize start.session edits = graph at *
  intro text listed
  have read : ParseTree.readFirst text = some (ParseTree.ofJson graph.toJson, []) := by
    rcases List.mem_pair.mp listed with rfl | rfl
    · exact legible.readFirst_compact
    · exact legible.readFirst_pretty
  refine ⟨_, ofText_of_readFirst formed stays within read, rfl, rfl, rfl, ?_,
    graph.compile_forget⟩
  rw [← unnamed]
  constructor
  · intro same
    exact congrArg Graph.lastSuffix same.symm
  · intro zero
    rw [← zero]

/-- A field that nests. -/
def auditTrail : Json :=
  .array [.object [("by", .string "Ada")]]

/-- Two steps are added and joined twice, one edge is removed again, the first step gets a
field that nests, and a third step comes with its own name and place. -/
def sketch : List Edit :=
  [.add .delay "Wait" 1000, .add .notification "Tell" 1000,
    .connect "delay-1000" "notification-1001", .connect "delay-1000" "notification-1001",
    .disconnect "delay-1000-notification-1001",
    .update "delay-1000" (.ofMembers [("audit", auditTrail)]),
    .insert ⟨"end", "delay", "End", .empty, .grid 5⟩]

theorem steps_sketch : (Graph.empty.session sketch).steps =
    [⟨"delay-1000", "delay", "Wait", .ofMembers [("audit", auditTrail)], .grid 0⟩,
      ⟨"notification-1001", "notification", "Tell", .empty, .grid 1⟩,
      ⟨"end", "delay", "End", .empty, .grid 5⟩] := by
  decide +kernel

theorem file_keeps_sketch :
    Graph.empty.Fresh ∧ (∀ edit ∈ sketch, edit.Ordered) ∧
      (Graph.empty.session sketch).toJson.Legible ∧
      (Graph.empty.session sketch).toJson.Within Json.maxDepth ∧
      ∀ text ∈ [(Graph.empty.session sketch).text, (Graph.empty.session sketch).prettyText],
        ∃ graph, ofText text = .ok graph ∧ graph.steps = (Graph.empty.session sketch).steps ∧
          graph.edges = (Graph.empty.session sketch).edges ∧ graph.lastSuffix = 0 ∧
          (graph = Graph.empty.session sketch ↔ ¬Graph.empty.Generates sketch) ∧
          ∀ order name version, graph.compile order name version =
            (Graph.empty.session sketch).compile order name version := by
  have inOrder : ∀ edit ∈ sketch, edit.Ordered := by
    have audit : auditTrail.Ordered :=
      .array (List.forall_mem_singleton.mpr
        (.object (List.pairwise_singleton _ _) (List.forall_mem_singleton.mpr (.string "Ada"))))
    intro edit member
    simp only [sketch, List.mem_cons, List.not_mem_nil, or_false] at member
    rcases member with rfl | rfl | rfl | rfl | rfl | rfl | rfl
    · trivial
    · trivial
    · trivial
    · trivial
    · trivial
    · exact Fields.ordered_ofMembers (List.forall_mem_singleton.mpr audit)
    · exact Fields.ordered_empty
  have legible : (Graph.empty.session sketch).toJson.Legible := by
    have audit : auditTrail.Legible :=
      .array (List.forall_mem_singleton.mpr
        (.object (List.forall_mem_singleton.mpr (.string "Ada"))))
    have none : Fields.empty.toJson.Legible := .object (List.forall_mem_nil _)
    refine toJson_legible ?_
    rw [steps_sketch]
    intro node member
    simp only [List.mem_cons, List.not_mem_nil, or_false] at member
    rcases member with rfl | rfl | rfl
    · refine StepNode.legible (.object fun entry member => ?_)
        (Position.legible_grid 0 (by decide))
      rw [List.mem_singleton.mp (Fields.mem_of_mem_sortEntries member)]
      exact audit
    · exact StepNode.legible none (Position.legible_grid 1 (by decide))
    · exact StepNode.legible none (Position.legible_grid 5 (by decide))
  have within : (Graph.empty.session sketch).toJson.Within Json.maxDepth := by
    have audit {room : Nat} : auditTrail.Within (room + 2) :=
      .array (List.forall_mem_singleton.mpr
        (.object (List.forall_mem_singleton.mpr (.string "Ada"))))
    have none {room : Nat} : Fields.empty.toJson.Within (room + 1) :=
      .object (List.forall_mem_nil _)
    refine toJson_within_iff.mpr ?_
    rw [steps_sketch]
    intro node member
    simp only [List.mem_cons, List.not_mem_nil, or_false] at member
    rcases member with rfl | rfl | rfl
    · refine .object fun entry member => ?_
      rw [List.mem_singleton.mp (Fields.mem_of_mem_sortEntries member)]
      exact audit
    · exact none
    · exact none
  exact ⟨.empty, inOrder, legible, within, file_keeps .empty inOrder legible within⟩

end Graph

end Workflow
