import Workflow.Proofs.Definition.LeastOrder
import Workflow.Proofs.Step.Acceptance

/-!
# Which graphs compile, and why others do not

What a graph has to meet is said here without a word about how it is checked. Its name and version
must not be blank, its edges must have no cycle if steps are to be emitted in their order, and
every step must meet its contract.

A graph compiles exactly if it meets all of this. Otherwise the error is the first violation: of
the name, the version, the edges and the steps in this sequence, and of several steps by the one
that would be emitted first. Which one that is depends on the order that is asked for, so the same
graph can be refused for one step in insertion order and for another in the order of its edges. For
a graph that was opened from a definition the order makes no difference.
-/

namespace Workflow

namespace Graph

variable {graph : Graph} {order : StepOrder} {name version : String}

/-! ## The order in which steps are emitted -/

/-- The places of the steps as they are emitted: as they were inserted, or in the least of the
orders that follow the edges. -/
inductive Emits (graph : Graph) : StepOrder → List Nat → Prop
  | insertion : Emits graph .insertion (List.range graph.size)
  | edges {places : List Nat} : graph.Orders places →
      (∀ other, graph.Orders other → List.Lex (· < ·) places other ∨ places = other) →
      Emits graph .edges places

/-- Edges with a cycle cannot be followed: a step would come before itself. -/
theorem Orders.not_cyclic {places : List Nat} (orders : graph.Orders places)
    (formed : graph.WellFormed) : ¬ graph.Cyclic := by
  have follows := orders_iff_follows.mp orders
  have earlier : ∀ {i j}, Relation.TransGen (Emission.Linked graph.links) i j →
      places.idxOf i < places.idxOf j := by
    intro i j path
    induction path with
    | single linked => exact follows.source_first _ _ linked
    | tail _ linked ih => exact Nat.lt_trans ih (follows.source_first _ _ linked)
  intro cyclic
  obtain ⟨place, path⟩ := (cyclic_iff_linked formed).mp cyclic
  exact Nat.lt_irrefl _ (earlier path)

theorem placesIn?_eq_some_iff (formed : graph.WellFormed) {places : List Nat} :
    graph.placesIn? order = some places ↔ graph.Emits order places := by
  cases order with
  | insertion =>
      constructor
      · rintro ⟨⟩
        exact .insertion
      · rintro ⟨⟩
        rfl
  | edges =>
      constructor
      · intro placed
        exact .edges (orders_of_edgeOrder? placed) fun other => edgeOrder?_least placed
      · rintro (_ | ⟨orders, least⟩)
        rw [placesIn?]
        cases placed : graph.edgeOrder? with
        | none =>
            have cyclic : graph.Cyclic := (edgeOrder?_eq_none_iff formed).mp placed
            exact absurd cyclic (orders.not_cyclic formed)
        | some found =>
            -- both orders are least, so neither comes before the other
            obtain before | rfl := least found (orders_of_edgeOrder? placed)
            · obtain after | rfl := edgeOrder?_least placed orders
              · exact absurd before (asymm after)
              · rfl
            · rfl

theorem placesIn?_eq_none_iff (formed : graph.WellFormed) :
    graph.placesIn? order = none ↔ order = .edges ∧ graph.Cyclic := by
  cases order with
  | insertion => simp [placesIn?]
  | edges => simp [placesIn?, edgeOrder?_eq_none_iff formed]

/-! ## The contract of a graph -/

/-- What a graph has to meet to be compiled in an order, under a name and a version. -/
structure MeetsContract (graph : Graph) (order : StepOrder) (name version : String) : Prop where
  named : isBlank name = false
  versioned : isBlank version = false
  acyclic : order = .edges → ¬ graph.Cyclic
  steps : ∀ node ∈ graph.steps, node.MeetsContract

/-- What a graph fails to meet first. Of its steps this is the first to be emitted that does not
meet its own contract. -/
inductive FirstViolation (graph : Graph) (order : StepOrder) (name version : String) :
    CompileError → Prop
  | name : isBlank name = true → FirstViolation graph order name version .blankName
  | version : isBlank name = false → isBlank version = true →
      FirstViolation graph order name version .blankVersion
  | cycle : isBlank name = false → isBlank version = false → order = .edges → graph.Cyclic →
      FirstViolation graph order name version .cycle
  | step {places : List Nat} {before after : List StepNode} {node : StepNode}
      {error : CompileError} : isBlank name = false → isBlank version = false →
      graph.Emits order places → graph.stepsAt places = before ++ node :: after →
      (∀ earlier ∈ before, earlier.MeetsContract) → node.FirstViolation error →
      FirstViolation graph order name version error

theorem exists_compiled_iff {nodes : List StepNode} :
    (∃ steps, Compiled nodes steps) ↔ ∀ node ∈ nodes, node.MeetsContract := by
  simp only [Compiled, ← Except.mapM_eq_ok_iff, Except.exists_mapM_eq_ok_iff,
    StepNode.exists_compile_iff]

theorem mapM_compile_eq_error_iff {nodes : List StepNode} {error : CompileError} :
    nodes.mapM StepNode.compile = .error error ↔ ∃ before node after,
      nodes = before ++ node :: after ∧ (∀ earlier ∈ before, earlier.MeetsContract) ∧
        node.FirstViolation error := by
  simp only [Except.mapM_eq_error_iff, StepNode.exists_compile_iff, StepNode.compile_eq_error_iff]

theorem exists_compile_iff (formed : graph.WellFormed) :
    (∃ definition, graph.compile order name version = .ok definition) ↔
      graph.MeetsContract order name version := by
  simp only [compile_eq_ok_iff]
  constructor
  · rintro ⟨_, named, versioned, places, steps, placed, compiled, -⟩
    have all : (graph.stepsAt places).Perm graph.steps := stepsAt_perm (placesIn?_perm placed)
    refine ⟨named, versioned, fun edges cyclic => ?_, fun node member => ?_⟩
    · cases placed.symm.trans ((placesIn?_eq_none_iff formed).mpr ⟨edges, cyclic⟩)
    · exact exists_compiled_iff.mp ⟨steps, compiled⟩ node (all.mem_iff.mpr member)
  · rintro ⟨named, versioned, acyclic, contracts⟩
    cases placed : graph.placesIn? order with
    | none =>
        obtain ⟨edges, cyclic⟩ := (placesIn?_eq_none_iff formed).mp placed
        exact absurd cyclic (acyclic edges)
    | some places =>
        have all : (graph.stepsAt places).Perm graph.steps := stepsAt_perm (placesIn?_perm placed)
        obtain ⟨steps, compiled⟩ := exists_compiled_iff.mpr fun node member =>
          contracts node (all.mem_iff.mp member)
        exact ⟨_, named, versioned, places, steps, rfl, compiled, rfl⟩

theorem compile_eq_error_iff (formed : graph.WellFormed) {error : CompileError} :
    graph.compile order name version = .error error ↔
      graph.FirstViolation order name version error := by
  constructor
  · intro failed
    -- each check is made after those before it have passed
    rw [compile] at failed
    by_cases blankName : isBlank name = true
    · rw [if_pos blankName] at failed
      cases failed
      exact .name blankName
    · rw [if_neg blankName] at failed
      have named := Bool.eq_false_of_not_eq_true blankName
      by_cases blankVersion : isBlank version = true
      · rw [if_pos blankVersion] at failed
        cases failed
        exact .version named blankVersion
      · rw [if_neg blankVersion] at failed
        have versioned := Bool.eq_false_of_not_eq_true blankVersion
        cases placed : graph.placesIn? order with
        | none =>
            rw [placed] at failed
            cases failed
            obtain ⟨edges, cyclic⟩ := (placesIn?_eq_none_iff formed).mp placed
            exact .cycle named versioned edges cyclic
        | some places =>
            rw [placed] at failed
            obtain ⟨before, node, after, split, earlier, violation⟩ :=
              mapM_compile_eq_error_iff.mp (Except.map_eq_error_iff.mp failed)
            have emitted := (placesIn?_eq_some_iff formed).mp placed
            exact .step named versioned emitted split earlier violation
  · rintro (blankName | ⟨named, blankVersion⟩ | ⟨named, versioned, edges, cyclic⟩ |
      ⟨named, versioned, emitted, split, earlier, violation⟩)
    · simp [compile, blankName]
    · simp [compile, named, blankVersion]
    · simp [compile, named, versioned, (placesIn?_eq_none_iff formed).mpr ⟨edges, cyclic⟩]
    · have failed := mapM_compile_eq_error_iff.mpr ⟨_, _, _, split, earlier, violation⟩
      have placed := (placesIn?_eq_some_iff formed).mpr emitted
      simp [compile, named, versioned, placed, Except.map_eq_error_iff, failed]

/-- A graph compiles exactly if it meets its contract, and fails exactly with what it fails to meet
first. -/
theorem compile_settled_by_contract (reachable : graph.Reachable) (order : StepOrder)
    (name version : String) :
    ((∃ definition, graph.compile order name version = .ok definition) ↔
      graph.MeetsContract order name version) ∧
    ∀ error, graph.compile order name version = .error error ↔
      graph.FirstViolation order name version error :=
  ⟨exists_compile_iff reachable.wellFormed, fun _ => compile_eq_error_iff reachable.wellFormed⟩

/-- Two steps that do not meet their contracts, joined against the order of insertion. -/
def twoFaults : Graph where
  steps := [⟨"wait", "delay", "wait",
      .ofMembers [("delayMs", .number (.integer (-1) (by decide)))], .origin⟩,
    ⟨"call", "webhook", "call", .empty, .origin⟩]
  edges := [⟨"call-wait", "call", "wait"⟩]

/-- Which of the two is reported depends on the order in which they would be emitted. -/
theorem compile_settled_by_contract_twoFaults :
    twoFaults.Reachable ∧
      twoFaults.FirstViolation .insertion "order" "1"
        (.invalidField "wait" "delayMs" (.belowMinimum 0 (-1))) ∧
      twoFaults.FirstViolation .edges "order" "1" (.unknownType "call" "webhook") ∧
      ¬ twoFaults.MeetsContract .edges "order" "1" := by
  have built : Graph.ofParts twoFaults.steps twoFaults.edges = .ok twoFaults := by rfl
  have reachable : twoFaults.Reachable := .ofParts built
  have inserted : twoFaults.compile .insertion "order" "1" =
      .error (.invalidField "wait" "delayMs" (.belowMinimum 0 (-1))) := by rfl
  have followed : twoFaults.compile .edges "order" "1" =
      .error (.unknownType "call" "webhook") := by rfl
  obtain ⟨-, fails⟩ := compile_settled_by_contract reachable .insertion "order" "1"
  obtain ⟨accepts, alsoFails⟩ := compile_settled_by_contract reachable .edges "order" "1"
  refine ⟨reachable, (fails _).mp inserted, (alsoFails _).mp followed, fun meets => ?_⟩
  obtain ⟨definition, compiled⟩ := accepts.mpr meets
  cases followed.symm.trans compiled

/-! ## Graphs that were opened -/

/-- A graph opened from a definition is sorted by its edges into the order that it has already. So
it comes to the same in both orders, whether it compiles or not, and it is never refused for a
cycle. -/
theorem compile_opened_orders_agree {value : Json} (opened : ofJson value = .ok graph)
    (name version : String) :
    graph.edgeOrder? = some (List.range graph.size) ∧
      graph.compile .edges name version = graph.compile .insertion name version ∧
      graph.compileWarnings .edges name version = graph.compileWarnings .insertion name version ∧
      graph.compile .edges name version ≠ .error .cycle := by
  have forward : graph.Forward := forward_of_ofJson opened
  have same := forward.compile_eq .edges name version
  refine ⟨forward.edgeOrder?_eq, same, by rw [compileWarnings, compileWarnings, same], ?_⟩
  rw [same]
  intro refused
  cases (compile_eq_error_iff (ofJson_wellFormed opened)).mp refused with
  | cycle _ _ edges => cases edges
  | step _ _ _ _ _ violation => cases violation

/-- Four steps of which the first two and the last two are joined under the same name. -/
def hyphenated : Json :=
  .object [("steps", .array [
    .object [("name", .string "a"), ("type", .string "condition")],
    .object [("name", .string "b-c"), ("type", .string "delay")],
    .object [("name", .string "a-b"), ("type", .string "delay")],
    .object [("name", .string "c"), ("type", .string "delay")]])]

/-- The second of the two edges gets a number, and nothing is reordered. -/
theorem compile_opened_orders_agree_hyphenated : ∃ graph, ofJson hyphenated = .ok graph ∧
    graph.edges.map Edge.id = ["a-b-c", "b-c-a-b", "a-b-c-1"] ∧
    graph.edgeOrder? = some [0, 1, 2, 3] ∧
    graph.compile .edges "order" "1" = graph.compile .insertion "order" "1" ∧
    graph.compileWarnings .edges "order" "1" = graph.compileWarnings .insertion "order" "1" ∧
    graph.compile .edges "order" "1" ≠ .error .cycle := by
  obtain ⟨graph, opened⟩ : ∃ graph, ofJson hyphenated = .ok graph := ⟨_, rfl⟩
  have drawn : graph.edges.map Edge.id = ["a-b-c", "b-c-a-b", "a-b-c-1"] ∧ graph.size = 4 := by
    cases opened
    exact ⟨rfl, rfl⟩
  obtain ⟨placed, agree⟩ := compile_opened_orders_agree opened "order" "1"
  rw [drawn.2] at placed
  exact ⟨graph, opened, drawn.1, placed, agree⟩

end Graph

end Workflow
