import Workflow.Proofs.Graph.Editor
import Workflow.Proofs.Graph.Reachable

/-!
# What a session of edits keeps

An edit that is no removal removes no step, and no edit at all changes the name or the
type of a step that stays or moves it past another. `Retains` says so of two graphs: the
steps of the first that are not gone stand first in the second, in their order. It is
carried from one edit to the next, so it holds of a whole session, together with the
well-formedness of the graph.
-/

namespace Workflow

namespace Graph

variable {graph changed : Graph}

/-! ## Steps that stay -/

/-- The steps of one graph that are not gone stand first in another, with their names and
types and in their order. What follows them is new, or comes back under a name that is gone. -/
def Retains (gone : String → Bool) (graph after : Graph) : Prop :=
  ∃ added, after.outline = (graph.outline.filter fun step => !gone step.1) ++ added ∧
    ∀ step ∈ added, step.1 ∈ graph.names → gone step.1 = true

/-- A step that is not gone is in both graphs. -/
theorem Retains.mem_names {gone : String → Bool} {after : Graph}
    (retains : graph.Retains gone after) {name : String} (member : name ∈ graph.names)
    (stays : gone name = false) : name ∈ after.names := by
  obtain ⟨added, outline, -⟩ := retains
  obtain ⟨step, listed, rfl⟩ := mem_names_iff.mp member
  refine mem_names_iff.mpr ⟨step, ?_, rfl⟩
  rw [outline]
  exact List.mem_append_left _ (List.mem_filter.mpr ⟨listed, by simp [stays]⟩)

theorem Retains.of_outline_eq {after : Graph} (same : after.outline = graph.outline)
    (gone : String → Bool) (none : ∀ name, gone name = false) : graph.Retains gone after :=
  ⟨[], by simp [same, none], fun _ member => absurd member List.not_mem_nil⟩

theorem Retains.trans {gone alsoGone : String → Bool} {middle after : Graph}
    (first : graph.Retains gone middle) (second : middle.Retains alsoGone after) :
    graph.Retains (fun name => gone name || alsoGone name) after := by
  obtain ⟨early, outlineFirst, newFirst⟩ := first
  obtain ⟨late, outlineSecond, newSecond⟩ := second
  refine ⟨(early.filter fun step => !alsoGone step.1) ++ late, ?_, ?_⟩
  · rw [outlineSecond, outlineFirst]
    simp [List.filter_append, List.filter_filter, Bool.and_comm]
  · intro step member known
    rw [Bool.or_eq_true]
    rcases List.mem_append.mp member with old | new
    · exact .inl (newFirst step (List.mem_of_mem_filter old) known)
    · by_cases stays : gone step.1 = false
      · have between := Retains.mem_names ⟨early, outlineFirst, newFirst⟩ known stays
        exact .inr (newSecond step new between)
      · exact .inl (by simpa using stays)

end Graph

/-- An edit takes the step with a given name out of a graph. -/
def Edit.removes : Edit → String → Bool
  | .remove step, name => name = step
  | _, _ => false

namespace Graph

variable {graph changed : Graph}

theorem Retains.appended {node : StepNode} {after : Graph} (free : node.name ∉ graph.names)
    (steps : after.steps = graph.steps ++ [node]) (gone : String → Bool)
    (none : ∀ name, gone name = false) : graph.Retains gone after := by
  refine ⟨[node.heading], by simp [outline, steps, none], ?_⟩
  intro step member known
  cases List.mem_singleton.mp member
  exact absurd known free

theorem Retains.without {name : String} {i : Nat} {after : Graph} (formed : graph.WellFormed)
    (place : graph.indexOf? name = some i) (steps : after.steps = graph.steps.eraseIdx i) :
    graph.Retains (Edit.removes (.remove name)) after := by
  refine ⟨[], ?_, fun _ member => absurd member List.not_mem_nil⟩
  rw [eraseIdx_eq_filter formed.names_nodup place] at steps
  simp only [outline, steps, List.append_nil, List.filter_map]
  congr 1
  apply List.filter_congr
  intro node _
  by_cases same : node.name = name <;> simp [Edit.removes, StepNode.heading, same]

/-- An edit that succeeds keeps every step but the one that it removes. -/
theorem Yields.retains {edit : Edit} (yields : graph.Yields edit changed)
    (formed : graph.WellFormed) : graph.Retains edit.removes changed := by
  cases yields with
  | added free => exact Retains.appended free rfl _ fun _ => rfl
  | inserted free => exact Retains.appended free rfl _ fun _ => rfl
  | @updated name properties i _ =>
      exact Retains.of_outline_eq (outline_setProperties graph i properties) _ fun _ => rfl
  | connected _ _ => exact Retains.of_outline_eq rfl _ fun _ => rfl
  | disconnected _ => exact Retains.of_outline_eq rfl _ fun _ => rfl
  | removed place => exact Retains.without formed place rfl

/-- A step of the graph can always be removed. -/
theorem exists_removeStep {name : String} (known : name ∈ graph.names) :
    ∃ answer, graph.removeStep name = .ok answer := by
  obtain ⟨node, found⟩ := Option.isSome_iff_exists.mp (contains_iff.mpr known)
  obtain ⟨i, place⟩ := exists_indexOf?_eq known
  exact ⟨_, by rw [removeStep, place, found]⟩

/-- Whether it succeeds or not, an edit keeps every step but the one that it removes. -/
theorem retains_perform (formed : graph.WellFormed) (edit : Edit) :
    graph.Retains edit.removes (graph.perform edit) := by
  rw [perform]
  cases applied : graph.apply edit with
  | ok answer => exact (yields_of_apply applied).retains formed
  | error error =>
      cases edit with
      | remove step =>
          -- There was nothing to remove, so nothing that the removal would have taken is kept.
          have unknown : step ∉ graph.names := by
            intro known
            obtain ⟨answer, done⟩ := exists_removeStep known
            rw [apply, done] at applied
            cases applied
          have all : (graph.outline.filter fun entry => !Edit.removes (.remove step) entry.1) =
              graph.outline := by
            apply List.filter_eq_self.mpr
            intro entry member
            have other : entry.1 ≠ step := fun same =>
              unknown (mem_names_iff.mpr ⟨entry, member, same⟩)
            simp [Edit.removes, other]
          exact ⟨[], by rw [all, List.append_nil], fun _ member => absurd member List.not_mem_nil⟩
      | _ => exact Retains.of_outline_eq rfl _ fun _ => rfl

/-! ## Sessions -/

@[simp] theorem session_cons (graph : Graph) (edit : Edit) (rest : List Edit) :
    graph.session (edit :: rest) = (graph.perform edit).session rest := by
  rw [session, List.foldl_cons, Editing.left_run_carryOut, session]

theorem Reachable.session (reachable : graph.Reachable) (edits : List Edit) :
    (graph.session edits).Reachable := by
  induction edits generalizing graph with
  | nil => exact reachable
  | cons edit rest ih =>
      rw [session_cons]
      exact ih (reachable.perform edit)

theorem retains_session (formed : graph.WellFormed) (edits : List Edit) :
    graph.Retains (fun name => edits.any (·.removes name)) (graph.session edits) := by
  induction edits generalizing graph with
  | nil => exact Retains.of_outline_eq rfl _ fun _ => rfl
  | cons edit rest ih =>
      rw [session_cons]
      exact (retains_perform formed edit).trans (ih (formed.perform edit))

/-- A session of edits on a graph, however it was built, leaves a well-formed graph. It
keeps every step that none of its edits removes, with its name and type and in front of
what is new, in the old order. And whatever edit comes next, if it fails then steps, edges
and last suffix are what they were. -/
theorem session_keeps (reachable : graph.Reachable) (edits : List Edit) :
    (graph.session edits).WellFormed ∧
      graph.Retains (fun name => edits.any (·.removes name)) (graph.session edits) ∧
      ∀ (edit : Edit) (error : GraphError) (left : Graph),
        (Editing.carryOut edit).run (graph.session edits) = .error error left →
          left = graph.session edits :=
  ⟨(reachable.session edits).wellFormed, retains_session reachable.wellFormed edits,
    fun _ _ _ => Editing.eq_of_run_eq_error⟩

/-- Two steps are added while the clock stands still and joined twice. Then the first one is
removed, put in again with another type, and joined to a step that is not there. -/
def replacedStep : List Edit :=
  [.add .delay "Wait" 1000, .add .delay "Wait longer" 1000, .connect "delay-1000" "delay-1001",
    .connect "delay-1000" "delay-1001", .remove "delay-1000",
    .insert ⟨"delay-1000", "notification", "Tell", .empty, .origin⟩,
    .connect "delay-1000" "delay-1002"]

theorem session_keeps_replacedStep : Graph.empty.Reachable ∧
    (Graph.empty.session replacedStep).WellFormed ∧
      Graph.empty.Retains (fun name => replacedStep.any (·.removes name))
        (Graph.empty.session replacedStep) ∧
      ∀ (edit : Edit) (error : GraphError) (left : Graph),
        (Editing.carryOut edit).run (Graph.empty.session replacedStep) = .error error left →
          left = Graph.empty.session replacedStep :=
  ⟨.empty, session_keeps .empty replacedStep⟩

/-- The step that comes back stands last. -/
example : (Graph.empty.session replacedStep).outline =
    [("delay-1001", "delay"), ("delay-1000", "notification")] := by
  rfl

end Graph

end Workflow
