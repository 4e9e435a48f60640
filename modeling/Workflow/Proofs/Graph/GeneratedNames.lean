import Workflow.Proofs.Graph.Session

/-!
# Generated names never come back

A step that is added by its kind gets a name of the kind and a number. The number is what the
clock reads, or one more than the last number if that is greater. So the numbers of a session
increase, whether the clock stands still or goes back, and as a name shows its number no name is
given twice, not even after the step that had it was removed.

A step under a name of the author's own could be in the way, hence the sessions here insert none.
Numbers are words of 64 bits and stay at the greatest one when they have come to it. A session has
room for its numbers if it does not get there.
-/

namespace Workflow

/-- An edit adds a step under a generated name. -/
def Edit.isAddition : Edit → Bool
  | .add .. => true
  | _ => false

namespace Graph

variable {graph changed : Graph}

/-! ## Names and numbers -/

/-- A name shows its number: read backwards it begins with the digits, and the hyphen ends them. -/
theorem number_eq_of_generatedName_eq {kind other : StepKind} {m n : Nat}
    (same : generatedName kind m = generatedName other n) : m = n := by
  have backwards : ∀ (kind : StepKind) (n : Nat),
      (takeDigits (generatedName kind n).toList.reverse).1 = (Nat.toDigits 10 n).reverse := by
    intro kind n
    have text : (generatedName kind n).toList.reverse =
        (Nat.toDigits 10 n).reverse ++ '-' :: kind.tag.toList.reverse := by
      simp [generatedName]
    rw [text, takeDigits_append_of_digits]
    · exact fun c member => isDigit_of_mem_toDigits (List.mem_reverse.mp member)
    · exact fun c first => Option.some.inj first ▸ rfl
  have digits := backwards kind m
  rw [same, backwards other n] at digits
  exact (toDigits_injective (List.reverse_injective digits)).symm

theorem addStep_eq_ok {kind : StepKind} {label : String} {now : Int}
    (free : generatedName kind (graph.nextSuffix now) ∉ graph.names) :
    graph.addStep kind label now = .ok (generatedName kind (graph.nextSuffix now), { graph with
      steps := graph.steps ++ [⟨generatedName kind (graph.nextSuffix now), kind.tag, label, .empty,
        .grid graph.size⟩]
      lastSuffix := graph.nextSuffix now }) := by
  simp [addStep, free]

/-- Until the numbers have come to the greatest one, each is more than the last. -/
theorem nextSuffix_eq_max (below : graph.lastSuffix < maxSuffix) (now : Int) :
    graph.nextSuffix now = max now.toNat (graph.lastSuffix + 1) := by
  rw [nextSuffix, Nat.min_eq_left below]

/-! ## What is handed out -/

/-- The name and the number that an edit hands out. -/
def handedOutBy (graph : Graph) : Edit → List (String × Nat)
  | .add kind label now =>
    match graph.addStep kind label now with
    | .ok (name, grown) => [(name, grown.lastSuffix)]
    | .error _ => []
  | _ => []

/-- The names and numbers that a session hands out, in order. -/
def handedOut (graph : Graph) : List Edit → List (String × Nat)
  | [] => []
  | edit :: rest => graph.handedOutBy edit ++ (graph.perform edit).handedOut rest

/-- How many steps a session adds under generated names. -/
def additions (edits : List Edit) : Nat :=
  edits.countP Edit.isAddition

@[simp] theorem additions_cons_add (kind : StepKind) (label : String) (now : Int)
    (rest : List Edit) : additions (.add kind label now :: rest) = additions rest + 1 :=
  List.countP_cons_of_pos rfl

theorem additions_cons_of_not {edit : Edit} (addition : edit.isAddition = false)
    (rest : List Edit) : additions (edit :: rest) = additions rest :=
  List.countP_cons_of_neg (by simp [addition])

/-- Every clock reading leaves room for the numbers of all the steps that are added after it. -/
def ClocksLeaveRoom : List Edit → Prop
  | [] => True
  | .add _ _ now :: rest => now.toNat + additions rest ≤ maxSuffix ∧ ClocksLeaveRoom rest
  | _ :: rest => ClocksLeaveRoom rest

/-- In the midst of a session, with `rest` still to come, all steps have names that were handed
out, none of these has a number beyond the last, and there is room for those of the rest. -/
structure Ahead (graph : Graph) (handed : List (String × Nat)) (rest : List Edit) : Prop where
  named : ∀ name ∈ graph.names, ∃ number, (name, number) ∈ handed
  generated : ∀ entry ∈ handed, ∃ kind, entry.1 = generatedName kind entry.2
  passed : ∀ entry ∈ handed, entry.2 ≤ graph.lastSuffix
  room : graph.lastSuffix + additions rest ≤ maxSuffix

/-! ## Steps of a session -/

/-- Apart from adding and inserting, an edit brings no name into the graph. -/
theorem Yields.names_subset {edit : Edit} (yields : graph.Yields edit changed)
    (addition : edit.isAddition = false) (own : ∀ node, edit ≠ .insert node) :
    changed.names ⊆ graph.names ∧ changed.lastSuffix = graph.lastSuffix := by
  cases yields with
  | added _ => cases addition
  | inserted _ => exact absurd rfl (own _)
  | @updated name properties i _ =>
      refine ⟨?_, rfl⟩
      rw [← map_fst_outline, outline_setProperties, map_fst_outline]
      exact List.Subset.refl _
  | connected _ _ | disconnected _ => exact ⟨List.Subset.refl _, rfl⟩
  | removed _ => exact ⟨((List.eraseIdx_sublist _ _).map _).subset, rfl⟩

variable {handed : List (String × Nat)} {rest : List Edit}

/-- A number beyond the last makes a name that was not handed out yet. -/
theorem Ahead.ne_generatedName (ahead : graph.Ahead handed rest) {number : Nat}
    (beyond : graph.lastSuffix < number) (kind : StepKind) :
    ∀ entry ∈ handed, entry.1 ≠ generatedName kind number := by
  intro entry listed same
  obtain ⟨other, generated⟩ := ahead.generated entry listed
  have equal := number_eq_of_generatedName_eq (generated.symm.trans same)
  exact Nat.not_le_of_lt beyond (equal ▸ ahead.passed entry listed)

/-- Neither has any step such a name, so one can be added under it. -/
theorem Ahead.addStep_eq_ok {kind : StepKind} {label : String} {now : Int}
    (ahead : graph.Ahead handed (.add kind label now :: rest)) :
    graph.lastSuffix < graph.nextSuffix now ∧
      graph.nextSuffix now = max now.toNat (graph.lastSuffix + 1) ∧
      graph.addStep kind label now = .ok (generatedName kind (graph.nextSuffix now), { graph with
        steps := graph.steps ++ [⟨generatedName kind (graph.nextSuffix now), kind.tag, label,
          .empty, .grid graph.size⟩]
        lastSuffix := graph.nextSuffix now }) := by
  have below : graph.lastSuffix < maxSuffix := by
    have room := ahead.room
    rw [additions_cons_add] at room
    omega
  have next := nextSuffix_eq_max below now
  have more : graph.lastSuffix < graph.nextSuffix now := by
    rw [next]
    omega
  refine ⟨more, next, Graph.addStep_eq_ok ?_⟩
  intro taken
  obtain ⟨number, listed⟩ := ahead.named _ taken
  exact ahead.ne_generatedName more kind _ listed rfl

/-- After a step was added under a generated name there is one more name handed out. -/
theorem Ahead.added {kind : StepKind} {label : String} {now : Int}
    (ahead : graph.Ahead handed (.add kind label now :: rest))
    (clock : now.toNat + additions rest ≤ maxSuffix) :
    (graph.perform (.add kind label now)).Ahead
      (handed ++ graph.handedOutBy (.add kind label now)) rest := by
  obtain ⟨more, next, added⟩ := ahead.addStep_eq_ok
  have room := ahead.room
  rw [additions_cons_add] at room
  simp only [perform, apply, added, Except.map, handedOutBy]
  refine ⟨?_, ?_, ?_, ?_⟩
  · intro name member
    rw [names, List.map_append, List.mem_append] at member
    rcases member with old | new
    · obtain ⟨number, listed⟩ := ahead.named name old
      exact ⟨number, List.mem_append_left _ listed⟩
    · rw [List.mem_singleton.mp new]
      exact ⟨_, List.mem_append_right _ (List.mem_singleton_self _)⟩
  · exact List.forall_mem_append.mpr ⟨ahead.generated, List.forall_mem_singleton.mpr ⟨kind, rfl⟩⟩
  · refine List.forall_mem_append.mpr ⟨?_, List.forall_mem_singleton.mpr (Nat.le_refl _)⟩
    exact fun entry old => Nat.le_trans (ahead.passed entry old) (Nat.le_of_lt more)
  · change graph.nextSuffix now + additions rest ≤ maxSuffix
    omega

/-- Other edits hand nothing out. -/
theorem Ahead.unnamed {edit : Edit} (ahead : graph.Ahead handed (edit :: rest))
    (addition : edit.isAddition = false) (own : ∀ node, edit ≠ .insert node) :
    (graph.perform edit).Ahead (handed ++ graph.handedOutBy edit) rest := by
  have nothing : graph.handedOutBy edit = [] := by
    cases edit with
    | add kind label now => cases addition
    | _ => rfl
  have keeps : (graph.perform edit).names ⊆ graph.names ∧
      (graph.perform edit).lastSuffix = graph.lastSuffix := by
    rcases graph.perform_cases edit with yields | same
    · exact yields.names_subset addition own
    · rw [same]
      exact ⟨List.Subset.refl _, rfl⟩
  have room := ahead.room
  rw [additions_cons_of_not addition] at room
  rw [nothing, List.append_nil]
  refine ⟨fun name member => ahead.named name (keeps.1 member), ahead.generated, ?_, ?_⟩
  · rw [keeps.2]
    exact ahead.passed
  · rwa [keeps.2]

/-- An edit, whether it succeeds or not, keeps the session ahead of the names handed out. -/
theorem Ahead.perform {edit : Edit} (ahead : graph.Ahead handed (edit :: rest))
    (own : ∀ node, edit ≠ .insert node) (clocks : ClocksLeaveRoom (edit :: rest)) :
    (graph.perform edit).Ahead (handed ++ graph.handedOutBy edit) rest := by
  cases edit with
  | add kind label now => exact ahead.added clocks.1
  | _ => exact ahead.unnamed rfl own

theorem ClocksLeaveRoom.tail {edit : Edit} (clocks : ClocksLeaveRoom (edit :: rest)) :
    ClocksLeaveRoom rest := by
  cases edit with
  | add kind label now => exact clocks.2
  | _ => exact clocks

theorem Ahead.session {before : List Edit} (ahead : graph.Ahead handed (before ++ rest))
    (own : ∀ node, .insert node ∉ before) (clocks : ClocksLeaveRoom (before ++ rest)) :
    (graph.session before).Ahead (handed ++ graph.handedOut before) rest := by
  induction before generalizing graph handed with
  | nil => simpa [Graph.session, handedOut] using ahead
  | cons edit before ih =>
      have step := ahead.perform (fun node same => own node (same ▸ List.mem_cons_self)) clocks
      rw [session_cons, handedOut, ← List.append_assoc]
      exact ih step (fun node member => own node (List.mem_cons_of_mem _ member)) clocks.tail

/-- In a session on the empty graph that inserts no step under a name of its own, and has room
for its numbers, every addition succeeds. Its number is at least what the clock reads and greater
than all that were handed out before, and its name is none of those that were handed out before,
whatever became of their steps. -/
theorem generated_names_never_reused {edits : List Edit} (own : ∀ node, .insert node ∉ edits)
    (room : additions edits ≤ maxSuffix) (clocks : ClocksLeaveRoom edits) :
    ∀ before kind label now after, edits = before ++ .add kind label now :: after →
      ∃ name grown, (Graph.empty.session before).addStep kind label now = .ok (name, grown) ∧
        name = generatedName kind grown.lastSuffix ∧ now.toNat ≤ grown.lastSuffix ∧
          ∀ entry ∈ Graph.empty.handedOut before,
            entry.2 < grown.lastSuffix ∧ entry.1 ≠ name := by
  rintro before kind label now after rfl
  have start : Graph.empty.Ahead [] (before ++ .add kind label now :: after) :=
    ⟨fun _ member => absurd member List.not_mem_nil, fun _ member => absurd member List.not_mem_nil,
      fun _ member => absurd member List.not_mem_nil, by simpa [Graph.empty] using room⟩
  have ahead := start.session (fun node member => own node (List.mem_append_left _ member)) clocks
  rw [List.nil_append] at ahead
  obtain ⟨more, next, added⟩ := ahead.addStep_eq_ok
  refine ⟨_, _, added, rfl, by rw [next]; exact Nat.le_max_left _ _, ?_⟩
  intro entry listed
  exact ⟨Nat.lt_of_le_of_lt (ahead.passed entry listed) more,
    ahead.ne_generatedName more kind entry listed⟩

/-- The clock stands still, then goes back to before 1970, and a step is removed in between. -/
def clockGoesBack : List Edit :=
  [.add .delay "Wait" 1000, .add .condition "Branch" 1000, .connect "delay-1000" "condition-1001",
    .remove "delay-1000", .add .delay "Wait again" (-5), .add .delay "Go on" 2000]

theorem generated_names_never_reused_clockGoesBack :
    ((∀ node, .insert node ∉ clockGoesBack) ∧ additions clockGoesBack ≤ maxSuffix ∧
        ClocksLeaveRoom clockGoesBack) ∧
      ∀ before kind label now after, clockGoesBack = before ++ .add kind label now :: after →
        ∃ name grown, (Graph.empty.session before).addStep kind label now = .ok (name, grown) ∧
          name = generatedName kind grown.lastSuffix ∧ now.toNat ≤ grown.lastSuffix ∧
            ∀ entry ∈ Graph.empty.handedOut before,
              entry.2 < grown.lastSuffix ∧ entry.1 ≠ name := by
  have own : ∀ node, .insert node ∉ clockGoesBack := by simp [clockGoesBack]
  have room : additions clockGoesBack ≤ maxSuffix := by decide
  have clocks : ClocksLeaveRoom clockGoesBack := by
    refine ⟨?_, ?_, ?_, ?_, trivial⟩ <;> decide
  exact ⟨⟨own, room, clocks⟩, generated_names_never_reused own room clocks⟩

/-- The name of the step that was removed is not used again. -/
example : (Graph.empty.handedOut clockGoesBack).map Prod.fst =
    ["delay-1000", "condition-1001", "delay-1002", "delay-2000"] := by
  rfl

end Graph

end Workflow
