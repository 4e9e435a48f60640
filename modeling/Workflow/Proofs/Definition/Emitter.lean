import Workflow.Definition.Emitter
import Workflow.Proofs.Definition.EdgeOrder

/-!
# The books that are kept in place are exact

Noting the edges one by one gives every place its counter and the places that its edges lead to,
and from there on each turn does a part of what an emission does in one go: it emits a step, or it
releases one of the places that this step is linked to. So the invariant of an emission holds
after every turn, not only between two steps.

It says that the counter of a place is the number of edges into its step from steps that are not
yet emitted, and besides of those from the step emitted last that are still to be counted down. A
counter that is to be counted down is therefore not at zero. Since no step is emitted twice, there
are no more rounds than steps.
-/

namespace Workflow

open Emission (Tracks degree targets openLinks)

/-! ## Places of names -/

namespace Graph

variable {graph : Graph}

/-- Where no two steps have the same name it is of no account that the last of them counts. -/
theorem placeTable_getElem? (distinct : graph.names.Nodup) (name : String) :
    graph.placeTable[name]? = graph.indexOf? name := by
  have keys : (graph.steps.zipIdx.map fun entry => (entry.1.name, entry.2)).map Prod.fst =
      graph.names := by
    calc _ = (graph.steps.zipIdx.map Prod.fst).map StepNode.name := by
          rw [List.map_map, List.map_map]
          rfl
      _ = graph.names := by rw [List.zipIdx_map_fst, names]
  unfold placeTable
  cases found : graph.indexOf? name with
  | none =>
      apply Std.HashMap.getElem?_ofList_of_contains_eq_false
      rw [keys, List.contains_eq_mem, decide_eq_false_iff_not]
      intro member
      obtain ⟨place, stands⟩ := List.mem_iff_getElem?.mp member
      cases found.symm.trans ((indexOf?_eq_some_iff distinct).mpr stands)
  | some place =>
      refine Std.HashMap.getElem?_ofList_of_mem (k := name) BEq.rfl ?_ ?_
      · rw [← keys, List.Nodup, List.pairwise_map] at distinct
        exact distinct.imp fun different => beq_false_of_ne different
      · have named := (indexOf?_eq_some_iff distinct).mp found
        rw [names, List.getElem?_map, Option.map_eq_some_iff] at named
        obtain ⟨node, stands, rfl⟩ := named
        exact List.mem_map.mpr ⟨(node, place), List.mk_mem_zipIdx_iff_getElem?.mpr stands, rfl⟩

end Graph

/-! ## Noting the edges -/

theorem set_map_range {α : Type} (f : Nat → α) (size place : Nat) (value : α) :
    ((List.range size).map f).set place value =
      (List.range size).map (Function.update f place value) := by
  apply List.ext_getElem
  · simp
  · intro i _ _
    by_cases same : i = place
    · subst same
      simp
    · simp [List.getElem_set_ne (Ne.symm same), same]

namespace Tally

/-- What is noted of links. -/
def ofLinks (size : Nat) (links : List (Nat × Nat)) : Tally where
  waiting := (List.range size).map (degree links)
  outgoing := (List.range size).map (targets links)

theorem blank_eq_ofLinks (size : Nat) : blank size = ofLinks size [] := by
  have none : degree [] = fun _ => 0 := rfl
  have nowhere : targets [] = fun _ => [] := rfl
  simp [blank, ofLinks, none, nowhere]

theorem degree_append_link (links : List (Nat × Nat)) (source target : Nat) :
    degree (links ++ [(source, target)]) =
      Function.update (degree links) target (degree links target + 1) := by
  funext place
  by_cases same : place = target
  · subst same
    simp [degree]
  · simp [degree, Function.update_of_ne same, Ne.symm same]

theorem targets_append_link (links : List (Nat × Nat)) (source target : Nat) :
    targets (links ++ [(source, target)]) =
      Function.update (targets links) source (targets links source ++ [target]) := by
  funext place
  by_cases same : place = source
  · subst same
    simp [targets]
  · simp [targets, Function.update_of_ne same, Ne.symm same]

/-- One more link is noted where it starts and where it ends. -/
theorem link_ofLinks {size source target : Nat} (links : List (Nat × Nat)) (hs : source < size)
    (ht : target < size) :
    (ofLinks size links).link source target = .ok (ofLinks size (links ++ [(source, target)])) := by
  have leads : (ofLinks size links).outgoing[source]? = some (targets links source) := by
    simp [ofLinks, hs]
  have waits : (ofLinks size links).waiting[target]? = some (degree links target) := by
    simp [ofLinks, ht]
  rw [link, leads, waits]
  simp [ofLinks, set_map_range, degree_append_link, targets_append_link]

end Tally

namespace Graph

variable {graph : Graph}

/-- An edge is noted as its link. -/
theorem note_ofLinks (distinct : graph.names.Nodup) (links : List (Nat × Nat)) (edge : Edge) :
    Tally.note graph.placeTable (.ofLinks graph.size links) edge =
      .ok (.ofLinks graph.size (links ++ (graph.linkOf? edge).toList)) := by
  rw [Tally.note, placeTable_getElem? distinct, placeTable_getElem? distinct]
  cases hs : graph.indexOf? edge.source with
  | none => simp [linkOf?, hs]
  | some source =>
      cases ht : graph.indexOf? edge.target with
      | none => simp [linkOf?, hs, ht]
      | some target =>
          rw [linkOf?_eq_some_iff.mpr ⟨hs, ht⟩]
          exact Tally.link_ofLinks links (indexOf?_lt hs) (indexOf?_lt ht)

theorem foldlM_note (distinct : graph.names.Nodup) (edges : List Edge) (links : List (Nat × Nat)) :
    edges.foldlM (Tally.note graph.placeTable) (.ofLinks graph.size links) =
      .ok (.ofLinks graph.size (links ++ edges.filterMap graph.linkOf?)) := by
  induction edges generalizing links with
  | nil =>
      rw [List.filterMap_nil, List.append_nil]
      rfl
  | cons edge rest ih =>
      rw [List.foldlM_cons, note_ofLinks distinct]
      apply (ih _).trans
      rw [List.append_assoc]
      cases link : graph.linkOf? edge <;> simp [link]

/-- Noting the edges does not fail, and gives what an emission starts with. -/
theorem emitter_eq_ok (distinct : graph.names.Nodup) :
    graph.emitter = .ok (Tally.ofLinks graph.size graph.links).emitter := by
  rw [emitter, Tally.blank_eq_ofLinks, foldlM_note distinct, links_eq_filterMap, List.nil_append]
  rfl

end Graph

/-! ## Turns -/

namespace Emission

/-- A place whose counter is above zero is released by setting this counter one lower. -/
theorem release_of_counter {state : Emission} {place count : Nat}
    (counter : state.waiting[place]? = some (count + 1)) :
    state.release place = { state with
      waiting := state.waiting.set place count
      ready := if count = 0 then insertAscending place state.ready else state.ready } := by
  have lowered : state.waiting.modify place (· - 1) = state.waiting.set place count := by
    rw [List.modify_eq_set_getElem?, counter]
    rfl
  obtain ⟨inside, -⟩ := List.getElem?_eq_some_iff.mp counter
  unfold release
  simp only [lowered, List.getElem?_set_self inside, Option.some.injEq]
  split <;> rfl

end Emission

namespace Emitter

variable {links : List (Nat × Nat)} {size rounds : Nat} {first emitter : Emitter}

/-- One emitter has become another in a number of rounds, each of which starts with a step that is
emitted. The last round need not be complete. -/
inductive Runs (first : Emitter) : (rounds : Nat) → Emitter → Prop
  | start : Runs first 0 first
  | release {rounds : Nat} {emitter after : Emitter} : Runs first rounds emitter →
      emitter.pending ≠ [] → emitter.turn = .on after → Runs first rounds after
  | emit {rounds : Nat} {emitter after : Emitter} : Runs first rounds emitter →
      emitter.pending = [] → emitter.turn = .on after → Runs first (rounds + 1) after

theorem turn_eq_ended_iff :
    emitter.turn = .ended ↔ emitter.pending = [] ∧ emitter.books.ready = [] := by
  constructor
  · intro ended
    unfold turn at ended
    split at ended
    · unfold countDown at ended
      split at ended <;> cases ended
    · unfold Emitter.emit at ended
      split at ended <;> cases ended
    · exact ⟨by assumption, by assumption⟩
  · rintro ⟨idle, unready⟩
    simp only [turn, idle, unready]

/-- What is true of an emitter after a number of rounds: its books are exact, and once the pending
places are released they are the books of an emission after as many steps. -/
structure Keeps (links : List (Nat × Nat)) (size rounds : Nat) (emitter : Emitter) : Prop where
  outgoing : emitter.outgoing = (List.range size).map (targets links)
  tracks : Tracks links size emitter.pending emitter.books
  unreleased : ∀ place ∈ emitter.pending, place < size ∧ place ∉ emitter.books.emitted
  emission : emitter.pending.foldl Emission.release emitter.books =
    Emission.run links rounds (.start links size)
  length : emitter.books.emitted.length = rounds

theorem Keeps.rounds_le (keeps : Keeps links size rounds emitter) : rounds ≤ size := by
  have := keeps.tracks.emitted_subperm.length_le
  rwa [keeps.length, List.length_range] at this

theorem Keeps.books_eq (keeps : Keeps links size rounds emitter) (idle : emitter.pending = []) :
    emitter.books = Emission.run links rounds (.start links size) := by
  rw [← keeps.emission, idle, List.foldl_nil]

/-- What is noted of links has the books with which an emission starts. -/
theorem keeps_ofLinks (links : List (Nat × Nat)) (size : Nat) :
    Keeps links size 0 (Tally.ofLinks size links).emitter := by
  have places : ((List.range size).map (degree links)).zipIdx =
      (List.range size).map fun place => (degree links place, place) :=
    List.ext_getElem (by simp) (by simp)
  have books : (Tally.ofLinks size links).emitter.books = .start links size := by
    simp [Tally.emitter, Tally.ofLinks, Emission.start, places, List.filter_map, Function.comp_def]
  refine ⟨rfl, ?_, by simp [Tally.emitter], ?_, rfl⟩
  · rw [books]
    exact Emission.start_tracks links size
  · rw [books]
    rfl

/-- A pending place is still counted by its counter, so this can be counted down. -/
theorem Keeps.release (keeps : Keeps links size rounds emitter) {target : Nat}
    {pending : List Nat} (next : emitter.pending = target :: pending) :
    ∃ after, emitter.turn = .on after ∧ after.pending = pending ∧
      Keeps links size rounds after := by
  obtain ⟨outgoing, tracks, unreleased, emission, length⟩ := keeps
  rw [next] at tracks unreleased emission
  obtain ⟨inside, left⟩ := unreleased target List.mem_cons_self
  have counter : emitter.books.waiting[target]? =
      some (openLinks links emitter.books.emitted target + pending.count target + 1) := by
    rw [tracks.waiting, List.getElem?_map, List.getElem?_range inside, Option.map_some,
      List.count_cons_self, Nat.add_assoc]
  have turned : emitter.turn =
      .on { emitter with books := emitter.books.release target, pending } := by
    rw [Emission.release_of_counter counter]
    simp only [turn, next, countDown, counter]
  refine ⟨_, turned, rfl, outgoing, tracks.release inside left, ?_, emission, ?_⟩
  · intro other member
    rw [Emission.release_emitted]
    exact unreleased other (List.mem_cons_of_mem _ member)
  · rw [Emission.release_emitted]
    exact length

/-- When nothing is pending the first step that is ready is emitted, and the next round begins. -/
theorem Keeps.emit (inside : ∀ link ∈ links, link.2 < size)
    (keeps : Keeps links size rounds emitter) (idle : emitter.pending = []) {place : Nat}
    {ready : List Nat} (next : emitter.books.ready = place :: ready) :
    ∃ after, emitter.turn = .on after ∧ Keeps links size (rounds + 1) after := by
  have tracks := keeps.tracks
  rw [idle] at tracks
  have small : place < size := ((tracks.mem_ready place).mp (next ▸ List.mem_cons_self)).1
  have leads : emitter.outgoing[place]? = some (targets links place) := by
    rw [keeps.outgoing, List.getElem?_map, List.getElem?_range small, Option.map_some]
  have turned : emitter.turn = .on { emitter with
      books := { emitter.books with ready, emitted := emitter.books.emitted ++ [place] }
      pending := targets links place } := by
    simp only [turn, idle, next, Emitter.emit, leads]
  refine ⟨_, turned, keeps.outgoing, tracks.emit next, tracks.targets_unreleased inside next,
    ?_, ?_⟩
  · rw [Emission.run_add, ← keeps.books_eq idle, Emission.run,
      Emission.next?_eq_some_iff.mpr ⟨place, ready, next, rfl⟩]
    rfl
  · simp [keeps.length]

/-- Everything that a turn can come to. No fault is among it. -/
theorem Keeps.turn_cases (inside : ∀ link ∈ links, link.2 < size)
    (keeps : Keeps links size rounds emitter) :
    emitter.turn = .ended ∨
      ∃ after, emitter.turn = .on after ∧
        ((emitter.pending = [] ∧ Keeps links size (rounds + 1) after) ∨
          ∃ target, emitter.pending = target :: after.pending ∧ Keeps links size rounds after) := by
  cases next : emitter.pending with
  | cons target pending =>
      obtain ⟨after, turned, rfl, kept⟩ := keeps.release next
      exact .inr ⟨after, turned, .inr ⟨target, rfl, kept⟩⟩
  | nil =>
      cases first : emitter.books.ready with
      | cons place ready =>
          obtain ⟨after, turned, kept⟩ := keeps.emit inside next first
          exact .inr ⟨after, turned, .inl ⟨rfl, kept⟩⟩
      | nil => exact .inl (turn_eq_ended_iff.mpr ⟨next, first⟩)

theorem Keeps.turn_ne_stopped (inside : ∀ link ∈ links, link.2 < size)
    (keeps : Keeps links size rounds emitter) (fault : CounterFault) :
    emitter.turn ≠ .stopped fault := by
  obtain turned | ⟨after, turned, -⟩ := keeps.turn_cases inside <;> simp [turned]

/-! ## Rounds -/

theorem Runs.keeps (inside : ∀ link ∈ links, link.2 < size) (runs : first.Runs rounds emitter)
    (keeps : Keeps links size 0 first) : Keeps links size rounds emitter := by
  induction runs with
  | start => exact keeps
  | release _ busy turned ih =>
      obtain ended | ⟨_, again, ⟨idle, -⟩ | ⟨_, _, kept⟩⟩ := ih.turn_cases inside
      · cases turned.symm.trans ended
      · exact absurd idle busy
      · cases turned.symm.trans again
        exact kept
  | emit _ idle turned ih =>
      obtain ended | ⟨_, again, ⟨-, kept⟩ | ⟨_, busy, -⟩⟩ := ih.turn_cases inside
      · cases turned.symm.trans ended
      · cases turned.symm.trans again
        exact kept
      · cases idle.symm.trans busy

/-- A round is completed: as many turns are left in it as places are pending. -/
theorem Runs.exists_idle (runs : first.Runs rounds emitter)
    (keeps : Keeps links size rounds emitter) :
    ∃ idle, first.Runs rounds idle ∧ Keeps links size rounds idle ∧ idle.pending = [] := by
  induction places : emitter.pending generalizing emitter with
  | nil => exact ⟨emitter, runs, keeps, places⟩
  | cons target pending ih =>
      obtain ⟨after, turned, rest, kept⟩ := keeps.release places
      exact ih (runs.release (by simp [places]) turned) kept rest

/-- There is a last round, since each emits a step and none is emitted twice. -/
theorem Runs.exists_ended (inside : ∀ link ∈ links, link.2 < size) {remaining : Nat}
    (runs : first.Runs rounds emitter) (keeps : Keeps links size rounds emitter)
    (room : size < rounds + remaining) :
    ∃ rounds last, first.Runs rounds last ∧ Keeps links size rounds last ∧ last.turn = .ended := by
  induction remaining generalizing rounds emitter with
  | zero => exact absurd keeps.rounds_le (Nat.not_le.mpr room)
  | succ remaining ih =>
      obtain ⟨idle, completed, kept, done⟩ := runs.exists_idle keeps
      obtain ended | ⟨after, turned, ⟨-, next⟩ | ⟨_, busy, -⟩⟩ := kept.turn_cases inside
      · exact ⟨rounds, idle, completed, kept, ended⟩
      · exact ih (completed.emit done turned) next (by omega)
      · cases done.symm.trans busy

end Emitter

/-! ## The books of a graph -/

namespace Graph

variable {graph : Graph}

/-- The number of edges into a step from steps that are not yet emitted, parallel ones counted
each. -/
def openEdges (graph : Graph) (emitted : List Nat) (name : String) : Nat :=
  graph.edges.countP fun edge =>
    edge.target = name ∧ edge.source ∉ (graph.stepsAt emitted).map StepNode.name

theorem mem_map_name_stepsAt (distinct : graph.names.Nodup) {place : Nat} {name : String}
    (stands : graph.names[place]? = some name) (places : List Nat) :
    name ∈ (graph.stepsAt places).map StepNode.name ↔ place ∈ places := by
  rw [map_name_stepsAt, List.mem_filterMap]
  constructor
  · rintro ⟨other, member, same⟩
    cases place_unique distinct stands same
    exact member
  · intro member
    exact ⟨place, member, stands⟩

/-- Links are counted as the edges that they stand for. -/
theorem openLinks_links (formed : graph.WellFormed) (emitted : List Nat) {place : Nat}
    {name : String} (stands : graph.names[place]? = some name) :
    openLinks graph.links emitted place = graph.openEdges emitted name := by
  rw [openLinks, openEdges, links_eq_filterMap, List.countP_filterMap]
  refine List.countP_congr fun edge member => ?_
  obtain ⟨i, j, hi, hj⟩ := formed.exists_places member
  have link : graph.linkOf? edge = some (i, j) := linkOf?_eq_some_iff.mpr
    ⟨(indexOf?_eq_some_iff formed.names_nodup).mpr hi,
      (indexOf?_eq_some_iff formed.names_nodup).mpr hj⟩
  have sameTarget : j = place ↔ edge.target = name := by
    constructor
    · rintro rfl
      exact Option.some.inj (hj.symm.trans stands)
    · rintro rfl
      exact place_unique formed.names_nodup hj stands
  simp [link, sameTarget, mem_map_name_stepsAt formed.names_nodup hi]

/-- The books that are kept of a graph say what they should. -/
structure ExactBooks (graph : Graph) (emitter : Emitter) : Prop where
  /-- Every step waits for the edges into it from steps that are not yet emitted, and for those
  from the step emitted last that are still to be counted down. -/
  waiting : emitter.books.waiting = graph.names.mapIdx fun place name =>
    graph.openEdges emitter.books.emitted name + emitter.pending.count place
  /-- Ready is what is not yet emitted and has its counter at zero. -/
  mem_ready : ∀ place, place ∈ emitter.books.ready ↔
    place ∉ emitter.books.emitted ∧ emitter.books.waiting[place]? = some 0
  ready_nodup : emitter.books.ready.Nodup
  emitted_nodup : emitter.books.emitted.Nodup
  emitted_inside : ∀ place ∈ emitter.books.emitted, place < graph.size

variable {rounds : Nat} {emitter : Emitter}

theorem exactBooks_of_keeps (formed : graph.WellFormed)
    (keeps : Emitter.Keeps graph.links graph.size rounds emitter) : graph.ExactBooks emitter where
  waiting := by
    rw [keeps.tracks.waiting]
    apply List.ext_getElem
    · simp [size, names]
    · intro place _ inside
      rw [List.length_mapIdx] at inside
      simpa using openLinks_links formed _ (List.getElem?_eq_getElem inside)
  mem_ready := by
    intro place
    rw [keeps.tracks.mem_ready, keeps.tracks.waiting]
    by_cases inside : place < graph.size <;> simp [inside]
  ready_nodup := keeps.tracks.ascending.imp Nat.ne_of_lt
  emitted_nodup := keeps.tracks.nodup
  emitted_inside := keeps.tracks.bounded

/-- Between two rounds nothing is pending, and the counters are the numbers of edges alone. -/
theorem ExactBooks.waiting_of_idle (books : graph.ExactBooks emitter)
    (idle : emitter.pending = []) :
    emitter.books.waiting = graph.names.map (graph.openEdges emitter.books.emitted) := by
  rw [books.waiting, idle]
  exact List.ext_getElem (by simp) (by simp)

/-- The order of a graph by its edges is what has been emitted when no step is ready. -/
theorem edgeOrder?_of_keeps (keeps : Emitter.Keeps graph.links graph.size rounds emitter)
    (ended : emitter.turn = .ended) :
    graph.edgeOrder? = if emitter.books.emitted.length = graph.size then
      some emitter.books.emitted else none := by
  obtain ⟨idle, unready⟩ := Emitter.turn_eq_ended_iff.mp ended
  obtain ⟨more, room⟩ := Nat.exists_eq_add_of_le keeps.rounds_le
  have stuck : Emission.next? graph.links emitter.books = none :=
    Emission.next?_eq_none_iff.mpr unready
  have final : Emission.run graph.links graph.size (.start graph.links graph.size) =
      emitter.books := by
    calc _ = Emission.run graph.links (rounds + more) (.start graph.links graph.size) := by
          rw [← room]
      _ = Emission.run graph.links more emitter.books := by
          rw [Emission.run_add, ← keeps.books_eq idle]
      _ = emitter.books := Emission.run_of_next?_eq_none stuck more
  rw [edgeOrder?, final]

/-- Noting the edges of a graph works, and whenever the emission of its steps is looked at from
then on, between two rounds or within one, its books are exact and its next turn neither misses an
entry nor counts below zero. As many steps are emitted as rounds were begun, each of them once,
so there are no more rounds than steps. Between two rounds the books are those of the emission
that `edgeOrder?` runs, and when no step is ready any more the order is found or there is none. -/
theorem emitter_keeps_exact_books (reachable : graph.Reachable) :
    ∃ first, graph.emitter = .ok first ∧
      (∀ rounds emitter, first.Runs rounds emitter →
        graph.ExactBooks emitter ∧ (∀ fault, emitter.turn ≠ .stopped fault) ∧
        emitter.books.emitted.length = rounds ∧ rounds ≤ graph.size ∧
        (emitter.pending = [] →
          emitter.books.waiting = graph.names.map (graph.openEdges emitter.books.emitted) ∧
          emitter.books = Emission.run graph.links rounds (.start graph.links graph.size))) ∧
      ∃ rounds ≤ graph.size, ∃ last, first.Runs rounds last ∧ last.turn = .ended ∧
        graph.edgeOrder? = if last.books.emitted.length = graph.size then
          some last.books.emitted else none := by
  have formed := reachable.wellFormed
  have inside : ∀ link ∈ graph.links, link.2 < graph.size :=
    fun link member => (links_inside graph link member).2
  have started := Emitter.keeps_ofLinks graph.links graph.size
  refine ⟨_, emitter_eq_ok formed.names_nodup, fun rounds emitter runs => ?_, ?_⟩
  · have keeps := runs.keeps inside started
    have books := exactBooks_of_keeps formed keeps
    exact ⟨books, keeps.turn_ne_stopped inside, keeps.length, keeps.rounds_le,
      fun idle => ⟨books.waiting_of_idle idle, keeps.books_eq idle⟩⟩
  · obtain ⟨rounds, last, runs, keeps, ended⟩ :=
      Emitter.Runs.start.exists_ended inside started (by omega : graph.size < 0 + (graph.size + 1))
    exact ⟨rounds, keeps.rounds_le, last, runs, ended, edgeOrder?_of_keeps keeps ended⟩

/-- Two parallel edges against the order of insertion, and a step with an edge to itself. -/
def knotted : Graph where
  steps := ["a", "b", "c"].map fun name => ⟨name, "delay", name, .empty, .origin⟩
  edges := [⟨"b-a", "b", "a"⟩, ⟨"b-a-1", "b", "a"⟩, ⟨"c-c", "c", "c"⟩]

/-- The first step gets ready with the second of the parallel edges. The last one waits for
itself, so no order is found. -/
theorem emitter_keeps_exact_books_knotted :
    knotted.Reachable ∧ ∃ first last, knotted.emitter = .ok first ∧ first.Runs 2 last ∧
      last.turn = .ended ∧ knotted.ExactBooks last ∧ last.books = ⟨[0, 0, 1], [], [1, 0]⟩ ∧
      knotted.edgeOrder? = none := by
  have built : Graph.ofParts knotted.steps knotted.edges = .ok knotted := by rfl
  have reachable : knotted.Reachable := .ofParts built
  obtain ⟨first, started, kept, rounds, few, last, runs, ended, order⟩ :=
    emitter_keeps_exact_books reachable
  obtain ⟨books, -, length, -, between⟩ := kept rounds last runs
  obtain ⟨idle, unready⟩ := Emitter.turn_eq_ended_iff.mp ended
  have ran := (between idle).2
  rw [ran] at length unready
  -- after any other number of rounds a step is ready, or fewer steps are emitted
  have only : ∀ rounds < 4,
      (Emission.run knotted.links rounds (.start knotted.links knotted.size)).emitted.length =
          rounds →
        (Emission.run knotted.links rounds (.start knotted.links knotted.size)).ready = [] →
          rounds = 2 := by
    decide
  obtain rfl := only rounds (Nat.lt_succ_of_le few) length unready
  have found : last.books = ⟨[0, 0, 1], [], [1, 0]⟩ := ran.trans (by decide)
  refine ⟨reachable, first, last, started, runs, ended, books, found, ?_⟩
  rw [order, found]
  rfl

end Graph

end Workflow
