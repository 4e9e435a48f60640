import Workflow.Definition.Emission
import Workflow.Proofs.Sequence
import Mathlib.Data.Fintype.EquivFin
import Mathlib.Data.List.Nodup
import Mathlib.Data.List.Perm.Subperm
import Mathlib.Logic.Relation
import Mathlib.Order.WellFounded

/-!
# The books that an emission keeps

Emission counts, for every place, the links it still waits for, and keeps the places
that wait for none. `Tracks` says that these books are exact. It is stated with a list
of releases that are still to be made, because a step is emitted first and the links
out of it are released one after the other.

From exact books follows all that is said of an order by edges: no step is emitted
twice, none before a step that it waits for, and when nothing is ready while steps are
left, each of these waits for another of them, so that there is a cycle.
-/

namespace Workflow

/-! ## Ascending lists -/

theorem mem_insertAscending {m n : Nat} {places : List Nat} :
    m ∈ insertAscending n places ↔ m = n ∨ m ∈ places := by
  induction places with
  | nil => simp [insertAscending]
  | cons head rest ih =>
      unfold insertAscending
      split
      · simp
      · rw [List.mem_cons, ih, List.mem_cons]
        exact or_left_comm

theorem pairwise_insertAscending {n : Nat} {places : List Nat} (new : n ∉ places)
    (ascending : places.Pairwise (· < ·)) : (insertAscending n places).Pairwise (· < ·) := by
  induction places with
  | nil => simp [insertAscending]
  | cons head rest ih =>
      obtain ⟨above, sorted⟩ := List.pairwise_cons.mp ascending
      have different : n ≠ head := fun same => new (same ▸ List.mem_cons_self)
      unfold insertAscending
      split
      · refine List.pairwise_cons.mpr ⟨?_, ascending⟩
        intro m member
        rcases List.mem_cons.mp member with rfl | member
        · omega
        · have := above m member
          omega
      · refine List.pairwise_cons.mpr
          ⟨?_, ih (fun member => new (List.mem_cons_of_mem _ member)) sorted⟩
        intro m member
        rcases mem_insertAscending.mp member with rfl | member
        · omega
        · exact above m member

namespace Emission

/-- One place is linked to another. -/
def Linked (links : List (Nat × Nat)) (source target : Nat) : Prop :=
  (source, target) ∈ links

/-- The number of links into a place from places that are not done, parallel ones
counted each. -/
def openLinks (links : List (Nat × Nat)) (done : List Nat) (place : Nat) : Nat :=
  links.countP fun link => link.2 = place ∧ link.1 ∉ done

theorem openLinks_nil (links : List (Nat × Nat)) (place : Nat) :
    openLinks links [] place = degree links place := by
  simp [openLinks, degree]

theorem openLinks_eq_zero_iff {links : List (Nat × Nat)} {done : List Nat} {place : Nat} :
    openLinks links done place = 0 ↔ ∀ source, Linked links source place → source ∈ done := by
  rw [openLinks, List.countP_eq_zero]
  constructor
  · intro none source linked
    by_contra waiting
    exact none _ linked (by simpa using waiting)
  · rintro all ⟨source, target⟩ member
    simp only [decide_eq_true_eq, not_and, not_not]
    rintro rfl
    exact all source member

/-- A place that gets done closes the links out of it and no others. -/
theorem openLinks_append {done : List Nat} {source : Nat} (new : source ∉ done)
    (links : List (Nat × Nat)) (place : Nat) :
    openLinks links done place =
      openLinks links (done ++ [source]) place + (targets links source).count place := by
  unfold openLinks targets
  induction links with
  | nil => rfl
  | cons link rest ih =>
      obtain ⟨i, j⟩ := link
      by_cases hi : i = source
      · subst hi
        by_cases hj : j = place
        · subst hj
          simp [new] at ih ⊢
          omega
        · simp [new, hj] at ih ⊢
          omega
      · simp [List.countP_cons, hi] at ih ⊢
        omega

/-! ## Exact books -/

/-- The books of an emission are exact, once the places of `pending` are released, each
as often as it stands there. -/
structure Tracks (links : List (Nat × Nat)) (size : Nat) (pending : List Nat)
    (state : Emission) : Prop where
  waiting : state.waiting = (List.range size).map fun place =>
    openLinks links state.emitted place + pending.count place
  ascending : state.ready.Pairwise (· < ·)
  mem_ready : ∀ place, place ∈ state.ready ↔ place < size ∧ place ∉ state.emitted ∧
    openLinks links state.emitted place + pending.count place = 0
  nodup : state.emitted.Nodup
  bounded : ∀ place ∈ state.emitted, place < size
  /-- No place is emitted before one that it is linked from. -/
  sources_first : ∀ before place after, state.emitted = before ++ place :: after →
    ∀ source, Linked links source place → source ∈ before

variable {links : List (Nat × Nat)} {size : Nat}

theorem start_tracks (links : List (Nat × Nat)) (size : Nat) :
    Tracks links size [] (start links size) where
  waiting := by simp [start, openLinks_nil]
  ascending := List.Pairwise.filter _ List.pairwise_lt_range
  mem_ready := by simp [start, openLinks_nil]
  nodup := List.nodup_nil
  bounded := fun _ member => absurd member List.not_mem_nil
  sources_first := by
    intro before place after same
    exact absurd same (by simp [start])

@[simp] theorem release_emitted (state : Emission) (place : Nat) :
    (state.release place).emitted = state.emitted := by
  unfold release
  simp only
  split <;> rfl

/-- A place that is still to be released counts at least one link, so the decrement is
exact, and it gets ready with its last link. -/
theorem Tracks.release {state : Emission} {place : Nat} {pending : List Nat}
    (books : Tracks links size (place :: pending) state) (inside : place < size)
    (left : place ∉ state.emitted) : Tracks links size pending (state.release place) := by
  have waits : ∀ j, j < size → (state.waiting.modify place (· - 1))[j]? =
      some (openLinks links state.emitted j + pending.count j) := by
    intro j hj
    rw [List.getElem?_modify, books.waiting, List.getElem?_map, List.getElem?_range hj]
    by_cases same : place = j
    · subst same
      simp
    · simp [same]
  have counts : state.waiting.modify place (· - 1) = (List.range size).map fun j =>
      openLinks links state.emitted j + pending.count j := by
    apply List.ext_getElem?
    intro j
    by_cases hj : j < size
    · rw [waits j hj, List.getElem?_map, List.getElem?_range hj]
      rfl
    · rw [List.getElem?_eq_none (by simp [books.waiting]; omega),
        List.getElem?_eq_none (by simp; omega)]
  have unready : place ∉ state.ready := by
    intro member
    have := ((books.mem_ready place).mp member).2.2
    rw [List.count_cons_self] at this
    omega
  have others : ∀ j, j ≠ place → (place :: pending).count j = pending.count j :=
    fun j different => List.count_cons_of_ne (Ne.symm different)
  unfold Emission.release
  simp only [waits place inside, Option.some.injEq]
  split
  · rename_i free
    refine ⟨counts, pairwise_insertAscending unready books.ascending, ?_, books.nodup,
      books.bounded, books.sources_first⟩
    intro j
    by_cases same : j = place
    · subst same
      simpa [mem_insertAscending, inside, left] using free
    · simpa [mem_insertAscending, same, others j same] using books.mem_ready j
  · rename_i held
    refine ⟨counts, books.ascending, ?_, books.nodup, books.bounded,
      books.sources_first⟩
    intro j
    by_cases same : j = place
    · subst same
      simpa [unready] using fun _ _ => held
    · simpa [others j same] using books.mem_ready j

theorem Tracks.releaseAll {state : Emission} {pending : List Nat}
    (books : Tracks links size pending state)
    (unreleased : ∀ place ∈ pending, place < size ∧ place ∉ state.emitted) :
    Tracks links size [] (pending.foldl Emission.release state) := by
  induction pending generalizing state with
  | nil => exact books
  | cons place pending ih =>
      obtain ⟨inside, left⟩ := unreleased place List.mem_cons_self
      refine ih (books.release inside left) ?_
      intro other member
      rw [release_emitted]
      exact unreleased other (List.mem_cons_of_mem _ member)

/-! ## Emitting steps -/

/-- Everything that one emission does: the first ready place is emitted, and the places
that it is linked to are released. -/
theorem next?_eq_some_iff {state after : Emission} :
    next? links state = some after ↔ ∃ place ready, state.ready = place :: ready ∧
      (targets links place).foldl release
        { state with ready, emitted := state.emitted ++ [place] } = after := by
  unfold next?
  cases state.ready with
  | nil => simp
  | cons place ready => simp

theorem next?_eq_none_iff {state : Emission} : next? links state = none ↔ state.ready = [] := by
  unfold next?
  cases state.ready <;> simp

theorem foldl_release_emitted (pending : List Nat) (state : Emission) :
    (pending.foldl release state).emitted = state.emitted := by
  induction pending generalizing state with
  | nil => rfl
  | cons place pending ih => rw [List.foldl_cons, ih, release_emitted]

/-- One more step is emitted by each emission. -/
theorem next?_emitted {state after : Emission} (h : next? links state = some after) :
    ∃ place, place ∈ state.ready ∧ after.emitted = state.emitted ++ [place] := by
  obtain ⟨place, ready, first, rfl⟩ := next?_eq_some_iff.mp h
  exact ⟨place, first ▸ List.mem_cons_self, foldl_release_emitted _ _⟩

theorem mem_targets {source place : Nat} :
    place ∈ targets links source ↔ Linked links source place := by
  simp [targets, Linked]

/-- Right after a step is emitted the books are exact but for the links out of it. -/
theorem Tracks.emit {state : Emission} {place : Nat} {ready : List Nat}
    (books : Tracks links size [] state) (first : state.ready = place :: ready) :
    Tracks links size (targets links place)
      { state with ready, emitted := state.emitted ++ [place] } := by
  obtain ⟨inside, left, free⟩ := (books.mem_ready place).mp (first ▸ List.mem_cons_self)
  have sorted := books.ascending
  rw [first] at sorted
  obtain ⟨above, ascending⟩ := List.pairwise_cons.mp sorted
  have counts : ∀ j, openLinks links (state.emitted ++ [place]) j +
      (targets links place).count j = openLinks links state.emitted j :=
    fun j => (openLinks_append left links j).symm
  refine ⟨?_, ascending, ?_, ?_, ?_, ?_⟩
  · simpa [counts] using books.waiting
  · intro j
    simp only [counts]
    have old : j ∈ place :: ready ↔ j < size ∧ j ∉ state.emitted ∧
        openLinks links state.emitted j = 0 := by
      simpa [first] using books.mem_ready j
    by_cases same : j = place
    · subst same
      constructor
      · intro member
        exact absurd (above j member) (Nat.lt_irrefl j)
      · rintro ⟨_, unemitted, _⟩
        exact absurd (List.mem_append_right _ List.mem_cons_self) unemitted
    · simpa [same] using old
  · exact List.nodup_append.mpr ⟨books.nodup, List.nodup_singleton _, by
      intro a ha b hb same
      exact left (List.mem_singleton.mp hb ▸ same ▸ ha)⟩
  · intro j member
    rcases List.mem_append.mp member with old | new
    · exact books.bounded j old
    · exact List.mem_singleton.mp new ▸ inside
  · exact forall_split_append_singleton.mpr
      ⟨books.sources_first, openLinks_eq_zero_iff.mp (by simpa using free)⟩

/-- No place that an emitted step is linked to has been emitted, be it that step itself. -/
theorem Tracks.targets_unreleased {state : Emission} {place : Nat} {ready : List Nat}
    (inside : ∀ link ∈ links, link.2 < size) (books : Tracks links size [] state)
    (first : state.ready = place :: ready) :
    ∀ target ∈ targets links place, target < size ∧ target ∉ state.emitted ++ [place] := by
  have emitted := books.emit first
  intro target member
  refine ⟨inside _ (mem_targets.mp member), fun already => ?_⟩
  obtain ⟨before, after, split⟩ := List.append_of_mem already
  have earlier := emitted.sources_first before target after split place (mem_targets.mp member)
  have last : place ∈ target :: after := by
    have ends := congrArg List.getLast? split
    rw [List.getLast?_append_cons] at ends
    exact List.mem_of_getLast? (by simpa using ends.symm)
  have once : (state.emitted ++ [place]).Nodup := emitted.nodup
  rw [split] at once
  exact (List.nodup_append.mp once).2.2 place earlier place last rfl

/-- Exact books stay exact: no place that is still to be released has been emitted. -/
theorem Tracks.next {state after : Emission} (inside : ∀ link ∈ links, link.2 < size)
    (books : Tracks links size [] state) (h : next? links state = some after) :
    Tracks links size [] after := by
  obtain ⟨place, ready, first, rfl⟩ := next?_eq_some_iff.mp h
  exact (books.emit first).releaseAll (books.targets_unreleased inside first)

theorem Tracks.run {state : Emission} (inside : ∀ link ∈ links, link.2 < size) (count : Nat)
    (books : Tracks links size [] state) :
    Tracks links size [] (Emission.run links count state) := by
  induction count generalizing state with
  | zero => exact books
  | succ count ih =>
      unfold Emission.run
      split
      · exact books
      · rename_i after h
        exact ih (books.next inside h)

theorem run_of_next?_eq_none {state : Emission} (stuck : next? links state = none) (count : Nat) :
    Emission.run links count state = state := by
  cases count with
  | zero => rfl
  | succ count => rw [Emission.run, stuck]

theorem run_add (count more : Nat) (state : Emission) :
    Emission.run links (count + more) state =
      Emission.run links more (Emission.run links count state) := by
  induction count generalizing state with
  | zero => rw [Nat.zero_add, Emission.run]
  | succ count ih =>
      rw [Nat.add_right_comm, Emission.run, Emission.run]
      cases stuck : next? links state with
      | none => exact (run_of_next?_eq_none stuck more).symm
      | some after => exact ih after

/-- A run ends early only because nothing is ready. -/
theorem run_emitted_or_stuck (count : Nat) (state : Emission) :
    (run links count state).emitted.length = state.emitted.length + count ∨
      (run links count state).ready = [] := by
  induction count generalizing state with
  | zero => exact .inl rfl
  | succ count ih =>
      unfold run
      split
      · rename_i stuck
        exact .inr (next?_eq_none_iff.mp stuck)
      · rename_i after h
        obtain ⟨place, -, grown⟩ := next?_emitted h
        refine (ih after).imp_left fun length => ?_
        rw [length, grown, List.length_append, List.length_singleton]
        omega

/-! ## Where a run ends -/

/-- The emission with which a run over all places ends. -/
def final (links : List (Nat × Nat)) (size : Nat) : Emission :=
  run links size (start links size)

theorem final_tracks (inside : ∀ link ∈ links, link.2 < size) :
    Tracks links size [] (final links size) :=
  (start_tracks links size).run inside size

theorem Tracks.emitted_subperm {state : Emission} {pending : List Nat}
    (books : Tracks links size pending state) : List.Subperm state.emitted (List.range size) :=
  books.nodup.subperm fun place member => List.mem_range.mpr (books.bounded place member)

/-- When as many places are emitted as there are, every place is, once. -/
theorem Tracks.emitted_perm_iff {state : Emission} (books : Tracks links size [] state) :
    state.emitted.Perm (List.range size) ↔ state.emitted.length = size := by
  constructor
  · intro same
    simpa using same.length_eq
  · intro all
    exact books.emitted_subperm.perm_of_length_le (by simp [all])

/-- A run over as many rounds as there are places leaves nothing ready. -/
theorem final_ready (inside : ∀ link ∈ links, link.2 < size) : (final links size).ready = [] := by
  have books := final_tracks inside
  have ended := @run_emitted_or_stuck links size (start links size)
  rcases ended with all | stuck
  · have every := books.emitted_perm_iff.mpr (by simpa [final, start] using all)
    refine List.eq_nil_iff_forall_not_mem.mpr fun place member => ?_
    obtain ⟨small, left, -⟩ := (books.mem_ready place).mp member
    exact left (every.mem_iff.mpr (List.mem_range.mpr small))
  · exact stuck

/-- A place that is not emitted although nothing is ready waits for another such place. -/
theorem Tracks.exists_open_source {state : Emission} (books : Tracks links size [] state)
    (stuck : state.ready = []) {place : Nat} (small : place < size)
    (left : place ∉ state.emitted) :
    ∃ source, Linked links source place ∧ source ∉ state.emitted := by
  have held : ¬ openLinks links state.emitted place = 0 := by
    intro free
    have ready := (books.mem_ready place).mpr ⟨small, left, by simpa using free⟩
    rw [stuck] at ready
    exact List.not_mem_nil ready
  rw [openLinks_eq_zero_iff] at held
  push Not at held
  exact held

/-- Places that wait for one another in turn cannot all be without a cycle, since there
are finitely many. -/
theorem Tracks.exists_cycle {state : Emission} (books : Tracks links size [] state)
    (inside : ∀ link ∈ links, link.1 < size) (stuck : state.ready = []) {place : Nat}
    (small : place < size) (left : place ∉ state.emitted) :
    ∃ place, Relation.TransGen (Linked links) place place := by
  by_contra! acyclic
  let waitsFor : Fin size → Fin size → Prop :=
    fun source target => Relation.TransGen (Linked links) source target
  have transitive : IsTrans (Fin size) waitsFor := ⟨fun _ _ _ => Relation.TransGen.trans⟩
  have irreflexive : Std.Irrefl waitsFor := ⟨fun place => acyclic place⟩
  have descent := Finite.wellFounded_of_trans_of_irrefl waitsFor
  obtain ⟨first, unemitted, least⟩ :=
    descent.has_min { place | place.val ∉ state.emitted } ⟨⟨place, small⟩, left⟩
  obtain ⟨source, linked, open_⟩ := books.exists_open_source stuck first.isLt unemitted
  exact least ⟨source, inside _ linked⟩ open_ (.single linked)

/-- What is emitted follows the links, also through several of them. -/
theorem Tracks.idxOf_lt {state : Emission} (books : Tracks links size [] state)
    {source target : Nat} (path : Relation.TransGen (Linked links) source target)
    (emitted : target ∈ state.emitted) :
    source ∈ state.emitted ∧ state.emitted.idxOf source < state.emitted.idxOf target := by
  have step : ∀ {source target}, Linked links source target → target ∈ state.emitted →
      source ∈ state.emitted ∧ state.emitted.idxOf source < state.emitted.idxOf target := by
    intro source target linked member
    obtain ⟨before, after, split, fresh⟩ := List.eq_append_cons_of_mem member
    have earlier := books.sources_first before target after split source linked
    rw [split]
    exact ⟨List.mem_append_left _ earlier, idxOf_lt_idxOf_of_mem_front earlier fresh⟩
  induction path with
  | single linked => exact step linked emitted
  | tail _ linked ih =>
      obtain ⟨between, later⟩ := step linked emitted
      obtain ⟨member, earlier⟩ := ih between
      exact ⟨member, Nat.lt_trans earlier later⟩

end Emission

end Workflow
