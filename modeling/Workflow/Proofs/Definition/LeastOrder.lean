import Workflow.Proofs.Definition.Chain
import Mathlib.Data.List.Lex

/-!
# The least order that follows the edges

Many orders may follow the edges of a graph. The one by which steps are emitted is the first
of them all, if orders are compared place by place from the front: where another order first
departs from it, the place that the other has next is ready as well, since all places that it
waits for have come, and of the places that are ready the least is emitted.

So insertion order has the last word among steps that no edge tells apart, not only between
two steps that get ready together; and a graph whose edges respect it is not reordered.
-/

namespace Workflow

namespace Emission

variable {links : List (Nat × Nat)} {size : Nat}

/-- Every place once, and none before a place that it is linked from. -/
structure Follows (links : List (Nat × Nat)) (size : Nat) (places : List Nat) : Prop where
  perm : places.Perm (List.range size)
  source_first : ∀ source target, Linked links source target →
    places.idxOf source < places.idxOf target

/-- In an order that follows the links the sources of a place stand in front of it. -/
theorem Follows.mem_front {before after : List Nat} {place : Nat}
    (follows : Follows links size (before ++ place :: after)) :
    place ∉ before ∧ ∀ source, Linked links source place → source ∈ before := by
  have distinct : (before ++ place :: after).Nodup := follows.perm.nodup_iff.mpr List.nodup_range
  have fresh : place ∉ before := fun earlier =>
    (List.nodup_append.mp distinct).2.2 place earlier place List.mem_cons_self rfl
  refine ⟨fresh, fun source linked => ?_⟩
  have earlier := follows.source_first source place linked
  rw [List.idxOf_append_of_notMem fresh, List.idxOf_cons_self, Nat.add_zero] at earlier
  by_contra absent
  rw [List.idxOf_append_of_notMem absent] at earlier
  omega

/-- The place that an order has next is ready once the places before it are emitted. -/
theorem Tracks.next_ready {state : Emission} (books : Tracks links size [] state) {place : Nat}
    {rest : List Nat} (follows : Follows links size (state.emitted ++ place :: rest)) :
    place ∈ state.ready := by
  obtain ⟨fresh, sources⟩ := follows.mem_front
  have small : place ∈ List.range size := follows.perm.mem_iff.mp (by simp)
  refine (books.mem_ready place).mpr ⟨List.mem_range.mp small, fresh, ?_⟩
  rw [List.count_nil, Nat.add_zero, openLinks_eq_zero_iff]
  exact sources

/-- The first of the places that are ready is the least of them. -/
theorem Tracks.head_le {state : Emission} (books : Tracks links size [] state) {first : Nat}
    {others : List Nat} (ready : state.ready = first :: others) {place : Nat}
    (member : place ∈ state.ready) : first ≤ place := by
  have ascending := books.ascending
  rw [ready] at ascending member
  rcases List.mem_cons.mp member with rfl | later
  · exact Nat.le_refl _
  · exact Nat.le_of_lt ((List.pairwise_cons.mp ascending).1 place later)

/-- What has been emitted stays at the front. -/
theorem emitted_prefix_run (count : Nat) (state : Emission) :
    state.emitted <+: (run links count state).emitted := by
  induction count generalizing state with
  | zero => exact List.prefix_refl _
  | succ count ih =>
      unfold run
      split
      · exact List.prefix_refl _
      · rename_i after h
        obtain ⟨place, -, grown⟩ := next?_emitted h
        exact (grown ▸ List.prefix_append _ _ : state.emitted <+: after.emitted).trans (ih after)

/-- A run whose emissions are so far the front of an order that follows the links comes to no
more than that order. -/
theorem Tracks.run_least (inside : ∀ link ∈ links, link.2 < size) (count : Nat)
    {state : Emission} (books : Tracks links size [] state) {rest : List Nat}
    (follows : Follows links size (state.emitted ++ rest)) (all : rest.length = count) :
    List.Lex (· < ·) (Emission.run links count state).emitted (state.emitted ++ rest) ∨
      (Emission.run links count state).emitted = state.emitted ++ rest := by
  induction count generalizing state rest with
  | zero =>
      rw [List.length_eq_zero_iff.mp all, List.append_nil]
      exact .inr rfl
  | succ count ih =>
      obtain ⟨place, rest, rfl⟩ := List.exists_cons_of_length_eq_add_one all
      have isReady := books.next_ready follows
      obtain ⟨first, others, ready⟩ := List.exists_cons_of_ne_nil (List.ne_nil_of_mem isReady)
      obtain ⟨after, next⟩ : ∃ after, next? links state = some after :=
        ⟨_, next?_eq_some_iff.mpr ⟨first, others, ready, rfl⟩⟩
      have grown : after.emitted = state.emitted ++ [first] := by
        obtain ⟨_, _, again, rfl⟩ := next?_eq_some_iff.mp next
        cases ready.symm.trans again
        exact foldl_release_emitted _ _
      rw [Emission.run, next]
      dsimp only
      rcases Nat.lt_or_eq_of_le (books.head_le ready isReady) with less | rfl
      · -- here the other order departs
        have front : after.emitted <+: (Emission.run links count after).emitted :=
          emitted_prefix_run count after
        obtain ⟨more, split⟩ := front
        rw [← split, grown, List.append_assoc]
        exact .inl (.append_left _ (.rel less) _)
      · have same : state.emitted ++ first :: rest = after.emitted ++ rest := by
          rw [grown, List.append_assoc, List.singleton_append]
        rw [same] at follows ⊢
        exact ih (books.next inside next) follows (by simpa using all)

end Emission

namespace Graph

variable {graph : Graph}

/-- Every place of a graph once, and the source of every edge before its target. -/
structure Orders (graph : Graph) (places : List Nat) : Prop where
  perm : places.Perm (List.range graph.size)
  source_first : ∀ edge ∈ graph.edges, ∀ i j, graph.indexOf? edge.source = some i →
    graph.indexOf? edge.target = some j → places.idxOf i < places.idxOf j

/-- Edges and the links between their places ask for the same. -/
theorem orders_iff_follows {places : List Nat} :
    graph.Orders places ↔ Emission.Follows graph.links graph.size places := by
  constructor
  · intro orders
    refine ⟨orders.perm, fun i j linked => ?_⟩
    obtain ⟨_, _, ⟨edge, member, rfl, rfl⟩, hi, hj⟩ := linked_iff_indexOf?.mp linked
    exact orders.source_first edge member i j hi hj
  · intro follows
    refine ⟨follows.perm, fun edge member i j hi hj => ?_⟩
    exact follows.source_first i j
      (linked_iff_indexOf?.mpr ⟨_, _, ⟨edge, member, rfl, rfl⟩, hi, hj⟩)

theorem orders_of_edgeOrder? {places : List Nat} (h : graph.edgeOrder? = some places) :
    graph.Orders places := by
  refine orders_iff_follows.mpr ⟨edgeOrder?_perm h, fun i j linked => ?_⟩
  have emitted : j ∈ places :=
    (edgeOrder?_perm h).mem_iff.mpr (List.mem_range.mpr (links_inside graph _ linked).2)
  obtain ⟨rfl, -⟩ := edgeOrder?_eq_some_iff.mp h
  exact ((final_tracks graph).idxOf_lt (.single linked) emitted).2

/-- No order of the places that follows the edges comes before the one that is found. -/
theorem edgeOrder?_least {places other : List Nat} (h : graph.edgeOrder? = some places)
    (orders : graph.Orders other) : List.Lex (· < ·) places other ∨ places = other := by
  obtain ⟨rfl, -⟩ := edgeOrder?_eq_some_iff.mp h
  have length : other.length = graph.size := by simpa using orders.perm.length_eq
  exact (Emission.start_tracks graph.links graph.size).run_least
    (fun link member => (links_inside graph link member).2) graph.size
    (orders_iff_follows.mp orders) length

/-- Where insertion order follows the edges, every edge leads forward. -/
theorem forward_of_orders_range (orders : graph.Orders (List.range graph.size)) :
    graph.Forward := by
  rintro source target joined i j hi hj
  have linked : Emission.Linked graph.links i j :=
    linked_iff_indexOf?.mpr ⟨source, target, joined, hi, hj⟩
  obtain ⟨small, alsoSmall⟩ := links_inside graph _ linked
  have place : ∀ k < graph.size, (List.range graph.size).idxOf k = k := by
    intro k inside
    have within : k < (List.range graph.size).length := by rwa [List.length_range]
    have found := List.nodup_range.idxOf_getElem k within
    rwa [List.getElem_range] at found
  have earlier := (orders_iff_follows.mp orders).source_first i j linked
  rwa [place i small, place j alsoSmall] at earlier

/-- A graph whose edges have no cycle is put into the least of all orders of its steps that
follow the edges: it is such an order, and every other one comes after it when the two are
compared place by place. In particular nothing is moved if insertion order follows the edges. -/
theorem edgeOrder_least (reachable : graph.Reachable) (acyclic : ¬ graph.Cyclic) :
    ∃ places, graph.edgeOrder? = some places ∧ graph.Orders places ∧
      (∀ other, graph.Orders other → List.Lex (· < ·) places other ∨ places = other) ∧
      (graph.Orders (List.range graph.size) → places = List.range graph.size) := by
  cases placed : graph.edgeOrder? with
  | none => exact absurd ((edgeOrder?_eq_none_iff reachable.wellFormed).mp placed) acyclic
  | some places =>
      refine ⟨places, rfl, orders_of_edgeOrder? placed, fun other => edgeOrder?_least placed, ?_⟩
      intro orders
      have forward := (forward_of_orders_range orders).edgeOrder?_eq
      exact Option.some.inj (placed.symm.trans forward)

/-- Four steps, of which the first waits for the third. -/
def overtaking : Graph where
  steps := ["a", "b", "c", "d"].map fun name => ⟨name, "delay", name, .empty, .origin⟩
  edges := [⟨"c-a", "c", "a"⟩, ⟨"c-a-1", "c", "a"⟩]

/-- The first step comes as soon as it may, before the last one, which was ready all along. -/
theorem edgeOrder_least_overtaking :
    overtaking.Reachable ∧ ¬ overtaking.Cyclic ∧ overtaking.edgeOrder? = some [1, 2, 0, 3] ∧
      overtaking.Orders [1, 2, 0, 3] ∧
      (∀ other, overtaking.Orders other →
        List.Lex (· < ·) [1, 2, 0, 3] other ∨ [1, 2, 0, 3] = other) ∧
      ¬ overtaking.Orders (List.range overtaking.size) := by
  have built : Graph.ofParts overtaking.steps overtaking.edges = .ok overtaking := by rfl
  have reachable : overtaking.Reachable := .ofParts built
  have placed : overtaking.edgeOrder? = some [1, 2, 0, 3] := by decide
  have acyclic : ¬ overtaking.Cyclic := by
    intro cyclic
    cases placed.symm.trans ((edgeOrder?_eq_none_iff reachable.wellFormed).mpr cyclic)
  obtain ⟨places, found, orders, least, unmoved⟩ := edgeOrder_least reachable acyclic
  cases placed.symm.trans found
  exact ⟨reachable, acyclic, placed, orders, least, fun inOrder => by cases unmoved inOrder⟩

end Graph

end Workflow
