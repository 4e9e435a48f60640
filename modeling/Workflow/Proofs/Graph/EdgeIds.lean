import Workflow.Proofs.Graph.WellFormed
import Mathlib.Algebra.Group.Nat.Defs

/-!
# Identifiers of new edges

An edge is drawn under the pair of its ends if no edge has that identifier yet, and otherwise
under the pair and the least number that makes one that is free. The numbers are tried one after
the other, without a bound, and they are words of 32 bits. The search ends all the same: as long
as every candidate that it has looked at is taken there are as many edges as candidates. So it
looks at no more than one candidate besides the edges, and with fewer than 2^31 edges its numbers
do not come to the point where they would turn negative.

Nothing is assumed of the identifiers that the edges have. Those from a file may be any text, and
those of other pairs may look like numbered ones of this pair.
-/

namespace Workflow

namespace Graph

/-! ## The search -/

/-- A base with a number behind it. -/
def numberedId (base : String) (k : Nat) : String :=
  base ++ "-" ++ toString k

/-- The least identifier that is not taken: the base alone or else with the least number from 1
on. -/
inductive LeastFree (taken : List String) (base : String) : String → Prop
  | bare : base ∉ taken → LeastFree taken base base
  | numbered {k : Nat} : base ∈ taken → 1 ≤ k → numberedId base k ∉ taken →
      (∀ j, 1 ≤ j → j < k → numberedId base j ∈ taken) → LeastFree taken base (numberedId base k)

/-- The search for an identifier that is not taken looks at `candidate` next and has `number` for
the one after it. It ends with `id` when it has looked at `tries` candidates. -/
inductive SearchEnds (taken : List String) (base : String) :
    (candidate : String) → (number : Int32) → (tries : Nat) → (id : String) → Prop
  | here {candidate : String} {number : Int32} :
      candidate ∉ taken → SearchEnds taken base candidate number 1 candidate
  | further {candidate id : String} {number : Int32} {tries : Nat} :
      candidate ∈ taken →
        SearchEnds taken base (base ++ "-" ++ toString number) (number + 1) tries id →
          SearchEnds taken base candidate number (tries + 1) id

/-! ## Candidates -/

/-- The candidate that is looked at after `k` others. -/
def candidateAt (base : String) : Nat → String
  | 0 => base
  | k + 1 => numberedId base (k + 1)

theorem edgeIdCandidates_eq_map (graph : Graph) (source target : String) :
    graph.edgeIdCandidates source target =
      (List.range (graph.edges.length + 1)).map (candidateAt (source ++ "-" ++ target)) := by
  rw [List.range_succ_eq_map, List.map_cons, List.map_map]
  rfl

/-- The identifier of a new edge is the first candidate that no edge has. There are at most as
many candidates before it as edges. -/
theorem freeEdgeId_eq_candidateAt (graph : Graph) (source target : String) :
    ∃ k ≤ graph.edges.length,
      graph.freeEdgeId source target = candidateAt (source ++ "-" ++ target) k ∧
        ∀ j < k, candidateAt (source ++ "-" ++ target) j ∈ graph.edgeIds := by
  have found := (freeEdgeId_spec graph source target).1
  rw [edgeIdCandidates_eq_map, List.find?_eq_some_iff_getElem] at found
  obtain ⟨-, k, within, chosen, earlier⟩ := found
  rw [List.length_map, List.length_range] at within
  refine ⟨k, Nat.le_of_lt_succ within, ?_, ?_⟩
  · simpa using chosen.symm
  · intro j before
    simpa using earlier j before

theorem leastFree_candidateAt {taken : List String} {base : String} {k : Nat}
    (free : candidateAt base k ∉ taken) (earlier : ∀ j < k, candidateAt base j ∈ taken) :
    LeastFree taken base (candidateAt base k) := by
  cases k with
  | zero => exact .bare free
  | succ k =>
      refine .numbered (earlier 0 (Nat.succ_pos k)) (Nat.succ_pos k) free ?_
      intro j positive before
      obtain ⟨i, rfl⟩ := Nat.exists_eq_succ_of_ne_zero (Nat.ne_of_gt positive)
      exact earlier (i + 1) before

/-! ## The search ends -/

/-- A number of 32 bits is written like the natural number that it stands for. -/
theorem toString_int32 {k : Nat} (small : k < 2 ^ 31) :
    toString (Int32.ofNat k) = toString k := by
  have value : (Int32.ofNat k).toInt = k := Int32.toInt_ofNat_of_lt small
  change toString (Int32.ofNat k).toInt = toString k
  rw [value]
  rfl

/-- From every candidate before the first free one the search goes on to that one. -/
theorem searchEnds_of_taken {taken : List String} {base : String} {k : Nat} (small : k < 2 ^ 31)
    (free : candidateAt base k ∉ taken) (earlier : ∀ j < k, candidateAt base j ∈ taken)
    {j remaining : Nat} (place : j + remaining = k) :
    SearchEnds taken base (candidateAt base j) (Int32.ofNat (j + 1)) (remaining + 1)
      (candidateAt base k) := by
  induction remaining generalizing j with
  | zero =>
      obtain rfl : j = k := place
      exact .here free
  | succ remaining ih =>
      have next : base ++ "-" ++ toString (Int32.ofNat (j + 1)) = candidateAt base (j + 1) := by
        rw [toString_int32 (by omega), candidateAt, numberedId]
      have counted : Int32.ofNat (j + 1) + 1 = Int32.ofNat (j + 1 + 1) :=
        (Int32.ofNat_add (j + 1) 1).symm
      refine .further (earlier j (by omega)) ?_
      rw [next, counted]
      exact ih (by omega)

/-- Between any two steps of a graph of fewer than 2^31 edges, whatever identifiers these have, an
edge is drawn: the search for its identifier looks at no more than one candidate besides the
edges, it ends with the least identifier that is free, and the graph is then what it was and the
one edge at the end. -/
theorem connect_takes_least_free (graph : Graph) {source target : String}
    (few : graph.edges.length < 2 ^ 31) (hs : source ∈ graph.names) (ht : target ∈ graph.names) :
    ∃ id, (∃ tries ≤ graph.edges.length + 1, SearchEnds graph.edgeIds (source ++ "-" ++ target)
        (source ++ "-" ++ target) 1 tries id) ∧
      LeastFree graph.edgeIds (source ++ "-" ++ target) id ∧
      graph.connect source target =
        .ok (id, { graph with edges := graph.edges ++ [⟨id, source, target⟩] }) := by
  obtain ⟨k, within, chosen, earlier⟩ := freeEdgeId_eq_candidateAt graph source target
  have free := (freeEdgeId_spec graph source target).2
  rw [chosen] at free
  refine ⟨_, ⟨k + 1, Nat.succ_le_succ within, ?_⟩, leastFree_candidateAt free earlier, ?_⟩
  · exact searchEnds_of_taken (Nat.lt_of_le_of_lt within few) free earlier (Nat.zero_add k)
  · rw [connect_eq_ok hs ht, chosen]

/-- The first two edges have the identifiers that one from `a` to `b-c` would have, though they
join other steps, and the third has one that it would only have later. -/
def crossing : Graph where
  steps := ["a", "a-b", "b-c", "c"].map fun name => ⟨name, "delay", name, .empty, .origin⟩
  edges := [⟨"a-b-c-1", "c", "a"⟩, ⟨"a-b-c", "a-b", "c"⟩, ⟨"a-b-c-3", "a-b", "c"⟩]

theorem connect_takes_least_free_crossing :
    (crossing.edges.length < 2 ^ 31 ∧ "a" ∈ crossing.names ∧ "b-c" ∈ crossing.names) ∧
      ∃ id, (∃ tries ≤ 4, SearchEnds crossing.edgeIds "a-b-c" "a-b-c" 1 tries id) ∧
        LeastFree crossing.edgeIds "a-b-c" id ∧
        crossing.connect "a" "b-c" =
          .ok (id, { crossing with edges := crossing.edges ++ [⟨id, "a", "b-c"⟩] }) := by
  have drawn := @connect_takes_least_free crossing "a" "b-c" (by decide) (by decide) (by decide)
  have joined : "a" ++ "-" ++ "b-c" = "a-b-c" := by decide
  rw [joined] at drawn
  exact ⟨⟨by decide, by decide, by decide⟩, drawn⟩

/-- Of the numbers only the one between those of other edges is free. -/
example : crossing.freeEdgeId "a" "b-c" = "a-b-c-2" := by
  decide

end Graph

end Workflow
