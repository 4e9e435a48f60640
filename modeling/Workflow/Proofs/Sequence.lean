import Mathlib.Data.List.Basic
import Mathlib.Data.List.Induction

/-!
# Lists in the order in which they came about

What a run leaves behind is a list to which it only ever appends. A property of such a
list often relates each element to those before it, and then a step has to show it for
the new element alone.
-/

namespace Workflow

variable {α : Type}

/-- Something holds of every element and those before it as soon as it does of the last
element besides the others. -/
theorem forall_split_append_singleton {P : List α → α → Prop} {front : List α} {last : α} :
    (∀ before x after, front ++ [last] = before ++ x :: after → P before x) ↔
      (∀ before x after, front = before ++ x :: after → P before x) ∧ P front last := by
  constructor
  · intro every
    refine ⟨fun before x after same => ?_, every front last [] rfl⟩
    exact every before x (after ++ [last]) (by simp [same])
  · rintro ⟨every, new⟩ before x after same
    rcases List.eq_nil_or_concat after with rfl | ⟨middle, other, rfl⟩
    · obtain ⟨rfl, ends⟩ := List.append_inj' same rfl
      cases ends
      exact new
    · rw [List.concat_eq_append, ← List.cons_append, ← List.append_assoc] at same
      exact every before x middle (List.append_inj' same rfl).1

/-- A relation holds from earlier to later elements if it does to each from those before it. -/
theorem pairwise_of_forall_split {R : α → α → Prop} {l : List α}
    (h : ∀ before x after, l = before ++ x :: after → ∀ a ∈ before, R a x) : l.Pairwise R := by
  induction l using List.reverseRecOn with
  | nil => exact .nil
  | append_singleton front last ih =>
      obtain ⟨every, new⟩ := forall_split_append_singleton.mp h
      refine List.pairwise_append.mpr ⟨ih every, List.pairwise_singleton _ _, ?_⟩
      intro a member b same
      exact List.mem_singleton.mp same ▸ new a member

/-- What stands in front of a first occurrence is found before it. -/
theorem idxOf_lt_idxOf_of_mem_front [DecidableEq α] {before after : List α} {a b : α}
    (earlier : a ∈ before) (fresh : b ∉ before) :
    (before ++ b :: after).idxOf a < (before ++ b :: after).idxOf b := by
  rw [List.idxOf_append_of_mem earlier, List.idxOf_append_of_notMem fresh]
  exact Nat.lt_of_lt_of_le (List.idxOf_lt_length_of_mem earlier) (Nat.le_add_right _ _)

end Workflow
