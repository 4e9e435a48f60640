import Workflow.Proofs.Cache.Watermarks

/-!
# How a reply is judged

Of an epoch, a policy only asks how it compares with the marks. What is no older than any
of them is let through under either policy, and a reply that is merged in full turns the
cache into what its writes make of it. Replies that come in the order of their requests
are all of this kind.
-/

namespace Workflow

/-- What is cached once a reply has been merged in full. -/
def Snapshot.absorb (snapshot : Snapshot) (request : Request) (reply : Reply) : Snapshot :=
  (request.writes snapshot reply).foldl Snapshot.perform snapshot

namespace Watermarks

variable {marks : Watermarks} {epoch bound : Nat}

/-- No mark is of an epoch after a bound. -/
structure UpTo (marks : Watermarks) (bound : Nat) : Prop where
  distinct : marks.Distinct
  mark_le : ∀ part, marks.mark part ≤ bound

theorem upTo_zero (bound : Nat) : zero.UpTo bound where
  distinct := covers_zero.distinct
  mark_le part := by
    apply (covers_zero.mark_le_iff part bound).mpr
    intro entry member
    exact absurd member List.not_mem_nil

theorem UpTo.mono (upTo : marks.UpTo epoch) (le : epoch ≤ bound) : marks.UpTo bound where
  distinct := upTo.distinct
  mark_le part := Nat.le_trans (upTo.mark_le part) le

theorem UpTo.record (upTo : marks.UpTo bound) (le : epoch ≤ bound) (write : Write) :
    (marks.record epoch write).UpTo bound where
  distinct := upTo.distinct.record epoch write
  mark_le part := by
    apply (mark_record_le_iff upTo.distinct).mpr
    exact ⟨upTo.mark_le part, fun _ => le⟩

theorem UpTo.admits (upTo : marks.UpTo epoch) (policy : MergePolicy) (write : Write) :
    marks.admits policy epoch write = true := by
  have small : marks.required write ≤ epoch := by
    rw [required_eq_mark]
    exact upTo.mark_le write.part
  simp [Watermarks.admits, small]

/-- Marks that cover a log are of the epochs in it. -/
theorem Covers.upTo {log : WriteLog} (covers : marks.Covers log)
    (le : ∀ entry ∈ log, entry.1 ≤ bound) : marks.UpTo bound where
  distinct := covers.distinct
  mark_le part := by
    apply (covers.mark_le_iff part bound).mpr
    intro entry member _
    exact le entry member

end Watermarks

namespace Replica

variable {replica : Replica} {policy : MergePolicy} {epoch : Nat}

/-- When the last write wins, every write is let through. -/
theorem performAll_lastWriteWins (replica : Replica) (epoch : Nat) (writes : List Write) :
    (replica.performAll .lastWriteWins epoch writes).written = writes ∧
      (replica.performAll .lastWriteWins epoch writes).refused = [] := by
  induction writes generalizing replica with
  | nil => exact ⟨rfl, rfl⟩
  | cons write rest ih =>
      have admitted : replica.marks.admits .lastWriteWins epoch write = true := rfl
      obtain ⟨written, refused⟩ := ih (replica.perform epoch write)
      rw [performAll, if_pos admitted]
      exact ⟨congrArg (write :: ·) written, refused⟩

/-- What is no older than any write is let through, under either policy. -/
theorem performAll_of_upTo (upTo : replica.marks.UpTo epoch) (policy : MergePolicy)
    (writes : List Write) :
    (replica.performAll policy epoch writes).written = writes ∧
      (replica.performAll policy epoch writes).refused = [] ∧
      (replica.performAll policy epoch writes).replica.marks.UpTo epoch := by
  induction writes generalizing replica with
  | nil => exact ⟨rfl, rfl, upTo⟩
  | cons write rest ih =>
      have recorded : (replica.perform epoch write).marks.UpTo epoch :=
        upTo.record (Nat.le_refl epoch) write
      obtain ⟨written, refused, after⟩ := ih recorded
      rw [performAll, if_pos (upTo.admits policy write)]
      exact ⟨congrArg (write :: ·) written, refused, after⟩

/-- Epochs count only in how they compare with the marks. -/
theorem performAll_congr {other : Replica} {number : Nat} (distinct : replica.marks.Distinct)
    (otherDistinct : other.marks.Distinct)
    (alike : ∀ part, replica.marks.mark part ≤ epoch ↔ other.marks.mark part ≤ number)
    (writes : List Write) :
    (replica.performAll policy epoch writes).written =
        (other.performAll policy number writes).written ∧
      (replica.performAll policy epoch writes).refused =
        (other.performAll policy number writes).refused := by
  cases policy with
  | lastWriteWins =>
      obtain ⟨written, refused⟩ := performAll_lastWriteWins replica epoch writes
      obtain ⟨otherWritten, otherRefused⟩ := performAll_lastWriteWins other number writes
      exact ⟨written.trans otherWritten.symm, refused.trans otherRefused.symm⟩
  | latestRequestWins =>
      obtain ⟨written, refused⟩ := @performAll_latest _ epoch distinct writes
      obtain ⟨otherWritten, otherRefused⟩ := @performAll_latest _ number otherDistinct writes
      rw [written, refused, otherWritten, otherRefused]
      simp only [alike, and_self]

/-- What is not refused is written as it was asked for. -/
theorem performAll_written_of_refused_nil {writes : List Write}
    (none : (replica.performAll policy epoch writes).refused = []) :
    (replica.performAll policy epoch writes).written = writes := by
  induction writes generalizing replica with
  | nil => rfl
  | cons write rest ih =>
      rw [performAll] at none ⊢
      by_cases admitted : replica.marks.admits policy epoch write = true
      · rw [if_pos admitted] at none ⊢
        exact congrArg (write :: ·) (ih none)
      · rw [if_neg admitted] at none
        cases none

/-- Replies merged in full absorb into the cache. -/
theorem merge_snapshot_of_full {request : Request} {reply : Reply}
    (full : (replica.merge policy epoch request reply).written =
      request.writes replica.snapshot reply) :
    (replica.merge policy epoch request reply).replica.snapshot =
      replica.snapshot.absorb request reply := by
  rw [Snapshot.absorb, ← full]
  exact performAll_snapshot _

end Replica

end Workflow
