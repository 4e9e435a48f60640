import Workflow.Cache.Merge
import Mathlib.Data.List.Nodup

/-!
# What watermarks remember

A mark stands for writes: it is at most a bound exactly when all writes that overlap its
part have epochs up to that bound. Recording a write keeps this so, also where a newer
list wipes out the marks of entries, because the mark of the list counts for them. Marks
thereby say the same as the whole log of writes, and a reply's writes can be judged
by the log.
-/

namespace Workflow

/-- A part of the cache that can be written by itself. -/
inductive Part where
  | list
  | entry (id : Int64)
  | current
deriving DecidableEq

namespace Part

/-- One part has something in common with another: the list has all its entries. -/
def Overlaps : Part → Part → Prop
  | .list, other => other ≠ .current
  | .entry id, other => other = .list ∨ other = .entry id
  | .current, other => other = .current

@[simp] theorem list_overlaps_iff {part : Part} : Part.list.Overlaps part ↔ part ≠ .current :=
  Iff.rfl

@[simp] theorem entry_overlaps_iff {id : Int64} {part : Part} :
    (entry id).Overlaps part ↔ part = .list ∨ part = .entry id :=
  Iff.rfl

@[simp] theorem current_overlaps_iff {part : Part} :
    Part.current.Overlaps part ↔ part = .current :=
  Iff.rfl

theorem Overlaps.symm {a b : Part} (h : a.Overlaps b) : b.Overlaps a := by
  cases a <;> cases b <;> simp_all

/-- What overlaps an entry overlaps the list. -/
theorem Overlaps.list {id : Int64} {part : Part} (h : (entry id).Overlaps part) :
    Part.list.Overlaps part := by
  rcases h with rfl | rfl <;> simp

end Part

/-- The part that a write changes. -/
def Write.part : Write → Part
  | .list _ => .list
  | .put record | .replace record => .entry record.id
  | .current _ => .current

/-- Writes together with the epochs of the requests they are due to. -/
abbrev WriteLog := List (Nat × Write)

/-- Every logged write that overlaps a part is of an epoch up to a bound. -/
def WriteLog.UpTo (log : WriteLog) (part : Part) (bound : Nat) : Prop :=
  ∀ entry ∈ log, entry.2.part.Overlaps part → entry.1 ≤ bound

theorem WriteLog.not_upTo_iff {log : WriteLog} {part : Part} {bound : Nat} :
    ¬ log.UpTo part bound ↔ ∃ entry ∈ log, entry.2.part.Overlaps part ∧ bound < entry.1 := by
  simp only [UpTo, not_forall, exists_prop, Nat.not_le]

namespace Watermarks

variable {marks : Watermarks}

/-- The epoch of the newest write to a part. -/
def mark (marks : Watermarks) : Part → Nat
  | .list => max marks.list marks.newestEntry
  | .entry id => marks.entry id
  | .current => marks.current

theorem required_eq_mark (write : Write) : marks.required write = marks.mark write.part := by
  cases write <;> rfl

/-- When the latest request wins, a write is judged by the mark of its part. -/
theorem admits_latestRequestWins_iff {epoch : Nat} {write : Write} :
    marks.admits .latestRequestWins epoch write = true ↔ marks.mark write.part ≤ epoch := by
  simp [admits, required_eq_mark]

/-- Each number has one mark. -/
def Distinct (marks : Watermarks) : Prop :=
  (marks.entries.map Prod.fst).Nodup

/-! ## What a mark says of the entries -/

theorem newest_le_iff {entries : List (Int64 × Nat)} {start bound : Nat} :
    entries.foldl (fun newest mark => max newest mark.2) start ≤ bound ↔
      start ≤ bound ∧ ∀ mark ∈ entries, mark.2 ≤ bound := by
  induction entries generalizing start with
  | nil => simp
  | cons head rest ih =>
      rw [List.foldl_cons, ih, List.forall_mem_cons, Nat.max_le, and_assoc]

theorem lookup_le_iff {entries : List (Int64 × Nat)} (distinct : (entries.map Prod.fst).Nodup)
    {id : Int64} {bound : Nat} : (entries.lookup id).getD 0 ≤ bound ↔
      ∀ mark ∈ entries, id = mark.1 → mark.2 ≤ bound := by
  induction entries with
  | nil => simp
  | cons head rest ih =>
      obtain ⟨other, mark⟩ := head
      obtain ⟨new, unique⟩ := List.nodup_cons.mp distinct
      rw [List.forall_mem_cons, List.lookup_cons]
      by_cases same : id = other
      · subst same
        have absent : ∀ kept ∈ rest, id = kept.1 → kept.2 ≤ bound := by
          intro kept member same
          exact absurd (List.mem_map.mpr ⟨kept, member, same.symm⟩) new
        rw [beq_self_eq_true]
        exact ⟨fun small => ⟨fun _ => small, absent⟩, fun all => all.1 rfl⟩
      · have later : id = other → mark ≤ bound := fun equal => absurd equal same
        rw [beq_false_of_ne same]
        exact (ih unique).trans (and_iff_right later).symm

/-- A mark is the greatest of the numbers kept for what it overlaps. -/
theorem mark_le_iff (distinct : marks.Distinct) {part : Part} {bound : Nat} :
    marks.mark part ≤ bound ↔ (Part.list.Overlaps part → marks.list ≤ bound) ∧
      (Part.current.Overlaps part → marks.current ≤ bound) ∧
      ∀ mark ∈ marks.entries, (Part.entry mark.1).Overlaps part → mark.2 ≤ bound := by
  cases part with
  | list =>
      rw [mark, newestEntry, Nat.max_le, newest_le_iff]
      simp
  | entry id =>
      rw [mark, entry, Nat.max_le, lookup_le_iff distinct]
      simp
  | current => simp [mark]

/-! ## Recording a write -/

theorem forall_mem_raise (counts : Int64 → Prop) {id : Int64} {epoch bound : Nat}
    {entries : List (Int64 × Nat)} :
    (∀ mark ∈ raise id epoch entries, counts mark.1 → mark.2 ≤ bound) ↔
      (∀ mark ∈ entries, counts mark.1 → mark.2 ≤ bound) ∧ (counts id → epoch ≤ bound) := by
  induction entries with
  | nil => simp [raise]
  | cons head rest ih =>
      obtain ⟨other, mark⟩ := head
      unfold raise
      by_cases same : other = id
      · subst same
        rw [if_pos rfl, List.forall_mem_cons, List.forall_mem_cons]
        simp only [Nat.max_le]
        tauto
      · rw [if_neg same, List.forall_mem_cons, List.forall_mem_cons, ih, and_assoc]

theorem mem_keys_raise {id other : Int64} {epoch : Nat} {entries : List (Int64 × Nat)} :
    other ∈ (raise id epoch entries).map Prod.fst ↔
      other = id ∨ other ∈ entries.map Prod.fst := by
  induction entries with
  | nil => simp [raise]
  | cons head rest ih =>
      obtain ⟨key, mark⟩ := head
      unfold raise
      by_cases same : key = id
      · rw [if_pos same]
        simp [same]
      · rw [if_neg same, List.map_cons, List.map_cons, List.mem_cons, List.mem_cons, ih]
        exact or_left_comm

theorem Distinct.record (distinct : marks.Distinct) (epoch : Nat) (write : Write) :
    (marks.record epoch write).Distinct := by
  have raised : ∀ (id : Int64) (entries : List (Int64 × Nat)),
      (entries.map Prod.fst).Nodup → ((raise id epoch entries).map Prod.fst).Nodup := by
    intro id entries unique
    induction entries with
    | nil => simp [raise]
    | cons head rest ih =>
        obtain ⟨key, mark⟩ := head
        obtain ⟨new, unique⟩ := List.nodup_cons.mp unique
        unfold raise
        by_cases same : key = id
        · rw [if_pos same]
          exact List.nodup_cons.mpr ⟨new, unique⟩
        · rw [if_neg same]
          refine List.nodup_cons.mpr ⟨fun member => ?_, ih unique⟩
          rcases mem_keys_raise.mp member with equal | old
          · exact same equal
          · exact new old
  cases write with
  | list records => exact distinct.sublist (List.filter_sublist.map _)
  | put record | replace record => exact raised record.id marks.entries distinct
  | current record => exact distinct

/-- Recording a write adds it to what the marks are bounds of, and nothing else. -/
theorem mark_record_le_iff (distinct : marks.Distinct) {epoch bound : Nat} {write : Write}
    {part : Part} : (marks.record epoch write).mark part ≤ bound ↔
      marks.mark part ≤ bound ∧ (write.part.Overlaps part → epoch ≤ bound) := by
  rw [mark_le_iff (distinct.record epoch write), mark_le_iff distinct]
  cases write with
  | list records =>
      simp only [record, Write.part, Nat.max_le, List.mem_filter, decide_eq_true_eq]
      constructor
      · rintro ⟨listed, opened, newer⟩
        refine ⟨⟨fun meets => (listed meets).1, opened, ?_⟩, fun meets => (listed meets).2⟩
        -- the mark of an entry that the list wiped out is at most the epoch of the list
        intro mark member meets
        by_cases kept : epoch < mark.2
        · exact newer mark ⟨member, kept⟩ meets
        · have := (listed meets.list).2
          omega
      · rintro ⟨⟨listed, opened, every⟩, new⟩
        exact ⟨fun meets => ⟨listed meets, new meets⟩, opened,
          fun mark member => every mark member.1⟩
  | put record | replace record =>
      simp only [Watermarks.record, Write.part,
        forall_mem_raise fun id => (Part.entry id).Overlaps part]
      tauto
  | current record =>
      simp only [Watermarks.record, Write.part, Nat.max_le]
      tauto

/-- Marks say of every part what a log of writes says. -/
structure Covers (marks : Watermarks) (log : WriteLog) : Prop where
  distinct : marks.Distinct
  mark_le_iff : ∀ part bound, marks.mark part ≤ bound ↔ log.UpTo part bound

theorem covers_zero : zero.Covers [] where
  distinct := List.nodup_nil
  mark_le_iff part bound := by
    have zero_mark : zero.mark part = 0 := by cases part <;> rfl
    simp [zero_mark, WriteLog.UpTo]

theorem Covers.record {log : WriteLog} (covers : marks.Covers log) (epoch : Nat)
    (write : Write) : (marks.record epoch write).Covers (log ++ [(epoch, write)]) where
  distinct := covers.distinct.record epoch write
  mark_le_iff part bound := by
    rw [mark_record_le_iff covers.distinct, covers.mark_le_iff]
    simp only [WriteLog.UpTo, List.forall_mem_append, List.forall_mem_singleton]

end Watermarks

namespace Replica

variable {replica : Replica} {policy : MergePolicy} {epoch : Nat}

/-- What a merge writes is what it does to the cache. -/
theorem performAll_snapshot (writes : List Write) :
    (replica.performAll policy epoch writes).replica.snapshot =
      (replica.performAll policy epoch writes).written.foldl Snapshot.perform
        replica.snapshot := by
  induction writes generalizing replica with
  | nil => rfl
  | cons write rest ih =>
      rw [performAll]
      split
      · exact ih
      · exact ih

theorem performAll_covers {log : WriteLog} (covers : replica.marks.Covers log)
    (writes : List Write) : (replica.performAll policy epoch writes).replica.marks.Covers
      (log ++ (replica.performAll policy epoch writes).written.map (Prod.mk epoch)) := by
  induction writes generalizing replica log with
  | nil =>
      rw [performAll, List.map_nil, List.append_nil]
      exact covers
  | cons write rest ih =>
      rw [performAll]
      split
      · have recorded : (replica.perform epoch write).marks.Covers (log ++ [(epoch, write)]) :=
          covers.record epoch write
        have rest_covers := ih recorded
        rw [List.append_assoc] at rest_covers
        exact rest_covers
      · exact ih covers

/-- When the latest request wins, the writes of a reply are judged by the marks before it:
those it leaves itself are of its own epoch and stand in no one's way. -/
theorem performAll_latest (distinct : replica.marks.Distinct) (writes : List Write) :
    (replica.performAll .latestRequestWins epoch writes).written =
        writes.filter (fun write => replica.marks.mark write.part ≤ epoch) ∧
      (replica.performAll .latestRequestWins epoch writes).refused =
        writes.filter (fun write => ¬ replica.marks.mark write.part ≤ epoch) := by
  induction writes generalizing replica with
  | nil => exact ⟨rfl, rfl⟩
  | cons write rest ih =>
      have admits_iff := @Watermarks.admits_latestRequestWins_iff replica.marks epoch write
      rw [performAll]
      by_cases fresh : replica.marks.mark write.part ≤ epoch
      · rw [if_pos (admits_iff.mpr fresh)]
        have same : ∀ part, (replica.perform epoch write).marks.mark part ≤ epoch ↔
            replica.marks.mark part ≤ epoch := fun part =>
          (Watermarks.mark_record_le_iff distinct).trans
            (and_iff_left fun _ => Nat.le_refl epoch)
        have recorded : (replica.perform epoch write).marks.Distinct :=
          distinct.record epoch write
        obtain ⟨written, refused⟩ := ih recorded
        simp only [same] at written refused
        simp only [List.filter_cons, fresh, written, refused]
        exact ⟨rfl, rfl⟩
      · rw [if_neg (fun admitted => fresh (admits_iff.mp admitted))]
        obtain ⟨written, refused⟩ := ih distinct
        simp only [List.filter_cons, fresh, written, refused]
        exact ⟨rfl, rfl⟩

end Replica

end Workflow
