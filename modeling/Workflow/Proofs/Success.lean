import Mathlib.Data.List.Forall2

/-!
# Computations that can fail

A successful result says that every part of the computation succeeded and with what, and a
failure comes from the first part that failed. The lemmas below take a mapped, chained or
repeated computation apart in this way, so that proofs about it need not unfold how
failures are passed on.
-/

namespace Except

variable {ε δ α β : Type}

theorem map_eq_ok_iff {x : Except ε α} {f : α → β} {b : β} :
    x.map f = .ok b ↔ ∃ a, x = .ok a ∧ f a = b := by
  cases x <;> simp [Except.map]

theorem exists_map_eq_ok_iff {x : Except ε α} {f : α → β} :
    (∃ b, x.map f = .ok b) ↔ ∃ a, x = .ok a := by
  cases x <;> simp [Except.map]

theorem map_eq_error_iff {x : Except ε α} {f : α → β} {e : ε} :
    x.map f = .error e ↔ x = .error e := by
  cases x <;> simp [Except.map]

theorem mapError_eq_ok_iff {x : Except ε α} {f : ε → δ} {a : α} :
    x.mapError f = .ok a ↔ x = .ok a := by
  cases x <;> simp [Except.mapError]

theorem bind_eq_ok_iff {x : Except ε α} {f : α → Except ε β} {b : β} :
    x >>= f = .ok b ↔ ∃ a, x = .ok a ∧ f a = .ok b := by
  cases x <;> simp [bind, Except.bind]

theorem exists_of_isOk {x : Except ε α} (h : x.isOk = true) : ∃ a, x = .ok a := by
  cases x with
  | error e => cases h
  | ok a => exact ⟨a, rfl⟩

theorem mapError_eq_error_iff {x : Except ε α} {f : ε → δ} {d : δ} :
    x.mapError f = .error d ↔ ∃ e, x = .error e ∧ f e = d := by
  cases x <;> simp [Except.mapError]

theorem bind_eq_error_iff {x : Except ε α} {f : α → Except ε β} {e : ε} :
    x >>= f = .error e ↔ x = .error e ∨ ∃ a, x = .ok a ∧ f a = .error e := by
  cases x <;> simp [bind, Except.bind]

/-- A list is worked through successfully when each of its elements is. -/
theorem mapM_eq_ok_iff {f : α → Except ε β} {as : List α} {bs : List β} :
    as.mapM f = .ok bs ↔ List.Forall₂ (fun a b => f a = .ok b) as bs := by
  induction as generalizing bs with
  | nil =>
      rw [List.mapM_nil, List.forall₂_nil_left_iff]
      exact ⟨fun h => (Except.ok.inj h).symm, fun h => congrArg Except.ok h.symm⟩
  | cons a as ih =>
      rw [List.mapM_cons, bind_eq_ok_iff]
      constructor
      · rintro ⟨b, first, h⟩
        obtain ⟨rest, done, same⟩ := bind_eq_ok_iff.mp h
        cases same
        exact .cons first (ih.mp done)
      · intro h
        cases h with
        | cons first rest => exact ⟨_, first, bind_eq_ok_iff.mpr ⟨_, ih.mpr rest, rfl⟩⟩

/-- A list can be worked through when each of its elements can. -/
theorem exists_mapM_eq_ok_iff {f : α → Except ε β} {as : List α} :
    (∃ bs, as.mapM f = .ok bs) ↔ ∀ a ∈ as, ∃ b, f a = .ok b := by
  simp only [mapM_eq_ok_iff]
  induction as with
  | nil => simp
  | cons a as ih => simp [List.forall₂_cons_left_iff, ← ih]

/-- Working through a list fails with the first of its elements that does; what comes after it
has no part in this. -/
theorem mapM_eq_error_iff {f : α → Except ε β} {as : List α} {e : ε} :
    as.mapM f = .error e ↔ ∃ before a after, as = before ++ a :: after ∧
      (∀ earlier ∈ before, ∃ b, f earlier = .ok b) ∧ f a = .error e := by
  induction as with
  | nil => simp [pure, Except.pure]
  | cons first rest ih =>
      rw [List.mapM_cons, bind_eq_error_iff]
      constructor
      · rintro (failed | ⟨b, made, h⟩)
        · exact ⟨[], first, rest, rfl, by simp, failed⟩
        · obtain later | ⟨_, _, h⟩ := bind_eq_error_iff.mp h
          · obtain ⟨before, a, after, rfl, earlier, failed⟩ := ih.mp later
            exact ⟨first :: before, a, after, rfl,
              List.forall_mem_cons.mpr ⟨⟨b, made⟩, earlier⟩, failed⟩
          · cases h
      · rintro ⟨before, a, after, split, earlier, failed⟩
        cases before with
        | nil =>
            cases split
            exact .inl failed
        | cons _ before =>
            cases split
            obtain ⟨⟨b, made⟩, earlier⟩ := List.forall_mem_cons.mp earlier
            have later := ih.mpr ⟨before, a, after, rfl, earlier, failed⟩
            exact .inr ⟨b, made, bind_eq_error_iff.mpr (.inl later)⟩

/-- Going through a list one element after the other and making something of the results at the
end is making it of the results for the list. -/
theorem map_bind_eq_map_mapM {γ δ σ : Type} {f : α → Except ε β} {a : α} {as : List α}
    {x : Except ε γ} {g : γ → β} (first : f a = x.map g) {next : γ → Except ε δ} {view : δ → σ}
    {wrap : List β → σ}
    (rest : ∀ c, (next c).map view = (as.mapM f).map fun bs => wrap (g c :: bs)) :
    (x >>= next).map view = ((a :: as).mapM f).map wrap := by
  rw [List.mapM_cons, first]
  cases x with
  | error e => rfl
  | ok c =>
      refine (rest c).trans ?_
      cases as.mapM f <;> rfl

end Except

namespace Option

variable {α β : Type}

/-- What is made of the elements of a list has a property that each of them gets. -/
theorem forall_of_mapM_eq_some {f : α → Option β} {P : β → Prop}
    (each : ∀ a b, f a = some b → P b) {as : List α} {bs : List β} (h : as.mapM f = some bs) :
    ∀ b ∈ bs, P b := by
  induction as generalizing bs with
  | nil =>
      cases h
      exact fun _ member => absurd member List.not_mem_nil
  | cons a as ih =>
      simp only [List.mapM_cons, bind, Option.bind_eq_some_iff] at h
      obtain ⟨first, made, rest, others, same⟩ := h
      cases same
      intro b member
      rcases List.mem_cons.mp member with rfl | member
      · exact each a _ made
      · exact ih others b member

end Option
