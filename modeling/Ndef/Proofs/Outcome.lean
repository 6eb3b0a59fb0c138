/-!
# Outcomes that may be errors

When a computation that may end in an error succeeds, so do its steps; when it fails, the
first step that fails says why.
-/

namespace Except

variable {ε α β : Type}

theorem map_eq_ok_iff {f : α → β} {x : Except ε α} {b : β} :
  x.map f = .ok b ↔ ∃ a, x = .ok a ∧ f a = b
  := by
  cases x with
  | error e => simp [Except.map]
  | ok a => simp [Except.map]

theorem map_eq_error_iff {f : α → β} {x : Except ε α} {e : ε} :
  x.map f = .error e ↔ x = .error e
  := by
  cases x <;> simp [Except.map]

theorem bind_eq_ok_iff {f : α → Except ε β} {x : Except ε α} {b : β} :
  (x >>= f) = .ok b ↔ ∃ a, x = .ok a ∧ f a = .ok b
  := by
  cases x with
  | error e => simp [bind, Except.bind]
  | ok a => simp [bind, Except.bind]

theorem bind_eq_error_iff {f : α → Except ε β} {x : Except ε α} {e : ε} :
  (x >>= f) = .error e ↔ x = .error e ∨ ∃ a, x = .ok a ∧ f a = .error e
  := by
  cases x with
  | error e => simp [bind, Except.bind]
  | ok a => simp [bind, Except.bind]

/-- A computation with a value that may be absent fails exactly if the value is there and
the computation fails with it. -/
theorem mapM_eq_error_iff {f : α → Except ε β} {o : Option α} {e : ε} :
  o.mapM f = .error e ↔ ∃ a, o = some a ∧ f a = .error e
  := by
  cases o with
  | none => simp [pure, Except.pure]
  | some a =>
    rw [Option.mapM_some]
    change (f a).map some = .error e ↔ _
    simp [map_eq_error_iff]

theorem exists_mapM_eq_ok {f : α → Except ε β} {o : Option α}
    (h : ∀ a, o = some a → ∃ b, f a = .ok b) :
  ∃ p, o.mapM f = .ok p
  := by
  cases hmap : o.mapM f with
  | ok p => exact ⟨p, rfl⟩
  | error e =>
    obtain ⟨a, ha, hfails⟩ := mapM_eq_error_iff.mp hmap
    obtain ⟨b, hb⟩ := h a ha
    rw [hb] at hfails
    cases hfails

/-- A computation with a value that may be absent succeeds exactly if it does with the
value. -/
theorem mapM_eq_ok_iff {f : α → Except ε β} {P : α → Prop} {g : α → β}
    (h : ∀ a b, f a = .ok b ↔ P a ∧ b = g a) {o : Option α} {p : Option β} :
  o.mapM f = .ok p ↔ (∀ a, o = some a → P a) ∧ p = o.map g
  := by
  cases o with
  | none => simp [pure, Except.pure, eq_comm]
  | some a =>
    rw [Option.mapM_some]
    change (f a).map some = .ok p ↔ _
    rw [map_eq_ok_iff]
    constructor
    · rintro ⟨b, hb, rfl⟩
      obtain ⟨ha, rfl⟩ := (h a b).mp hb
      simpa using ha
    · rintro ⟨ha, rfl⟩
      exact ⟨g a, (h a (g a)).mpr ⟨ha a rfl, rfl⟩, rfl⟩

end Except
