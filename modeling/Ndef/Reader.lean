/-!
# Readers

A reader takes one item off the front of a list and returns it with the rest,
which is shorter, or fails.  `Reader.all` takes items until the reader fails, and
`Reader.whole?` asks that nothing is left then.
-/

namespace Ndef

/-- A way to take one item off the front of a list. -/
structure Reader (σ α : Type) where
  /-- The item at the front and the rest. -/
  read : List σ → Option (α × List σ)
  /-- Reading an item uses up some of the list. -/
  shorter : ∀ {s a rest}, read s = some (a, rest) → rest.length < s.length

namespace Reader

variable {σ α : Type}

/-- The items in `s` after those in `before`, which is reversed, and what is left. -/
def collect (p : Reader σ α) (before : List α) (s : List σ) : List α × List σ :=
  match _h : p.read s with
  | none => (before.reverse, s)
  | some (a, rest) => p.collect (a :: before) rest
termination_by s.length
decreasing_by exact p.shorter ‹_›

/-- The items read until the reader fails, and what is left then. -/
def all (p : Reader σ α) (s : List σ) : List α × List σ :=
  p.collect [] s

/-- The items read, if the reader uses up the list. -/
def whole? (p : Reader σ α) (s : List σ) : Option (List α) :=
  let (items, rest) := p.all s
  if rest.isEmpty then some items else none

theorem collect_of_none {p : Reader σ α} {s : List σ} (h : p.read s = none) (before : List α) :
  p.collect before s = (before.reverse, s)
  := by
  rw [collect]
  split
  · rfl
  · next heq => rw [h] at heq; cases heq

theorem collect_of_some {p : Reader σ α} {s rest : List σ} {a : α}
    (h : p.read s = some (a, rest)) (before : List α) :
  p.collect before s = p.collect (a :: before) rest
  := by
  rw [collect]
  split
  · next heq => rw [h] at heq; cases heq
  · next heq => rw [h] at heq; cases heq; rfl

/-- The items already read stand in front of those still to be read. -/
theorem collect_eq (p : Reader σ α) (before : List α) (s : List σ) :
  p.collect before s = (before.reverse ++ (p.all s).1, (p.all s).2)
  := by
  generalize hlen : s.length = n
  induction n using Nat.strongRecOn generalizing before s with
  | ind n ih =>
    subst hlen
    cases h : p.read s with
    | none => simp [all, collect_of_none h]
    | some ar =>
      obtain ⟨a, rest⟩ := ar
      have hlt := p.shorter h
      rw [all, collect_of_some h, collect_of_some h, ih _ hlt _ _ rfl, ih _ hlt [a] _ rfl]
      simp

/-- Nothing is read from a list that the reader refuses. -/
theorem all_of_none {p : Reader σ α} {s : List σ} (h : p.read s = none) :
  p.all s = ([], s)
  := by
  simp [all, collect_of_none h]

/-- The item at the front comes before those in the rest. -/
theorem all_of_some {p : Reader σ α} {s rest : List σ} {a : α} (h : p.read s = some (a, rest)) :
  p.all s = (a :: (p.all rest).1, (p.all rest).2)
  := by
  rw [all, collect_of_some h, collect_eq]
  simp

/-- The reader refuses what is left. -/
theorem read_all_snd (p : Reader σ α) (s : List σ) :
  p.read (p.all s).2 = none
  := by
  generalize hlen : s.length = n
  induction n using Nat.strongRecOn generalizing s with
  | ind n ih =>
    subst hlen
    cases h : p.read s with
    | none => rw [all_of_none h, h]
    | some ar =>
      obtain ⟨a, rest⟩ := ar
      rw [all_of_some h]
      exact ih _ (p.shorter h) _ rfl

/-- What is left is no longer than the list. -/
theorem length_all_snd_le (p : Reader σ α) (s : List σ) :
  (p.all s).2.length ≤ s.length
  := by
  generalize hlen : s.length = n
  induction n using Nat.strongRecOn generalizing s with
  | ind n ih =>
    subst hlen
    cases h : p.read s with
    | none => simp [all_of_none h]
    | some ar =>
      obtain ⟨a, rest⟩ := ar
      have hlt := p.shorter h
      have hle := ih _ hlt rest rfl
      rw [all_of_some h]
      dsimp only
      omega

end Reader

end Ndef
