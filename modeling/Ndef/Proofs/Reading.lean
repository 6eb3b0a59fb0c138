import Mathlib.Tactic.Common
import Ndef.Reader

/-!
# Reading item by item

A reader accepts what `write` writes (`Reader.Accepts`) when an item is read off the
front of a list exactly if the list is what `write` makes of the item, which has to be
valid, and then the rest.  Such a reader takes a list apart in the only way in which it
is made of written items and a rest that the reader refuses (`Accepts.all_eq_iff`), and
when more follows, it reads the same items first (`Accepts.all_truncate`).
-/

namespace Ndef.Reader

variable {σ α : Type} {p : Reader σ α} {write : α → List σ} {valid : α → Prop}

/-- What holds of the lists that the reader refuses, and of a list if it holds of the
rest behind the first item, holds of every list. -/
theorem induction (p : Reader σ α) {motive : List σ → Prop}
    (refused : ∀ s, p.read s = none → motive s)
    (item : ∀ s a rest, p.read s = some (a, rest) → motive rest → motive s) (s : List σ) :
  motive s
  := by
  generalize hlen : s.length = n
  induction n using Nat.strongRecOn generalizing s with
  | ind n ih =>
    subst hlen
    cases h : p.read s with
    | none =>
      apply refused
      apply h
    | some ar =>
      obtain ⟨a, rest⟩ := ar
      apply item s a rest h
      apply ih rest.length (p.shorter h)
      rfl

/-- Parts of which each is what `write` makes of a valid item are what it makes of a list
of valid items. -/
theorem exists_map_eq {τ : Type} {write : α → τ} {parts : List τ}
    (h : ∀ x ∈ parts, ∃ a, valid a ∧ write a = x) :
  ∃ items : List α, (∀ a ∈ items, valid a) ∧ items.map write = parts
  := by
  induction parts with
  | nil =>
    use []
    simp
  | cons x parts ih =>
    obtain ⟨a, ha, rfl⟩ := h x List.mem_cons_self
    obtain ⟨items, hitems, rfl⟩ := ih fun y hy => h y (List.mem_cons_of_mem _ hy)
    use a :: items
    constructor
    · intro b hb
      rcases List.mem_cons.mp hb with rfl | hb
      · apply ha
      · apply hitems b hb
    · rfl

/-- What is written of the items that are read, together with what is left, is one pair
and no other. -/
theorem existsUnique_all (p : Reader σ α) (write : α → List σ) (s : List σ) :
  ∃! d : List (List σ) × List σ, ∃ items, p.all s = (items, d.2) ∧ items.map write = d.1
  := by
  use ((p.all s).1.map write, (p.all s).2)
  constructor
  · exact ⟨_, rfl, rfl⟩
  · rintro ⟨parts, rest⟩ ⟨items, hall, rfl⟩
    rw [hall]

/-- The reader takes an item off the front of a list exactly if the item is valid and
the list is what `write` makes of it, followed by the rest. -/
def Accepts (p : Reader σ α) (write : α → List σ) (valid : α → Prop) : Prop :=
  ∀ s a rest, p.read s = some (a, rest) ↔ s = write a ++ rest ∧ valid a

namespace Accepts

/-- A valid item is read back, whatever follows it. -/
theorem read_append (h : p.Accepts write valid) {a : α} (ha : valid a) (rest : List σ) :
  p.read (write a ++ rest) = some (a, rest)
  := by
  apply (h _ _ _).mpr
  exact ⟨rfl, ha⟩

/-- A valid item is determined by what is written of it. -/
theorem write_injective (h : p.Accepts write valid) {a b : α} (ha : valid a) (hb : valid b)
    (heq : write a = write b) :
  a = b
  := by
  have hread := h.read_append ha []
  rw [heq, h.read_append hb] at hread
  injection hread with hread
  injection hread with hread
  exact hread.symm

/-- Valid items at the front of a list are read before what follows them. -/
theorem all_append (h : p.Accepts write valid) {items : List α} (hitems : ∀ a ∈ items, valid a)
    (s : List σ) :
  p.all (items.flatMap write ++ s) = (items ++ (p.all s).1, (p.all s).2)
  := by
  induction items with
  | nil => rfl
  | cons a items ih =>
    have ha : valid a := hitems a List.mem_cons_self
    rw [List.flatMap_cons, List.append_assoc, all_of_some (h.read_append ha _), ih]
    · rfl
    · intro b hb
      apply hitems b (List.mem_cons_of_mem a hb)

/-- The items that are read are valid, and the list is what is written of them, followed
by what is left. -/
theorem eq_append_all (h : p.Accepts write valid) (s : List σ) :
  s = (p.all s).1.flatMap write ++ (p.all s).2 ∧ ∀ a ∈ (p.all s).1, valid a
  := by
  induction s using p.induction with
  | refused s hs => simp [all_of_none hs]
  | item s a rest hs ih =>
    obtain ⟨hrest, hvalid⟩ := ih
    obtain ⟨hwrite, ha⟩ := (h s a rest).mp hs
    rw [all_of_some hs]
    constructor
    · rw [List.flatMap_cons, List.append_assoc, ← hrest]
      apply hwrite
    · intro b hb
      rcases List.mem_cons.mp hb with rfl | hb
      · apply ha
      · apply hvalid b hb

/-- Reading finds the only items and the only rest of which the list is made. -/
theorem all_eq_iff (h : p.Accepts write valid) {s : List σ} {items : List α} {rest : List σ} :
  p.all s = (items, rest)
    ↔ s = items.flatMap write ++ rest ∧ (∀ a ∈ items, valid a) ∧ p.read rest = none
  := by
  constructor
  · intro hall
    obtain ⟨hs, hvalid⟩ := h.eq_append_all s
    have hstuck := p.read_all_snd s
    rw [hall] at hs hvalid hstuck
    exact ⟨hs, hvalid, hstuck⟩
  · rintro ⟨rfl, hvalid, hstuck⟩
    rw [h.all_append hvalid, all_of_none hstuck, List.append_nil]

/-- A list is made of the parts that are written of the items read off its front, and of
what is left, and in no other way of parts written of valid items and a rest that the
reader refuses. -/
theorem exists_all_eq_iff (h : p.Accepts write valid) {s rest : List σ} {parts : List (List σ)} :
  (∃ items, p.all s = (items, rest) ∧ items.map write = parts)
    ↔ s = parts.flatten ++ rest ∧ (∀ x ∈ parts, ∃ a, valid a ∧ write a = x) ∧ p.read rest = none
  := by
  constructor
  · rintro ⟨items, hall, rfl⟩
    obtain ⟨hs, hvalid, hstuck⟩ := h.all_eq_iff.mp hall
    refine ⟨hs, ?_, hstuck⟩
    intro x hx
    obtain ⟨a, ha, rfl⟩ := List.mem_map.mp hx
    exact ⟨a, hvalid a ha, rfl⟩
  · rintro ⟨rfl, hparts, hstuck⟩
    obtain ⟨items, hvalid, rfl⟩ := exists_map_eq hparts
    exact ⟨items, h.all_eq_iff.mpr ⟨rfl, hvalid, hstuck⟩, rfl⟩

/-- The items read off the front of a list are still the first ones when more follows. -/
theorem all_truncate (h : p.Accepts write valid) {s t : List σ} (hst : s <+: t) :
  (p.all s).1 <+: (p.all t).1
  := by
  obtain ⟨x, rfl⟩ := hst
  obtain ⟨hs, hvalid⟩ := h.eq_append_all s
  have happend := h.all_append hvalid ((p.all s).2 ++ x)
  rw [← List.append_assoc, ← hs] at happend
  rw [happend]
  apply List.prefix_append

/-- A list is read as a whole exactly if it is what is written of valid items. -/
theorem whole?_eq_some_iff (h : p.Accepts write valid) (hnil : p.read [] = none) {s : List σ}
    {items : List α} :
  p.whole? s = some items ↔ s = items.flatMap write ∧ ∀ a ∈ items, valid a
  := by
  rw [whole?, Option.ite_none_right_eq_some]
  constructor
  · rintro ⟨hempty, hitems⟩
    injection hitems with hitems
    obtain ⟨hs, hvalid⟩ := h.eq_append_all s
    rw [List.isEmpty_iff.mp hempty, List.append_nil, hitems] at hs
    rw [hitems] at hvalid
    exact ⟨hs, hvalid⟩
  · rintro ⟨rfl, hvalid⟩
    have hall : p.all (items.flatMap write) = (items, []) :=
      h.all_eq_iff.mpr ⟨(List.append_nil _).symm, hvalid, hnil⟩
    rw [hall]
    exact ⟨rfl, rfl⟩

end Accepts

end Ndef.Reader
