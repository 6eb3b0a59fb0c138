import Mathlib.Tactic.Common

/-!
# The first item of a kind

`FirstOf P l a` says that `a` is the first item of the list `l` with the property `P`.
There is at most one (`FirstOf.unique`), and it is what a search through the list finds
(`findSome?_eq_some_iff_firstOf`).  Keeping the better one of two items all along a list,
and the earlier one if neither is better, ends with the first of the best items
(`firstOf_greatest_foldl`).
-/

namespace Ndef

variable {α β : Type}

/-- `FirstOf P l a`: the item `a` of the list `l` has the property `P`, and no item before
it has. -/
structure FirstOf (P : α → Prop) (l : List α) (a : α) : Prop where
  holds : P a
  first : ∃ before after, l = before ++ a :: after ∧ ∀ b ∈ before, ¬ P b

/-- `Greatest score l a`: no item of the list `l` has a greater score than `a`. -/
def Greatest (score : α → Nat) (l : List α) (a : α) : Prop :=
  ∀ b ∈ l, score b ≤ score a

namespace FirstOf

variable {P Q : α → Prop} {l : List α} {a b : α}

theorem mem (h : FirstOf P l a) :
  a ∈ l
  := by
  obtain ⟨-, before, after, rfl, -⟩ := h
  simp

/-- An item has the property only if the first one with it is found no later. -/
theorem unique (ha : FirstOf P l a) (hb : FirstOf P l b) :
  a = b
  := by
  obtain ⟨hPa, before, after, rfl, hbefore⟩ := ha
  obtain ⟨hPb, before', after', heq, hbefore'⟩ := hb
  rcases List.append_eq_append_iff.mp heq with ⟨middle, rfl, hmiddle⟩ | ⟨middle, rfl, hmiddle⟩
  · cases middle with
    | nil =>
      injection hmiddle
    | cons c middle =>
      obtain ⟨rfl, -⟩ := List.cons.inj hmiddle
      apply absurd hPa (hbefore' a (by simp))
  · cases middle with
    | nil =>
      injection hmiddle with hmiddle
      exact hmiddle.symm
    | cons c middle =>
      obtain ⟨rfl, -⟩ := List.cons.inj hmiddle
      apply absurd hPb (hbefore b (by simp))

theorem congr (h : ∀ a ∈ l, P a ↔ Q a) (ha : FirstOf P l a) :
  FirstOf Q l a
  := by
  obtain ⟨hP, before, after, rfl, hbefore⟩ := ha
  constructor
  · apply (h a (by simp)).mp hP
  · use before, after, rfl
    intro b hb hQ
    apply hbefore b hb
    apply (h b (by simp [hb])).mpr hQ

end FirstOf

/-- A search finds the first item in which it finds something. -/
theorem findSome?_eq_some_iff_firstOf {g : α → Option β} {l : List α} {b : β} :
  l.findSome? g = some b ↔ ∃ a, FirstOf (fun a => (g a).isSome = true) l a ∧ g a = some b
  := by
  rw [List.findSome?_eq_some_iff]
  constructor
  · rintro ⟨before, a, after, rfl, hb, hbefore⟩
    use a
    constructor
    · constructor
      · rw [hb]
        rfl
      · use before, after, rfl
        intro c hc
        rw [hbefore c hc]
        simp
    · apply hb
  · rintro ⟨a, ⟨-, before, after, rfl, hbefore⟩, hb⟩
    use before, a, after, rfl, hb
    intro c hc
    simpa using hbefore c hc

/-- The first item of a filtered list comes from the first item from which such an item
comes. -/
theorem firstOf_filterMap {g : α → Option β} {P : β → Prop} {l : List α} {b : β} :
  FirstOf P (l.filterMap g) b
    ↔ ∃ a, FirstOf (fun a => ∃ c, g a = some c ∧ P c) l a ∧ g a = some b
  := by
  constructor
  · rintro ⟨hP, before, after, heq, hbefore⟩
    obtain ⟨front, back, rfl, rfl, hback⟩ := List.filterMap_eq_append_iff.mp heq
    obtain ⟨skipped, a, rest, rfl, hskipped, ha, -⟩ := List.filterMap_eq_cons_iff.mp hback
    refine ⟨a, ⟨⟨b, ha, hP⟩, front ++ skipped, rest, by simp, ?_⟩, ha⟩
    rintro c hc ⟨d, hd, hPd⟩
    rcases List.mem_append.mp hc with hc | hc
    · apply hbefore d (List.mem_filterMap.mpr ⟨c, hc, hd⟩) hPd
    · rw [hskipped c hc] at hd
      cases hd
  · rintro ⟨a, ⟨⟨c, hc, hP⟩, before, after, rfl, hbefore⟩, ha⟩
    obtain rfl : c = b := Option.some.inj (hc.symm.trans ha)
    constructor
    · apply hP
    · use before.filterMap g, after.filterMap g
      constructor
      · rw [List.filterMap_append, List.filterMap_cons_some ha]
      · intro d hd hPd
        obtain ⟨e, he, hed⟩ := List.mem_filterMap.mp hd
        apply hbefore e he
        use d

theorem firstOf_map {f : α → β} {P : β → Prop} {l : List α} {b : β} :
  FirstOf P (l.map f) b ↔ ∃ a, FirstOf (P ∘ f) l a ∧ f a = b
  := by
  rw [← List.filterMap_eq_map, firstOf_filterMap]
  simp [Function.comp_def]

/-! ### The first of the best -/

/-- One more item takes the place of the best one exactly if it is better. -/
theorem FirstOf.greatest_step {score : α → Nat} {l : List α} {best : α}
    (h : FirstOf (Greatest score l) l best) (a : α) :
  FirstOf (Greatest score (l ++ [a])) (l ++ [a]) (if score best < score a then a else best)
  := by
  obtain ⟨hbest, before, after, hl, hbefore⟩ := h
  split
  · next hlt =>
    constructor
    · intro b hb
      rcases List.mem_append.mp hb with hb | hb
      · have hle := hbest b hb
        omega
      · obtain rfl := List.mem_singleton.mp hb
        apply Nat.le_refl
    · use l, [], rfl
      intro b hb hgreatest
      have hle := hgreatest a (by simp)
      have hle' := hbest b hb
      omega
  · next hle =>
    constructor
    · intro b hb
      rcases List.mem_append.mp hb with hb | hb
      · apply hbest b hb
      · rw [List.mem_singleton.mp hb]
        omega
    · use before, after ++ [a], by simp [hl]
      intro b hb hgreatest
      apply hbefore b hb
      intro c hc
      apply hgreatest c (List.mem_append_left _ hc)

/-- The best item so far is still the first of the best after any number of steps. -/
theorem FirstOf.greatest_foldl {score : α → Nat} {seen : List α} {best : α}
    (h : FirstOf (Greatest score seen) seen best) (rest : List α) :
  FirstOf (Greatest score (seen ++ rest)) (seen ++ rest)
    (rest.foldl (fun best a => if score best < score a then a else best) best)
  := by
  induction rest generalizing seen best with
  | nil =>
    rw [List.append_nil]
    apply h
  | cons a rest ih =>
    have hrest := ih (h.greatest_step a)
    rw [List.append_assoc] at hrest
    apply hrest

/-- Keeping the better one of two items, or the earlier one, ends with the first of the
best items. -/
theorem firstOf_greatest_foldl (score : α → Nat) (a : α) (l : List α) :
  FirstOf (Greatest score (a :: l)) (a :: l)
    (l.foldl (fun best b => if score best < score b then b else best) a)
  := by
  have hfirst : FirstOf (Greatest score [a]) [a] a := by
    refine ⟨?_, [], [], rfl, by simp⟩
    intro b hb
    obtain rfl := List.mem_singleton.mp hb
    apply Nat.le_refl
  apply hfirst.greatest_foldl

end Ndef
