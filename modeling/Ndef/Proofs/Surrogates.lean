import Mathlib.Tactic.Common
import Ndef.Proofs.Utf16

/-!
# Surrogates that stand alone

Code units write a text exactly if every surrogate among them stands in a pair: a high
surrogate right before a low one (`Utf16.paired_iff`).  So bytes are the UTF-16 bytes of a
text exactly if their number is even and the units they write are such (`Utf16.isValid_iff`).
-/

namespace Ndef

namespace Utf16

/-- The unit is a high surrogate, which is the first one of a pair. -/
def IsHigh (u : UInt16) : Prop :=
  0xD800 ≤ u.toNat ∧ u.toNat < 0xDC00

/-- The unit is a low surrogate, which is the second one of a pair. -/
def IsLow (u : UInt16) : Prop :=
  0xDC00 ≤ u.toNat ∧ u.toNat < 0xE000

/-- The next unit after a high surrogate is a low one, and a low surrogate is such a unit. -/
def Linked (units : List UInt16) : Prop :=
  ∀ i, (∃ u, units[i]? = some u ∧ IsHigh u) ↔ ∃ u, units[i + 1]? = some u ∧ IsLow u

/-- No surrogate stands alone: a low surrogate is not the first unit, and it follows a unit
exactly if that unit is a high surrogate. -/
structure Paired (units : List UInt16) : Prop where
  first : ∀ u, units[0]? = some u → ¬ IsLow u
  linked : Linked units

/-- The code units that are written in the given byte order.  A single byte at the end writes
none. -/
def unitsOf (order : ByteOrder) : Bytes → List UInt16
  | a :: b :: rest => order.unit a b :: unitsOf order rest
  | _ => []

/-- The bytes are UTF-16 in the given order: there is no single byte at the end, and no
surrogate stands alone. -/
structure IsValid (order : ByteOrder) (b : Bytes) : Prop where
  even : b.length % 2 = 0
  paired : Paired (unitsOf order b)

variable {order : ByteOrder} {units rest : List UInt16} {u v : UInt16} {b : Bytes}

/-! ### Units -/

theorem linked_cons_iff :
  Linked (u :: rest) ↔ (IsHigh u ↔ ∃ v, rest[0]? = some v ∧ IsLow v) ∧ Linked rest
  := by
  constructor
  · intro h
    constructor
    · simpa using h 0
    · intro i
      apply h (i + 1)
  · rintro ⟨hfirst, hrest⟩ i
    cases i with
    | zero => simpa using hfirst
    | succ i => apply hrest i

theorem paired_cons_iff_linked :
  Paired (u :: rest) ↔ ¬ IsLow u ∧ Linked (u :: rest)
  := by
  constructor
  · rintro ⟨hfirst, hlinked⟩
    exact ⟨hfirst u rfl, hlinked⟩
  · rintro ⟨hlow, hlinked⟩
    constructor
    · simpa using hlow
    · apply hlinked

/-- Behind a unit that is no high surrogate, the units stand as if they came first. -/
theorem linked_cons_iff_of_not_isHigh (h : ¬ IsHigh u) :
  Linked (u :: rest) ↔ Paired rest
  := by
  rw [linked_cons_iff, iff_false_left h]
  constructor
  · rintro ⟨hfirst, hrest⟩
    constructor
    · intro v hv hlow
      exact hfirst ⟨v, hv, hlow⟩
    · apply hrest
  · rintro ⟨hfirst, hrest⟩
    constructor
    · rintro ⟨v, hv, hlow⟩
      exact hfirst v hv hlow
    · apply hrest

/-- A unit that is no surrogate does not matter for what follows it. -/
theorem paired_cons_iff (hhigh : ¬ IsHigh u) (hlow : ¬ IsLow u) :
  Paired (u :: rest) ↔ Paired rest
  := by
  rw [paired_cons_iff_linked, linked_cons_iff_of_not_isHigh hhigh, and_iff_right hlow]

/-- A pair does not matter for what follows it. -/
theorem paired_cons_cons_iff (hhigh : IsHigh u) (hlow : IsLow v) :
  Paired (u :: v :: rest) ↔ Paired rest
  := by
  have hdisjoint {w : UInt16} : IsHigh w → ¬ IsLow w := by
    rintro ⟨-, hlt⟩ ⟨hle, -⟩
    omega
  have hvhigh : ¬ IsHigh v := fun h => hdisjoint h hlow
  have hnext : IsHigh u ↔ ∃ w, (v :: rest)[0]? = some w ∧ IsLow w := by
    simp [hhigh, hlow]
  rw [paired_cons_iff_linked, linked_cons_iff, linked_cons_iff_of_not_isHigh hvhigh,
    and_iff_right (hdisjoint hhigh), and_iff_right hnext]

/-- A character does not matter for the surrogates that follow it. -/
theorem paired_unitsOfChar_append (c : Char) :
  Paired (unitsOfChar c ++ rest) ↔ Paired rest
  := by
  rcases exists_unitsOfChar_eq c with ⟨u, hunits⟩ | ⟨u, v, hunits⟩
  · have hu := unitsOfChar_eq_singleton_iff.mp hunits
    have hrange := toNat_cases c
    rw [hunits, List.singleton_append]
    apply paired_cons_iff
    · rintro ⟨hle, hlt⟩
      omega
    · rintro ⟨hle, hlt⟩
      omega
  · have hpair := pair?_eq_some_iff.mpr hunits
    rw [pair?, Option.ite_none_right_eq_some] at hpair
    obtain ⟨⟨hu, hu', hv, hv'⟩, -⟩ := hpair
    rw [hunits, List.cons_append, List.singleton_append]
    exact paired_cons_cons_iff ⟨hu, hu'⟩ ⟨hv, hv'⟩

theorem paired_flatMap_append (chars : List Char) :
  Paired (chars.flatMap unitsOfChar ++ rest) ↔ Paired rest
  := by
  induction chars with
  | nil => rfl
  | cons c chars ih => rw [List.flatMap_cons, List.append_assoc, paired_unitsOfChar_append, ih]

theorem paired_nil :
  Paired []
  := by
  constructor
  · simp
  · simp [Linked]

/-- Where no character can be read although no surrogate stands alone, nothing is left. -/
theorem eq_nil_of_readChar (hread : readChar units = none) (hpaired : Paired units) :
  units = []
  := by
  cases units with
  | nil => rfl
  | cons u rest =>
    exfalso
    have hlow : ¬ IsLow u := hpaired.first u rfl
    obtain ⟨hnext, -⟩ := linked_cons_iff.mp hpaired.linked
    rw [readChar.eq_def] at hread
    dsimp only at hread
    split at hread
    · cases hread
    · next hsurrogate =>
      have hhigh : IsHigh u := by
        rw [IsLow] at hlow
        rw [IsHigh]
        omega
      obtain ⟨v, hv, hvlow, hvlow'⟩ := hnext.mp hhigh
      cases rest with
      | nil => cases hv
      | cons w rest =>
        injection hv with hv
        subst hv
        rw [Option.map_eq_none_iff, pair?, if_pos ⟨hhigh.1, hhigh.2, hvlow, hvlow'⟩] at hread
        cases hread

/-- Code units are those of a text exactly if no surrogate among them stands alone. -/
theorem paired_iff :
  Paired units ↔ ∃ s, units = Utf16.units s
  := by
  constructor
  · intro h
    obtain ⟨hunits, -⟩ := accepts.eq_append_all units
    have hstuck := reader.read_all_snd units
    rw [hunits, paired_flatMap_append] at h
    have hrest := eq_nil_of_readChar hstuck h
    use String.ofList (reader.all units).1
    rw [Utf16.units, String.toList_ofList]
    rw [hrest, List.append_nil] at hunits
    apply hunits
  · rintro ⟨s, rfl⟩
    rw [Utf16.units, ← List.append_nil (List.flatMap _ _), paired_flatMap_append]
    apply paired_nil

/-! ### Bytes -/

/-- The units of bytes without a single one at the end write these bytes. -/
theorem flatMap_bytes_unitsOf (h : b.length % 2 = 0) :
  (unitsOf order b).flatMap order.bytes = b
  := by
  fun_induction unitsOf order b with
  | case1 x y rest ih =>
    simp only [List.length_cons] at h
    rw [List.flatMap_cons, order.bytes_unit, ih (by omega)]
    rfl
  | case2 b hshort =>
    match b with
    | [] => rfl
    | [x] => simp at h
    | x :: y :: rest => exact absurd rfl (hshort x y rest)

theorem unitsOf_flatMap_bytes (order : ByteOrder) (units : List UInt16) :
  unitsOf order (units.flatMap order.bytes) = units
  := by
  induction units with
  | nil => rfl
  | cons u units ih =>
    obtain ⟨x, y, hbytes, hunit⟩ := order.exists_bytes_eq u
    rw [List.flatMap_cons, hbytes]
    simp [unitsOf, hunit, ih]

/-- Bytes are UTF-16 exactly if they are the UTF-16 bytes of a text. -/
theorem isValid_iff :
  IsValid order b ↔ ∃ s, b = encode order s
  := by
  constructor
  · rintro ⟨heven, hpaired⟩
    obtain ⟨s, hs⟩ := paired_iff.mp hpaired
    use s
    rw [encode, ← hs, flatMap_bytes_unitsOf heven]
  · rintro ⟨s, rfl⟩
    constructor
    · rw [length_encode]
      omega
    · rw [encode, unitsOf_flatMap_bytes, paired_iff]
      use s

end Utf16

end Ndef
