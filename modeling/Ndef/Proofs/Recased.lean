import Mathlib.Data.List.Forall2
import Mathlib.Tactic.Common
import Ndef.Caseless
import Ndef.Cut

/-!
# Texts up to ASCII case

A text is recased by putting letters A to Z in the other case, each by itself
(`Recased`).  That is what the comparison of texts up to case does not see
(`equalUpToCase_iff_recased`).
-/

namespace Ndef

/-- The second character is the first one, perhaps in the other case. -/
def SameLetter (c d : Char) : Prop :=
  d = c ∨ d = c.toLower ∨ d = c.toUpper

/-- The second text is the first one with any of its letters in the other case. -/
def Recased (s t : String) : Prop :=
  List.Forall₂ SameLetter s.toList t.toList

instance (c d : Char) : Decidable (SameLetter c d) :=
  inferInstanceAs (Decidable (_ ∨ _ ∨ _))

instance (s t : String) : Decidable (Recased s t) :=
  inferInstanceAs (Decidable (List.Forall₂ SameLetter s.toList t.toList))

/-! ### Letters -/

theorem toNat_toLower (c : Char) :
  c.toLower.toNat = if 0x41 ≤ c.toNat ∧ c.toNat ≤ 0x5A then c.toNat + 0x20 else c.toNat
  := by
  by_cases h : 'A'.val ≤ c.val ∧ c.val ≤ 'Z'.val
  · have hlower : c.toLower = ⟨c.val + 0x20, _⟩ := dif_pos h
    have hnat : 0x41 ≤ c.toNat ∧ c.toNat ≤ 0x5A := h
    rw [if_pos hnat, ← Char.toNat_val, hlower, UInt32.toNat_add]
    change (c.toNat + 0x20) % 2 ^ 32 = c.toNat + 0x20
    omega
  · have hsame : c.toLower = c := dif_neg h
    rw [hsame]
    apply (if_neg h).symm

theorem toNat_toUpper (c : Char) :
  c.toUpper.toNat = if 0x61 ≤ c.toNat ∧ c.toNat ≤ 0x7A then c.toNat - 0x20 else c.toNat
  := by
  by_cases h : 'a'.val ≤ c.val ∧ c.val ≤ 'z'.val
  · -- The difference of the cases is negative, so the sum wraps around.
    have hupper : c.toUpper = ⟨c.val + ('A'.val - 'a'.val), _⟩ := dif_pos h
    have hnat : 0x61 ≤ c.toNat ∧ c.toNat ≤ 0x7A := h
    rw [if_pos hnat, ← Char.toNat_val, hupper, UInt32.toNat_add]
    change (c.toNat + 0xFFFFFFE0) % 2 ^ 32 = c.toNat - 0x20
    omega
  · have hsame : c.toUpper = c := dif_neg h
    rw [hsame]
    apply (if_neg h).symm

/-- Characters are the same letter exactly if they are the same in lower case. -/
theorem sameLetter_iff {c d : Char} :
  SameLetter c d ↔ c.toLower = d.toLower
  := by
  simp only [SameLetter, ← Char.toNat_inj, toNat_toLower, toNat_toUpper]
  split_ifs <;> omega

/-! ### Texts -/

theorem toList_toLower (s : String) :
  s.toLower.toList = s.toList.map Char.toLower
  := String.toList_map

/-- Texts differ in the case of letters exactly if they are the same in lower case. -/
theorem recased_iff {s t : String} :
  Recased s t ↔ s.toLower = t.toLower
  := by
  have hletter : SameLetter = fun c d => c.toLower = d.toLower := by
    funext c d
    apply propext sameLetter_iff
  rw [Recased, hletter, ← String.toList_inj, toList_toLower, toList_toLower,
    ← List.forall₂_eq_eq_eq, List.forall₂_map_left_iff, List.forall₂_map_right_iff]

theorem equalUpToCase_iff_recased {s t : String} :
  equalUpToCase s t = true ↔ Recased s t
  := by
  rw [equalUpToCase_iff, recased_iff]

theorem recased_comm {s t : String} :
  Recased s t ↔ Recased t s
  := by
  rw [recased_iff, recased_iff, eq_comm]

/-- Recasing keeps a comparison up to case as it is. -/
theorem Recased.congr {s s' t t' : String} (hs : Recased s s') (ht : Recased t t') :
  Recased s t ↔ Recased s' t'
  := by
  rw [recased_iff] at hs ht
  rw [recased_iff, recased_iff, hs, ht]

/-- Texts that may be absent differ in the case of letters exactly if they are the same in
lower case. -/
theorem rel_recased_iff {o o' : Option String} :
  Option.Rel Recased o o' ↔ o.map String.toLower = o'.map String.toLower
  := by
  cases o <;> cases o' <;> simp [recased_iff]

theorem toLower_eq_empty_iff {s : String} :
  s.toLower = "" ↔ s = ""
  := by
  rw [← String.toList_inj, ← String.toList_inj, toList_toLower]
  apply List.map_eq_nil_iff

/-- A text is cut at the same place in lower case, if the case of a character does not matter
for the property. -/
theorem cut_toLower {p : Char → Bool} (hp : ∀ c, p c.toLower = p c) (s : String) :
  cut p s.toLower = ((cut p s).1.toLower, (cut p s).2.map String.toLower)
  := by
  have hcomp : (fun c => !p c) ∘ Char.toLower = fun c => !p c := by
    funext c
    rw [Function.comp_apply, hp]
  simp only [cut, toList_toLower, List.takeWhile_map, List.dropWhile_map, hcomp]
  congr 1
  · apply String.toList_inj.mp
    rw [toList_toLower, String.toList_ofList, String.toList_ofList]
  · cases s.toList.dropWhile fun c => !p c with
    | nil => rfl
    | cons sep rest =>
      apply congrArg some
      apply String.toList_inj.mp
      rw [toList_toLower, String.toList_ofList, String.toList_ofList]

end Ndef
