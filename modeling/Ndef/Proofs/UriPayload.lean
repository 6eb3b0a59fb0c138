import Mathlib.Data.List.Infix
import Ndef.Payload.Uri

/-!
# Reading URIs back

The code in a URI payload stands for exactly what was dropped from the URI, so a URI is
read back from its payload (`Uri.decode_encode`).
-/

namespace Ndef.Uri

/-- Dropping the start of a text leaves what follows it. -/
theorem dropStart?_eq_some_iff {start s rest : String} :
  dropStart? start s = some rest ↔ s = start ++ rest
  := by
  rw [dropStart?, Option.map_eq_some_iff]
  constructor
  · rintro ⟨back, hback, rfl⟩
    have happend : start.toList ++ back = s.toList := List.isPrefixOf?_eq_some_iff_append_eq.mp hback
    apply String.toList_inj.mp
    rw [String.toList_append, String.toList_ofList, happend]
  · rintro rfl
    use rest.toList
    rw [String.toList_append, String.ofList_toList]
    exact ⟨List.isPrefixOf?_eq_some_iff_append_eq.mpr rfl, rfl⟩

/-- The code of an abbreviation stands for it. -/
theorem expansion?_of_mem {start : String} {code : Nat}
    (h : (start, code) ∈ abbreviations.zipIdx 1) :
  expansion? (UInt8.ofNat code) = some start
  := by
  obtain ⟨hpos, hstart⟩ := List.mk_mem_zipIdx_iff_le_and_getElem?_sub.mp h
  have hlt : code - 1 < abbreviations.length := by
    rw [List.getElem?_eq_some_iff] at hstart
    exact hstart.1
  have hcode : (UInt8.ofNat code).toNat = code - 1 + 1 := by
    rw [UInt8.toNat_ofNat']
    simp only [abbreviations, List.length_cons, List.length_nil] at hlt
    omega
  rw [expansion?, hcode, List.getElem?_cons_succ, hstart]

/-- An abbreviated URI is what the code stands for, and then the rest. -/
theorem abbreviate?_eq_some {uri rest : String} {code : Nat} (h : abbreviate? uri = some (code, rest)) :
  ∃ start, expansion? (UInt8.ofNat code) = some start ∧ uri = start ++ rest
  := by
  obtain ⟨⟨start, code'⟩, hmem, hdrop⟩ := List.exists_of_findSome?_eq_some h
  obtain ⟨rest', hrest, hpair⟩ := Option.map_eq_some_iff.mp hdrop
  injection hpair with hcode hrest'
  subst hcode hrest'
  exact ⟨start, expansion?_of_mem hmem, dropStart?_eq_some_iff.mp hrest⟩

/-- A URI is read back from its payload. -/
theorem decode_encode (uri : String) :
  decode (encode uri) = .ok uri
  := by
  rw [encode]
  cases h : abbreviate? uri with
  | none =>
    have hnone : expansion? (UInt8.ofNat 0) = some "" := rfl
    simp only [Option.getD_none]
    rw [decode, hnone, Utf8.decode?_encode]
    simp
  | some pair =>
    obtain ⟨code, rest⟩ := pair
    obtain ⟨start, hstart, rfl⟩ := abbreviate?_eq_some h
    simp only [Option.getD_some]
    rw [decode, hstart, Utf8.decode?_encode]

end Ndef.Uri
