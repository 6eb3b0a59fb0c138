import Mathlib.Tactic.Common
import Ndef.Proofs.Building
import Ndef.Proofs.Recased

/-!
# The grammar of media types

A media type is made of two tokens with a slash between them, of which neither is the
wildcard; in a range of media types the second one, or each of them, may be.  The checks
accept just these texts, and a record is built of just these if they fit its type
(`MediaType.checks_grammar`).
-/

namespace Ndef

namespace MediaType

/-- The text is not empty and made of printable ASCII characters without the space and those
with a meaning of their own around media types. -/
structure IsToken (s : String) : Prop where
  nonempty : s ≠ ""
  chars : ∀ c ∈ s.toList, ' ' < c ∧ c ≤ '~' ∧
    c ∉ ['(', ')', '<', '>', '@', ',', ';', ':', '\\', '"', '/', '[', ']', '?', '=']

/-- The text is two tokens with a slash between them, neither of them the wildcard. -/
def IsMediaType (s : String) : Prop :=
  ∃ t u, s = t ++ "/" ++ u ∧ IsToken t ∧ IsToken u ∧ t ≠ "*" ∧ u ≠ "*"

variable {s t u : String}

/-! ### Parts -/

theorem isTokenChar_iff {c : Char} :
  isTokenChar c = true ↔ ' ' < c ∧ c ≤ '~' ∧ c ∉ specials
  := by
  have hlow : ' ' < c ↔ 0x20 < c.toNat := Iff.rfl
  have hhigh : c ≤ '~' ↔ c.toNat ≤ 0x7E := Iff.rfl
  rw [isTokenChar, hlow, hhigh, ← Nat.lt_succ_iff]
  simp [and_assoc]

theorem isToken_iff :
  isToken s = true ↔ IsToken s
  := by
  simp only [isToken, Bool.and_eq_true, decide_eq_true_eq, List.all_eq_true, isTokenChar_iff]
  constructor
  · rintro ⟨hne, hchars⟩
    exact ⟨hne, hchars⟩
  · rintro ⟨hne, hchars⟩
    exact ⟨hne, hchars⟩

theorem IsToken.slash_not_mem (h : IsToken s) :
  '/' ∉ s.toList
  := by
  intro hmem
  obtain ⟨-, -, hspecial⟩ := h.chars '/' hmem
  apply hspecial
  decide

/-- A text has two parts exactly if it is these with a slash between them, and the slash is the
first one. -/
theorem parts_eq_iff :
  parts s = (t, some u) ↔ s = t ++ "/" ++ u ∧ '/' ∉ t.toList
  := by
  constructor
  · intro h
    obtain ⟨c, hc, hs⟩ := toList_of_cut_eq h
    constructor
    · apply String.toList_inj.mp
      rw [hs, beq_iff_eq.mp hc]
      simp
    · intro hmem
      have hfst : '/' ∈ (cut (· == '/') s).1.toList := by
        rw [← parts, h]
        apply hmem
      cases not_of_mem_cut_fst hfst
  · rintro ⟨rfl, hslash⟩
    have hfront : ∀ c ∈ t.toList, (c == '/') = false := by
      intro c hc
      apply beq_eq_false_iff_ne.mpr
      rintro rfl
      apply hslash hc
    have hcut := cut_append hfront (beq_self_eq_true '/') u.toList
    rw [String.ofList_toList, String.ofList_toList] at hcut
    have hs : t ++ "/" ++ u = String.ofList (t.toList ++ '/' :: u.toList) := by
      apply String.toList_inj.mp
      simp
    rw [parts, hs, hcut]

/-! ### The checks -/

theorem isType_iff :
  isType s = true ↔ IsMediaType s
  := by
  have hparts : isType s = true
      ↔ ∃ t u, parts s = (t, some u) ∧ t ≠ "*" ∧ u ≠ "*" ∧ IsToken t ∧ IsToken u := by
    rw [isType]
    split
    · next t u h => simp [h, isToken_iff, and_assoc]
    · next h => simp [h]
  rw [hparts]
  constructor
  · rintro ⟨t, u, h, htype, hsubtype, ht, hu⟩
    obtain ⟨hs, -⟩ := parts_eq_iff.mp h
    exact ⟨t, u, hs, ht, hu, htype, hsubtype⟩
  · rintro ⟨t, u, hs, ht, hu, htype, hsubtype⟩
    have h := parts_eq_iff.mpr ⟨hs, ht.slash_not_mem⟩
    exact ⟨t, u, h, htype, hsubtype, ht, hu⟩

theorem append_wildcard (t : String) :
  t ++ "/*" = t ++ "/" ++ "*"
  := by
  apply String.toList_inj.mp
  simp

theorem isRange_iff :
  isRange s = true ↔ IsMediaType s ∨ s = "*/*" ∨ ∃ t, s = t ++ "/*" ∧ IsToken t ∧ t ≠ "*"
  := by
  have hparts : isRange s = true ↔ ∃ t u, parts s = (t, some u)
      ∧ (t = "*" ∧ u = "*" ∨ t ≠ "*" ∧ IsToken t ∧ (u = "*" ∨ IsToken u)) := by
    rw [isRange]
    split
    · next t u h =>
      by_cases ht : t = "*" <;> simp [h, ht, isToken_iff]
    · next h => simp [h]
  rw [hparts]
  constructor
  · rintro ⟨t, u, h, ⟨rfl, rfl⟩ | ⟨hne, ht, hu⟩⟩
    · right
      left
      apply (parts_eq_iff.mp h).1
    · obtain ⟨rfl, -⟩ := parts_eq_iff.mp h
      by_cases hwild : u = "*"
      · right
        right
        use t
        rw [hwild]
        exact ⟨(append_wildcard t).symm, ht, hne⟩
      · left
        exact ⟨t, u, rfl, ht, hu.resolve_left hwild, hne, hwild⟩
  · rintro (⟨t, u, rfl, ht, hu, hne, -⟩ | rfl | ⟨t, rfl, ht, hne⟩)
    · use t, u, parts_eq_iff.mpr ⟨rfl, ht.slash_not_mem⟩
      right
      exact ⟨hne, ht, .inr hu⟩
    · use "*", "*", parts_eq_iff.mpr ⟨rfl, by decide⟩
      left
      exact ⟨rfl, rfl⟩
    · use t, "*", parts_eq_iff.mpr ⟨append_wildcard t, ht.slash_not_mem⟩
      right
      exact ⟨hne, ht, .inl rfl⟩

theorem hasTop_iff {top : String} :
  hasTop s top = true
    ↔ isType s = true ∧ ∃ t u, s = t ++ "/" ++ u ∧ '/' ∉ t.toList ∧ Recased t top
  := by
  rw [hasTop, Bool.and_eq_true, equalUpToCase_iff_recased]
  apply and_congr_right
  intro htype
  obtain ⟨t, u, hs, ht, -⟩ := isType_iff.mp htype
  have hparts := parts_eq_iff.mpr ⟨hs, ht.slash_not_mem⟩
  rw [hparts]
  constructor
  · intro h
    exact ⟨t, u, hs, ht.slash_not_mem, h⟩
  · rintro ⟨t', u', hs', hslash, h⟩
    have hparts' := parts_eq_iff.mpr ⟨hs', hslash⟩
    rw [hparts] at hparts'
    injection hparts' with hfst
    rwa [hfst]

/-! ### Records -/

variable {payload : Bytes}

/-- A text that is no media type is refused, whatever its length. -/
theorem buildMedia_of_not (h : isType s = false) :
  Record.buildMedia s payload = .error (.invalidMediaType s)
  := by
  rw [Record.buildMedia, if_neg (by simp [h])]

/-- A media type that does not fit is refused as a type that is too long. -/
theorem buildMedia_of_long (h : isType s = true) (hlong : 255 < (Utf8.encode s).length) :
  Record.buildMedia s payload = .error .typeTooLong
  := by
  rw [Record.buildMedia, if_pos h, Except.map_eq_error_iff, Frame.build_eq_typeTooLong_iff]
  apply hlong

/-- Of a media type that fits a record is built, and it is read off its bytes. -/
theorem exists_buildMedia_eq_ok (h : isType s = true) (hshort : (Utf8.encode s).length ≤ 255)
    (hpayload : payload.length < 0x80000000) :
  ∃ r, Record.buildMedia s payload = .ok r
    ∧ ∀ language, ∃ d, Message.decode? language r.bytes = some (.single d)
      ∧ d.tnf = .mediaType ∧ d.type = Utf8.encode s ∧ d.payload = payload
  := by
  have hfits : (Frame.ofParts .mediaType (Utf8.encode s) none payload).Fits := by
    apply Frame.fits_ofParts_iff.mpr
    exact ⟨Nat.lt_succ_of_le hshort, by decide, hpayload⟩
  use .uninterpreted (.ofParts .mediaType (Utf8.encode s) none payload),
    Record.buildMedia_eq_ok_iff.mpr ⟨h, hfits, rfl⟩
  intro language
  exact ⟨_, Message.decode?_bytes language hfits rfl, rfl, rfl, rfl⟩

/-- What building a record of a media type comes to: the first reason against it, or the
record. -/
theorem buildMedia_cases (s : String) (hpayload : payload.length < 0x80000000) :
  (isType s = false ∧ Record.buildMedia s payload = .error (.invalidMediaType s))
    ∨ (isType s = true ∧ 255 < (Utf8.encode s).length
      ∧ Record.buildMedia s payload = .error .typeTooLong)
    ∨ (isType s = true ∧ (Utf8.encode s).length ≤ 255 ∧ ∃ r, Record.buildMedia s payload = .ok r)
  := by
  cases h : isType s with
  | false =>
    left
    exact ⟨rfl, buildMedia_of_not h⟩
  | true =>
    right
    by_cases hlong : 255 < (Utf8.encode s).length
    · left
      exact ⟨rfl, hlong, buildMedia_of_long h hlong⟩
    · right
      have hshort := Nat.le_of_not_lt hlong
      obtain ⟨r, hr, -⟩ := exists_buildMedia_eq_ok h hshort hpayload
      exact ⟨rfl, hshort, r, hr⟩

/-- The check of media types accepts two tokens with a slash between them, neither of them the
wildcard.  The check of ranges accepts these, the wildcard for both parts, and a token other
than the wildcard before the wildcard.  A media type has the top-level type that stands before
its first slash, up to case.  A record of a media type is refused if that is none, else if it
is too long; else it is built, and read off its bytes with that type and payload. -/
theorem checks_grammar (s : String) :
  (isType s = true ↔ IsMediaType s)
    ∧ (isRange s = true
      ↔ isType s = true ∨ s = "*/*" ∨ ∃ t, s = t ++ "/*" ∧ IsToken t ∧ t ≠ "*")
    ∧ (∀ top, hasTop s top = true
      ↔ isType s = true ∧ ∃ t u, s = t ++ "/" ++ u ∧ '/' ∉ t.toList ∧ Recased t top)
    ∧ ∀ payload : Bytes, payload.length < 0x80000000 →
      (∀ text, Record.buildMedia s payload = .error (.invalidMediaType text)
        ↔ text = s ∧ isType s = false)
      ∧ (Record.buildMedia s payload = .error .typeTooLong
        ↔ isType s = true ∧ 255 < (Utf8.encode s).length)
      ∧ (isType s = true → (Utf8.encode s).length ≤ 255 →
        ∃ r, Record.buildMedia s payload = .ok r
          ∧ ∀ language, ∃ d, Message.decode? language r.bytes = some (.single d)
            ∧ d.tnf = .mediaType ∧ d.type = Utf8.encode s ∧ d.payload = payload)
  := by
  refine ⟨isType_iff, ?_, ?_, ?_⟩
  · rw [isType_iff]
    apply isRange_iff
  · intro top
    apply hasTop_iff
  · intro payload hpayload
    have hbuilt (htype : isType s = true) (hshort : (Utf8.encode s).length ≤ 255) :=
      exists_buildMedia_eq_ok htype hshort hpayload
    rcases buildMedia_cases s hpayload with
      ⟨htype, heq⟩ | ⟨htype, hlong, heq⟩ | ⟨htype, hshort, r, heq⟩
    · refine ⟨?_, ?_, hbuilt⟩ <;> simp [heq, htype, eq_comm]
    · refine ⟨?_, ?_, hbuilt⟩ <;> simp [heq, htype, hlong]
    · refine ⟨?_, ?_, hbuilt⟩ <;> simp [heq, htype, hshort]

/-- Tokens that begin with the wildcard, ranges with it in either place, and a media type of 256
bytes. -/
theorem checks_grammar_wildcards :
  let long := String.ofList (List.replicate 254 'a') ++ "/b"
  isType "*a/b+*" = true ∧ isType "a/b/c" = false ∧ isRange "a/*" = true
    ∧ isRange "*/b" = false ∧ hasTop "IMAGE/png" "image" = true
    ∧ [0x01].length < 0x80000000
    ∧ Record.buildMedia "a/*" [0x01] = .error (.invalidMediaType "a/*")
    ∧ Record.buildMedia long [0x01] = .error .typeTooLong
    ∧ ∃ r d, Record.buildMedia "*a/b+*" [0x01] = .ok r
      ∧ Message.decode? none r.bytes = some (.single d) ∧ d.tnf = .mediaType
      ∧ d.type = Utf8.encode "*a/b+*" ∧ d.payload = [0x01]
  := by
  intro long
  have hpayload : ([0x01] : Bytes).length < 0x80000000 := by decide
  obtain ⟨hparts, -, -, hbuild⟩ := checks_grammar "*a/b+*"
  have htype : isType "*a/b+*" = true := by
    apply hparts.mpr
    refine ⟨"*a", "b+*", by decide, ?_, ?_, by decide, by decide⟩
    · apply isToken_iff.mp
      decide
    · apply isToken_iff.mp
      decide
  -- To run the check on this many characters takes long, so it is asked for its grammar.
  have hlong : isType long = true := by
    apply (checks_grammar long).1.mpr
    refine ⟨String.ofList (List.replicate 254 'a'), "b", ?_, ⟨by decide +kernel, ?_⟩,
      isToken_iff.mp (by decide), by decide +kernel, by decide⟩
    · rw [String.append_assoc]
      rfl
    · intro c hc
      rw [String.toList_ofList] at hc
      rw [List.eq_of_mem_replicate hc]
      decide
  obtain ⟨r, hr, hread⟩ := (hbuild _ hpayload).2.2 htype (by decide +kernel)
  obtain ⟨d, hd, hfields⟩ := hread none
  refine ⟨htype, by decide +kernel, ?_, by decide +kernel, ?_, hpayload, ?_, ?_,
    r, d, hr, hd, hfields⟩
  · apply (checks_grammar "a/*").2.1.mpr
    right
    right
    exact ⟨"a", by decide, isToken_iff.mp (by decide), by decide⟩
  · apply ((checks_grammar "IMAGE/png").2.2.1 "image").mpr
    exact ⟨by decide +kernel, "IMAGE", "png", by decide, by decide, by decide⟩
  · apply (((checks_grammar "a/*").2.2.2 [0x01] hpayload).1 "a/*").mpr
    exact ⟨rfl, by decide +kernel⟩
  · apply ((checks_grammar long).2.2.2 [0x01] hpayload).2.1.mpr
    exact ⟨hlong, by decide +kernel⟩

end MediaType

end Ndef
