import Mathlib.Tactic.Common
import Ndef.Proofs.Framing
import Ndef.Proofs.Outcome
import Ndef.Proofs.TextPayload
import Ndef.Record.Build

/-!
# Building records

A record is built from its parts exactly if they fit their length fields, and then it is
what is read off the frame of these parts (`Record.build_eq_ok_iff`).  All other ways to
build a record go through this one, or leave the payload as it is.
-/

namespace Ndef

/-- The frame of the given parts, alone in its message, in short form if the payload
allows it. -/
def Frame.ofParts (tnf : Tnf) (type : Bytes) (id : Option Bytes) (payload : Bytes) : Frame where
  position := .alone
  chunked := false
  short := payload.length < 0x100
  tnf := tnf
  type := type
  id := id
  payload := payload

namespace Frame

variable {tnf : Tnf} {type payload : Bytes} {id : Option Bytes}

/-- Parts fit exactly if type and id are shorter than `0x100` bytes and the payload is
shorter than `0x80000000` bytes. -/
theorem fits_ofParts_iff :
  (ofParts tnf type id payload).Fits
    ↔ type.length < 0x100 ∧ (id.getD []).length < 0x100 ∧ payload.length < 0x80000000
  := by
  have hbound : payload.length < lengthBound (payload.length < 0x100)
      ↔ payload.length < 0x80000000 := by
    by_cases hshort : payload.length < 0x100
    · simp [hshort, lengthBound]
      omega
    · simp [hshort, lengthBound]
  rw [← hbound]
  rfl

/-- A type that does not fit is what is reported first. -/
theorem build_eq_typeTooLong_iff :
  build tnf type id payload = .error .typeTooLong ↔ 0x100 ≤ type.length
  := by
  rw [build]
  split_ifs <;> simp <;> omega

/-- An id that does not fit is reported if the type fits. -/
theorem build_eq_idTooLong_iff :
  build tnf type id payload = .error .idTooLong
    ↔ type.length < 0x100 ∧ 0x100 ≤ (id.getD []).length
  := by
  rw [build]
  split_ifs <;> simp <;> omega

/-- A frame is built exactly of parts that fit. -/
theorem build_eq_ok_iff {f : Frame} :
  build tnf type id payload = .ok f
    ↔ (ofParts tnf type id payload).Fits ∧ f = ofParts tnf type id payload
  := by
  rw [fits_ofParts_iff, build]
  constructor
  · intro h
    split at h
    · cases h
    · split at h
      · cases h
      · split at h
        · cases h
        · cases h
          refine ⟨⟨?_, ?_, ?_⟩, rfl⟩ <;> omega
  · rintro ⟨⟨htype, hid, hpayload⟩, rfl⟩
    rw [if_neg (by omega), if_neg (by omega), if_neg (by omega)]
    rfl

end Frame

namespace Record

variable {tnf : Tnf} {type payload : Bytes} {id : Option Bytes} {r : Record}

/-- A record is built exactly of parts that fit, and interpreted without a display
language. -/
theorem build_eq_ok_iff :
  build tnf type id payload = .ok r
    ↔ (Frame.ofParts tnf type id payload).Fits ∧ r = ofFrame none (.ofParts tnf type id payload)
  := by
  rw [build, Except.map_eq_ok_iff]
  constructor
  · rintro ⟨f, hbuild, rfl⟩
    obtain ⟨hfits, rfl⟩ := Frame.build_eq_ok_iff.mp hbuild
    exact ⟨hfits, rfl⟩
  · rintro ⟨hfits, rfl⟩
    exact ⟨_, Frame.build_eq_ok_iff.mpr ⟨hfits, rfl⟩, rfl⟩

/-- A record that has to be interpreted as its type is one that is built of its parts and
interpreted so. -/
theorem buildAs_eq_ok_iff {w : WellKnown} :
  buildAs w payload = .ok r
    ↔ (Frame.ofParts .wellKnown w.type none payload).Fits
      ∧ r = ofFrame none (.ofParts .wellKnown w.type none payload) ∧ r.wellKnown? = some w
  := by
  rw [buildAs, buildWellKnown, if_pos rfl, Except.bind_eq_ok_iff]
  constructor
  · rintro ⟨s, hbuild, h⟩
    split at h
    · next hw =>
      cases h
      obtain ⟨hfits, hr⟩ := build_eq_ok_iff.mp hbuild
      exact ⟨hfits, hr, hw⟩
    · cases h
  · rintro ⟨hfits, hr, hw⟩
    use r, build_eq_ok_iff.mpr ⟨hfits, hr⟩
    rw [if_pos hw]

/-- A payload that fits and is not interpreted as its type is refused. -/
theorem buildAs_eq_misread {w : WellKnown}
    (hfits : (Frame.ofParts .wellKnown w.type none payload).Fits)
    (hread : (ofFrame none (.ofParts .wellKnown w.type none payload)).wellKnown? ≠ some w) :
  buildAs w payload = .error (.misread w)
  := by
  rw [buildAs, buildWellKnown, if_pos rfl, Except.bind_eq_error_iff]
  right
  refine ⟨_, build_eq_ok_iff.mpr ⟨hfits, rfl⟩, ?_⟩
  rw [if_neg hread]

/-- A text record is built exactly of a language tag and a payload that fit, if its payload
is read as a text. -/
theorem buildText_eq_ok_iff {t : Text} :
  buildText t = .ok r
    ↔ (Utf8.encode t.language).length < Text.languageBound
      ∧ (Frame.ofParts .wellKnown WellKnown.text.type none t.payload).Fits
      ∧ r = ofFrame none (.ofParts .wellKnown WellKnown.text.type none t.payload)
      ∧ r.wellKnown? = some .text
  := by
  simp only [buildText, Except.bind_eq_ok_iff, Text.encode_eq_ok_iff, buildAs_eq_ok_iff]
  constructor
  · rintro ⟨-, ⟨hlanguage, rfl⟩, h⟩
    exact ⟨hlanguage, h⟩
  · rintro ⟨hlanguage, h⟩
    exact ⟨_, ⟨hlanguage, rfl⟩, h⟩

/-- A record of a media type is built exactly of a media type and parts that fit, and its
payload is left as it is. -/
theorem buildMedia_eq_ok_iff {mediaType : String} :
  buildMedia mediaType payload = .ok r
    ↔ MediaType.isType mediaType = true
      ∧ (Frame.ofParts .mediaType (Utf8.encode mediaType) none payload).Fits
      ∧ r = uninterpreted (.ofParts .mediaType (Utf8.encode mediaType) none payload)
  := by
  rw [buildMedia]
  split
  · next htype =>
    rw [Except.map_eq_ok_iff]
    constructor
    · rintro ⟨f, hbuild, rfl⟩
      obtain ⟨hfits, rfl⟩ := Frame.build_eq_ok_iff.mp hbuild
      exact ⟨htype, hfits, rfl⟩
    · rintro ⟨-, hfits, rfl⟩
      exact ⟨_, Frame.build_eq_ok_iff.mpr ⟨hfits, rfl⟩, rfl⟩
  · next htype => simp [htype]

end Record

end Ndef
