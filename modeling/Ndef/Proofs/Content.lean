import Mathlib.Tactic.Common
import Ndef.Record.Basic

/-!
# What a frame says

A frame says something of a well-known type exactly if it is a well-known record of that
type and the reader of such payloads accepts its payload (`Content.ofFrame_eq_iff`).
-/

namespace Ndef

namespace Content

variable {language : Option Language} {f : Frame} {payload : Bytes}

theorem ofWellKnown_eq_uri_iff {u : String} :
  ofWellKnown language payload .uri = .uri u ↔ Uri.decode payload = .ok u
  := by
  rw [ofWellKnown]
  cases Uri.decode payload <;> simp

theorem ofWellKnown_eq_text_iff {t : Text} :
  ofWellKnown language payload .text = .text t ↔ Text.decode payload = .ok t
  := by
  rw [ofWellKnown]
  cases Text.decode payload <;> simp

theorem ofWellKnown_eq_smartPoster_iff {p : SmartPoster} :
  ofWellKnown language payload .smartPoster = .smartPoster p
    ↔ SmartPoster.decode? language payload = some p
  := by
  rw [ofWellKnown]
  cases SmartPoster.decode? language payload <;> simp

/-- A payload says something of its own type or nothing. -/
theorem wellKnown?_ofWellKnown {v w : WellKnown}
    (h : (ofWellKnown language payload v).wellKnown? = some w) :
  v = w
  := by
  cases v with
  | uri =>
    rw [ofWellKnown] at h
    cases hdecode : Uri.decode payload <;> simp_all [wellKnown?]
  | text =>
    rw [ofWellKnown] at h
    cases hdecode : Text.decode payload <;> simp_all [wellKnown?]
  | smartPoster =>
    rw [ofWellKnown] at h
    cases hdecode : SmartPoster.decode? language payload <;> simp_all [wellKnown?]

/-- A frame of a well-known type says what its payload says under that type. -/
theorem ofFrame_of_type {w : WellKnown} (htnf : f.tnf = .wellKnown) (htype : f.type = w.type) :
  ofFrame language f = ofWellKnown language f.payload w
  := by
  rw [ofFrame, if_pos htnf, WellKnown.ofType?_eq_some_iff.mpr htype]

/-- A frame that is interpreted as a well-known type has that type. -/
theorem type_of_wellKnown?_ofFrame {w : WellKnown}
    (h : (ofFrame language f).wellKnown? = some w) :
  f.tnf = .wellKnown ∧ f.type = w.type
  := by
  rw [ofFrame] at h
  split at h
  · next htnf =>
    split at h
    · next v hv =>
      obtain rfl := wellKnown?_ofWellKnown h
      exact ⟨htnf, WellKnown.ofType?_eq_some_iff.mp hv⟩
    · cases h
  · cases h

/-- A frame says something of a well-known type exactly if it has that type and its
payload says so. -/
theorem ofFrame_eq_iff {c : Content} {w : WellKnown} (hc : c.wellKnown? = some w) :
  ofFrame language f = c
    ↔ f.tnf = .wellKnown ∧ f.type = w.type ∧ ofWellKnown language f.payload w = c
  := by
  constructor
  · rintro rfl
    obtain ⟨htnf, htype⟩ := type_of_wellKnown?_ofFrame hc
    exact ⟨htnf, htype, (ofFrame_of_type htnf htype).symm⟩
  · rintro ⟨htnf, htype, rfl⟩
    apply ofFrame_of_type htnf htype

theorem ofFrame_eq_uri_iff {u : String} :
  ofFrame language f = .uri u
    ↔ f.tnf = .wellKnown ∧ f.type = WellKnown.uri.type ∧ Uri.decode f.payload = .ok u
  := by
  rw [ofFrame_eq_iff (w := .uri) rfl, ofWellKnown_eq_uri_iff]

theorem ofFrame_eq_text_iff {t : Text} :
  ofFrame language f = .text t
    ↔ f.tnf = .wellKnown ∧ f.type = WellKnown.text.type ∧ Text.decode f.payload = .ok t
  := by
  rw [ofFrame_eq_iff (w := .text) rfl, ofWellKnown_eq_text_iff]

theorem ofFrame_eq_smartPoster_iff {p : SmartPoster} :
  ofFrame language f = .smartPoster p
    ↔ f.tnf = .wellKnown ∧ f.type = WellKnown.smartPoster.type
      ∧ SmartPoster.decode? language f.payload = some p
  := by
  rw [ofFrame_eq_iff (w := .smartPoster) rfl, ofWellKnown_eq_smartPoster_iff]

/-- What is of type `Sp` and is no smart poster is not interpreted. -/
theorem ofFrame_eq_generic_of_ne (htnf : f.tnf = .wellKnown)
    (htype : f.type = WellKnown.smartPoster.type)
    (h : ∀ p, ofFrame language f ≠ .smartPoster p) :
  ofFrame language f = .generic
  := by
  rw [ofFrame_of_type htnf htype] at h ⊢
  cases hdecode : SmartPoster.decode? language f.payload with
  | none => rw [ofWellKnown, hdecode]
  | some p => exact absurd (ofWellKnown_eq_smartPoster_iff.mpr hdecode) (h p)

theorem wellKnown?_eq_text_iff {c : Content} :
  c.wellKnown? = some .text ↔ ∃ t, c = .text t
  := by
  cases c <;> simp [wellKnown?]

theorem wellKnown?_eq_smartPoster_iff {c : Content} :
  c.wellKnown? = some .smartPoster ↔ ∃ p, c = .smartPoster p
  := by
  cases c <;> simp [wellKnown?]

/-- Only well-known records are interpreted. -/
theorem ofFrame_of_tnf_ne (h : f.tnf ≠ .wellKnown) :
  ofFrame language f = .generic
  := by
  rw [ofFrame, if_neg h]

end Content

namespace Record

variable {r : Record}

theorem uri?_eq_some_iff {u : String} :
  r.uri? = some u ↔ r.content = .uri u
  := by
  rw [uri?]
  cases r.content <;> simp

theorem text?_eq_some_iff {t : Text} :
  r.text? = some t ↔ r.content = .text t
  := by
  rw [text?]
  cases r.content <;> simp

theorem smartPoster?_eq_some_iff {p : SmartPoster} :
  r.smartPoster? = some p ↔ r.content = .smartPoster p
  := by
  rw [smartPoster?]
  cases r.content <;> simp

end Record

end Ndef
