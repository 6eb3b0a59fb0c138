import Mathlib.Tactic.Common
import Ndef.Payload.SmartPoster

/-!
# The parts of posters

Each part of a smart poster comes from the frames of one format and one type name, and
says what their payload says.
-/

namespace Ndef

/-- A number of 32 bits is the number of its four bytes. -/
theorem Bytes.uint32_ofNat_toNat_iff {b : Bytes} (hlength : b.length = 4) {n : UInt32} :
  UInt32.ofNat (toNat b) = n ↔ b = ofNat 4 n.toNat
  := by
  constructor
  · rintro rfl
    have hlt : toNat b < 0x100000000 := by
      have hlt := toNat_lt b
      rw [hlength] at hlt
      exact hlt
    have hrestored := ofNat_toNat b
    rw [hlength] at hrestored
    rw [UInt32.toNat_ofNat_of_lt' hlt, hrestored]
  · rintro rfl
    rw [toNat_ofNat, UInt32.ofNat_toNat]
    exact n.toNat_lt

/-- An action is the one with its code. -/
theorem Action.ofCode?_eq_some_iff {code : UInt8} {a : Action} :
  ofCode? code = some a ↔ code = a.code
  := by
  fun_cases ofCode? code <;> cases a <;> simp_all [Action.code]

/-- A media type is told by its UTF-8 bytes. -/
theorem SmartPoster.mediaTypeOfName?_eq_some_iff {name : Bytes} {mediaType : String} :
  mediaTypeOfName? name = some mediaType
    ↔ name = Utf8.encode mediaType ∧ MediaType.isType mediaType = true
  := by
  rw [mediaTypeOfName?, Option.filter_eq_some_iff, Utf8.decode?_eq_some_iff]

namespace PosterPart

variable {f : Frame} {type payload : Bytes}

/-! ### Well-known records -/

theorem ofWellKnown_eq_uri_iff {u : String} :
  ofWellKnown type payload = .uri u ↔ type = WellKnown.uri.type ∧ Uri.decode payload = .ok u
  := by
  fun_cases ofWellKnown type payload <;> simp_all

theorem ofWellKnown_eq_title_iff {t : Text} :
  ofWellKnown type payload = .title t ↔ type = WellKnown.text.type ∧ Text.decode payload = .ok t
  := by
  fun_cases ofWellKnown type payload <;> simp_all [WellKnown.type]

theorem ofWellKnown_eq_action_iff {code : UInt8} :
  ofWellKnown type payload = .action code ↔ type = actionType ∧ payload = [code]
  := by
  fun_cases ofWellKnown type payload <;> simp_all [WellKnown.type, actionType]

theorem ofWellKnown_eq_size_iff {n : UInt32} :
  ofWellKnown type payload = .size n ↔ type = sizeType ∧ payload = Bytes.ofNat 4 n.toNat
  := by
  fun_cases ofWellKnown type payload with
  | case7 _ huri htext haction htype hlength => simp [htype, Bytes.uint32_ofNat_toNat_iff hlength]
  | case8 _ huri htext haction htype hlength =>
    have hne : payload ≠ Bytes.ofNat 4 n.toNat := by
      rintro rfl
      exact hlength (Bytes.length_ofNat 4 _)
    simp [hne]
  | _ => simp_all [WellKnown.type, actionType, sizeType]

theorem ofWellKnown_eq_mediaType_iff {name : Bytes} :
  ofWellKnown type payload = .mediaType name ↔ type = mediaTypeType ∧ payload = name
  := by
  fun_cases ofWellKnown type payload <;>
    simp_all [WellKnown.type, actionType, sizeType, mediaTypeType]

/-- No well-known record is an icon. -/
theorem ofWellKnown_ne_icon (type payload : Bytes) (g : Frame) :
  ofWellKnown type payload ≠ .icon g
  := by
  fun_cases ofWellKnown type payload <;> simp

/-! ### Frames -/

/-- A frame that can be an icon is a record of an image or a video that is not empty. -/
theorem isIcon_iff :
  isIcon f = true ↔ f.tnf = .mediaType ∧ f.payload ≠ []
    ∧ ∃ name, Utf8.decode? f.type = some name
      ∧ (MediaType.hasTop name "image" = true ∨ MediaType.hasTop name "video" = true)
  := by
  rw [isIcon]
  cases hname : Utf8.decode? f.type with
  | none => simp
  | some name => simp [and_assoc]

/-- The part of a record is an icon only if it is the record itself and can be one. -/
theorem ofFrame_eq_icon_iff {g : Frame} :
  ofFrame f = .icon g ↔ f = g ∧ isIcon f = true
  := by
  rw [ofFrame]
  split
  · next htnf =>
    constructor
    · intro h
      exact absurd h (ofWellKnown_ne_icon f.type f.payload g)
    · rintro ⟨rfl, hicon⟩
      rw [isIcon_iff, htnf] at hicon
      cases hicon.1
  · split <;> simp_all

/-- All parts but icons come from well-known records. -/
theorem ofFrame_eq_iff {part : PosterPart} (hignored : part ≠ .ignored)
    (hicon : ∀ g, part ≠ .icon g) :
  ofFrame f = part ↔ f.tnf = .wellKnown ∧ ofWellKnown f.type f.payload = part
  := by
  rw [ofFrame]
  split
  · next htnf => simp [htnf]
  · next htnf =>
    split
    · simp [htnf, (hicon f).symm]
    · simp [htnf, hignored.symm]

theorem ofFrame_eq_uri_iff {u : String} :
  ofFrame f = .uri u
    ↔ f.tnf = .wellKnown ∧ f.type = WellKnown.uri.type ∧ Uri.decode f.payload = .ok u
  := by
  rw [ofFrame_eq_iff (by simp) (by simp), ofWellKnown_eq_uri_iff]

theorem ofFrame_eq_title_iff {t : Text} :
  ofFrame f = .title t
    ↔ f.tnf = .wellKnown ∧ f.type = WellKnown.text.type ∧ Text.decode f.payload = .ok t
  := by
  rw [ofFrame_eq_iff (by simp) (by simp), ofWellKnown_eq_title_iff]

theorem ofFrame_eq_action_iff {code : UInt8} :
  ofFrame f = .action code ↔ f.tnf = .wellKnown ∧ f.type = actionType ∧ f.payload = [code]
  := by
  rw [ofFrame_eq_iff (by simp) (by simp), ofWellKnown_eq_action_iff]

theorem ofFrame_eq_size_iff {n : UInt32} :
  ofFrame f = .size n
    ↔ f.tnf = .wellKnown ∧ f.type = sizeType ∧ f.payload = Bytes.ofNat 4 n.toNat
  := by
  rw [ofFrame_eq_iff (by simp) (by simp), ofWellKnown_eq_size_iff]

theorem ofFrame_eq_mediaType_iff {name : Bytes} :
  ofFrame f = .mediaType name ↔ f.tnf = .wellKnown ∧ f.type = mediaTypeType ∧ f.payload = name
  := by
  rw [ofFrame_eq_iff (by simp) (by simp), ofWellKnown_eq_mediaType_iff]

/-! ### The values of the parts -/

theorem uri?_eq_some_iff {part : PosterPart} {u : String} :
  part.uri? = some u ↔ part = .uri u
  := by
  cases part <;> simp [uri?]

theorem title?_eq_some_iff {part : PosterPart} {t : Text} :
  part.title? = some t ↔ part = .title t
  := by
  cases part <;> simp [title?]

theorem action?_eq_some_iff {part : PosterPart} {code : UInt8} :
  part.action? = some code ↔ part = .action code
  := by
  cases part <;> simp [action?]

theorem size?_eq_some_iff {part : PosterPart} {n : UInt32} :
  part.size? = some n ↔ part = .size n
  := by
  cases part <;> simp [size?]

theorem mediaType?_eq_some_iff {part : PosterPart} {name : Bytes} :
  part.mediaType? = some name ↔ part = .mediaType name
  := by
  cases part <;> simp [mediaType?]

theorem icon?_eq_some_iff {part : PosterPart} {g : Frame} :
  part.icon? = some g ↔ part = .icon g
  := by
  cases part <;> simp [icon?]

end PosterPart

end Ndef
