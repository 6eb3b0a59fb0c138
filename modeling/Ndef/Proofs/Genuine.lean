import Mathlib.Tactic.Common
import Ndef.Proofs.Building
import Ndef.Proofs.Content
import Ndef.Proofs.Framing
import Ndef.Proofs.PosterPart
import Ndef.Tlv.Area

/-!
# Genuine records

A record is genuine for a display language (`Record.Genuine`) if it is empty or what is
read off the bytes of one complete frame.  Reading and building yield genuine records
only, and the icon of a genuine record is one for every display language.  What is said
of records that were read or built (`Record.Obtained`) is mostly said of genuine records.
-/

namespace Ndef

/-- The record is empty, or it is a frame that fits its length fields and is no chunk,
interpreted for the display language. -/
def Record.Genuine (language : Option Language) (r : Record) : Prop :=
  r = .empty ∨ ∃ f : Frame, f.Fits ∧ f.chunked = false ∧ r = .ofFrame language f

/-! ### Icons -/

/-- A record is fit to be an icon: it is not interpreted, not empty, and an image or a
video. -/
structure Record.Pictures (r : Record) : Prop where
  tnf : r.tnf = .mediaType
  content : r.content = .generic
  payload : r.payload ≠ []
  mediaType : ∃ name, Utf8.decode? r.type = some name ∧ MediaType.isType name = true
    ∧ (equalUpToCase (MediaType.parts name).1 "image" = true
      ∨ equalUpToCase (MediaType.parts name).1 "video" = true)

/-- What can be an icon is fit to be one as long as it is not interpreted. -/
theorem Record.pictures_uninterpreted_iff {f : Frame} :
  (uninterpreted f).Pictures ↔ PosterPart.isIcon f = true
  := by
  rw [PosterPart.isIcon_iff]
  simp only [MediaType.hasTop, Bool.and_eq_true, ← and_or_left]
  constructor
  · rintro ⟨htnf, -, hpayload, hname⟩
    exact ⟨htnf, hpayload, hname⟩
  · rintro ⟨htnf, hpayload, hname⟩
    exact ⟨htnf, rfl, hpayload, hname⟩

/-- The icon of a poster is one of the complete frames in the payload, and no chunk. -/
theorem SmartPoster.icon_of_decode? {language : Option Language} {payload : Bytes}
    {p : SmartPoster} (h : decode? language payload = some p) {f : Frame} (hf : p.icon = some f) :
  f.Fits ∧ f.chunked = false ∧ PosterPart.isIcon f = true
  := by
  rw [decode?, ofParts?] at h
  split at h
  · injection h with h
    rw [← h] at hf
    obtain ⟨part, hpart, hicon⟩ := List.exists_of_findSome?_eq_some hf
    rw [parts, List.mem_map] at hpart
    obtain ⟨g, hg, rfl⟩ := hpart
    rw [List.mem_filter] at hg
    obtain ⟨hmem, hwhole⟩ := hg
    have hfits := (Frame.accepts.eq_append_all payload).2 g hmem
    rw [PosterPart.icon?_eq_some_iff, PosterPart.ofFrame_eq_icon_iff] at hicon
    obtain ⟨rfl, hicon⟩ := hicon
    exact ⟨hfits, by simpa using hwhole, hicon⟩
  · cases h

namespace Record

variable {language : Option Language} {r : Record}

/-- What is not interpreted is genuine for every display language if it is not of a
well-known type. -/
theorem genuine_uninterpreted {f : Frame} (hfits : f.Fits) (hwhole : f.chunked = false)
    (htnf : f.tnf ≠ .wellKnown) (language : Option Language) :
  (uninterpreted f).Genuine language
  := by
  right
  use f, hfits, hwhole
  rw [uninterpreted, ofFrame, Content.ofFrame_of_tnf_ne htnf]

/-- The icon of a genuine record is genuine for every display language. -/
theorem Genuine.icon (h : r.Genuine language) {p : SmartPoster} (hp : r.content = .smartPoster p)
    {f : Frame} (hf : p.icon = some f) (language' : Option Language) :
  (uninterpreted f).Genuine language' ∧ PosterPart.isIcon f = true
  := by
  rcases h with rfl | ⟨g, -, -, rfl⟩
  · cases hp
  · obtain ⟨-, -, hdecode⟩ := Content.ofFrame_eq_smartPoster_iff.mp hp
    obtain ⟨hfits, hwhole, hicon⟩ := SmartPoster.icon_of_decode? hdecode hf
    obtain ⟨htnf, -⟩ := PosterPart.isIcon_iff.mp hicon
    refine ⟨genuine_uninterpreted hfits hwhole ?_ language', hicon⟩
    rw [htnf]
    decide

/-! ### Where genuine records come from -/

theorem genuine_empty (language : Option Language) :
  empty.Genuine language
  := by
  left
  rfl

theorem genuine_of_build {tnf : Tnf} {type payload : Bytes} {id : Option Bytes}
    (h : build tnf type id payload = .ok r) :
  r.Genuine none
  := by
  obtain ⟨hfits, rfl⟩ := build_eq_ok_iff.mp h
  right
  exact ⟨_, hfits, rfl, rfl⟩

theorem genuine_of_buildAs {w : WellKnown} {payload : Bytes} (h : buildAs w payload = .ok r) :
  r.Genuine none
  := by
  obtain ⟨hfits, rfl, -⟩ := buildAs_eq_ok_iff.mp h
  right
  exact ⟨_, hfits, rfl, rfl⟩

theorem genuine_of_buildMedia {mediaType : String} {payload : Bytes}
    (h : buildMedia mediaType payload = .ok r) :
  r.Genuine none
  := by
  obtain ⟨-, hfits, rfl⟩ := buildMedia_eq_ok_iff.mp h
  apply genuine_uninterpreted hfits rfl
  simp [Frame.ofParts]

theorem genuine_of_buildText {t : Text} (h : buildText t = .ok r) :
  r.Genuine none
  := by
  obtain ⟨payload, -, hbuild⟩ := Except.bind_eq_ok_iff.mp h
  apply genuine_of_buildAs hbuild

theorem genuine_of_buildSmartPoster {d : PosterDraft} (h : buildSmartPoster d = .ok r) :
  r.Genuine none
  := by
  obtain ⟨records, -, hbuild⟩ := Except.bind_eq_ok_iff.mp h
  apply genuine_of_buildAs hbuild

end Record

namespace Message

theorem genuine_of_mem_recordsOf {language : Option Language} {b : Bytes} {r : Record}
    (h : r ∈ recordsOf language b) :
  r.Genuine language
  := by
  obtain ⟨f, hf, rfl⟩ := List.mem_map.mp h
  obtain ⟨hmem, hwhole⟩ := List.mem_filter.mp hf
  right
  refine ⟨f, (Frame.accepts.eq_append_all b).2 f hmem, ?_, rfl⟩
  simpa using hwhole

theorem genuine_of_decode? {language : Option Language} {b : Bytes} {m : Message}
    (h : decode? language b = some m) {r : Record} (hr : r ∈ m.records) :
  r.Genuine language
  := by
  rw [decode?] at h
  split at h
  · cases h
    rw [records_single, List.mem_singleton] at hr
    rw [hr]
    apply Record.genuine_empty
  · rw [ofRecords?_eq_some_iff] at h
    rw [h] at hr
    apply genuine_of_mem_recordsOf hr

theorem genuine_of_ofArea? {language : Option Language} {s : Bytes} {m : Message}
    (h : ofArea? language s = some m) {r : Record} (hr : r ∈ m.records) :
  r.Genuine language
  := by
  rw [ofArea?, ofRecords?_eq_some_iff] at h
  rw [h, List.mem_flatMap] at hr
  obtain ⟨b, -, hb⟩ := hr
  split at hb
  · next hdecode =>
    apply genuine_of_decode? hdecode hb
  · cases hb

end Message

/-! ### Obtained records -/

/-- `Obtained language r`: the record `r` was read for the display language, or it was built,
which is done without a display language. -/
inductive Record.Obtained : Option Language → Record → Prop where
  /-- A record of the message in a byte string. -/
  | decode {language : Option Language} {b : Bytes} {m : Message} {r : Record}
      (h : Message.decode? language b = some m) (hr : r ∈ m.records) : Obtained language r
  /-- A record of the messages in an area. -/
  | ofArea {language : Option Language} {s : Bytes} {m : Message} {r : Record}
      (h : Message.ofArea? language s = some m) (hr : r ∈ m.records) : Obtained language r
  /-- The icon of a smart poster. -/
  | icon {language : Option Language} {r : Record} {p : SmartPoster} {f : Frame}
      (hr : Obtained language r) (hp : r.content = .smartPoster p) (hf : p.icon = some f) :
      Obtained language (.uninterpreted f)
  /-- The empty record. -/
  | empty : Obtained none .empty
  /-- A record built from its parts. -/
  | build {tnf : Tnf} {type : Bytes} {id : Option Bytes} {payload : Bytes} {r : Record}
      (h : Record.build tnf type id payload = .ok r) : Obtained none r
  /-- A well-known record. -/
  | buildWellKnown {type id payload : Bytes} {r : Record}
      (h : Record.buildWellKnown type id payload = .ok r) : Obtained none r
  /-- A record of a media type. -/
  | buildMedia {mediaType : String} {payload : Bytes} {r : Record}
      (h : Record.buildMedia mediaType payload = .ok r) : Obtained none r
  /-- A URI record. -/
  | buildUri {uri : String} {r : Record} (h : Record.buildUri uri = .ok r) : Obtained none r
  /-- A text record. -/
  | buildText {t : Text} {r : Record} (h : Record.buildText t = .ok r) : Obtained none r
  /-- A text record whose text or language need not be given. -/
  | buildTextOrDefault {content language : Option String} {encoding : TextEncoding}
      {current : Option Language} {r : Record}
      (h : Record.buildTextOrDefault content language encoding current = .ok r) : Obtained none r
  /-- A smart poster, whatever record is given as its icon. -/
  | buildSmartPoster {d : PosterDraft} {r : Record} (h : Record.buildSmartPoster d = .ok r) :
      Obtained none r

/-- Every record that was obtained is genuine. -/
theorem Record.Obtained.genuine {language : Option Language} {r : Record}
    (h : r.Obtained language) :
  r.Genuine language
  := by
  induction h with
  | decode h hr => exact Message.genuine_of_decode? h hr
  | ofArea h hr => exact Message.genuine_of_ofArea? h hr
  | icon _ hp hf ih => exact (ih.icon hp hf _).1
  | empty => exact genuine_empty none
  | build h => exact genuine_of_build h
  | buildWellKnown h => exact genuine_of_build h
  | buildMedia h => exact genuine_of_buildMedia h
  | buildUri h => exact genuine_of_buildAs h
  | buildText h => exact genuine_of_buildText h
  | buildTextOrDefault h => exact genuine_of_buildText h
  | buildSmartPoster h => exact genuine_of_buildSmartPoster h

end Ndef
