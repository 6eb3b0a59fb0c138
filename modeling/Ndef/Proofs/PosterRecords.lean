import Ndef.Proofs.Encoding
import Ndef.Proofs.PosterPayload

/-!
# The records of a new smart poster

A smart poster is put together by changing flags, one new record after the other.  Its
payload is nevertheless the message of the records that are built of its values one by one,
each as if it stood alone (`Record.payload_buildSmartPoster`): first the URI, and then those
of title, action, size, media type and icon that are given.
-/

namespace Ndef

/-- The records of a smart poster, one for each value that is given. -/
structure PosterRecords where
  uri : Record
  title : Option Record
  action : Option Record
  size : Option Record
  mediaType : Option Record
  icon : Option Record

namespace PosterRecords

/-- The records in the order in which they stand in the payload. -/
def list (p : PosterRecords) : List Record :=
  p.uri :: p.title.toList ++ p.action.toList ++ p.size.toList ++ p.mediaType.toList
    ++ p.icon.toList

/-- Each record is built of its value, by itself, and there is none for a value that is not
given.  The record of the icon is built anew of the parts of the icon. -/
structure BuiltOf (d : PosterDraft) (p : PosterRecords) : Prop where
  uri : Record.buildUri d.uri = .ok p.uri
  title : Option.Rel
    (fun title r => Record.buildTextOrDefault (some title) d.language .utf8 d.current = .ok r)
    d.title p.title
  action : Option.Rel
    (fun a r => Record.buildWellKnown PosterPart.actionType [] [a.code] = .ok r)
    d.action p.action
  size : Option.Rel
    (fun n r => Record.buildWellKnown PosterPart.sizeType [] (Bytes.ofNat 4 n.toNat) = .ok r)
    d.size p.size
  mediaType : Option.Rel (fun name r => PosterDraft.buildMediaType name = .ok r)
    d.mediaType p.mediaType
  icon : Option.Rel (fun i r => Record.build i.tnf i.type i.id i.payload = .ok r)
    d.icon p.icon

end PosterRecords

namespace PosterDraft

variable {d : PosterDraft}

/-- The records of the frames of a draft. -/
def framedRecords (d : PosterDraft) : PosterRecords where
  uri := .ofFrame none (wellKnownFrame WellKnown.uri.type (Uri.encode d.uri))
  title := d.title.map fun title =>
    .ofFrame none (wellKnownFrame WellKnown.text.type (d.text title).payload)
  action := d.action.map fun a => .ofFrame none (wellKnownFrame PosterPart.actionType [a.code])
  size := d.size.map fun n =>
    .ofFrame none (wellKnownFrame PosterPart.sizeType (Bytes.ofNat 4 n.toNat))
  mediaType := d.mediaType.map fun name =>
    .ofFrame none (wellKnownFrame PosterPart.mediaTypeType (Utf8.encode name))
  icon := d.icon.map fun i => .ofFrame none (iconFrame i)

theorem list_framedRecords (d : PosterDraft) :
  d.framedRecords.list = d.frames.map (Record.ofFrame none)
  := by
  rw [map_frames]
  rfl

theorem rel_map {α β : Type} {R : α → β → Prop} {g : α → β} {o : Option α}
    (h : ∀ a, o = some a → R a (g a)) :
  Option.Rel R o (o.map g)
  := by
  cases o with
  | none => exact .none
  | some a => exact .some (h a rfl)

/-- If the values can be written and the frames fit, the records of the frames are those
that are built of the values. -/
theorem builtOf_framedRecords (htitle : d.TitleFits)
    (hmediaType : ∀ name, d.mediaType = some name → MediaType.isType name = true)
    (hfits : ∀ f ∈ d.frames, f.Fits) :
  d.framedRecords.BuiltOf d
  := by
  obtain ⟨huri, htext, haction, hsize, hname, hicon⟩ := forall_mem_frames_iff.mp hfits
  constructor
  · exact buildUri_eq_ok_iff.mpr ⟨huri, rfl⟩
  · apply rel_map
    intro title h
    exact buildTitle_eq_ok_iff.mpr ⟨⟨htitle title h, htext title h⟩, rfl⟩
  · apply rel_map
    intro a h
    exact buildWellKnown_eq_ok_iff.mpr ⟨haction a h, rfl⟩
  · apply rel_map
    intro n h
    exact buildWellKnown_eq_ok_iff.mpr ⟨hsize n h, rfl⟩
  · apply rel_map
    intro name h
    exact buildMediaType_eq_ok_iff.mpr ⟨⟨hmediaType name h, hname name h⟩, rfl⟩
  · apply rel_map
    intro i h
    exact Record.build_eq_ok_iff.mpr ⟨hicon i h, rfl⟩

/-- The payload of a draft is the message of the records of its frames. -/
theorem encodeRecords_framedRecords (d : PosterDraft) :
  Message.encodeRecords d.framedRecords.list = d.payload
  := by
  rw [Message.encodeRecords, list_framedRecords, Record.filterMap_frame?_map_ofFrame, payload]

end PosterDraft

namespace Record

/-- If a smart poster is built, then so is a record of each of its values by itself, which
stands alone.  The payload of the poster is the message of these records.  Decoding it gives
them in order, each changed in its place only: the first one begins the message and the last
one ends it. -/
theorem payload_buildSmartPoster {d : PosterDraft} {r : Record} (h : buildSmartPoster d = .ok r) :
  ∃ p : PosterRecords, p.BuiltOf d
    ∧ (∀ s ∈ p.list, s.position = .alone)
    ∧ r.payload = Message.encodeRecords p.list
    ∧ ∃ m, Message.decode? none r.payload = some m
      ∧ List.Forall₂ SameExceptPlace p.list m.records
      ∧ ∀ i (hi : i < m.records.length), m.records[i].position = ⟨i = 0, i + 1 = m.records.length⟩
  := by
  obtain ⟨htitle, hmediaType, hfits, -, -, rfl⟩ := buildSmartPoster_eq_ok_iff.mp h
  refine ⟨d.framedRecords, PosterDraft.builtOf_framedRecords htitle hmediaType hfits, ?_,
    (PosterDraft.encodeRecords_framedRecords d).symm, ?_⟩
  · rw [PosterDraft.list_framedRecords, List.forall_mem_map]
    intro f hf
    exact (PosterDraft.position_of_mem_frames hf).1
  · have hne : d.frames ≠ [] := List.cons_ne_nil _ _
    obtain ⟨m, hm, hsame, hposition, -⟩ := Message.decode?_placed none hne hfits fun f hf =>
      (PosterDraft.position_of_mem_frames hf).2
    rw [← PosterDraft.list_framedRecords] at hsame
    exact ⟨m, hm, hsame, hposition⟩

/-- A draft with all values, whose icon was read from the middle of another message. -/
theorem payload_buildSmartPoster_all_values :
  let icon : Record := .uninterpreted { Frame.ofParts .mediaType (Utf8.encode "image/png")
    (some [0x69]) [0x89] with position := .inner }
  let d : PosterDraft := {
    uri := "http://www.a"
    title := some "b"
    language := some "de"
    mediaType := some "text/plain"
    size := some 7
    action := some .save
    icon := some icon }
  ∃ r p m, buildSmartPoster d = .ok r ∧ PosterRecords.BuiltOf d p
    ∧ r.payload = Message.encodeRecords p.list ∧ Message.decode? none r.payload = some m
    ∧ List.Forall₂ SameExceptPlace p.list m.records
    ∧ m.records.map position = [⟨true, false⟩, .inner, .inner, .inner, .inner, ⟨false, true⟩]
  := by
  intro icon d
  have hbuild : ∃ r, buildSmartPoster d = .ok r ∧ r.payload = d.payload := by
    refine ⟨_, buildSmartPoster_eq_ok_iff.mpr ⟨?_, ?_, ?_, ?_, ?_, rfl⟩, rfl⟩
    · intro title _
      decide +kernel
    · rintro _ ⟨⟩
      decide +kernel
    · decide +kernel
    · decide +kernel
    · decide +kernel
  obtain ⟨r, hr, hpayload⟩ := hbuild
  obtain ⟨p, hp, -, hencode, m, hm, hsame, -⟩ := payload_buildSmartPoster hr
  have hpositions : (Message.decode? none d.payload).map (fun m => m.records.map position)
      = some [⟨true, false⟩, .inner, .inner, .inner, .inner, ⟨false, true⟩] := by
    decide +kernel
  rw [← hpayload, hm, Option.map_some, Option.some.injEq] at hpositions
  exact ⟨r, p, m, hr, hp, hencode, hm, hsame, hpositions⟩

end Record

end Ndef
