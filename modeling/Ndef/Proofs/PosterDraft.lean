import Ndef.Proofs.Building
import Ndef.Proofs.Content
import Ndef.Proofs.PosterPart
import Ndef.Proofs.Splicing
import Ndef.Proofs.TextPayload
import Ndef.Proofs.UriPayload

/-!
# Building smart posters

The records of a new smart poster are those of the frames `PosterDraft.frames`, and its
payload is these frames in their places (`PosterDraft.payload`), provided that the values
can be written and that the frames fit (`Record.buildSmartPoster_eq`).
-/

namespace Ndef

namespace PosterDraft

/-! ### The frames of a draft -/

/-- The tag of the title's language: the one that is given, or else that of the current
language, or else English. -/
def titleLanguage (d : PosterDraft) : String :=
  d.language.getD ((d.current.map Language.tag).getD "en")

/-- The text of a title. -/
def text (d : PosterDraft) (title : String) : Text where
  language := d.titleLanguage
  content := title
  encoding := .utf8

/-- The language tag of the title, if there is one, fits the status byte of texts. -/
def TitleFits (d : PosterDraft) : Prop :=
  ∀ title, d.title = some title → (Utf8.encode d.titleLanguage).length < Text.languageBound

/-- The frame of a well-known record. -/
def wellKnownFrame (type payload : Bytes) : Frame :=
  .ofParts .wellKnown type none payload

/-- The frame that is built from the parts of a record. -/
def iconFrame (r : Record) : Frame :=
  .ofParts r.tnf r.type r.id r.payload

/-- The frames of all values but the icon. -/
def valueFrames (d : PosterDraft) : List Frame :=
  wellKnownFrame WellKnown.uri.type (Uri.encode d.uri)
    :: (d.title.map fun title => wellKnownFrame WellKnown.text.type (d.text title).payload).toList
    ++ (d.action.map fun a => wellKnownFrame PosterPart.actionType [a.code]).toList
    ++ (d.size.map fun n =>
      wellKnownFrame PosterPart.sizeType (Bytes.ofNat 4 n.toNat)).toList
    ++ (d.mediaType.map fun name =>
      wellKnownFrame PosterPart.mediaTypeType (Utf8.encode name)).toList

/-- The frames of the poster, each as if it stood alone. -/
def frames (d : PosterDraft) : List Frame :=
  d.valueFrames ++ (d.icon.map iconFrame).toList

/-- The payload of the poster. -/
def payload (d : PosterDraft) : Bytes :=
  (Message.placed d.frames).flatMap Frame.bytes

variable {d : PosterDraft}

/-- All frames but that of the icon are well-known, with one of the five type names and
without an id. -/
theorem exists_of_mem_valueFrames {f : Frame} (h : f ∈ d.valueFrames) :
  ∃ type payload, f = wellKnownFrame type payload ∧ type.length ≤ 3
  := by
  simp only [valueFrames, List.cons_append, List.mem_cons, List.mem_append, Option.mem_toList,
    Option.map_eq_some_iff] at h
  rcases h with rfl | (((⟨title, -, rfl⟩ | ⟨a, -, rfl⟩) | ⟨n, -, rfl⟩) | ⟨name, -, rfl⟩) <;>
    exact ⟨_, _, rfl, by decide⟩

theorem exists_of_mem_frames {f : Frame} (h : f ∈ d.frames) :
  f ∈ d.valueFrames ∨ ∃ i, d.icon = some i ∧ f = iconFrame i
  := by
  simp only [frames, List.mem_append, Option.mem_toList, Option.map_eq_some_iff] at h
  rcases h with h | ⟨i, hi, rfl⟩
  · left
    apply h
  · right
    exact ⟨i, hi, rfl⟩

/-- Each frame of a draft stands alone and is no chunk. -/
theorem position_of_mem_frames {f : Frame} (h : f ∈ d.frames) :
  f.position = .alone ∧ f.chunked = false
  := by
  rcases exists_of_mem_frames h with h | ⟨i, -, rfl⟩
  · obtain ⟨type, payload, rfl, -⟩ := exists_of_mem_valueFrames h
    exact ⟨rfl, rfl⟩
  · exact ⟨rfl, rfl⟩

/-! ### Lengths -/

/-- The payload of a frame of a draft is no longer than that of the poster. -/
theorem length_payload_le {f : Frame} (h : f ∈ d.frames) :
  f.payload.length ≤ d.payload.length
  := by
  obtain ⟨p, hp⟩ := Message.exists_moved_mem_placed h
  have hbytes : (f.moved p).bytes.length ≤ d.payload.length := by
    rw [payload, List.flatMap_def]
    apply List.Sublist.length_le
    apply List.sublist_flatten_of_mem
    apply List.mem_map_of_mem hp
  have hpayload : f.payload.length ≤ (f.moved p).bytes.length := by
    simp only [Frame.bytes, Frame.fields, Frame.moved, List.length_cons, List.length_append]
    omega
  omega

/-- All frames of a draft fit if the payload of the poster is short enough, and type and id
of the icon are. -/
theorem fits_of_mem_frames (hpayload : d.payload.length < 0x80000000)
    (hicon : ∀ i, d.icon = some i → i.type.length < 0x100 ∧ (i.id.getD []).length < 0x100) :
  ∀ f ∈ d.frames, f.Fits
  := by
  intro f hf
  have hlength := length_payload_le hf
  rcases exists_of_mem_frames hf with h | ⟨i, hi, rfl⟩
  · obtain ⟨type, payload, rfl, htype⟩ := exists_of_mem_valueFrames h
    apply Frame.fits_ofParts_iff.mpr
    exact ⟨by omega, by decide, Nat.lt_of_le_of_lt hlength hpayload⟩
  · obtain ⟨htype, hid⟩ := hicon i hi
    apply Frame.fits_ofParts_iff.mpr
    exact ⟨htype, hid, Nat.lt_of_le_of_lt hlength hpayload⟩

/-- What comes of the frames of a draft comes of those of its values and of its icon. -/
theorem map_frames {α : Type} (g : Frame → α) :
  d.frames.map g
    = g (wellKnownFrame WellKnown.uri.type (Uri.encode d.uri))
      :: (d.title.map fun title =>
        g (wellKnownFrame WellKnown.text.type (d.text title).payload)).toList
      ++ (d.action.map fun a => g (wellKnownFrame PosterPart.actionType [a.code])).toList
      ++ (d.size.map fun n =>
        g (wellKnownFrame PosterPart.sizeType (Bytes.ofNat 4 n.toNat))).toList
      ++ (d.mediaType.map fun name =>
        g (wellKnownFrame PosterPart.mediaTypeType (Utf8.encode name))).toList
      ++ (d.icon.map fun i => g (iconFrame i)).toList
  := by
  simp [frames, valueFrames, Option.toList_map, Function.comp_def]

/-- What holds of all frames of a draft holds of those of its values and of its icon. -/
theorem forall_mem_frames_iff {P : Frame → Prop} :
  (∀ f ∈ d.frames, P f)
    ↔ P (wellKnownFrame WellKnown.uri.type (Uri.encode d.uri))
      ∧ (∀ title, d.title = some title →
        P (wellKnownFrame WellKnown.text.type (d.text title).payload))
      ∧ (∀ a, d.action = some a → P (wellKnownFrame PosterPart.actionType [a.code]))
      ∧ (∀ n, d.size = some n →
        P (wellKnownFrame PosterPart.sizeType (Bytes.ofNat 4 n.toNat)))
      ∧ (∀ name, d.mediaType = some name →
        P (wellKnownFrame PosterPart.mediaTypeType (Utf8.encode name)))
      ∧ ∀ i, d.icon = some i → P (iconFrame i)
  := by
  simp only [frames, valueFrames, List.cons_append, List.mem_cons, List.mem_append, Option.mem_toList,
    Option.map_eq_some_iff, or_imp, forall_and, forall_eq, forall_exists_index, and_imp,
    forall_apply_eq_imp_iff₂, and_assoc]

/-! ### The records of a draft -/

theorem buildWellKnown_eq_ok_iff {type payload : Bytes} {r : Record} :
  Record.buildWellKnown type [] payload = .ok r
    ↔ (wellKnownFrame type payload).Fits ∧ r = .ofFrame none (wellKnownFrame type payload)
  := by
  rw [Record.buildWellKnown, if_pos rfl]
  apply Record.build_eq_ok_iff

/-- A URI record is built exactly of a URI that fits. -/
theorem buildUri_eq_ok_iff {uri : String} {r : Record} :
  Record.buildUri uri = .ok r
    ↔ (wellKnownFrame WellKnown.uri.type (Uri.encode uri)).Fits
      ∧ r = .ofFrame none (wellKnownFrame WellKnown.uri.type (Uri.encode uri))
  := by
  have hcontent : Content.ofFrame none (wellKnownFrame WellKnown.uri.type (Uri.encode uri))
      = .uri uri :=
    Content.ofFrame_eq_uri_iff.mpr ⟨rfl, rfl, Uri.decode_encode uri⟩
  rw [Record.buildUri, Record.buildAs_eq_ok_iff]
  constructor
  · rintro ⟨hfits, hr, -⟩
    exact ⟨hfits, hr⟩
  · rintro ⟨hfits, rfl⟩
    exact ⟨hfits, rfl, congrArg Content.wellKnown? hcontent⟩

theorem decode_text {title : String}
    (h : (Utf8.encode d.titleLanguage).length < Text.languageBound) :
  Text.decode (d.text title).payload = .ok (d.text title)
  := Text.decode_payload h (Text.decodeBody_utf8 title)

theorem buildTextOrDefault_title (title : String) :
  Record.buildTextOrDefault (some title) d.language .utf8 d.current = Record.buildText (d.text title)
  := by
  rw [Record.buildTextOrDefault, Language.defaultTag_eq]
  rfl

/-- The record of a title is built exactly if the language tag and the text fit. -/
theorem buildTitle_eq_ok_iff {title : String} {r : Record} :
  Record.buildTextOrDefault (some title) d.language .utf8 d.current = .ok r
    ↔ ((Utf8.encode d.titleLanguage).length < Text.languageBound
        ∧ (wellKnownFrame WellKnown.text.type (d.text title).payload).Fits)
      ∧ r = .ofFrame none (wellKnownFrame WellKnown.text.type (d.text title).payload)
  := by
  rw [buildTextOrDefault_title, Record.buildText_eq_ok_iff, and_assoc]
  constructor
  · rintro ⟨hlanguage, hfits, hr, -⟩
    exact ⟨hlanguage, hfits, hr⟩
  · rintro ⟨hlanguage, hfits, rfl⟩
    have hcontent : Content.ofFrame none
        (wellKnownFrame WellKnown.text.type (d.text title).payload) = .text (d.text title) :=
      Content.ofFrame_eq_text_iff.mpr ⟨rfl, rfl, decode_text hlanguage⟩
    exact ⟨hlanguage, hfits, rfl, congrArg Content.wellKnown? hcontent⟩

theorem buildMediaType_eq_ok_iff {name : String} {r : Record} :
  buildMediaType name = .ok r
    ↔ (MediaType.isType name = true
        ∧ (wellKnownFrame PosterPart.mediaTypeType (Utf8.encode name)).Fits)
      ∧ r = .ofFrame none (wellKnownFrame PosterPart.mediaTypeType (Utf8.encode name))
  := by
  rw [buildMediaType]
  split
  · next htype => simp [htype, buildWellKnown_eq_ok_iff]
  · next htype => simp [htype]

/-- The records of a draft are built exactly if the values can be written and the frames
fit, and they are those of the frames. -/
theorem records_eq_ok_iff {records : List Record} :
  d.records = .ok records
    ↔ d.TitleFits ∧ (∀ name, d.mediaType = some name → MediaType.isType name = true)
      ∧ (∀ f ∈ d.frames, f.Fits) ∧ records = d.frames.map (Record.ofFrame none)
  := by
  have htitle (title : String) (r : Record) :
      Record.buildTextOrDefault (some title) d.language .utf8 d.current = .ok r ↔ _ :=
    buildTitle_eq_ok_iff
  have haction (a : Action) (r : Record) :
      Record.buildWellKnown PosterPart.actionType [] [a.code] = .ok r ↔ _ :=
    buildWellKnown_eq_ok_iff
  have hsize (n : UInt32) (r : Record) :
      Record.buildWellKnown PosterPart.sizeType [] (Bytes.ofNat 4 n.toNat) = .ok r ↔ _ :=
    buildWellKnown_eq_ok_iff
  have hname (name : String) (r : Record) : buildMediaType name = .ok r ↔ _ :=
    buildMediaType_eq_ok_iff
  have hicon (i r : Record) :
      Record.build i.tnf i.type i.id i.payload = .ok r ↔ (iconFrame i).Fits ∧ _ :=
    Record.build_eq_ok_iff
  simp only [PosterDraft.records, Except.bind_eq_ok_iff, buildUri_eq_ok_iff,
    Except.mapM_eq_ok_iff htitle, Except.mapM_eq_ok_iff haction, Except.mapM_eq_ok_iff hsize,
    Except.mapM_eq_ok_iff hname, Except.mapM_eq_ok_iff hicon, forall_mem_frames_iff]
  constructor
  · rintro ⟨_, ⟨huri, rfl⟩, _, ⟨htitle, rfl⟩, _, ⟨haction, rfl⟩, _, ⟨hsize, rfl⟩, _, ⟨hname, rfl⟩,
      _, ⟨hicon, rfl⟩, hrecords⟩
    injection hrecords with hrecords
    refine ⟨fun title h => (htitle title h).1, fun name h => (hname name h).1,
      ⟨huri, fun title h => (htitle title h).2, haction, hsize, fun name h => (hname name h).2,
        hicon⟩, ?_⟩
    rw [← hrecords, map_frames]
    rfl
  · rintro ⟨htitle, hname, ⟨huri, htext, haction, hsize, hmediaType, hicon⟩, rfl⟩
    refine ⟨_, ⟨huri, rfl⟩, _, ⟨fun title h => ⟨htitle title h, htext title h⟩, rfl⟩,
      _, ⟨haction, rfl⟩, _, ⟨hsize, rfl⟩, _, ⟨fun name h => ⟨hname name h, hmediaType name h⟩, rfl⟩,
      _, ⟨hicon, rfl⟩, ?_⟩
    rw [map_frames]
    rfl

end PosterDraft

namespace Record

variable {d : PosterDraft}

/-- A smart poster is built of the frames of its draft in their places. -/
theorem buildSmartPoster_eq (hrecords : d.records = .ok (d.frames.map (ofFrame none))) :
  buildSmartPoster d = buildAs .smartPoster d.payload
  := by
  have hjoin : d.frames.foldl Frame.join [] = Message.placed d.frames :=
    Message.foldl_join fun f hf => (PosterDraft.position_of_mem_frames hf).1
  rw [buildSmartPoster, hrecords]
  change buildAs .smartPoster ((((d.frames.map (ofFrame none)).filterMap frame?).foldl
    Frame.join []).flatMap Frame.bytes) = _
  rw [filterMap_frame?_map_ofFrame, hjoin, PosterDraft.payload]

/-- A smart poster is built if its payload is that of one and is not too long. -/
theorem buildSmartPoster_eq_ok (hrecords : d.records = .ok (d.frames.map (ofFrame none)))
    (hpayload : d.payload.length < 0x80000000) {p : SmartPoster}
    (hp : SmartPoster.decode? none d.payload = some p) :
  buildSmartPoster d
    = .ok (ofFrame none (.ofParts .wellKnown WellKnown.smartPoster.type none d.payload))
  := by
  have hfits : (Frame.ofParts .wellKnown WellKnown.smartPoster.type none d.payload).Fits :=
    Frame.fits_ofParts_iff.mpr ⟨by decide, by decide, hpayload⟩
  have hcontent : Content.ofFrame none
      (.ofParts .wellKnown WellKnown.smartPoster.type none d.payload) = .smartPoster p :=
    Content.ofFrame_eq_smartPoster_iff.mpr ⟨rfl, rfl, hp⟩
  rw [buildSmartPoster_eq hrecords]
  apply buildAs_eq_ok_iff.mpr
  exact ⟨hfits, rfl, congrArg Content.wellKnown? hcontent⟩

end Record

end Ndef
