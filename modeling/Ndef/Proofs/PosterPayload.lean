import Mathlib.Tactic.Common
import Ndef.Proofs.Framing
import Ndef.Proofs.PosterDraft

/-!
# The payload of a new smart poster

The payload of a new smart poster is read back part by part: each value has its part, and
the icon has the part that any record with its fields has (`PosterDraft.parts_payload`).  The
poster that the parts make up is the one that the draft describes if the icon fits; else a
value that is not given may come from the icon (`PosterDraft.decode?_payload_eq_some_iff`).
-/

namespace Ndef

namespace PosterDraft

/-- The poster that a draft describes. -/
def poster (d : PosterDraft) : SmartPoster where
  uri := d.uri
  title := d.title.map fun title => { content := title, language := d.titleLanguage }
  mediaType := d.mediaType
  size := d.size
  action := d.action
  icon := d.icon.map fun i => (iconFrame i).moved ⟨false, true⟩

/-- The parts of all values but the icon. -/
def valueParts (d : PosterDraft) : List PosterPart :=
  .uri d.uri
    :: (d.title.map fun title => .title (d.text title)).toList
    ++ (d.action.map fun a => .action a.code).toList
    ++ (d.size.map .size).toList
    ++ (d.mediaType.map fun name => .mediaType (Utf8.encode name)).toList

/-- The part that the icon has in its place at the end. -/
def iconPart? (d : PosterDraft) : Option PosterPart :=
  d.icon.map fun i => .ofFrame ((iconFrame i).moved ⟨false, true⟩)

/-- The icon, if there is one, is an image or a video that is not empty. -/
def IconFits (d : PosterDraft) : Prop :=
  ∀ i, d.icon = some i → PosterPart.isIcon (iconFrame i) = true

/-- The poster that is read of the values of a draft and one more part.  A value that is
not given comes from the part. -/
def posterWith (d : PosterDraft) (part? : Option PosterPart) : SmartPoster where
  uri := d.uri
  title := ((d.title.map d.text).or (part?.bind PosterPart.title?)).map
    fun t => { content := t.content, language := t.language }
  mediaType := d.mediaType.or ((part?.bind PosterPart.mediaType?).bind SmartPoster.mediaTypeOfName?)
  size := d.size.or (part?.bind PosterPart.size?)
  action := d.action.or ((part?.bind PosterPart.action?).bind Action.ofCode?)
  icon := part?.bind PosterPart.icon?

variable {d : PosterDraft}

/-! ### The parts of a draft -/

/-- The frame of a value has the part of that value. -/
theorem map_ofFrame_valueFrames (hlanguage : d.TitleFits) :
  d.valueFrames.map PosterPart.ofFrame = d.valueParts
  := by
  have huri : PosterPart.ofFrame (wellKnownFrame WellKnown.uri.type (Uri.encode d.uri))
      = .uri d.uri :=
    PosterPart.ofFrame_eq_uri_iff.mpr ⟨rfl, rfl, Uri.decode_encode d.uri⟩
  have htitle : d.title.map (fun title =>
        PosterPart.ofFrame (wellKnownFrame WellKnown.text.type (d.text title).payload))
      = d.title.map fun title => .title (d.text title) := by
    apply Option.map_congr
    intro title h
    exact PosterPart.ofFrame_eq_title_iff.mpr ⟨rfl, rfl, decode_text (hlanguage title h)⟩
  have haction (a : Action) :
      PosterPart.ofFrame (wellKnownFrame PosterPart.actionType [a.code]) = .action a.code :=
    PosterPart.ofFrame_eq_action_iff.mpr ⟨rfl, rfl, rfl⟩
  have hsize (n : UInt32) :
      PosterPart.ofFrame (wellKnownFrame PosterPart.sizeType (Bytes.ofNat 4 n.toNat)) = .size n :=
    PosterPart.ofFrame_eq_size_iff.mpr ⟨rfl, rfl, rfl⟩
  have hname (name : String) :
      PosterPart.ofFrame (wellKnownFrame PosterPart.mediaTypeType (Utf8.encode name))
        = .mediaType (Utf8.encode name) :=
    PosterPart.ofFrame_eq_mediaType_iff.mpr ⟨rfl, rfl, rfl⟩
  rw [valueFrames, valueParts, ← htitle]
  simp [Option.toList_map, Function.comp_def, huri, haction, hsize, hname]

/-- The part of a well-known record does not depend on its place. -/
theorem ofFrame_moved_of_mem {f : Frame} (h : f ∈ d.valueFrames) (p : Position) :
  PosterPart.ofFrame (f.moved p) = PosterPart.ofFrame f
  := by
  obtain ⟨type, payload, rfl, -⟩ := exists_of_mem_valueFrames h
  rfl

/-- The frames of a draft in their places have the parts of its values and of its icon. -/
theorem map_ofFrame_placed (hlanguage : d.TitleFits) :
  (Message.placed d.frames).map PosterPart.ofFrame = d.valueParts ++ d.iconPart?.toList
  := by
  have hvalues (place : Nat → Position) :
      (d.valueFrames.mapIdx fun i f => f.moved (place i)).map PosterPart.ofFrame = d.valueParts := by
    rw [Message.map_mapIdx_moved (fun f hf => ofFrame_moved_of_mem hf),
      map_ofFrame_valueFrames hlanguage]
  rw [frames, iconPart?]
  cases h : d.icon with
  | none =>
    rw [Option.map_none, Option.map_none, Option.toList_none, Option.toList_none, List.append_nil,
      List.append_nil]
    apply hvalues
  | some i =>
    have hlength : decide (d.valueFrames.length = 0) = false := by
      simp [valueFrames]
    rw [Option.map_some, Option.map_some, Option.toList_some, Option.toList_some,
      Message.placed_concat, List.map_append, Message.opening, hvalues, hlength, List.map_singleton]

/-- The records in the payload of a draft have the parts of its values and of its icon. -/
theorem parts_payload (hlanguage : d.TitleFits) (hfits : ∀ f ∈ d.frames, f.Fits) :
  SmartPoster.parts d.payload = d.valueParts ++ d.iconPart?.toList
  := by
  have hframes : Frame.ofBytes d.payload = Message.placed d.frames :=
    Frame.ofBytes_flatMap_bytes (Message.fits_of_mem_placed hfits)
  have hwhole : (Message.placed d.frames).filter (!·.chunked) = Message.placed d.frames :=
    Message.filter_placed fun f hf => (position_of_mem_frames hf).2
  rw [SmartPoster.parts, hframes, hwhole, map_ofFrame_placed hlanguage]

/-! ### The poster of the parts -/

theorem findSome?_toList {α β : Type} (o : Option α) (g : α → Option β) :
  o.toList.findSome? g = o.bind g
  := by
  cases o <;> simp

theorem filterMap_toList {α β : Type} (o : Option α) (g : α → Option β) :
  o.toList.filterMap g = (o.bind g).toList
  := by
  cases o with
  | none => rfl
  | some a => cases h : g a <;> simp [h]

/-- Without a display language, and if there is at most one text, the first text is the best
one. -/
theorem bestTitle?_append (language : Option Language) {o o' : Option Text}
    (h : language = none ∨ o' = none) :
  SmartPoster.bestTitle? language (o.toList ++ o'.toList) = o.or o'
  := by
  rcases h with rfl | rfl
  · cases o <;> cases o' <;> rfl
  · cases language <;> cases o <;> rfl

/-- The parts of the values of a draft say these values, and no icon. -/
theorem valueParts_values (d : PosterDraft) :
  d.valueParts.filterMap PosterPart.uri? = [d.uri]
    ∧ d.valueParts.filterMap PosterPart.title? = (d.title.map d.text).toList
    ∧ d.valueParts.findSome? PosterPart.mediaType? = d.mediaType.map Utf8.encode
    ∧ d.valueParts.findSome? PosterPart.size? = d.size
    ∧ d.valueParts.findSome? PosterPart.action? = d.action.map Action.code
    ∧ d.valueParts.findSome? PosterPart.icon? = none
  := by
  refine ⟨?_, ?_, ?_, ?_, ?_, ?_⟩
  · simp [valueParts, filterMap_toList, Option.bind_map, Function.comp_def, PosterPart.uri?]
  · rw [Option.map_eq_bind]
    simp [valueParts, filterMap_toList, Option.bind_map, Function.comp_def, List.filterMap_cons,
      PosterPart.title?]
  · rw [Option.map_eq_bind]
    simp [valueParts, findSome?_toList, Option.bind_map, Function.comp_def, List.findSome?_cons,
      PosterPart.mediaType?]
  · simp [valueParts, findSome?_toList, Option.bind_map, Function.comp_def, List.findSome?_cons,
      PosterPart.size?]
  · rw [Option.map_eq_bind]
    simp [valueParts, findSome?_toList, Option.bind_map, Function.comp_def, List.findSome?_cons,
      PosterPart.action?]
  · simp [valueParts, findSome?_toList, Option.bind_map, Function.comp_def, List.findSome?_cons,
      PosterPart.icon?]

/-- The name of a valid media type is read before any other. -/
theorem bind_mediaTypeOfName?_or
    (hmediaType : ∀ name, d.mediaType = some name → MediaType.isType name = true)
    (other : Option Bytes) :
  ((d.mediaType.map Utf8.encode).or other).bind SmartPoster.mediaTypeOfName?
    = d.mediaType.or (other.bind SmartPoster.mediaTypeOfName?)
  := by
  cases h : d.mediaType with
  | none => simp
  | some name => simp [SmartPoster.mediaTypeOfName?_eq_some_iff.mpr ⟨rfl, hmediaType name h⟩]

/-- The code of an action is read before any other. -/
theorem bind_ofCode?_or (action : Option Action) (other : Option UInt8) :
  ((action.map Action.code).or other).bind Action.ofCode? = action.or (other.bind Action.ofCode?)
  := by
  cases action with
  | none => simp
  | some a => simp [Action.ofCode?_eq_some_iff.mpr rfl]

/-- The parts of the values of a draft and one more part make up a poster exactly if that
part is no URI.  The display language matters only if the part is a title. -/
theorem ofParts?_valueParts_eq_some_iff {language : Option Language} {part? : Option PosterPart}
    {p : SmartPoster}
    (hmediaType : ∀ name, d.mediaType = some name → MediaType.isType name = true)
    (hlanguage : language = none ∨ part?.bind PosterPart.title? = none) :
  SmartPoster.ofParts? language (d.valueParts ++ part?.toList) = some p
    ↔ part?.bind PosterPart.uri? = none ∧ p = d.posterWith part?
  := by
  obtain ⟨huri, htitle, hname, hsize, haction, hicon⟩ := valueParts_values d
  simp only [SmartPoster.ofParts?, List.filterMap_append, List.findSome?_append, filterMap_toList,
    findSome?_toList, huri, htitle, hname, hsize, haction, hicon,
    bestTitle?_append language hlanguage, bind_mediaTypeOfName?_or hmediaType, bind_ofCode?_or]
  cases part?.bind PosterPart.uri? with
  | none => simp [posterWith, eq_comm]
  | some u => simp

/-- The payload of a draft is read as a poster exactly if the icon is no URI. -/
theorem decode?_payload_eq_some_iff {language : Option Language} {p : SmartPoster}
    (htitle : d.TitleFits)
    (hmediaType : ∀ name, d.mediaType = some name → MediaType.isType name = true)
    (hfits : ∀ f ∈ d.frames, f.Fits)
    (hlanguage : language = none ∨ d.iconPart?.bind PosterPart.title? = none) :
  SmartPoster.decode? language d.payload = some p
    ↔ d.iconPart?.bind PosterPart.uri? = none ∧ p = d.posterWith d.iconPart?
  := by
  rw [SmartPoster.decode?, parts_payload htitle hfits,
    ofParts?_valueParts_eq_some_iff hmediaType hlanguage]

/-! ### Icons that fit -/

theorem IconFits.iconPart?_eq (h : d.IconFits) :
  d.iconPart? = d.icon.map fun i => .icon ((iconFrame i).moved ⟨false, true⟩)
  := by
  apply Option.map_congr
  intro i hi
  exact PosterPart.ofFrame_eq_icon_iff.mpr ⟨rfl, h i hi⟩

/-- An icon that fits says nothing else. -/
theorem IconFits.bind_iconPart? (h : d.IconFits) {α : Type} {g : PosterPart → Option α}
    (hg : ∀ f, g (.icon f) = none) :
  d.iconPart?.bind g = none
  := by
  rw [h.iconPart?_eq]
  cases d.icon with
  | none => rfl
  | some i => apply hg

/-- With an icon that fits, the poster that is read is the one that the draft describes. -/
theorem IconFits.posterWith_iconPart? (h : d.IconFits) :
  d.posterWith d.iconPart? = d.poster
  := by
  have hicon : d.iconPart?.bind PosterPart.icon?
      = d.icon.map fun i => (iconFrame i).moved ⟨false, true⟩ := by
    rw [h.iconPart?_eq]
    cases d.icon <;> rfl
  rw [posterWith, h.bind_iconPart? fun _ => rfl, h.bind_iconPart? fun _ => rfl,
    h.bind_iconPart? fun _ => rfl, h.bind_iconPart? fun _ => rfl, hicon]
  simp only [Option.bind_none, Option.or_none, Option.map_map]
  rfl

end PosterDraft

namespace Record

variable {d : PosterDraft} {r : Record}

/-- A smart poster is built exactly if the values can be written, the frames and the payload
fit, and the icon is not read as another URI. -/
theorem buildSmartPoster_eq_ok_iff :
  buildSmartPoster d = .ok r
    ↔ d.TitleFits ∧ (∀ name, d.mediaType = some name → MediaType.isType name = true)
      ∧ (∀ f ∈ d.frames, f.Fits) ∧ d.payload.length < 0x80000000
      ∧ d.iconPart?.bind PosterPart.uri? = none
      ∧ r = .framed (.ofParts .wellKnown WellKnown.smartPoster.type none d.payload)
        (.smartPoster (d.posterWith d.iconPart?))
  := by
  have hcontent {p : SmartPoster} (hp : SmartPoster.decode? none d.payload = some p) :
      Content.ofFrame none (.ofParts .wellKnown WellKnown.smartPoster.type none d.payload)
        = .smartPoster p :=
    Content.ofFrame_eq_smartPoster_iff.mpr ⟨rfl, rfl, hp⟩
  constructor
  · intro h
    obtain ⟨records, hrecords, -⟩ := Except.bind_eq_ok_iff.mp h
    obtain ⟨htitle, hmediaType, hframes, rfl⟩ := PosterDraft.records_eq_ok_iff.mp hrecords
    rw [buildSmartPoster_eq hrecords] at h
    obtain ⟨hfits, rfl, hread⟩ := buildAs_eq_ok_iff.mp h
    obtain ⟨-, -, hpayload⟩ := Frame.fits_ofParts_iff.mp hfits
    obtain ⟨p, hp⟩ := Content.wellKnown?_eq_smartPoster_iff.mp hread
    obtain ⟨-, -, hdecode⟩ := Content.ofFrame_eq_smartPoster_iff.mp hp
    obtain ⟨huri, rfl⟩ :=
      (PosterDraft.decode?_payload_eq_some_iff htitle hmediaType hframes (.inl rfl)).mp hdecode
    refine ⟨htitle, hmediaType, hframes, hpayload, huri, ?_⟩
    rw [ofFrame, hcontent hdecode]
  · rintro ⟨htitle, hmediaType, hframes, hpayload, huri, rfl⟩
    have hrecords := PosterDraft.records_eq_ok_iff.mpr ⟨htitle, hmediaType, hframes, rfl⟩
    have hdecode : SmartPoster.decode? none d.payload = some (d.posterWith d.iconPart?) :=
      (PosterDraft.decode?_payload_eq_some_iff htitle hmediaType hframes (.inl rfl)).mpr ⟨huri, rfl⟩
    rw [buildSmartPoster_eq_ok hrecords hpayload hdecode, ofFrame, hcontent hdecode]

end Record

end Ndef
