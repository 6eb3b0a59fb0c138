import Ndef.Proofs.PosterPayload
import Ndef.Proofs.Reachable

/-!
# Reading smart posters back

A smart poster that is built of valid values (`PosterDraft.Valid`) is read back with these
values, whatever the display language, and building it again of what was read gives the
same record (`PosterDraft.Valid.roundTrip`).  The icon of such a draft fits, so reading its
payload gives the poster that it describes; and building that poster again takes the same
frames.
-/

namespace Ndef

namespace PosterDraft

/-- The values of a draft can be written and read back.  The icon is a record that exists
and is an image or a video. -/
structure Valid (d : PosterDraft) : Prop where
  language : ∀ title, d.title = some title → (Utf8.encode d.titleLanguage).length ≤ 63
  mediaType : ∀ name, d.mediaType = some name → MediaType.isType name = true
  icon : ∀ i, d.icon = some i → Reachable (.single i) ∧ i.tnf = .mediaType ∧ i.payload ≠ []
    ∧ ∃ name, Utf8.decode? i.type = some name
      ∧ (MediaType.hasTop name "image" = true ∨ MediaType.hasTop name "video" = true)
  payload : d.payload.length < 0x80000000

variable {d : PosterDraft}

/-! ### Valid drafts -/

theorem Valid.titleFits (h : d.Valid) :
  d.TitleFits
  := by
  intro title htitle
  apply Nat.lt_succ_of_le
  apply h.language title htitle

theorem Valid.iconFits (h : d.Valid) :
  d.IconFits
  := by
  intro i hi
  obtain ⟨-, hicon⟩ := h.icon i hi
  apply PosterPart.isIcon_iff.mpr hicon

theorem Valid.fits (h : d.Valid) :
  ∀ f ∈ d.frames, f.Fits
  := fits_of_mem_frames h.payload fun i hi => (h.icon i hi).1.length_lt

/-- The payload of a valid draft says what the draft describes. -/
theorem Valid.decode?_payload (h : d.Valid) (language : Option Language) :
  SmartPoster.decode? language d.payload = some d.poster
  := by
  have htitle : d.iconPart?.bind PosterPart.title? = none :=
    h.iconFits.bind_iconPart? fun _ => rfl
  apply (decode?_payload_eq_some_iff h.titleFits h.mediaType h.fits (.inr htitle)).mpr
  exact ⟨h.iconFits.bind_iconPart? fun _ => rfl, h.iconFits.posterWith_iconPart?.symm⟩

/-- A smart poster is built of a valid draft. -/
theorem Valid.buildSmartPoster (h : d.Valid) :
  Record.buildSmartPoster d
    = .ok (.ofFrame none (.ofParts .wellKnown WellKnown.smartPoster.type none d.payload))
  := by
  have hrecords := records_eq_ok_iff.mpr ⟨h.titleFits, h.mediaType, h.fits, rfl⟩
  apply Record.buildSmartPoster_eq_ok hrecords h.payload (h.decode?_payload none)

end PosterDraft

/-! ### Building a poster again -/

/-- The values for building a smart poster again. -/
def SmartPoster.draft (p : SmartPoster) (current : Option Language) : PosterDraft where
  uri := p.uri
  title := p.title.map PosterTitle.content
  language := p.title.map PosterTitle.language
  current := current
  mediaType := p.mediaType
  size := p.size
  action := p.action
  icon := p.icon.map Record.uninterpreted

namespace PosterDraft

variable {d : PosterDraft}

/-- The language of a title that was read is given, so the current one does not matter. -/
theorem titleLanguage_draft_poster (current : Option Language) {title : String}
    (h : d.title = some title) :
  (d.poster.draft current).titleLanguage = d.titleLanguage
  := by
  rw [titleLanguage, SmartPoster.draft, poster, h]
  rfl

/-- Building a poster again takes the same frames. -/
theorem frames_draft_poster (d : PosterDraft) (current : Option Language) :
  (d.poster.draft current).frames = d.frames
  := by
  have htitle : (d.poster.draft current).title = d.title := by
    simp [SmartPoster.draft, poster, Function.comp_def]
  have htext : d.title.map (fun title => wellKnownFrame WellKnown.text.type
        ((d.poster.draft current).text title).payload)
      = d.title.map fun title => wellKnownFrame WellKnown.text.type (d.text title).payload := by
    apply Option.map_congr
    intro title h
    rw [text, text, titleLanguage_draft_poster current h]
  have hicon : (d.poster.draft current).icon.map iconFrame = d.icon.map iconFrame := by
    simp only [SmartPoster.draft, poster, Option.map_map]
    rfl
  have hvalues : (d.poster.draft current).valueFrames = d.valueFrames := by
    rw [valueFrames, valueFrames, htitle, htext]
    rfl
  rw [frames, frames, hvalues, hicon]

/-- A smart poster is built again of what was read of it. -/
theorem Valid.buildSmartPoster_draft_poster (h : d.Valid) (current : Option Language) :
  Record.buildSmartPoster (d.poster.draft current) = Record.buildSmartPoster d
  := by
  have hframes := frames_draft_poster d current
  have hpayload : (d.poster.draft current).payload = d.payload := by
    rw [PosterDraft.payload, PosterDraft.payload, hframes]
  have hlanguage : (d.poster.draft current).TitleFits := by
    intro _ hdraft
    obtain ⟨_, hposter, rfl⟩ := Option.map_eq_some_iff.mp hdraft
    obtain ⟨title, htitle, rfl⟩ := Option.map_eq_some_iff.mp hposter
    rw [titleLanguage_draft_poster current htitle]
    apply h.titleFits title htitle
  have hfits : ∀ f ∈ (d.poster.draft current).frames, f.Fits := by
    rw [hframes]
    apply h.fits
  have hrecords := records_eq_ok_iff.mpr ⟨hlanguage, h.mediaType, hfits, rfl⟩
  rw [h.buildSmartPoster, ← hpayload]
  apply Record.buildSmartPoster_eq_ok (p := d.poster) hrecords
  · rw [hpayload]
    apply h.payload
  · rw [hpayload]
    apply h.decode?_payload none

/-- A smart poster that is built of valid values is read back as a single record with these
values, whatever the display language.  Building it again of what was read, whatever the
current language, gives the same record. -/
theorem Valid.roundTrip (h : d.Valid) :
  ∃ r p, Record.buildSmartPoster d = .ok r ∧ r.content = .smartPoster p
    ∧ (∀ language, Message.decode? language r.bytes = some (.single r))
    ∧ p.uri = d.uri
    ∧ p.title = d.title.map (fun title => { content := title, language := d.titleLanguage })
    ∧ p.mediaType = d.mediaType ∧ p.size = d.size ∧ p.action = d.action
    ∧ p.icon.map (fun f => (f.tnf, f.type, f.id, f.payload))
      = d.icon.map (fun i => (i.tnf, i.type, i.id, i.payload))
    ∧ ∀ current, Record.buildSmartPoster (p.draft current) = .ok r
  := by
  have hfits : (Frame.ofParts .wellKnown WellKnown.smartPoster.type none d.payload).Fits :=
    Frame.fits_ofParts_iff.mpr ⟨by decide, by decide, h.payload⟩
  have hcontent (language : Option Language) :
      Content.ofFrame language (.ofParts .wellKnown WellKnown.smartPoster.type none d.payload)
        = .smartPoster d.poster :=
    Content.ofFrame_eq_smartPoster_iff.mpr ⟨rfl, rfl, h.decode?_payload language⟩
  refine ⟨_, d.poster, h.buildSmartPoster, hcontent none, ?_, rfl, rfl, rfl, rfl, rfl, ?_, ?_⟩
  · intro language
    have hdecode := Message.decode?_bytes language hfits rfl
    rw [Record.ofFrame, hcontent, ← hcontent none] at hdecode
    apply hdecode
  · simp only [poster, Option.map_map]
    rfl
  · intro current
    rw [h.buildSmartPoster_draft_poster current, h.buildSmartPoster]

/-- A draft with all values, a title in the current language and an icon with an id. -/
theorem Valid.roundTrip_all_values :
  let icon : Record := .ofFrame none
    (.ofParts .mediaType (Utf8.encode "image/png") (some [0x69]) [0x89])
  let d : PosterDraft := {
    uri := "http://www.a"
    title := some "b"
    current := some { primary := "ru", territory := some "RU" }
    mediaType := some "text/plain"
    size := some 7
    action := some .save
    icon := some icon }
  d.Valid
    ∧ ∃ r p, Record.buildSmartPoster d = .ok r ∧ r.content = .smartPoster p
      ∧ (∀ language, Message.decode? language r.bytes = some (.single r))
      ∧ p.title = some { content := "b", language := "ru-RU" }
      ∧ p.icon.map Frame.id = some (some [0x69])
  := by
  intro icon d
  have hbuild : Record.build .mediaType (Utf8.encode "image/png") (some [0x69]) [0x89] = .ok icon :=
    Record.build_eq_ok_iff.mpr ⟨by decide +kernel, rfl⟩
  have hvalid : d.Valid := by
    constructor
    · intro title _
      decide +kernel
    · rintro _ ⟨⟩
      decide +kernel
    · rintro _ ⟨⟩
      refine ⟨.build hbuild, rfl, by decide, "image/png", Utf8.decode?_encode _, ?_⟩
      left
      decide +kernel
    · decide +kernel
  obtain ⟨r, p, hr, hp, hdecode, -, htitle, -, -, -, hicon, -⟩ := hvalid.roundTrip
  refine ⟨hvalid, r, p, hr, hp, hdecode, htitle, ?_⟩
  have hid := congrArg (Option.map fun parts => parts.2.2.1) hicon
  rw [Option.map_map, Option.map_map] at hid
  exact hid

end PosterDraft

end Ndef
