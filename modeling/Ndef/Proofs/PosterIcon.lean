import Ndef.Proofs.PosterPayload

/-!
# Icons of any kind

Any record can be given as the icon of a new smart poster.  It is put behind the records
of the other values and read back like these.  So an icon that is no image or video is
dropped, or it is taken for a value that is not given: the poster says what its draft says
exactly if the icon fits (`Record.buildSmartPoster_reports_iff`).
-/

namespace Ndef

/-- The poster says what the draft says, and it has an icon exactly if the draft has one. -/
structure SmartPoster.Reports (p : SmartPoster) (d : PosterDraft) : Prop where
  uri : p.uri = d.uri
  title : p.title.map PosterTitle.content = d.title
  language : (p.title.map PosterTitle.language).isSome = d.title.isSome
  mediaType : p.mediaType = d.mediaType
  size : p.size = d.size
  action : p.action = d.action
  icon : p.icon.isSome = d.icon.isSome

namespace PosterDraft

variable {d : PosterDraft}

/-- A value that is given is kept, whatever the other part is. -/
theorem posterWith_of_isSome (part? : Option PosterPart) :
  (d.title.isSome → (d.posterWith part?).title.map PosterTitle.content = d.title)
    ∧ (d.mediaType.isSome → (d.posterWith part?).mediaType = d.mediaType)
    ∧ (d.size.isSome → (d.posterWith part?).size = d.size)
    ∧ (d.action.isSome → (d.posterWith part?).action = d.action)
  := by
  refine ⟨?_, ?_, ?_, ?_⟩
  · intro h
    obtain ⟨title, htitle⟩ := Option.isSome_iff_exists.mp h
    simp [posterWith, htitle, text]
  · exact Option.or_of_isSome
  · exact Option.or_of_isSome
  · exact Option.or_of_isSome

/-- The part of the icon is that of an icon only if the icon fits. -/
theorem iconFits_of_isSome (h : (d.iconPart?.bind PosterPart.icon?).isSome = d.icon.isSome) :
  d.IconFits
  := by
  intro i hi
  rw [iconPart?, hi] at h
  obtain ⟨f, hf⟩ := Option.isSome_iff_exists.mp h
  rw [Option.map_some, Option.bind_some, PosterPart.icon?_eq_some_iff,
    PosterPart.ofFrame_eq_icon_iff] at hf
  apply hf.2

/-- The poster that is read says what the draft says exactly if the icon fits. -/
theorem reports_posterWith_iff :
  (d.posterWith d.iconPart?).Reports d ↔ d.IconFits
  := by
  constructor
  · intro h
    apply iconFits_of_isSome h.icon
  · intro h
    rw [h.posterWith_iconPart?]
    constructor
    case title => simp [poster, Function.comp_def]
    case language => simp [poster]
    case icon => simp [poster]
    all_goals rfl

end PosterDraft

namespace Record

variable {d : PosterDraft} {r : Record}

/-- A new smart poster keeps the values that are given.  It says just these, and has the
icon, exactly if the icon fits. -/
theorem buildSmartPoster_reports_iff (h : buildSmartPoster d = .ok r) :
  ∃ p, r.content = .smartPoster p ∧ p.uri = d.uri
    ∧ (d.title.isSome → p.title.map PosterTitle.content = d.title)
    ∧ (d.mediaType.isSome → p.mediaType = d.mediaType)
    ∧ (d.size.isSome → p.size = d.size)
    ∧ (d.action.isSome → p.action = d.action)
    ∧ (p.Reports d ↔ d.IconFits)
  := by
  obtain ⟨-, -, -, -, -, rfl⟩ := buildSmartPoster_eq_ok_iff.mp h
  obtain ⟨htitle, hmediaType, hsize, haction⟩ := PosterDraft.posterWith_of_isSome d.iconPart?
  use d.posterWith d.iconPart?
  exact ⟨rfl, rfl, htitle, hmediaType, hsize, haction, PosterDraft.reports_posterWith_iff⟩

/-- An image in the place of the icon, beside a size. -/
theorem buildSmartPoster_reports_iff_image :
  let icon : Record := .ofFrame none
    (.ofParts .mediaType (Utf8.encode "image/png") none [0x89])
  let d : PosterDraft := { uri := "https://a", size := some 7, icon := some icon }
  ∃ r p, buildSmartPoster d = .ok r ∧ r.content = .smartPoster p ∧ p.size = some 7
    ∧ d.IconFits ∧ p.Reports d
  := by
  intro icon d
  have hfits : d.IconFits := by
    rintro _ ⟨⟩
    decide +kernel
  obtain ⟨r, hr⟩ : ∃ r, buildSmartPoster d = .ok r := by
    refine ⟨_, buildSmartPoster_eq_ok_iff.mpr ⟨?_, ?_, ?_, ?_, ?_, rfl⟩⟩
    · rintro _ ⟨⟩
    · rintro _ ⟨⟩
    · decide +kernel
    · decide +kernel
    · decide +kernel
  obtain ⟨p, hp, -, -, -, hsize, -, hreports⟩ := buildSmartPoster_reports_iff hr
  exact ⟨r, p, hr, hp, hsize rfl, hfits, hreports.mpr hfits⟩

/-- A text record in the place of the icon becomes the title, and there is no icon. -/
theorem not_reports_text_icon :
  let t : Text := { content := "x", language := "en", encoding := .utf8 }
  let icon : Record := .framed (.ofParts .wellKnown WellKnown.text.type none t.payload) (.text t)
  let d : PosterDraft := { uri := "https://a", icon := some icon }
  buildText t = .ok icon
    ∧ ∃ r p, buildSmartPoster d = .ok r ∧ r.content = .smartPoster p
      ∧ p.title = some { content := "x", language := "en" } ∧ p.icon = none ∧ ¬ p.Reports d
  := by
  intro t icon d
  have hposter : (buildSmartPoster d).map smartPoster? = .ok (some {
      uri := "https://a", title := some { content := "x", language := "en" }
      mediaType := none, size := none, action := none, icon := none }) := by
    decide +kernel
  obtain ⟨r, hr, hp⟩ := Except.map_eq_ok_iff.mp hposter
  refine ⟨by decide +kernel, r, _, hr, smartPoster?_eq_some_iff.mp hp, rfl, rfl, ?_⟩
  intro h
  cases h.title

end Record

end Ndef
