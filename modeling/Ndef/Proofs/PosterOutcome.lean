import Ndef.Proofs.PosterPayload
import Ndef.Proofs.Reachable
import Ndef.Proofs.TextRoundTrip

/-!
# Why a smart poster is not built

There are three reasons not to build a smart poster of a draft that is not too large, and
the first of them that applies is reported: the tag of the title's language is too long,
the name of the media type is none, or the icon is another URI.  No other value, and no
other record in the place of the icon, is ever refused (`Record.buildSmartPoster_outcome`).
-/

namespace Ndef

namespace PosterDraft

/-- A title is given, and the tag of its language is longer than 63 bytes. -/
def LanguageTooLong (d : PosterDraft) : Prop :=
  d.title.isSome = true ∧ 63 < (Utf8.encode d.titleLanguage).length

/-- The name is given for the media type, and it is not the name of one. -/
def MisnamesMediaType (d : PosterDraft) (name : String) : Prop :=
  d.mediaType = some name ∧ MediaType.isType name = false

/-- The icon is a well-known record of type `U` with a URI in it. -/
def IconIsUri (d : PosterDraft) : Prop :=
  ∃ i u, d.icon = some i ∧ i.tnf = .wellKnown ∧ i.type = WellKnown.uri.type
    ∧ Uri.decode i.payload = .ok u

variable {d : PosterDraft}

theorem languageTooLong_iff :
  d.LanguageTooLong ↔ ¬ d.TitleFits
  := by
  rw [LanguageTooLong, TitleFits, Text.languageBound]
  cases d.title with
  | none => simp
  | some title =>
    simp only [Option.isSome_some, true_and, Option.some.injEq, forall_eq']
    omega

theorem forall_not_misnamesMediaType_iff :
  (∀ name, ¬ d.MisnamesMediaType name)
    ↔ ∀ name, d.mediaType = some name → MediaType.isType name = true
  := by
  simp [MisnamesMediaType]

/-- The icon is a URI exactly if it is read as one in its place. -/
theorem iconIsUri_iff :
  d.IconIsUri ↔ d.iconPart?.bind PosterPart.uri? ≠ none
  := by
  rw [IconIsUri, iconPart?]
  cases d.icon with
  | none => simp
  | some i =>
    rw [Option.map_some, Option.bind_some, Option.ne_none_iff_exists']
    simp only [PosterPart.uri?_eq_some_iff, PosterPart.ofFrame_eq_uri_iff, Option.some.injEq,
      exists_and_left, exists_eq_left']
    rfl

/-! ### Records that are not built -/

/-- The frames of a draft fit if it is not too large and the icon is a record that exists. -/
theorem fits_of_reachable (hicon : ∀ i, d.icon = some i → Reachable (.single i))
    (hpayload : d.payload.length < 0x80000000) :
  ∀ f ∈ d.frames, f.Fits
  := by
  apply fits_of_mem_frames hpayload
  intro i hi
  apply (hicon i hi).length_lt

theorem exists_buildUri_eq_ok (hfits : ∀ f ∈ d.frames, f.Fits) :
  ∃ r, Record.buildUri d.uri = .ok r
  := ⟨_, buildUri_eq_ok_iff.mpr ⟨(forall_mem_frames_iff.mp hfits).1, rfl⟩⟩

/-- The tag of the title's language is checked before everything but the URI. -/
theorem LanguageTooLong.records_eq (h : d.LanguageTooLong) (hfits : ∀ f ∈ d.frames, f.Fits) :
  d.records = .error .languageTooLong
  := by
  obtain ⟨uri, huri⟩ := exists_buildUri_eq_ok hfits
  obtain ⟨hsome, hlong⟩ := h
  obtain ⟨title, htitle⟩ := Option.isSome_iff_exists.mp hsome
  have hbuild : Record.buildTextOrDefault (some title) d.language .utf8 d.current
      = .error .languageTooLong := by
    rw [buildTextOrDefault_title]
    apply Text.buildText_eq_error hlong
  rw [records, Except.bind_eq_error_iff]
  right
  refine ⟨uri, huri, ?_⟩
  rw [Except.bind_eq_error_iff]
  left
  apply Except.mapM_eq_error_iff.mpr
  exact ⟨title, htitle, hbuild⟩

/-- The media type is checked if the language of the title passes. -/
theorem MisnamesMediaType.records_eq {name : String} (h : d.MisnamesMediaType name)
    (hlanguage : d.TitleFits) (hfits : ∀ f ∈ d.frames, f.Fits) :
  d.records = .error (.invalidMediaType name)
  := by
  obtain ⟨hname, htype⟩ := h
  obtain ⟨-, htext, haction, hsize, -⟩ := forall_mem_frames_iff.mp hfits
  obtain ⟨uri, huri⟩ := exists_buildUri_eq_ok hfits
  obtain ⟨title, htitle⟩ : ∃ p, (d.title.mapM fun title =>
      Record.buildTextOrDefault (some title) d.language .utf8 d.current) = .ok p :=
    Except.exists_mapM_eq_ok fun title h =>
      ⟨_, buildTitle_eq_ok_iff.mpr ⟨⟨hlanguage title h, htext title h⟩, rfl⟩⟩
  obtain ⟨action, haction⟩ : ∃ p, (d.action.mapM fun a =>
      Record.buildWellKnown PosterPart.actionType [] [a.code]) = .ok p :=
    Except.exists_mapM_eq_ok fun a h => ⟨_, buildWellKnown_eq_ok_iff.mpr ⟨haction a h, rfl⟩⟩
  obtain ⟨size, hsize⟩ : ∃ p, (d.size.mapM fun n =>
      Record.buildWellKnown PosterPart.sizeType [] (Bytes.ofNat 4 n.toNat)) = .ok p :=
    Except.exists_mapM_eq_ok fun n h => ⟨_, buildWellKnown_eq_ok_iff.mpr ⟨hsize n h, rfl⟩⟩
  have hbuild : d.mediaType.mapM buildMediaType = .error (.invalidMediaType name) := by
    apply Except.mapM_eq_error_iff.mpr
    refine ⟨name, hname, ?_⟩
    rw [buildMediaType, if_neg (by simp [htype])]
  rw [records, huri, htitle, haction, hsize, hbuild]
  rfl

/-- A title that is not given has no language. -/
theorem records_of_title_eq_none (h : d.title = none) (language : Option String)
    (current : Option Language) :
  { d with language, current }.records = d.records
  := by
  rw [records, records, h]
  rfl

end PosterDraft

namespace Record

variable {d : PosterDraft}

/-- A smart poster whose icon is a URI is refused when it is read back. -/
theorem buildSmartPoster_of_iconIsUri (htitle : d.TitleFits)
    (hmediaType : ∀ name, d.mediaType = some name → MediaType.isType name = true)
    (hfits : ∀ f ∈ d.frames, f.Fits) (hpayload : d.payload.length < 0x80000000)
    (huri : d.IconIsUri) :
  buildSmartPoster d = .error (.misread .smartPoster)
  := by
  have hrecords := PosterDraft.records_eq_ok_iff.mpr ⟨htitle, hmediaType, hfits, rfl⟩
  rw [buildSmartPoster_eq hrecords]
  apply buildAs_eq_misread
  · apply Frame.fits_ofParts_iff.mpr
    exact ⟨by decide, by decide, hpayload⟩
  · intro hread
    obtain ⟨p, hp⟩ := Content.wellKnown?_eq_smartPoster_iff.mp hread
    obtain ⟨-, -, hdecode⟩ := Content.ofFrame_eq_smartPoster_iff.mp hp
    obtain ⟨hnone, -⟩ :=
      (PosterDraft.decode?_payload_eq_some_iff htitle hmediaType hfits (.inl rfl)).mp hdecode
    apply PosterDraft.iconIsUri_iff.mp huri hnone

/-- What building a smart poster comes to: the first reason that applies, or the poster. -/
theorem buildSmartPoster_cases (hfits : ∀ f ∈ d.frames, f.Fits)
    (hpayload : d.payload.length < 0x80000000) :
  (d.LanguageTooLong ∧ buildSmartPoster d = .error .languageTooLong)
    ∨ (¬ d.LanguageTooLong
      ∧ ∃ name, d.MisnamesMediaType name ∧ buildSmartPoster d = .error (.invalidMediaType name))
    ∨ (¬ d.LanguageTooLong ∧ (∀ name, ¬ d.MisnamesMediaType name)
      ∧ d.IconIsUri ∧ buildSmartPoster d = .error (.misread .smartPoster))
    ∨ (¬ d.LanguageTooLong ∧ (∀ name, ¬ d.MisnamesMediaType name)
      ∧ ¬ d.IconIsUri ∧ ∃ r, buildSmartPoster d = .ok r)
  := by
  by_cases hlanguage : d.LanguageTooLong
  · left
    use hlanguage
    rw [buildSmartPoster, hlanguage.records_eq hfits]
    rfl
  right
  have htitle : d.TitleFits := by
    rwa [PosterDraft.languageTooLong_iff, not_not] at hlanguage
  by_cases hnames : ∃ name, d.MisnamesMediaType name
  · left
    obtain ⟨name, hname⟩ := hnames
    refine ⟨hlanguage, name, hname, ?_⟩
    rw [buildSmartPoster, hname.records_eq htitle hfits]
    rfl
  right
  have hnames := not_exists.mp hnames
  have hmediaType := PosterDraft.forall_not_misnamesMediaType_iff.mp hnames
  by_cases huri : d.IconIsUri
  · left
    exact ⟨hlanguage, hnames, huri,
      buildSmartPoster_of_iconIsUri htitle hmediaType hfits hpayload huri⟩
  · right
    have hnone : d.iconPart?.bind PosterPart.uri? = none := by
      rwa [PosterDraft.iconIsUri_iff, Ne, not_not] at huri
    exact ⟨hlanguage, hnames, huri, _,
      buildSmartPoster_eq_ok_iff.mpr ⟨htitle, hmediaType, hfits, hpayload, hnone, rfl⟩⟩

/-- A smart poster of a draft that is not too large, with any record as its icon, is refused
because of the language of its title, else because of its media type, else because its icon
is another URI; else it is built, with the URI of the draft.  Without a title, the language
that is given makes no difference. -/
theorem buildSmartPoster_outcome (hicon : ∀ i, d.icon = some i → Reachable (.single i))
    (hpayload : d.payload.length < 0x80000000) :
  (buildSmartPoster d = .error .languageTooLong ↔ d.LanguageTooLong)
    ∧ (∀ name, buildSmartPoster d = .error (.invalidMediaType name)
      ↔ ¬ d.LanguageTooLong ∧ d.MisnamesMediaType name)
    ∧ (∀ w, buildSmartPoster d = .error (.misread w)
      ↔ w = .smartPoster ∧ ¬ d.LanguageTooLong ∧ (∀ name, ¬ d.MisnamesMediaType name)
        ∧ d.IconIsUri)
    ∧ ((∃ r, buildSmartPoster d = .ok r)
      ↔ ¬ d.LanguageTooLong ∧ (∀ name, ¬ d.MisnamesMediaType name) ∧ ¬ d.IconIsUri)
    ∧ (∀ r, buildSmartPoster d = .ok r → ∃ p, r.content = .smartPoster p ∧ p.uri = d.uri)
    ∧ (d.title = none →
      ∀ language current, buildSmartPoster { d with language, current } = buildSmartPoster d)
  := by
  have hfits := PosterDraft.fits_of_reachable hicon hpayload
  have hbuilt : ∀ r, buildSmartPoster d = .ok r →
      ∃ p, r.content = .smartPoster p ∧ p.uri = d.uri := by
    intro r hr
    obtain ⟨-, -, -, -, -, rfl⟩ := buildSmartPoster_eq_ok_iff.mp hr
    exact ⟨_, rfl, rfl⟩
  have huntitled (htitle : d.title = none) (language : Option String)
      (current : Option Language) :
      buildSmartPoster { d with language, current } = buildSmartPoster d := by
    rw [buildSmartPoster, buildSmartPoster, PosterDraft.records_of_title_eq_none htitle]
  rcases buildSmartPoster_cases hfits hpayload with
    ⟨hlanguage, heq⟩ | ⟨hlanguage, name, hname, heq⟩ | ⟨hlanguage, hnames, huri, heq⟩
      | ⟨hlanguage, hnames, huri, r, heq⟩
  · refine ⟨?_, ?_, ?_, ?_, hbuilt, huntitled⟩ <;> simp [heq, hlanguage]
  · have hiff (other : String) : name = other ↔ d.MisnamesMediaType other := by
      constructor
      · rintro rfl
        apply hname
      · intro hother
        exact Option.some.inj (hname.1.symm.trans hother.1)
    refine ⟨?_, ?_, ?_, ?_, hbuilt, huntitled⟩ <;> simp [heq, hlanguage, ← hiff]
  · refine ⟨?_, ?_, ?_, ?_, hbuilt, huntitled⟩ <;> simp [heq, hlanguage, hnames, huri, eq_comm]
  · refine ⟨?_, ?_, ?_, ?_, hbuilt, huntitled⟩ <;> simp [heq, hlanguage, hnames, huri]

/-- A draft with all three reasons, and what is left when they are taken away one by one. -/
theorem buildSmartPoster_outcome_each_reason :
  let icon : Record := .ofFrame none (.ofParts .wellKnown WellKnown.uri.type none [0x04, 0x61])
  let d : PosterDraft := {
    uri := "https://a"
    title := some "b"
    language := some (String.ofList (List.replicate 64 'a'))
    mediaType := some "text/*"
    icon := some icon }
  Reachable (.single icon) ∧ d.payload.length < 0x80000000
    ∧ buildSmartPoster d = .error .languageTooLong
    ∧ buildSmartPoster { d with title := none } = .error (.invalidMediaType "text/*")
    ∧ buildSmartPoster { d with title := none, mediaType := none }
      = .error (.misread .smartPoster)
    ∧ ∃ r p, buildSmartPoster { d with title := none, mediaType := none, icon := none } = .ok r
      ∧ r.content = .smartPoster p ∧ p.uri = "https://a"
  := by
  intro icon d
  have hbuild : build .wellKnown WellKnown.uri.type none [0x04, 0x61] = .ok icon :=
    build_eq_ok_iff.mpr ⟨by decide +kernel, rfl⟩
  have hicon : ∀ i, some icon = some i → Reachable (.single i) := by
    rintro _ ⟨⟩
    apply Reachable.build hbuild
  have huri : PosterDraft.IconIsUri { d with title := none, mediaType := none } :=
    ⟨icon, "https://a", rfl, rfl, rfl, by decide +kernel⟩
  have hlength : d.payload.length < 0x80000000 := by decide +kernel
  refine ⟨hicon icon rfl, hlength, ?_, ?_, ?_, ?_⟩
  · apply (buildSmartPoster_outcome hicon hlength).1.mpr
    exact ⟨rfl, by decide +kernel⟩
  · apply ((buildSmartPoster_outcome hicon (by decide +kernel)).2.1 "text/*").mpr
    exact ⟨by simp [PosterDraft.LanguageTooLong], rfl, by decide +kernel⟩
  · apply ((buildSmartPoster_outcome hicon (by decide +kernel)).2.2.1 .smartPoster).mpr
    exact ⟨rfl, by simp [PosterDraft.LanguageTooLong], by simp [PosterDraft.MisnamesMediaType],
      huri⟩
  · obtain ⟨-, -, -, hbuilt, hcontent, -⟩ :=
      buildSmartPoster_outcome (d := { d with title := none, mediaType := none, icon := none })
        (by simp) (by decide +kernel)
    obtain ⟨r, hr⟩ := hbuilt.mpr (by
      simp [PosterDraft.LanguageTooLong, PosterDraft.MisnamesMediaType, PosterDraft.IconIsUri])
    obtain ⟨p, hp, hsame⟩ := hcontent r hr
    exact ⟨r, p, hr, hp, hsame⟩

end Record

end Ndef
