import Mathlib.Tactic.Common
import Ndef.Proofs.LanguageTag
import Ndef.Proofs.Recased
import Ndef.Proofs.TextRoundTrip

/-!
# The agreement of languages

How far two languages agree is settled by two questions: whether their primary subtags
agree, and whether both have a territory and these agree (`Language.agreement_congr`).  So it
does not matter which of the two is the target, in which form the other one is written, and
in which case any letter is.  No text agrees further with a language than the texts that are
built in that language (`Text.agreement_symmetric`).
-/

namespace Ndef

namespace Language

/-- The ways to write a language: as a tag, and as the name of a locale. -/
def forms (l : Language) : List String :=
  [l.tag, l.localeName]

/-- The primary subtags agree, up to case. -/
def SamePrimary (l m : Language) : Prop :=
  Recased l.primary m.primary

/-- Both languages have a territory, and these agree, up to case. -/
def SameTerritory (l m : Language) : Prop :=
  ∃ s t, l.territory = some s ∧ m.territory = some t ∧ Recased s t

/-- The second language is the first one with any of its letters in the other case. -/
structure IsRecased (l m : Language) : Prop where
  primary : Recased l.primary m.primary
  territory : Option.Rel Recased l.territory m.territory

variable {l m l' m' : Language}

/-! ### The two questions -/

theorem agreement_eq_none_iff :
  l.agreement m = .none ↔ ¬ l.SamePrimary m
  := by
  rw [SamePrimary, ← equalUpToCase_iff_recased, agreement]
  split
  · next h =>
    simp only [h, not_true_eq_false, iff_false]
    split
    · split <;> simp
    · simp
  · next h => simp [h]

theorem agreement_eq_territory_iff :
  l.agreement m = .territory ↔ l.SamePrimary m ∧ l.SameTerritory m
  := by
  simp only [SamePrimary, SameTerritory, ← equalUpToCase_iff_recased, agreement]
  split
  · next h => cases l.territory <;> cases m.territory <;> simp [h]
  · next h => simp [h]

theorem agreement_eq_primary_iff :
  l.agreement m = .primary ↔ l.SamePrimary m ∧ ¬ l.SameTerritory m
  := by
  have hnone := agreement_eq_none_iff (l := l) (m := m)
  have hterritory := agreement_eq_territory_iff (l := l) (m := m)
  cases h : l.agreement m <;> simp_all

/-- Languages agree as far as others if the two questions have the same answers. -/
theorem agreement_congr (hprimary : l.SamePrimary m ↔ l'.SamePrimary m')
    (hterritory : l.SameTerritory m ↔ l'.SameTerritory m') :
  l.agreement m = l'.agreement m'
  := by
  symm
  cases h : l.agreement m with
  | none =>
    rw [agreement_eq_none_iff] at h ⊢
    rwa [← hprimary]
  | primary =>
    rw [agreement_eq_primary_iff] at h ⊢
    rwa [← hprimary, ← hterritory]
  | territory =>
    rw [agreement_eq_territory_iff] at h ⊢
    rwa [← hprimary, ← hterritory]

theorem samePrimary_comm :
  l.SamePrimary m ↔ m.SamePrimary l
  := recased_comm

theorem sameTerritory_comm :
  l.SameTerritory m ↔ m.SameTerritory l
  := by
  constructor
  · rintro ⟨s, t, hs, ht, h⟩
    exact ⟨t, s, ht, hs, recased_comm.mp h⟩
  · rintro ⟨s, t, hs, ht, h⟩
    exact ⟨t, s, ht, hs, recased_comm.mp h⟩

theorem agreement_comm (l m : Language) :
  l.agreement m = m.agreement l
  := by
  apply agreement_congr
  · apply samePrimary_comm
  · apply sameTerritory_comm

/-! ### Case -/

theorem IsRecased.sameTerritory_iff (hl : l.IsRecased l') (hm : m.IsRecased m') :
  l.SameTerritory m ↔ l'.SameTerritory m'
  := by
  rw [SameTerritory, SameTerritory]
  obtain ⟨-, hl⟩ := hl
  obtain ⟨-, hm⟩ := hm
  generalize l.territory = a, l'.territory = a' at hl
  generalize m.territory = b, m'.territory = b' at hm
  cases hl with
  | none => simp
  | some hs =>
    cases hm with
    | none => simp
    | some ht => simpa using hs.congr ht

/-- The case of letters does not matter for the agreement. -/
theorem IsRecased.agreement_eq (hl : l.IsRecased l') (hm : m.IsRecased m') :
  l.agreement m = l'.agreement m'
  := by
  apply agreement_congr
  · apply hl.primary.congr hm.primary
  · apply hl.sameTerritory_iff hm

theorem isRecased_new {s s' : String} {o o' : Option String} (hs : Recased s s')
    (ho : Option.Rel Recased o o') :
  (new s o).IsRecased (new s' o')
  := by
  constructor
  · apply hs
  · rw [rel_recased_iff] at ho ⊢
    have hfilter (p : Option String) : (p.filter (· ≠ "")).map String.toLower
        = (p.map String.toLower).filter (· ≠ "") := by
      cases p with
      | none => rfl
      | some t => simp [Option.filter, toLower_eq_empty_iff, apply_ite]
    rw [new, new, hfilter, hfilter, ho]

theorem isSeparator_toLower (c : Char) :
  isSeparator c.toLower = isSeparator c
  := by
  rw [Bool.eq_iff_iff, isSeparator_iff, isSeparator_iff]
  simp only [← Char.toNat_inj, toNat_toLower, Char.reduceToNat]
  split <;> omega

/-- A tag with letters in the other case names the same language with letters in the other
case. -/
theorem rel_parse? {s t : String} (h : Recased s t) :
  Option.Rel IsRecased (parse? s) (parse? t)
  := by
  have hcut : cut isSeparator s.toLower = cut isSeparator t.toLower := by
    rw [recased_iff.mp h]
  rw [cut_toLower isSeparator_toLower, cut_toLower isSeparator_toLower] at hcut
  obtain ⟨hprimary, hterritory⟩ := Prod.mk.inj hcut
  have hempty : (cut isSeparator s).1 = "" ↔ (cut isSeparator t).1 = "" := by
    rw [← toLower_eq_empty_iff, hprimary, toLower_eq_empty_iff]
  rw [parse?, parse?]
  dsimp only
  by_cases hs : (cut isSeparator s).1 = ""
  · rw [if_pos hs, if_pos (hempty.mp hs)]
    apply Option.Rel.none
  · rw [if_neg hs, if_neg (mt hempty.mpr hs)]
    apply Option.Rel.some
    apply isRecased_new
    · apply recased_iff.mpr hprimary
    · apply rel_recased_iff.mpr hterritory

theorem agreementOfTag_eq {s t : String} (h : Recased s t) (hm : m.IsRecased m') :
  agreementOfTag s m = agreementOfTag t m'
  := by
  have hrel := rel_parse? h
  rw [agreementOfTag, agreementOfTag]
  generalize parse? s = a, parse? t = b at hrel
  cases hrel with
  | none => rfl
  | some hl => apply hl.agreement_eq hm

/-! ### The furthest agreement -/

/-- A language agrees with itself as far as it can be told. -/
theorem agreement_self (l : Language) :
  l.agreement l = if l.territory.isSome then .territory else .primary
  := by
  have hprimary : l.SamePrimary l := recased_iff.mpr rfl
  cases h : l.territory with
  | none =>
    apply agreement_eq_primary_iff.mpr
    use hprimary
    simp [SameTerritory, h]
  | some t =>
    apply agreement_eq_territory_iff.mpr
    use hprimary, t, t, h, h
    apply recased_iff.mpr rfl

/-- Nothing agrees further with a language than the language itself. -/
theorem rank_agreementOfTag_le (tag : String) (l : Language) :
  (agreementOfTag tag l).rank ≤ (l.agreement l).rank
  := by
  rw [agreementOfTag, agreement_self]
  split
  · next m _ =>
    cases h : m.agreement l with
    | none => apply Nat.zero_le
    | primary => split <;> decide
    | territory =>
      obtain ⟨-, -, t, -, ht, -⟩ := agreement_eq_territory_iff.mp h
      rw [ht]
      apply Nat.le_refl
  · apply Nat.zero_le

/-- A language that was read agrees as itself, in whichever form it is written. -/
theorem agreementOfTag_form {s form : String} (h : parse? s = some l) (hform : form ∈ l.forms)
    (m : Language) :
  agreementOfTag form m = l.agreement m
  := by
  have hproper := isProper_of_parse? h
  have hread : parse? form = some l := by
    rw [forms, tag_eq, localeName_eq, List.mem_pair] at hform
    rcases hform with rfl | rfl
    · apply hproper.parse?_joined rfl
    · apply hproper.parse?_joined rfl
  rw [agreementOfTag, hread]

end Language

/-! ### Texts -/

namespace Text

variable {t : Text} {l : Language} {content : Option String} {encoding : TextEncoding}

/-- The content that is given, or the empty text, as a text in the language. -/
def inLanguage (l : Language) (content : Option String) (encoding : TextEncoding) : Text where
  language := l.tag
  content := content.getD ""
  encoding := encoding

/-- A record that is built of a text says a text in the same language. -/
theorem exists_text_of_build {r : Record} (h : Record.buildText t = .ok r) :
  ∃ u, r.text? = some u ∧ u.language = t.language
  := by
  obtain ⟨hlanguage, -, rfl, hread⟩ := Record.buildText_eq_ok_iff.mp h
  obtain ⟨u, hu⟩ := Content.wellKnown?_eq_text_iff.mp hread
  obtain ⟨-, -, hdecode⟩ := Content.ofFrame_eq_text_iff.mp hu
  use u, Record.text?_eq_some_iff.mpr hu
  apply ((decode_payload_eq_ok_iff hlanguage).mp hdecode).1

/-- A record is built of a text in a language whose tag fits, unless the text is big-endian. -/
theorem exists_build_inLanguage (htag : (Utf8.encode l.tag).length ≤ 63)
    (hencoding : encoding ≠ .utf16 .bigEndian)
    (hpayload : (inLanguage l content encoding).payload.length < 0x80000000) :
  ∃ r, Record.buildText (inLanguage l content encoding) = .ok r
  := by
  have hmarked : ¬ (inLanguage l content encoding).LooksMarked := by
    intro h
    apply hencoding h.1
  obtain ⟨r, hr, -⟩ := (roundTrips_iff_not_looksMarked htag hpayload).mpr hmarked
  use r

/-- The agreement of a text in one language with another language is that of a text in the
latter with the former.  It is full if the primary subtags agree and both territories are there
and agree, it is none if the primary subtags differ, and else it is in the primary subtag.  The
case of letters does not matter, neither in the languages nor in the tags from which they are
read.  A record that is built of a text in a language says one with which nothing agrees
further; it is built if the tag and the payload fit. -/
theorem agreement_symmetric :
  (∀ s s' l m, Language.parse? s = some l → Language.parse? s' = some m →
    ∀ t u : Text, t.language ∈ l.forms → u.language ∈ m.forms →
      t.agreement m = u.agreement l
        ∧ (t.agreement m = .territory ↔ l.SamePrimary m ∧ l.SameTerritory m)
        ∧ (t.agreement m = .none ↔ ¬ l.SamePrimary m)
        ∧ (t.agreement m = .primary ↔ l.SamePrimary m ∧ ¬ l.SameTerritory m))
    ∧ (∀ (t u : Text) (l m : Language), Recased t.language u.language → l.IsRecased m →
      t.agreement l = u.agreement m)
    ∧ (∀ s s', Recased s s' →
      Option.Rel Language.IsRecased (Language.parse? s) (Language.parse? s'))
    ∧ ∀ s l, Language.parse? s = some l → ∀ content encoding,
      (∀ r, Record.buildTextOrDefault content none encoding (some l) = .ok r →
        ∃ t, r.text? = some t
          ∧ t.agreement l = (if l.territory.isSome then .territory else .primary)
          ∧ ∀ u : Text, (u.agreement l).rank ≤ (t.agreement l).rank)
        ∧ ((Utf8.encode l.tag).length ≤ 63 → encoding = .utf8 ∨ encoding = .utf16 .littleEndian →
          (inLanguage l content encoding).payload.length < 0x80000000 →
          ∃ r, Record.buildTextOrDefault content none encoding (some l) = .ok r)
  := by
  refine ⟨?_, ?_, ?_, ?_⟩
  · intro s s' l m hl hm t u ht hu
    have hleft : t.agreement m = l.agreement m := Language.agreementOfTag_form hl ht m
    have hright : u.agreement l = m.agreement l := Language.agreementOfTag_form hm hu l
    rw [hleft, hright]
    use Language.agreement_comm l m, Language.agreement_eq_territory_iff,
      Language.agreement_eq_none_iff
    apply Language.agreement_eq_primary_iff
  · intro t u l m hrecased hm
    apply Language.agreementOfTag_eq hrecased hm
  · intro s s' h
    apply Language.rel_parse? h
  · intro s l hl content encoding
    constructor
    · intro r hr
      obtain ⟨t, ht, hlanguage⟩ := exists_text_of_build hr
      have hself : t.agreement l = l.agreement l := by
        apply Language.agreementOfTag_form hl
        rw [hlanguage]
        apply List.mem_cons_self
      use t, ht
      rw [hself]
      use Language.agreement_self l
      intro u
      apply Language.rank_agreementOfTag_le
    · intro htag hencoding hpayload
      apply exists_build_inLanguage htag _ hpayload
      rcases hencoding with rfl | rfl <;> simp

/-- Two languages that differ in case only, one of them as the name of a locale and the other as
a tag, the former in yet another case, and a little-endian text that is built in it. -/
theorem agreement_symmetric_other_case :
  let l : Language := ⟨"ru", some "RU"⟩
  let m : Language := ⟨"RU", some "ru"⟩
  let t : Text := { language := "ru_RU", content := "", encoding := .utf8 }
  let u : Text := { t with language := "RU-ru" }
  Language.parse? "ru_RU" = some l ∧ Language.parse? "RU_ru" = some m ∧ l.IsRecased m
    ∧ t.agreement m = u.agreement l ∧ t.agreement m = .territory
    ∧ t.agreement l = Text.agreement { t with language := "rU_Ru" } m
    ∧ ∃ r v, Record.buildTextOrDefault (some "Привет") none (.utf16 .littleEndian) (some l) = .ok r
      ∧ r.text? = some v ∧ v.agreement l = .territory ∧ (u.agreement l).rank ≤ (v.agreement l).rank
  := by
  intro l m t u
  obtain ⟨hlevels, hcase, hread, hbuilt⟩ := agreement_symmetric
  have hl : Language.parse? "ru_RU" = some l := by decide +kernel
  have hm : Language.parse? "RU_ru" = some m := by decide +kernel
  have hlm : l.IsRecased m := by
    have hrel := hread "ru_RU" "RU_ru" (by decide)
    rw [hl, hm] at hrel
    cases hrel
    assumption
  obtain ⟨hsymm, hterritory, -, -⟩ :=
    hlevels _ _ l m hl hm t u (by decide +kernel) (by decide +kernel)
  obtain ⟨hfurthest, hbuild⟩ := hbuilt _ l hl (some "Привет") (.utf16 .littleEndian)
  obtain ⟨r, hr⟩ := hbuild (by decide +kernel) (.inr rfl) (by decide +kernel)
  obtain ⟨v, hv, hfull, hle⟩ := hfurthest r hr
  refine ⟨hl, hm, hlm, hsymm, ?_, hcase _ _ l m (by decide) hlm, r, v, hr, hv, hfull, hle u⟩
  apply hterritory.mpr
  use hlm.primary, "RU", "ru", rfl, rfl
  decide

end Text

end Ndef
