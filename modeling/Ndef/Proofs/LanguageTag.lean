import Mathlib.Tactic.Common
import Ndef.Language

/-!
# Language tags

A language that was read has a primary subtag without separators and no empty territory
(`Language.IsProper`).  Such a language is read back from its tag and from its locale name, and
no other language is (`Language.parse?_written`).  What stands behind the language part of a
locale name does not matter, and the language part is read like a tag.
-/

namespace Ndef.Language

/-- The text can be a primary subtag: it is not empty and has no separator in it. -/
def IsPrimary (s : String) : Prop :=
  s ≠ "" ∧ '-' ∉ s.toList ∧ '_' ∉ s.toList

instance (s : String) : Decidable (IsPrimary s) :=
  inferInstanceAs (Decidable (_ ∧ _ ∧ _))

/-- The language has a primary subtag and, if it has a territory, one that is not empty. -/
structure IsProper (l : Language) : Prop where
  primary : IsPrimary l.primary
  territory : l.territory ≠ some ""

/-! ### Separators -/

theorem isSeparator_iff {c : Char} :
  isSeparator c = true ↔ c = '-' ∨ c = '_'
  := by
  simp [isSeparator]

theorem endsLanguage_iff {c : Char} :
  endsLanguage c = true ↔ c = '.' ∨ c = '@'
  := by
  simp [endsLanguage]

/-- A primary subtag is a text that is not empty and in which no character is a separator. -/
theorem isPrimary_iff {s : String} :
  IsPrimary s ↔ s ≠ "" ∧ ∀ c ∈ s.toList, isSeparator c = false
  := by
  constructor
  · rintro ⟨hne, hhyphen, hunderscore⟩
    use hne
    intro c hc
    rw [Bool.eq_false_iff, ne_eq, isSeparator_iff]
    rintro (rfl | rfl)
    · apply hhyphen hc
    · apply hunderscore hc
  · rintro ⟨hne, hseparator⟩
    refine ⟨hne, ?_, ?_⟩
    · intro hmem
      cases hseparator '-' hmem
    · intro hmem
      cases hseparator '_' hmem

theorem separated_eq (s x : String) (sep : Char) :
  s ++ String.singleton sep ++ x = String.ofList (s.toList ++ sep :: x.toList)
  := by
  apply String.toList_inj.mp
  simp

theorem tag_eq (l : Language) :
  l.tag = l.joined (String.singleton '-')
  := congrArg l.joined (by decide)

theorem localeName_eq (l : Language) :
  l.localeName = l.joined (String.singleton '_')
  := congrArg l.joined (by decide)

/-! ### Reading -/

theorem new_territory_ne (primary : String) (territory : Option String) :
  (new primary territory).territory ≠ some ""
  := by
  simp [new]

/-- A language without empty territory is the one with its parts. -/
theorem new_eq {l : Language} (h : l.territory ≠ some "") :
  new l.primary l.territory = l
  := by
  obtain ⟨primary, territory⟩ := l
  cases territory with
  | none => rfl
  | some territory =>
    have hne : territory ≠ "" := by simpa using h
    simp [new, hne]

/-- A language that was read is proper. -/
theorem isProper_of_parse? {s : String} {l : Language} (h : parse? s = some l) :
  l.IsProper
  := by
  rw [parse?] at h
  dsimp only at h
  split at h
  · cases h
  · next hne =>
    injection h with h
    subst h
    constructor
    · apply isPrimary_iff.mpr
      exact ⟨hne, fun c hc => not_of_mem_cut_fst hc⟩
    · apply new_territory_ne

/-- A text without separators is read as a primary subtag alone. -/
theorem parse?_primary {s : String} (h : IsPrimary s) :
  parse? s = some ⟨s, none⟩
  := by
  obtain ⟨hne, hseparator⟩ := isPrimary_iff.mp h
  have hcut : cut isSeparator s = (s, none) := by
    have hwhole := cut_of_forall_not hseparator
    rwa [String.ofList_toList] at hwhole
  rw [parse?, hcut]
  dsimp only
  rw [if_neg hne]
  rfl

/-- Behind a primary subtag and a separator stands the territory. -/
theorem parse?_append {s : String} (h : IsPrimary s) {sep : Char} (hsep : isSeparator sep = true)
    (territory : String) :
  parse? (s ++ String.singleton sep ++ territory) = some (new s (some territory))
  := by
  obtain ⟨hne, hseparator⟩ := isPrimary_iff.mp h
  have hcut : cut isSeparator (s ++ String.singleton sep ++ territory)
      = (s, some territory) := by
    rw [separated_eq, cut_append hseparator hsep, String.ofList_toList, String.ofList_toList]
  rw [parse?, hcut]
  dsimp only
  rw [if_neg hne]

/-- A proper language is read back from its parts, whichever separator stands between them. -/
theorem IsProper.parse?_joined {l : Language} (h : l.IsProper) {sep : Char}
    (hsep : isSeparator sep = true) :
  parse? (l.joined (String.singleton sep)) = some l
  := by
  obtain ⟨hprimary, hterritory⟩ := h
  rw [joined]
  cases ht : l.territory with
  | none =>
    dsimp only
    rw [parse?_primary hprimary, ← ht]
  | some territory =>
    dsimp only
    rw [parse?_append hprimary hsep, ← ht, new_eq hterritory]

/-- A language of given parts is read back exactly if its primary subtag can be one. -/
theorem parse?_joined_new_iff {sep : Char} (hsep : isSeparator sep = true) (primary : String)
    (territory : Option String) :
  parse? ((new primary territory).joined (String.singleton sep)) = some (new primary territory)
    ↔ IsPrimary primary
  := by
  constructor
  · intro h
    exact (isProper_of_parse? h).primary
  · intro h
    have hproper : (new primary territory).IsProper := ⟨h, new_territory_ne primary territory⟩
    apply hproper.parse?_joined hsep

/-! ### Locales -/

/-- What stands behind the language part of a locale name does not matter. -/
theorem ofLocale?_append {sep : Char} (hsep : endsLanguage sep = true) (s x : String) :
  ofLocale? (s ++ String.singleton sep ++ x) = ofLocale? s
  := by
  rw [ofLocale?, ofLocale?, separated_eq, cut_fst_append hsep, String.ofList_toList]

/-- A locale name that is a language part alone is read like a tag, unless it names no
language. -/
theorem ofLocale?_eq_parse? {s : String} (h : ∀ c ∈ s.toList, endsLanguage c = false)
    (hc : s ≠ "C") (hposix : s ≠ "POSIX") :
  ofLocale? s = parse? s
  := by
  have hcut := cut_of_forall_not h
  rw [String.ofList_toList] at hcut
  rw [ofLocale?, hcut]
  dsimp only
  rw [if_neg (not_or.mpr ⟨hc, hposix⟩)]

/-- A language that was read is read back from its tag and from its locale name, and its primary
subtag is not empty and has no separator in it.  A language of given parts is read back from
either exactly if its primary subtag is so.  What follows the first dot or at sign in a locale
name does not matter; a locale name without these is read like a tag, unless it is one of the
two that name no language. -/
theorem parse?_written :
  (∀ s l, parse? s = some l →
    parse? l.tag = some l ∧ parse? l.localeName = some l ∧ IsPrimary l.primary)
    ∧ (∀ primary territory,
      (parse? (new primary territory).tag = some (new primary territory) ↔ IsPrimary primary)
        ∧ (parse? (new primary territory).localeName = some (new primary territory)
          ↔ IsPrimary primary))
    ∧ (∀ s x sep, sep = '.' ∨ sep = '@' →
      ofLocale? (s ++ String.singleton sep ++ x) = ofLocale? s)
    ∧ ∀ s, '.' ∉ s.toList → '@' ∉ s.toList → s ≠ "C" → s ≠ "POSIX" → ofLocale? s = parse? s
  := by
  have hhyphen : isSeparator '-' = true := rfl
  have hunderscore : isSeparator '_' = true := rfl
  simp only [tag_eq, localeName_eq]
  refine ⟨?_, ?_, ?_, ?_⟩
  · intro s l h
    have hproper := isProper_of_parse? h
    exact ⟨hproper.parse?_joined hhyphen, hproper.parse?_joined hunderscore, hproper.primary⟩
  · intro primary territory
    constructor
    · apply parse?_joined_new_iff hhyphen
    · apply parse?_joined_new_iff hunderscore
  · intro s x sep hsep
    apply ofLocale?_append (endsLanguage_iff.mpr hsep)
  · intro s hdot hat hc hposix
    apply ofLocale?_eq_parse? _ hc hposix
    intro c hmem
    rw [Bool.eq_false_iff, ne_eq, endsLanguage_iff]
    rintro (rfl | rfl)
    · apply hdot hmem
    · apply hat hmem

/-- A territory with separators in it, a locale with both suffixes, and languages that are not
read back. -/
theorem parse?_written_repeated_separators :
  let l : Language := ⟨"zh", some "Hans_CN-x"⟩
  parse? "zh_Hans_CN-x" = some l
    ∧ parse? "zh-Hans_CN-x" = some l ∧ l.tag = "zh-Hans_CN-x"
    ∧ parse? l.localeName = some l ∧ IsPrimary l.primary
    ∧ parse? (new "" (some "FI")).tag ≠ some (new "" (some "FI"))
    ∧ parse? (new "fi_FI" none).localeName ≠ some (new "fi_FI" none)
    ∧ ofLocale? "zh_TW.UTF-8@x.y" = ofLocale? "zh_TW.UTF-8"
    ∧ ofLocale? "-FI" = parse? "-FI"
  := by
  intro l
  obtain ⟨hread, hnew, hsuffix, hplain⟩ := parse?_written
  have hl : parse? "zh_Hans_CN-x" = some l := by decide +kernel
  have htag : l.tag = "zh-Hans_CN-x" := by decide +kernel
  obtain ⟨hfromTag, hfromLocale, hprimary⟩ := hread _ l hl
  rw [htag] at hfromTag
  refine ⟨hl, hfromTag, htag, hfromLocale, hprimary, ?_, ?_, ?_, ?_⟩
  · rw [ne_eq, (hnew "" (some "FI")).1]
    decide
  · rw [ne_eq, (hnew "fi_FI" none).2]
    decide
  · apply hsuffix "zh_TW.UTF-8" "x.y" '@' (.inr rfl)
  · apply hplain "-FI" (by decide) (by decide) (by decide) (by decide)

end Ndef.Language
