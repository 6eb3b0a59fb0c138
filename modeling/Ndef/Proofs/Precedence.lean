import Mathlib.Logic.Function.Basic
import Mathlib.Tactic.Common
import Ndef.Proofs.FirstOf
import Ndef.Proofs.Recased
import Ndef.Settings

/-!
# Where settings come from

A settings file says what its entries say if all of it is valid, and else as little as an
empty file (`Settings.FileSays`).  The environment goes before the file, and the file before
the locale; a variable that is empty says as little as one that is not set
(`Settings.load_precedence`).  What is said first counts even if it names no language.
-/

/-- A step with a value that may be absent fails only with a value. -/
theorem Option.mapM_eq_some_iff {α β : Type} {f : α → Option β} {o : Option α} {p : Option β} :
  o.mapM f = some p ↔ o = none ∧ p = none ∨ ∃ a b, o = some a ∧ f a = some b ∧ p = some b
  := by
  cases o with
  | none => simp [eq_comm]
  | some a =>
    rw [Option.mapM_some]
    change (f a).map some = some p ↔ _
    simp [eq_comm]

namespace Ndef

/-- The variable is not set, or it is empty. -/
def Environment.Blank (env : Environment) (key : String) : Prop :=
  env key = none ∨ env key = some ""

instance (env : Environment) (key : String) : Decidable (env.Blank key) :=
  inferInstanceAs (Decidable (_ ∨ _))

/-- The variable for the container has its name as value, up to case. -/
def Environment.NamesContainer (env : Environment) (c : Container) : Prop :=
  ∃ name, env "NFC_NDEF_CONTAINER" = some name ∧ Recased name c.name

namespace Settings

/-- The variables for the locale, of which the first that says something counts. -/
def localeKeys : List String :=
  ["LC_ALL", "LC_MESSAGES", "LANG"]

/-- The entries have no other key than the two of the settings, and these say what the settings
are; a container that is not said is a block of tag memory. -/
structure SaidBy (s : Settings) (entries : Toml.Entries) : Prop where
  keys : ∀ entry ∈ entries, entry.1 = "language" ∨ entry.1 = "container"
  language : entries.get? "language" = none ∧ s.language = none
    ∨ ∃ tag, entries.get? "language" = some (.string tag) ∧ s.language = some tag
  container : entries.get? "container" = none ∧ s.container = .tlv
    ∨ ∃ node, entries.get? "container" = some node ∧ containerOfNode? node = some s.container

/-- The entries are none of settings: there is another key, a language that is no string, or a
container that is none. -/
inductive Refused (entries : Toml.Entries) : Prop where
  | key {entry : String × Toml.Node} (hmem : entry ∈ entries) (hlanguage : entry.1 ≠ "language")
      (hcontainer : entry.1 ≠ "container")
  | language {node : Toml.Node} (hnode : entries.get? "language" = some node)
      (h : ∀ tag, node ≠ .string tag)
  | container {node : Toml.Node} (hnode : entries.get? "container" = some node)
      (h : containerOfNode? node = none)

/-- `FileSays file s`: the settings file says that the settings are `s`.  A file that is missing
or cannot be read is none.  One that is no text, no document, or has entries that are refused
says as little as none. -/
inductive FileSays : Option Bytes → Settings → Prop where
  | absent : FileSays none {}
  | notText {b : Bytes} (h : Utf8.decode? b = none) : FileSays (some b) {}
  | malformed {b : Bytes} {text : String} (htext : Utf8.decode? b = some text)
      (h : Toml.entries? text = none) : FileSays (some b) {}
  | refused {b : Bytes} {text : String} {entries : Toml.Entries}
      (htext : Utf8.decode? b = some text) (hentries : Toml.entries? text = some entries)
      (h : Refused entries) : FileSays (some b) {}
  | valid {b : Bytes} {text : String} {entries : Toml.Entries} {s : Settings}
      (htext : Utf8.decode? b = some text) (hentries : Toml.entries? text = some entries)
      (h : s.SaidBy entries) : FileSays (some b) s

variable {s : Settings} {file : Option Bytes} {env : Environment} {key : String}

/-! ### The file -/

theorem all_isKey_iff {entries : Toml.Entries} :
  entries.all (isKey ·.1) = true
    ↔ ∀ entry ∈ entries, entry.1 = "language" ∨ entry.1 = "container"
  := by
  simp [isKey]

theorem textOfNode?_eq_some_iff {node : Toml.Node} {text : String} :
  textOfNode? node = some text ↔ node = .string text
  := by
  cases node <;> simp [textOfNode?]

/-- Settings are read off entries exactly if the entries say them. -/
theorem ofEntries?_eq_some_iff {entries : Toml.Entries} :
  ofEntries? entries = some s ↔ s.SaidBy entries
  := by
  rw [ofEntries?]
  split
  · next hkeys =>
    rw [all_isKey_iff] at hkeys
    simp only [Option.bind_eq_bind, Option.bind_eq_some_iff, Option.mapM_eq_some_iff,
      textOfNode?_eq_some_iff, Option.some.injEq]
    constructor
    · rintro ⟨language, hlanguage, container, hcontainer, rfl⟩
      constructor
      · apply hkeys
      · rcases hlanguage with ⟨hnone, rfl⟩ | ⟨_, tag, hnode, rfl, rfl⟩
        · left
          exact ⟨hnone, rfl⟩
        · right
          exact ⟨tag, hnode, rfl⟩
      · rcases hcontainer with ⟨hnone, rfl⟩ | ⟨node, c, hnode, hc, rfl⟩
        · left
          exact ⟨hnone, rfl⟩
        · right
          exact ⟨node, hnode, hc⟩
    · rintro ⟨-, hlanguage, hcontainer⟩
      obtain ⟨language, container⟩ := s
      use language
      constructor
      · rcases hlanguage with ⟨hnone, rfl⟩ | ⟨tag, hnode, rfl⟩
        · left
          exact ⟨hnone, rfl⟩
        · right
          exact ⟨_, tag, hnode, rfl, rfl⟩
      · rcases hcontainer with ⟨hnone, rfl⟩ | ⟨node, hnode, hc⟩
        · exact ⟨none, .inl ⟨hnone, rfl⟩, rfl⟩
        · exact ⟨some container, .inr ⟨node, container, hnode, hc, rfl⟩, rfl⟩
  · next hkeys =>
    constructor
    · intro h
      cases h
    · intro h
      apply absurd (all_isKey_iff.mpr h.keys) hkeys

theorem Refused.not_saidBy {entries : Toml.Entries} (h : Refused entries) :
  ¬ s.SaidBy entries
  := by
  intro hs
  cases h with
  | key hmem hlanguage hcontainer =>
    rcases hs.keys _ hmem with hkey | hkey
    · apply hlanguage hkey
    · apply hcontainer hkey
  | language hnode h =>
    rcases hs.language with ⟨hnone, -⟩ | ⟨tag, htag, -⟩
    · rw [hnode] at hnone
      cases hnone
    · rw [hnode] at htag
      injection htag with htag
      apply h tag htag
  | container hnode h =>
    rcases hs.container with ⟨hnone, -⟩ | ⟨node, hsame, hc⟩
    · rw [hnode] at hnone
      cases hnone
    · rw [hnode] at hsame
      injection hsame with hsame
      rw [← hsame, h] at hc
      cases hc

/-- Entries that are not refused say settings. -/
theorem exists_saidBy {entries : Toml.Entries} (h : ¬ Refused entries) :
  ∃ s : Settings, s.SaidBy entries
  := by
  obtain ⟨language, hlanguage⟩ : ∃ language, entries.get? "language" = none ∧ language = none
      ∨ ∃ tag, entries.get? "language" = some (.string tag) ∧ language = some tag := by
    cases hnode : entries.get? "language" with
    | none => exact ⟨none, .inl ⟨rfl, rfl⟩⟩
    | some node =>
      cases node with
      | string tag => exact ⟨some tag, .inr ⟨tag, rfl, rfl⟩⟩
      | emptyArray => exact absurd (.language hnode (by simp)) h
      | table origin inner => exact absurd (.language hnode (by simp)) h
  obtain ⟨container, hcontainer⟩ : ∃ c, entries.get? "container" = none ∧ c = .tlv
      ∨ ∃ node, entries.get? "container" = some node ∧ containerOfNode? node = some c := by
    cases hnode : entries.get? "container" with
    | none => exact ⟨.tlv, .inl ⟨rfl, rfl⟩⟩
    | some node =>
      cases hc : containerOfNode? node with
      | none => exact absurd (.container hnode hc) h
      | some c => exact ⟨c, .inr ⟨node, rfl, hc⟩⟩
  use ⟨language, container⟩
  refine ⟨?_, hlanguage, hcontainer⟩
  intro entry hmem
  by_contra hkey
  obtain ⟨hl, hc⟩ := not_or.mp hkey
  apply h (.key hmem hl hc)

theorem ofEntries?_eq_none_iff {entries : Toml.Entries} :
  ofEntries? entries = none ↔ Refused entries
  := by
  simp only [Option.eq_none_iff_forall_ne_some, ne_eq, ofEntries?_eq_some_iff]
  constructor
  · intro h
    by_contra hrefused
    obtain ⟨s, hs⟩ := exists_saidBy hrefused
    apply h s hs
  · intro h s
    apply h.not_saidBy

theorem ofFile?_eq_bind (b : Bytes) :
  ofFile? b = (Utf8.decode? b).bind fun text => (Toml.entries? text).bind ofEntries?
  := rfl

/-- A file says what is read off it, or as little as no file. -/
theorem fileSays_iff :
  FileSays file s ↔ s = (file.bind ofFile?).getD {}
  := by
  constructor
  · intro h
    cases h with
    | absent => rfl
    | notText htext =>
      rw [Option.bind_some, ofFile?_eq_bind, htext]
      rfl
    | malformed htext h =>
      rw [Option.bind_some, ofFile?_eq_bind, htext, Option.bind_some, h]
      rfl
    | refused htext hentries h =>
      rw [Option.bind_some, ofFile?_eq_bind, htext, Option.bind_some, hentries, Option.bind_some,
        ofEntries?_eq_none_iff.mpr h]
      rfl
    | valid htext hentries h =>
      rw [Option.bind_some, ofFile?_eq_bind, htext, Option.bind_some, hentries, Option.bind_some,
        ofEntries?_eq_some_iff.mpr h, Option.getD_some]
  · rintro rfl
    cases file with
    | none => apply FileSays.absent
    | some b =>
      rw [Option.bind_some, ofFile?_eq_bind]
      cases htext : Utf8.decode? b with
      | none => apply FileSays.notText htext
      | some text =>
        rw [Option.bind_some]
        cases hentries : Toml.entries? text with
        | none => apply FileSays.malformed htext hentries
        | some entries =>
          rw [Option.bind_some]
          cases h : ofEntries? entries with
          | none => apply FileSays.refused htext hentries (ofEntries?_eq_none_iff.mp h)
          | some s => apply FileSays.valid htext hentries (ofEntries?_eq_some_iff.mp h)

/-- Nothing about a file counts but what it says. -/
theorem FileSays.load_eq (h : FileSays file s) (env : Environment) :
  load file env = s.override env
  := by
  rw [load, ← fileSays_iff.mp h]

/-! ### The environment -/

theorem nonempty?_eq_some_iff {value : String} :
  nonempty? env key = some value ↔ env key = some value ∧ value ≠ ""
  := by
  simp [nonempty?]

theorem nonempty?_eq_none_iff :
  nonempty? env key = none ↔ env.Blank key
  := by
  rw [nonempty?, Environment.Blank]
  cases env key <;> simp

/-- An empty variable says as little as one that is not set. -/
theorem nonempty?_update (env : Environment) (key : String) :
  nonempty? (Function.update env key (some "")) = nonempty? (Function.update env key none)
  := by
  funext k
  rw [nonempty?, nonempty?]
  by_cases hk : k = key
  · rw [hk, Function.update_self, Function.update_self]
    rfl
  · rw [Function.update_of_ne hk, Function.update_of_ne hk]

theorem ofName?_eq_some_iff {name : String} {c : Container} :
  Container.ofName? name = some c ↔ name = c.name
  := by
  rw [Container.ofName?]
  constructor
  · intro h
    split at h
    · next hname =>
      injection h with h
      rw [hname, h]
    · split at h
      · next hname =>
        injection h with h
        rw [hname, h]
      · cases h
  · rintro rfl
    cases c <;> rfl

/-- The environment gives the container that it names. -/
theorem bind_ofName?_eq_some_iff {c : Container} :
  ((env "NFC_NDEF_CONTAINER").bind fun name => Container.ofName? name.toLower) = some c
    ↔ env.NamesContainer c
  := by
  have hlower : c.name.toLower = c.name := by
    cases c <;> decide +kernel
  simp only [Option.bind_eq_some_iff, ofName?_eq_some_iff, Environment.NamesContainer, recased_iff,
    hlower]

theorem container_of_namesContainer {c : Container} (h : env.NamesContainer c) :
  (s.override env).container = c
  := by
  rw [override, bind_ofName?_eq_some_iff.mpr h]
  rfl

theorem container_of_not_namesContainer (h : ∀ c, ¬ env.NamesContainer c) :
  (s.override env).container = s.container
  := by
  have hnone : ((env "NFC_NDEF_CONTAINER").bind fun name => Container.ofName? name.toLower)
      = none := by
    rw [Option.eq_none_iff_forall_ne_some]
    intro c hc
    apply h c (bind_ofName?_eq_some_iff.mp hc)
  rw [override, hnone]
  rfl

theorem language_of_ne {tag : String} (h : env "NFC_NDEF_LANGUAGE" = some tag) (hne : tag ≠ "") :
  (s.override env).language = some tag
  := by
  rw [override, nonempty?_eq_some_iff.mpr ⟨h, hne⟩]
  rfl

theorem language_of_blank (h : env.Blank "NFC_NDEF_LANGUAGE") :
  (s.override env).language = s.language
  := by
  rw [override, nonempty?_eq_none_iff.mpr h]
  rfl

/-- An empty variable overrides as little as one that is not set. -/
theorem override_update (s : Settings) (env : Environment) (key : String) :
  s.override (Function.update env key (some "")) = s.override (Function.update env key none)
  := by
  have hcontainer : ((Function.update env key (some "")) "NFC_NDEF_CONTAINER").bind
        (fun name => Container.ofName? name.toLower)
      = ((Function.update env key none) "NFC_NDEF_CONTAINER").bind
        (fun name => Container.ofName? name.toLower) := by
    by_cases hk : "NFC_NDEF_CONTAINER" = key
    · have hempty : Container.ofName? "".toLower = none := by decide +kernel
      rw [hk, Function.update_self, Function.update_self, Option.bind_some, hempty]
      rfl
    · rw [Function.update_of_ne hk, Function.update_of_ne hk]
  rw [override, override, nonempty?_update, hcontainer]

/-! ### The locale -/

/-- The variables for the locale are searched for the first one that says something. -/
theorem locale?_eq_findSome? (env : Environment) :
  locale? env = localeKeys.findSome? (nonempty? env)
  := by
  rw [locale?, localeKeys, List.findSome?_cons, List.findSome?_cons, List.findSome?_cons,
    List.findSome?_nil]
  cases nonempty? env "LC_ALL" with
  | some value => rfl
  | none =>
    cases nonempty? env "LC_MESSAGES" with
    | some value => rfl
    | none => cases nonempty? env "LANG" <;> rfl

theorem locale?_eq_some_iff {locale : String} :
  locale? env = some locale
    ↔ ∃ key, FirstOf (fun key => ¬ env.Blank key) localeKeys key ∧ env key = some locale
  := by
  have hblank : (fun key => (nonempty? env key).isSome = true) = fun key => ¬ env.Blank key := by
    funext key
    rw [Option.isSome_iff_ne_none, ne_eq, nonempty?_eq_none_iff]
  rw [locale?_eq_findSome?, findSome?_eq_some_iff_firstOf, hblank]
  constructor
  · rintro ⟨key, hfirst, hvalue⟩
    use key, hfirst
    apply (nonempty?_eq_some_iff.mp hvalue).1
  · rintro ⟨key, hfirst, hvalue⟩
    use key, hfirst
    apply nonempty?_eq_some_iff.mpr
    use hvalue
    rintro rfl
    apply hfirst.holds (.inr hvalue)

theorem locale?_eq_none_iff :
  locale? env = none ↔ ∀ key ∈ localeKeys, env.Blank key
  := by
  rw [locale?_eq_findSome?, List.findSome?_eq_none_iff]
  simp only [nonempty?_eq_none_iff]

theorem displayLanguage?_of_tag {tag : String} (h : s.language = some tag) :
  s.displayLanguage? env = Language.parse? tag
  := by
  rw [displayLanguage?, h]

theorem displayLanguage?_of_locale (h : s.language = none) :
  s.displayLanguage? env = (locale? env).bind Language.ofLocale?
  := by
  rw [displayLanguage?, h]

/-- An empty variable counts for the language as little as one that is not set. -/
theorem displayLanguage?_update (s : Settings) (env : Environment) (key : String) :
  s.displayLanguage? (Function.update env key (some ""))
    = s.displayLanguage? (Function.update env key none)
  := by
  rw [displayLanguage?, displayLanguage?, locale?, locale?, nonempty?_update]

/-- Every settings file, or none, says one thing: what its entries say, or as little as an empty
file.  The container is the one that the environment names, or else that of the file.  The tag
of the language is that of the environment, unless it is blank, or else that of the file.  The
display language is what the tag names, if there is one, even if that is none; or else it is
what the first variable for the locale that is not blank names, even if that is none.  An empty
variable is as good as one that is not set. -/
theorem load_precedence :
  (∀ file, ∃! s, FileSays file s)
    ∧ (∀ file, FileSays file {} → load file = load (some []))
    ∧ (∀ file s, FileSays file s → ∀ env : Environment,
      (∀ c, env.NamesContainer c → (load file env).container = c)
      ∧ ((∀ c, ¬ env.NamesContainer c) → (load file env).container = s.container)
      ∧ (∀ tag, env "NFC_NDEF_LANGUAGE" = some tag → tag ≠ "" →
        (load file env).language = some tag)
      ∧ (env.Blank "NFC_NDEF_LANGUAGE" → (load file env).language = s.language)
      ∧ (∀ tag, (load file env).language = some tag →
        (load file env).displayLanguage? env = Language.parse? tag)
      ∧ ((load file env).language = none →
        (∀ key locale, FirstOf (fun key => ¬ env.Blank key) localeKeys key →
          env key = some locale →
          (load file env).displayLanguage? env = Language.ofLocale? locale)
        ∧ ((∀ key ∈ localeKeys, env.Blank key) →
          (load file env).displayLanguage? env = none)))
    ∧ ∀ (env : Environment) (key : String),
      (∀ file, load file (Function.update env key (some ""))
        = load file (Function.update env key none))
      ∧ ∀ s : Settings, s.displayLanguage? (Function.update env key (some ""))
        = s.displayLanguage? (Function.update env key none)
  := by
  refine ⟨?_, ?_, ?_, ?_⟩
  · intro file
    simp only [fileSays_iff]
    apply existsUnique_eq
  · intro file h
    have hempty : FileSays (some []) {} := fileSays_iff.mpr (by decide +kernel)
    funext env
    rw [h.load_eq, hempty.load_eq]
  · intro file s h env
    rw [h.load_eq]
    refine ⟨?_, ?_, ?_, ?_, ?_, ?_⟩
    · intro c
      apply container_of_namesContainer
    · apply container_of_not_namesContainer
    · intro tag
      apply language_of_ne
    · apply language_of_blank
    · intro tag
      apply displayLanguage?_of_tag
    · intro hnone
      rw [displayLanguage?_of_locale hnone]
      constructor
      · intro key locale hfirst hvalue
        rw [locale?_eq_some_iff.mpr ⟨key, hfirst, hvalue⟩]
        rfl
      · intro hblank
        rw [locale?_eq_none_iff.mpr hblank]
        rfl
  · intro env key
    constructor
    · intro file
      apply override_update
    · intro s
      apply displayLanguage?_update

/-- A file and an environment that name containers and languages, of which the one of the
environment is none; a file with another key, beside a locale that names no language. -/
theorem load_precedence_no_language :
  let valid := Utf8.encode "language = 'fi-FI'\ncontainer = 'ndef'\n"
  let refused := Utf8.encode "language = 'fi-FI'\nport = '1'\n"
  let env : Environment := fun key => List.lookup key [("NFC_NDEF_LANGUAGE", "-x"),
    ("NFC_NDEF_CONTAINER", "TLV"), ("LANG", "ru_RU.UTF-8")]
  let locale : Environment := fun key => List.lookup key [("NFC_NDEF_LANGUAGE", ""),
    ("NFC_NDEF_CONTAINER", "bogus"), ("LC_ALL", ""), ("LC_MESSAGES", "C"), ("LANG", "ru_RU")]
  FileSays (some valid) ⟨some "fi-FI", .bare⟩ ∧ FileSays (some refused) {}
    ∧ env.NamesContainer .tlv ∧ (load (some valid) env).container = .tlv
    ∧ (load (some valid) env).language = some "-x"
    ∧ (load (some valid) env).displayLanguage? env = none
    ∧ (∀ c, ¬ locale.NamesContainer c) ∧ (load (some valid) locale).container = .bare
    ∧ (load (some valid) locale).language = some "fi-FI"
    ∧ load (some refused) locale = load (some []) locale
    ∧ (load (some refused) locale).language = none
    ∧ (load (some refused) locale).displayLanguage? locale = none
  := by
  intro valid refused env locale
  have hvalid : FileSays (some valid) ⟨some "fi-FI", .bare⟩ := fileSays_iff.mpr (by decide +kernel)
  have hrefused : FileSays (some refused) {} := fileSays_iff.mpr (by decide +kernel)
  obtain ⟨-, hempty, hload, -⟩ := load_precedence
  have hnames : env.NamesContainer .tlv := ⟨"TLV", by decide, by decide⟩
  have hother : ∀ c, ¬ locale.NamesContainer c := by
    rintro c ⟨name, hname, hrecased⟩
    obtain rfl : "bogus" = name := Option.some.inj hname
    revert hrecased
    cases c <;> decide
  have hblank : locale.Blank "NFC_NDEF_LANGUAGE" := .inr (by decide)
  obtain ⟨hcontainer, -, hlanguage, -, hdisplay, -⟩ := hload _ _ hvalid env
  obtain ⟨-, hfile, -, hsame, -, -⟩ := hload _ _ hvalid locale
  obtain ⟨-, -, -, hnone, -, hlocale⟩ := hload _ _ hrefused locale
  have htag := hlanguage "-x" (by decide) (by decide)
  have hfirst : FirstOf (fun key => ¬ locale.Blank key) localeKeys "LC_MESSAGES" :=
    ⟨by decide, ["LC_ALL"], ["LANG"], rfl, by decide⟩
  refine ⟨hvalid, hrefused, hnames, hcontainer .tlv hnames, htag, ?_, hother, hfile hother,
    hsame hblank, congrFun (hempty _ hrefused) locale, hnone hblank, ?_⟩
  · rw [hdisplay "-x" htag]
    decide +kernel
  · rw [(hlocale (hnone hblank)).1 "LC_MESSAGES" "C" hfirst (by decide)]
    decide +kernel

end Settings

end Ndef
