import Ndef.Proofs.CommandLine
import Ndef.Proofs.Reading

/-!
# Scanning the arguments

The arguments of the program are options and words that are understood, and then nothing, or
one that settles what is done before any command is: a request for help, or a language option
without a value or with one that names no language.  Every list of arguments is taken apart so
in one way (`Scan`).  If nothing settles it, then what is done depends on the words, the last
container and the last language only (`run_scanned`).
-/

namespace Ndef

namespace Argument

/-- A word is no option, and a language can be named. -/
def IsValid : Argument → Prop
  | word text => text ∉ optionWords
  | container _ => True
  | language tag => Language.parse? tag ≠ none

instance : DecidablePred IsValid
  | word text => inferInstanceAs (Decidable (text ∉ optionWords))
  | container _ => inferInstanceAs (Decidable True)
  | language tag => inferInstanceAs (Decidable (Language.parse? tag ≠ none))

/-- The language option with its value at the front, and the rest, if the value names a
language. -/
def readValue? : List String → Option (Argument × List String)
  | [] => none
  | tag :: rest => if Language.parse? tag = none then none else some (language tag, rest)

/-- The argument at the front and the rest, if the argument is understood. -/
def read? : List String → Option (Argument × List String)
  | [] => none
  | text :: rest =>
    if text = "--tlv" then some (container .tlv, rest)
    else if text = "--ndef" then some (container .bare, rest)
    else if text = "--lang" then readValue? rest
    else if text = "-h" ∨ text = "--help" then none
    else some (word text, rest)

variable {texts rest : List String} {argument : Argument}

/-! ### One argument -/

theorem not_mem_optionWords_iff {text : String} :
  text ∉ optionWords
    ↔ text ≠ "--tlv" ∧ text ≠ "--ndef" ∧ text ≠ "--lang" ∧ ¬ (text = "-h" ∨ text = "--help")
  := by
  simp [optionWords]

theorem read?_texts_append (h : argument.IsValid) (rest : List String) :
  read? (argument.texts ++ rest) = some (argument, rest)
  := by
  cases argument with
  | word text =>
    obtain ⟨htlv, hbare, hlanguage, hhelp⟩ := not_mem_optionWords_iff.mp h
    rw [texts, List.singleton_append, read?, if_neg htlv, if_neg hbare, if_neg hlanguage,
      if_neg hhelp]
  | container c => cases c <;> rfl
  | language tag =>
    change readValue? (tag :: rest) = _
    rw [readValue?, if_neg h]

theorem eq_append_of_readValue? (h : readValue? texts = some (argument, rest)) :
  "--lang" :: texts = argument.texts ++ rest ∧ argument.IsValid
  := by
  cases texts with
  | nil => cases h
  | cons tag others =>
    rw [readValue?] at h
    split at h
    · cases h
    · next hparse =>
      cases h
      exact ⟨rfl, hparse⟩

theorem eq_append_of_read? (h : read? texts = some (argument, rest)) :
  texts = argument.texts ++ rest ∧ argument.IsValid
  := by
  cases texts with
  | nil => cases h
  | cons text others =>
    rw [read?] at h
    by_cases htlv : text = "--tlv"
    · rw [if_pos htlv] at h
      cases h
      exact ⟨congrArg (· :: _) htlv, trivial⟩
    by_cases hbare : text = "--ndef"
    · rw [if_neg htlv, if_pos hbare] at h
      cases h
      exact ⟨congrArg (· :: _) hbare, trivial⟩
    by_cases hlanguage : text = "--lang"
    · rw [if_neg htlv, if_neg hbare, if_pos hlanguage] at h
      rw [hlanguage]
      apply eq_append_of_readValue? h
    by_cases hhelp : text = "-h" ∨ text = "--help"
    · rw [if_neg htlv, if_neg hbare, if_neg hlanguage, if_pos hhelp] at h
      cases h
    · rw [if_neg htlv, if_neg hbare, if_neg hlanguage, if_neg hhelp] at h
      cases h
      exact ⟨rfl, not_mem_optionWords_iff.mpr ⟨htlv, hbare, hlanguage, hhelp⟩⟩

theorem length_texts_pos (a : Argument) :
  0 < a.texts.length
  := by
  cases a <;> simp [texts]

/-- The reader of arguments. -/
def reader : Reader String Argument where
  read := read?
  shorter := by
    intro s argument rest h
    obtain ⟨rfl, -⟩ := eq_append_of_read? h
    have hpos := length_texts_pos argument
    rw [List.length_append]
    omega

theorem reader_accepts :
  reader.Accepts Argument.texts IsValid
  := by
  intro s argument rest
  constructor
  · apply eq_append_of_read?
  · rintro ⟨rfl, h⟩
    apply read?_texts_append h

end Argument

/-! ### The end of a scan -/

/-- How the arguments end, behind options and words that are understood. -/
inductive Ending where
  /-- There is nothing else. -/
  | complete
  /-- Help is asked for. -/
  | help (option : String) (rest : List String)
  /-- The language option has no value. -/
  | missingLanguage
  /-- The value of the language option names no language. -/
  | badLanguage (tag : String) (rest : List String)

namespace Ending

/-- The arguments at the end. -/
def texts : Ending → List String
  | complete => []
  | help option rest => option :: rest
  | missingLanguage => ["--lang"]
  | badLanguage tag rest => "--lang" :: tag :: rest

/-- The arguments at the end are what they are taken for. -/
def IsValid : Ending → Prop
  | complete => True
  | help option _ => option = "-h" ∨ option = "--help"
  | missingLanguage => True
  | badLanguage tag _ => Language.parse? tag = none

variable {e e' : Ending}

theorem IsValid.read?_texts (h : e.IsValid) :
  Argument.read? e.texts = none
  := by
  cases e with
  | complete => rfl
  | help option rest => rcases h with rfl | rfl <;> rfl
  | missingLanguage => rfl
  | badLanguage tag rest =>
    change Argument.readValue? (tag :: rest) = none
    apply if_pos h

/-- What the reader refuses is the end of a scan. -/
theorem exists_of_read?_eq_none {texts : List String} (h : Argument.read? texts = none) :
  ∃ e : Ending, e.IsValid ∧ e.texts = texts
  := by
  cases texts with
  | nil => exact ⟨complete, trivial, rfl⟩
  | cons text rest =>
    by_cases hhelp : text = "-h" ∨ text = "--help"
    · exact ⟨help text rest, hhelp, rfl⟩
    by_cases hlanguage : text = "--lang"
    · rw [hlanguage] at h ⊢
      cases rest with
      | nil => exact ⟨missingLanguage, trivial, rfl⟩
      | cons tag rest =>
        change (if Language.parse? tag = none then none else some _) = none at h
        have htag : Language.parse? tag = none := by simpa using h
        exact ⟨badLanguage tag rest, htag, rfl⟩
    · rw [Argument.read?, if_neg hlanguage, if_neg hhelp] at h
      split at h
      · cases h
      · split at h <;> cases h

/-- The end of a scan is told from its arguments. -/
theorem IsValid.eq_of_texts_eq (h : e.IsValid) (h' : e'.IsValid) (heq : e.texts = e'.texts) :
  e = e'
  := by
  have hhelp {option : String} {rest : List String} (h : (help option rest).IsValid) :
      option ≠ "--lang" := by
    rcases h with rfl | rfl <;> decide
  cases e <;> cases e' <;> cases heq
  case help.missingLanguage => exact absurd rfl (hhelp h)
  case help.badLanguage => exact absurd rfl (hhelp h)
  case missingLanguage.help => exact absurd rfl (hhelp h')
  case badLanguage.help => exact absurd rfl (hhelp h')
  all_goals rfl

end Ending

/-- The arguments are those in the list, which are understood, and then the ending. -/
structure Scan (texts : List String) (arguments : List Argument) (ending : Ending) : Prop where
  texts_eq : texts = arguments.flatMap Argument.texts ++ ending.texts
  arguments_valid : ∀ a ∈ arguments, a.IsValid
  ending_valid : ending.IsValid

namespace Scan

variable {texts : List String} {arguments : List Argument} {ending : Ending}

/-- A scan finds what is read off the front, and the ending that is left. -/
theorem iff_all_eq :
  Scan texts arguments ending
    ↔ Argument.reader.all texts = (arguments, ending.texts) ∧ ending.IsValid
  := by
  rw [Argument.reader_accepts.all_eq_iff]
  constructor
  · rintro ⟨htexts, harguments, hending⟩
    exact ⟨⟨htexts, harguments, hending.read?_texts⟩, hending⟩
  · rintro ⟨⟨htexts, harguments, -⟩, hending⟩
    exact ⟨htexts, harguments, hending⟩

/-- Every list of arguments is scanned in one way. -/
theorem existsUnique (texts : List String) :
  ∃! d : List Argument × Ending, Scan texts d.1 d.2
  := by
  obtain ⟨ending, hending, htexts⟩ :=
    Ending.exists_of_read?_eq_none (Argument.reader.read_all_snd texts)
  use ((Argument.reader.all texts).1, ending)
  constructor
  · apply iff_all_eq.mpr
    rw [htexts]
    use rfl
  · rintro ⟨arguments, ending'⟩ h
    obtain ⟨hall, hending'⟩ := iff_all_eq.mp h
    dsimp only at hall hending'
    rw [hall] at htexts ⊢
    rw [hending.eq_of_texts_eq hending' htexts]

/-- The words of the arguments are no options. -/
theorem not_mem_optionWords (h : Scan texts arguments ending) :
  ∀ w ∈ Argument.words arguments, w ∉ optionWords
  := by
  intro w hw
  obtain ⟨a, ha, hword⟩ := List.mem_filterMap.mp hw
  have hvalid := h.arguments_valid a ha
  cases a with
  | word text =>
    injection hword with hword
    rwa [← hword]
  | container c => cases hword
  | language tag => cases hword

/-- The languages of the arguments can be named. -/
theorem parse?_ne_none (h : Scan texts arguments ending) :
  ∀ tag ∈ Argument.tags arguments, Language.parse? tag ≠ none
  := by
  intro tag htag
  obtain ⟨a, ha, hlanguage⟩ := List.mem_filterMap.mp htag
  have hvalid := h.arguments_valid a ha
  cases a with
  | word text => cases hlanguage
  | container c => cases hlanguage
  | language other =>
    injection hlanguage with hlanguage
    rwa [← hlanguage]

variable {o : Options} {settings : Settings} {env : Environment} {input : Bytes}

/-- Options and words are read before the ending. -/
theorem read_eq (h : Scan texts arguments ending) :
  Arguments.read o [] texts
    = Arguments.read (o.after arguments) (Argument.words arguments).reverse ending.texts
  := by
  rw [h.texts_eq, Arguments.read_texts h.not_mem_optionWords h.parse?_ne_none, List.append_nil]

theorem prepare_help {option : String} {rest : List String}
    (h : Scan texts arguments (.help option rest)) :
  Invocation.prepare settings env texts = .ok .help
  := by
  have hread (o : Options) : Arguments.read o [] texts = .ok .help := by
    rw [h.read_eq]
    change Arguments.read _ _ (option :: rest) = _
    rw [Arguments.read.eq_def]
    rcases h.ending_valid with rfl | rfl <;> rfl
  rw [Invocation.prepare, Invocation.ofArguments, hread]
  rfl

theorem prepare_missingLanguage (h : Scan texts arguments .missingLanguage)
    (settings : Settings) (env : Environment) :
  Invocation.prepare settings env texts = .error (.usage .missingLanguage)
  := by
  have hread (o : Options) : Arguments.read o [] texts = .error .missingLanguage := by
    rw [h.read_eq]
    change Arguments.read _ _ ["--lang"] = _
    rw [Arguments.read.eq_def]
    rfl
  rw [Invocation.prepare, Invocation.ofArguments_of_read_eq_error (hread _)]
  rfl

theorem prepare_badLanguage {tag : String} {rest : List String}
    (h : Scan texts arguments (.badLanguage tag rest)) (settings : Settings)
    (env : Environment) :
  Invocation.prepare settings env texts = .error (.usage .badLanguage)
  := by
  have hread (o : Options) : Arguments.read o [] texts = .error .badLanguage := by
    have htag : Language.parse? tag = none := h.ending_valid
    rw [h.read_eq]
    change Arguments.read _ _ ("--lang" :: tag :: rest) = _
    rw [Arguments.read_language, htag]
  rw [Invocation.prepare, Invocation.ofArguments_of_read_eq_error (hread _)]
  rfl

theorem run_eq_error {e : CommandError} (h : Invocation.prepare settings env texts = .error e) :
  run settings env texts input = .error e
  := by
  rw [run, h]
  rfl

/-- If nothing settles what is done before, the run is that of a command line. -/
theorem run_complete {l : CommandLine} (h : Scan texts l.arguments .complete) :
  run l.settings l.env texts input
    = (do (← (Request.ofWords l.words).mapError .usage).answer l.options input)
  := by
  have htexts : texts = l.arguments.flatMap Argument.texts := by
    rw [h.texts_eq]
    apply List.append_nil
  rw [htexts]
  apply CommandLine.run_eq h.not_mem_optionWords h.parse?_ne_none

end Scan

/-- Every list of arguments is options and words that are understood, and then, in exactly one
way, nothing or one that settles what is done.  A request for help is answered with the text on
the use of the program.  A language option without a value, or with one that names no language,
is a misuse, which is found before any command is answered.  If nothing settles it, what is
done depends on the words in their order, and on the last container and the last language, or
else those of the settings: runs that agree in these have the same result. -/
theorem run_scanned (texts : List String) :
  (∃! d : List Argument × Ending, Scan texts d.1 d.2)
    ∧ (∀ arguments option rest, Scan texts arguments (.help option rest) →
      ∀ settings env input, run settings env texts input = .ok usage)
    ∧ (∀ arguments, Scan texts arguments .missingLanguage → ∀ settings env,
      Invocation.prepare settings env texts = .error (.usage .missingLanguage)
        ∧ ∀ input, run settings env texts input = .error (.usage .missingLanguage))
    ∧ (∀ arguments tag rest, Scan texts arguments (.badLanguage tag rest) → ∀ settings env,
      Invocation.prepare settings env texts = .error (.usage .badLanguage)
        ∧ ∀ input, run settings env texts input = .error (.usage .badLanguage))
    ∧ ∀ (l m : CommandLine) (others : List String),
      Scan texts l.arguments .complete → Scan others m.arguments .complete →
      l.words = m.words → l.options = m.options →
      ∀ input, run l.settings l.env texts input = run m.settings m.env others input
  := by
  refine ⟨Scan.existsUnique texts, ?_, ?_, ?_, ?_⟩
  · intro arguments option rest h settings env input
    rw [run, h.prepare_help]
    rfl
  · intro arguments h settings env
    have hprepare := h.prepare_missingLanguage settings env
    use hprepare
    intro input
    apply Scan.run_eq_error hprepare
  · intro arguments tag rest h settings env
    have hprepare := h.prepare_badLanguage settings env
    use hprepare
    intro input
    apply Scan.run_eq_error hprepare
  · intro l m others hl hm hwords hoptions input
    rw [hl.run_complete, hm.run_complete, hwords, hoptions]

/-- A request for help before a language option without value, that option behind a word, a
request for help in the place of its value, and options before, between and behind words. -/
theorem run_scanned_option_as_value :
  let settings : Settings := { container := .bare }
  let env : Environment := fun _ => none
  let l : CommandLine := ⟨settings, env, [.language "fi", .word "encode-text", .container .tlv,
    .word "Hi", .container .bare, .language "en_GB"]⟩
  let m : CommandLine := ⟨settings, env, [.word "encode-text", .word "Hi", .language "en_GB"]⟩
  let texts :=
    ["--lang", "fi", "encode-text", "--tlv", "Hi", "--ndef", "--lang", "en_GB"]
  let others := ["encode-text", "Hi", "--lang", "en_GB"]
  run settings env ["--tlv", "decode", "--help", "--lang"] [] = .ok usage
    ∧ run settings env ["encode-uri", "--lang"] [] = .error (.usage .missingLanguage)
    ∧ run settings env ["--lang", "--help"] [] = .error (.usage .badLanguage)
    ∧ Scan texts l.arguments .complete ∧ Scan others m.arguments .complete
    ∧ l.words = m.words ∧ l.options = m.options
    ∧ run settings env texts [] = run settings env others []
  := by
  intro settings env l m texts others
  have hl : Scan texts l.arguments .complete := ⟨rfl, by decide +kernel, trivial⟩
  have hm : Scan others m.arguments .complete := ⟨rfl, by decide +kernel, trivial⟩
  have hoptions : l.options = m.options := by decide +kernel
  refine ⟨?_, ?_, ?_, hl, hm, rfl, hoptions, ?_⟩
  · apply (run_scanned _).2.1 [.container .tlv, .word "decode"] "--help" ["--lang"]
    exact ⟨rfl, by decide +kernel, .inr rfl⟩
  · apply ((run_scanned _).2.2.1 [.word "encode-uri"] _ settings env).2
    exact ⟨rfl, by decide +kernel, trivial⟩
  · apply ((run_scanned _).2.2.2.1 [] "--help" [] _ settings env).2
    have htag : Language.parse? "--help" = none := by decide +kernel
    exact ⟨rfl, by decide, htag⟩
  · apply (run_scanned texts).2.2.2.2 l m others hl hm rfl hoptions

end Ndef
