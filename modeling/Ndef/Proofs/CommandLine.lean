import Ndef.Command
import Ndef.Proofs.Outcome

/-!
# Command lines

The arguments of the program are words, which are read in order, and options, which may stand
anywhere between them (`Argument`).  The last option of a kind counts (`Options.after`).  So
what a run does depends on the words, and on the container and the display language that the
options leave (`CommandLine.run_eq`).
-/

namespace Ndef

/-- What the program does not take for a word. -/
def optionWords : List String :=
  ["--tlv", "--ndef", "--lang", "-h", "--help"]

/-- The option that sets the container. -/
def Container.option : Container → String
  | tlv => "--tlv"
  | bare => "--ndef"

/-- A word, or an option with its value. -/
inductive Argument where
  | word (text : String)
  | container (container : Container)
  | language (tag : String)

namespace Argument

/-- The argument as it is given to the program. -/
def texts : Argument → List String
  | word text => [text]
  | container c => [c.option]
  | language tag => ["--lang", tag]

/-- The word, if the argument is one. -/
def word? : Argument → Option String
  | word text => some text
  | _ => none

/-- The container that the argument sets, if it does. -/
def container? : Argument → Option Container
  | container c => some c
  | _ => none

/-- The tag of the language that the argument sets, if it does. -/
def tag? : Argument → Option String
  | language tag => some tag
  | _ => none

/-- The words among the arguments. -/
def words (arguments : List Argument) : List String :=
  arguments.filterMap word?

/-- The containers among the arguments. -/
def containers (arguments : List Argument) : List Container :=
  arguments.filterMap container?

/-- The tags of the languages among the arguments. -/
def tags (arguments : List Argument) : List String :=
  arguments.filterMap tag?

theorem words_word (text : String) (arguments : List Argument) :
  words (word text :: arguments) = text :: words arguments
  := rfl

theorem containers_container (c : Container) (arguments : List Argument) :
  containers (container c :: arguments) = c :: containers arguments
  := rfl

theorem tags_language (tag : String) (arguments : List Argument) :
  tags (language tag :: arguments) = tag :: tags arguments
  := rfl

end Argument

/-- What the options are after the arguments: the last one of a kind counts. -/
def Options.after (o : Options) (arguments : List Argument) : Options where
  container := (Argument.containers arguments).getLast?.getD o.container
  language :=
    match (Argument.tags arguments).getLast? with
    | some tag => Language.parse? tag
    | none => o.language

/-! ### Reading the arguments one by one -/

namespace Options

variable (o : Options) (arguments : List Argument)

theorem after_word (text : String) :
  o.after (.word text :: arguments) = o.after arguments
  := rfl

theorem after_container (c : Container) :
  o.after (.container c :: arguments) = { o with container := c }.after arguments
  := by
  rw [after, after, Argument.containers_container, List.getLast?_cons]
  rfl

theorem after_language {tag : String} {l : Language} (h : Language.parse? tag = some l) :
  o.after (.language tag :: arguments) = { o with language := some l }.after arguments
  := by
  rw [after, after, Argument.tags_language, List.getLast?_cons]
  cases (Argument.tags arguments).getLast? with
  | none =>
    rw [Option.getD_none]
    dsimp only
    rw [h]
    rfl
  | some last => rfl

end Options

namespace Arguments

variable {o : Options} {before rest : List String} {arguments : List Argument}

theorem read_word {text : String} (h : text ∉ optionWords) :
  read o before (text :: rest) = read o (text :: before) rest
  := by
  simp only [optionWords, List.mem_cons, List.not_mem_nil, or_false, not_or] at h
  obtain ⟨htlv, hbare, hlanguage, hshort, hhelp⟩ := h
  rw [read.eq_def]
  dsimp only
  rw [if_neg htlv, if_neg hbare, if_neg hlanguage, if_neg (not_or.mpr ⟨hshort, hhelp⟩)]

theorem read_container (c : Container) :
  read o before (c.option :: rest) = read { o with container := c } before rest
  := by
  cases c with
  | tlv =>
    rw [Container.option, read.eq_def]
    rfl
  | bare =>
    rw [Container.option, read.eq_def]
    rfl

theorem read_language (tag : String) :
  read o before ("--lang" :: tag :: rest)
    = match Language.parse? tag with
      | none => .error .badLanguage
      | some l => read { o with language := some l } before rest
  := by
  rw [read.eq_def]
  rfl

/-- Words that are no options are collected in order, and languages that can be named are
set. -/
theorem read_texts (hwords : ∀ w ∈ Argument.words arguments, w ∉ optionWords)
    (htags : ∀ tag ∈ Argument.tags arguments, Language.parse? tag ≠ none) :
  read o before (arguments.flatMap Argument.texts ++ rest)
    = read (o.after arguments) ((Argument.words arguments).reverse ++ before) rest
  := by
  -- Each argument changes what is read before the others: the options or the words so far.
  induction arguments generalizing o before with
  | nil => rfl
  | cons argument arguments ih =>
    rw [List.flatMap_cons, List.append_assoc]
    cases argument with
    | word text =>
      rw [Argument.words_word, List.forall_mem_cons] at hwords
      rw [Argument.texts, List.singleton_append, read_word hwords.1, ih hwords.2 htags,
        Options.after_word, Argument.words_word, List.reverse_cons,
        List.append_assoc, List.singleton_append]
    | container c =>
      rw [Argument.texts, List.singleton_append, read_container, ih hwords htags,
        Options.after_container]
      rfl
    | language tag =>
      rw [Argument.tags_language, List.forall_mem_cons] at htags
      obtain ⟨l, hl⟩ := Option.ne_none_iff_exists'.mp htags.1
      change read o before ("--lang" :: tag :: (arguments.flatMap Argument.texts ++ rest)) = _
      rw [read_language, hl]
      dsimp only
      rw [ih hwords htags.2, Options.after_language o arguments hl]
      rfl

/-- A language that cannot be named is refused, whatever follows it. -/
theorem read_texts_eq_badLanguage
    (hwords : ∀ w ∈ Argument.words arguments, w ∉ optionWords) {tag : String}
    (htag : tag ∈ Argument.tags arguments) (hnone : Language.parse? tag = none) :
  read o before (arguments.flatMap Argument.texts ++ rest) = .error .badLanguage
  := by
  induction arguments generalizing o before with
  | nil => cases htag
  | cons argument arguments ih =>
    rw [List.flatMap_cons, List.append_assoc]
    cases argument with
    | word text =>
      rw [Argument.words_word, List.forall_mem_cons] at hwords
      rw [Argument.texts, List.singleton_append, read_word hwords.1]
      apply ih hwords.2 htag
    | container c =>
      rw [Argument.texts, List.singleton_append, read_container]
      apply ih hwords htag
    | language first =>
      change read o before ("--lang" :: first :: (arguments.flatMap Argument.texts ++ rest)) = _
      rw [read_language]
      cases hfirst : Language.parse? first with
      | none => rfl
      | some l =>
        rw [Argument.tags_language, List.mem_cons] at htag
        rcases htag with rfl | htag
        · rw [hnone] at hfirst
          cases hfirst
        · apply ih hwords htag

end Arguments

/-! ### Runs of the program -/

theorem Invocation.ofArguments_of_read {o p : Options} {arguments words : List String}
    (h : Arguments.read o [] arguments = .ok (.words p words)) :
  ofArguments o arguments = (Request.ofWords words).map (request p)
  := by
  rw [ofArguments, h]
  change (Request.ofWords words >>= fun r => pure (request p r)) = _
  cases Request.ofWords words <;> rfl

theorem Invocation.ofArguments_of_read_eq_error {o : Options} {arguments : List String}
    {e : UsageError} (h : Arguments.read o [] arguments = .error e) :
  ofArguments o arguments = .error e
  := by
  rw [ofArguments, h]
  rfl

/-- What the program is given apart from the standard input. -/
structure CommandLine where
  settings : Settings
  env : Environment
  arguments : List Argument

namespace CommandLine

variable (l : CommandLine)

/-- The words among the arguments. -/
def words : List String :=
  Argument.words l.arguments

/-- The tags of the languages among the arguments. -/
def tags : List String :=
  Argument.tags l.arguments

/-- The options without any argument. -/
def configured : Options where
  container := l.settings.container
  language := l.settings.displayLanguage? l.env

/-- The options that the arguments leave. -/
def options : Options :=
  l.configured.after l.arguments

/-- No word can be taken for an option. -/
def Plain : Prop :=
  ∀ w ∈ l.words, w ∉ optionWords

/-- All languages among the arguments can be named. -/
def Named : Prop :=
  ∀ tag ∈ l.tags, Language.parse? tag ≠ none

instance : Decidable l.Plain :=
  inferInstanceAs (Decidable (∀ w ∈ l.words, w ∉ optionWords))

instance : Decidable l.Named :=
  inferInstanceAs (Decidable (∀ tag ∈ l.tags, Language.parse? tag ≠ none))

/-- What the program prints. -/
def run (input : Bytes) : Except CommandError String :=
  Ndef.run l.settings l.env (l.arguments.flatMap Argument.texts) input

variable {l} {input : Bytes}

/-- What is done depends on the words and on the options that the arguments leave. -/
theorem run_eq (hplain : l.Plain) (hnamed : l.Named) :
  l.run input
    = (do (← (Request.ofWords l.words).mapError .usage).answer l.options input)
  := by
  have hread : Arguments.read l.configured [] (l.arguments.flatMap Argument.texts)
      = .ok (.words l.options l.words) := by
    have htexts : Arguments.read l.configured [] (l.arguments.flatMap Argument.texts ++ []) = _ :=
      Arguments.read_texts hplain hnamed
    rw [List.append_nil, List.append_nil, Arguments.read, List.reverse_reverse] at htexts
    exact htexts
  have hinvocation := Invocation.ofArguments_of_read hread
  rw [run, Ndef.run, Invocation.prepare]
  change ((Invocation.ofArguments l.configured _).mapError _ >>= _) = _
  rw [hinvocation]
  cases Request.ofWords l.words <;> rfl

/-- A language that cannot be named is a misuse. -/
theorem run_eq_badLanguage (hplain : l.Plain) (hnamed : ¬ l.Named) :
  l.run input = .error (.usage .badLanguage)
  := by
  obtain ⟨tag, htag, hnone⟩ : ∃ tag ∈ l.tags, Language.parse? tag = none := by
    simpa [Named] using hnamed
  have hread : Arguments.read l.configured [] (l.arguments.flatMap Argument.texts ++ []) = _ :=
    Arguments.read_texts_eq_badLanguage hplain htag hnone
  rw [List.append_nil] at hread
  have hinvocation := Invocation.ofArguments_of_read_eq_error hread
  rw [run, Ndef.run, Invocation.prepare]
  change ((Invocation.ofArguments l.configured _).mapError _ >>= _) = _
  rw [hinvocation]
  rfl

/-- A run that succeeds has understood its words. -/
theorem exists_request_of_run {text : String} (hplain : l.Plain) (h : l.run input = .ok text) :
  ∃ request, Request.ofWords l.words = .ok request ∧ request.answer l.options input = .ok text
  := by
  by_cases hnamed : l.Named
  · rw [run_eq hplain hnamed] at h
    obtain ⟨request, hrequest, hanswer⟩ := Except.bind_eq_ok_iff.mp h
    refine ⟨request, ?_, hanswer⟩
    cases hwords : Request.ofWords l.words with
    | error e =>
      rw [hwords] at hrequest
      cases hrequest
    | ok r =>
      rw [hwords] at hrequest
      injection hrequest with hrequest
      rw [hrequest]
  · rw [run_eq_badLanguage hplain hnamed] at h
    cases h

end CommandLine

end Ndef
