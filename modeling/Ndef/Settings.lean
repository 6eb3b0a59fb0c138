import Ndef.Language
import Ndef.Toml.Reading
import Ndef.Unicode.Utf8

/-!
# Settings

The settings are the display language and the container of messages.  They come from
a file, which counts only if all of it is valid, and from the environment, which goes
before the file.  Where neither names a language, the locale does.
-/

namespace Ndef

/-- How a message is stored. -/
inductive Container where
  /-- In a block of tag memory. -/
  | tlv
  /-- By itself. -/
  | bare
deriving DecidableEq

namespace Container

/-- The name of a container in settings. -/
def name : Container → String
  | tlv => "tlv"
  | bare => "ndef"

/-- The container with the given name. -/
def ofName? (name : String) : Option Container :=
  if name = tlv.name then some tlv
  else if name = bare.name then some bare
  else none

end Container

/-- The values of environment variables that are set. -/
abbrev Environment := String → Option String

/-- The settings of the program. -/
structure Settings where
  /-- The tag of the display language. -/
  language : Option String := none
  /-- The container of messages. -/
  container : Container := .tlv
deriving DecidableEq

namespace Settings

/-! ### The file -/

/-- Whether there is nothing in a node. -/
def isEmptyNode : Toml.Node → Bool
  | .table _ [] => true
  | .emptyArray => true
  | _ => false

/-- The container that a node names, as a string or as the only key of a table, with
nothing as its value. -/
def containerOfNode? : Toml.Node → Option Container
  | .string name => Container.ofName? name
  | .table _ [(name, node)] => if isEmptyNode node then Container.ofName? name else none
  | _ => none

/-- The text of a node that is a string. -/
def textOfNode? : Toml.Node → Option String
  | .string text => some text
  | _ => none

/-- Whether the settings have an entry with the key. -/
def isKey (key : String) : Bool :=
  key = "language" || key = "container"

/-- The settings with the given entries, unless one has an unknown key or a value of
the wrong kind. -/
def ofEntries? (entries : Toml.Entries) : Option Settings := do
  if entries.all (isKey ·.1) then
    let language ← (entries.get? "language").mapM textOfNode?
    let container ← (entries.get? "container").mapM containerOfNode?
    some { language := language, container := container.getD .tlv }
  else none

/-- The settings in a file, if all of it is valid. -/
def ofFile? (file : Bytes) : Option Settings := do
  ofEntries? (← Toml.entries? (← Utf8.decode? file))

/-! ### The environment -/

/-- The value of a variable that is set to something. -/
def nonempty? (env : Environment) (key : String) : Option String :=
  (env key).filter (· ≠ "")

/-- The settings with what the environment says in place of what they say. -/
def override (s : Settings) (env : Environment) : Settings where
  language := nonempty? env "NFC_NDEF_LANGUAGE" <|> s.language
  container := ((env "NFC_NDEF_CONTAINER").bind fun name => Container.ofName? name.toLower).getD
    s.container

/-- The settings for the given file, if there is one, and environment. -/
def load (file : Option Bytes) (env : Environment) : Settings :=
  ((file.bind ofFile?).getD {}).override env

/-- The first of the variables for the locale that is set to something. -/
def locale? (env : Environment) : Option String :=
  nonempty? env "LC_ALL" <|> nonempty? env "LC_MESSAGES" <|> nonempty? env "LANG"

/-- The display language: the one of the settings, even if they name none validly,
and otherwise the one of the locale. -/
def displayLanguage? (s : Settings) (env : Environment) : Option Language :=
  match s.language with
  | some tag => Language.parse? tag
  | none => (locale? env).bind Language.ofLocale?

end Settings

end Ndef
