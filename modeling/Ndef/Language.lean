import Ndef.Caseless
import Ndef.Cut

/-!
# Languages

A language is a primary subtag with an optional territory.  It is written as a
language tag, `ru-RU`, or as the name of a locale, `ru_RU`, and read from either.
Two languages agree in nothing, in the primary subtag, or in both parts.
-/

namespace Ndef

/-- A language, possibly as used in a territory. -/
structure Language where
  /-- The primary subtag, such as `ru`. -/
  primary : String
  /-- The territory, such as `RU`. -/
  territory : Option String
deriving DecidableEq

namespace Language

/-- The language with the given parts; an empty territory is none. -/
def new (primary : String) (territory : Option String) : Language where
  primary := primary
  territory := territory.filter (· ≠ "")

/-- Whether the character separates primary subtag and territory. -/
def isSeparator (c : Char) : Bool :=
  c == '-' || c == '_'

/-- The language that a tag names, unless its primary subtag is empty. -/
def parse? (tag : String) : Option Language :=
  let (primary, territory) := cut isSeparator tag
  if primary = "" then none else some (new primary territory)

/-- The parts of a language joined by a separator. -/
def joined (l : Language) (separator : String) : String :=
  match l.territory with
  | some territory => l.primary ++ separator ++ territory
  | none => l.primary

/-- The tag of a language, as text records carry it. -/
def tag (l : Language) : String :=
  l.joined "-"

/-- The name of a language as locales carry it. -/
def localeName (l : Language) : String :=
  l.joined "_"

/-- Whether the character ends the language part of a locale name. -/
def endsLanguage (c : Char) : Bool :=
  c == '.' || c == '@'

/-- The language of a POSIX locale such as `ru_RU.UTF-8@euro`.  The locales `C` and
`POSIX` have none. -/
def ofLocale? (locale : String) : Option Language :=
  let name := (cut endsLanguage locale).1
  if name = "C" ∨ name = "POSIX" then none else parse? name

/-- The tag for texts whose language is not named: that of the current language, or
else English. -/
def defaultTag (current : Option Language) : String :=
  match current with
  | some l => l.tag
  | none => "en"

theorem defaultTag_eq (current : Option Language) :
  defaultTag current = (current.map tag).getD "en"
  := by
  cases current <;> rfl

/-- How far two languages agree. -/
inductive Agreement where
  /-- The primary subtags differ. -/
  | none
  /-- The primary subtags agree, and the territories do not both exist and agree. -/
  | primary
  /-- Primary subtags and territories agree. -/
  | territory
deriving DecidableEq, Ord

/-- Agreements in order: none, in the primary subtag, in both parts. -/
def Agreement.rank : Agreement → Nat
  | none => 0
  | primary => 1
  | territory => 2

/-- How far a language agrees with another one, up to ASCII case. -/
def agreement (l target : Language) : Agreement :=
  if equalUpToCase l.primary target.primary then
    match l.territory, target.territory with
    | some ours, some theirs => if equalUpToCase ours theirs then .territory else .primary
    | _, _ => .primary
  else .none

/-- How far the language of a tag agrees with the target; a tag without language
agrees in nothing. -/
def agreementOfTag (tag : String) (target : Language) : Agreement :=
  match parse? tag with
  | some l => l.agreement target
  | none => .none

end Language

end Ndef
