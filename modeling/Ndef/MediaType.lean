import Ndef.Caseless
import Ndef.Cut

/-!
# Media types

A media type is `type/subtype`, both tokens of printable ASCII characters.  A media
range may have the wildcard `*` for the subtype or for both parts; a media type may
not.
-/

namespace Ndef.MediaType

/-- The characters with a meaning of their own around media types. -/
def specials : List Char :=
  ['(', ')', '<', '>', '@', ',', ';', ':', '\\', '"', '/', '[', ']', '?', '=']

/-- Whether the character may stand in a token. -/
def isTokenChar (c : Char) : Bool :=
  0x20 < c.toNat && c.toNat < 0x7F && !specials.contains c

/-- Whether the text is a token. -/
def isToken (s : String) : Bool :=
  s ≠ "" && s.toList.all isTokenChar

/-- The parts before and after the first slash. -/
def parts (s : String) : String × Option String :=
  cut (· == '/') s

/-- Whether the text is a media type without wildcards. -/
def isType (s : String) : Bool :=
  match parts s with
  | (type, some subtype) =>
    type ≠ "*" && subtype ≠ "*" && isToken type && isToken subtype
  | (_, none) => false

/-- Whether the text is a media type or a range of them. -/
def isRange (s : String) : Bool :=
  match parts s with
  | (type, some subtype) =>
    if type = "*" then subtype = "*"
    else isToken type && (subtype = "*" || isToken subtype)
  | (_, none) => false

/-- Whether the text is a media type of the given top-level type, up to ASCII case. -/
def hasTop (s top : String) : Bool :=
  isType s && equalUpToCase (parts s).1 top

end Ndef.MediaType
