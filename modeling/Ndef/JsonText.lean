/-!
# JSON text

Compact JSON text as lists of characters.  Strings escape the quote, the backslash
and the control characters below U+0020, and nothing else; members of an object
stand in the order in which they are given.
-/

namespace Ndef.JsonText

/-- The character as it stands in a string. -/
def escaped (c : Char) : List Char :=
  if c = '"' then ['\\', '"']
  else if c = '\\' then ['\\', '\\']
  else if c = '\x08' then ['\\', 'b']
  else if c = '\x0c' then ['\\', 'f']
  else if c = '\n' then ['\\', 'n']
  else if c = '\r' then ['\\', 'r']
  else if c = '\t' then ['\\', 't']
  else if c.toNat < 0x20 then
    ['\\', 'u', '0', '0', Nat.digitChar (c.toNat / 16), Nat.digitChar (c.toNat % 16)]
  else [c]

/-- A string in quotes. -/
def string (s : String) : List Char :=
  '"' :: (s.toList.flatMap escaped ++ ['"'])

/-- A truth value. -/
def bool (b : Bool) : List Char :=
  (if b then "true" else "false").toList

/-- A natural number. -/
def number (n : Nat) : List Char :=
  (toString n).toList

/-- A value that may be absent, and then is null. -/
def orNull {α : Type} (text : α → List Char) : Option α → List Char
  | some a => text a
  | none => "null".toList

/-- A member of an object. -/
def member (key : String) (value : List Char) : List Char :=
  string key ++ ':' :: value

/-- An object with the given members. -/
def object (members : List (List Char)) : List Char :=
  '{' :: (members.intersperse [',']).flatten ++ ['}']

end Ndef.JsonText
