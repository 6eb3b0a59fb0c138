import Ndef.Unicode.GraphemeExtend
import Ndef.Unicode.Unprintable

/-!
# Quoted text

`quoted` and `quotedChar` put a text and a character into quotes.  What would not
show, a character that combines with the one before it, the backslash and the
quote itself are escaped.
-/

namespace Ndef

/-- The half-width sound marks of Katakana, which have a width of their own although
they extend the letter before them. -/
def halfwidthSoundMarks : CharRanges :=
  [(0xFF9E, 0xFF9F)]

/-- Whether the character is drawn onto the one before it. -/
def isCombining (c : Char) : Bool :=
  graphemeExtend.contains c && !halfwidthSoundMarks.contains c

/-- Whether the character is shown by its code point. -/
def isShownByCode (c : Char) : Bool :=
  if c.toNat < 0x7F then c.toNat < 0x20
  else isCombining c || unprintable.contains c

/-- The lower-case hexadecimal digits of a number, at least one. -/
def hexDigits (n : Nat) : List Char :=
  Nat.toDigits 16 n

/-- The character as it stands between the given quotes. -/
def escaped (quote : Char) (c : Char) : List Char :=
  if c = '\x00' then ['\\', '0']
  else if c = '\t' then ['\\', 't']
  else if c = '\r' then ['\\', 'r']
  else if c = '\n' then ['\\', 'n']
  else if c = '\\' ∨ c = quote then ['\\', c]
  else if isShownByCode c then ['\\', 'u', '{'] ++ hexDigits c.toNat ++ ['}']
  else [c]

/-- The text in double quotes, with escapes. -/
def quoted (s : String) : String :=
  String.ofList ('"' :: s.toList.flatMap (escaped '"') ++ ['"'])

/-- The character in single quotes, with escapes. -/
def quotedChar (c : Char) : String :=
  String.ofList ('\'' :: escaped '\'' c ++ ['\''])

end Ndef
