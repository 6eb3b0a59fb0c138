import Ndef.Unicode.Utf8
import Ndef.Unicode.Quoted

/-!
# Hexadecimal

`Hex.encode` writes each byte as two upper-case digits.  `Hex.decode` reads digits
of either case; it refuses an odd number of bytes of text first, and then the first
byte that is no digit.
-/

namespace Ndef.Hex

/-- The upper-case digit of a number below sixteen. -/
def digit (n : UInt8) : Char :=
  if n < 10 then Char.ofNat (0x30 + n.toNat) else Char.ofNat (0x37 + n.toNat)

/-- Two upper-case digits for each byte. -/
def encode (b : Bytes) : String :=
  String.ofList (b.flatMap fun x : UInt8 => [digit (x / 16), digit (x % 16)])

/-- Why a text is not hexadecimal. -/
inductive Error where
  /-- The number of digits is odd. -/
  | oddLength
  /-- The byte at the offset is no digit. -/
  | invalidDigit (byte : UInt8) (offset : Nat)
deriving DecidableEq

/-- The wording of the error; the byte is shown as the character of its number. -/
def Error.message : Error → String
  | oddLength => "Odd number of digits"
  | invalidDigit byte offset =>
    "Invalid character " ++ quotedChar (Char.ofNat byte.toNat) ++ " at position " ++ toString offset

/-- The number that an ASCII digit of either case stands for. -/
def value? (b : UInt8) : Option UInt8 :=
  if 0x30 ≤ b ∧ b ≤ 0x39 then some (b - 0x30)
  else if 0x41 ≤ b ∧ b ≤ 0x46 then some (b - 0x37)
  else if 0x61 ≤ b ∧ b ≤ 0x66 then some (b - 0x57)
  else none

/-- The bytes that the digits from the offset on write, after those in `before`,
which is reversed. -/
def decodePairs (before : Bytes) (offset : Nat) : Bytes → Except Error Bytes
  | high :: low :: rest =>
    match value? high, value? low with
    | some h, some l => decodePairs ((16 * h + l) :: before) (offset + 2) rest
    | none, _ => .error (.invalidDigit high offset)
    | some _, none => .error (.invalidDigit low (offset + 1))
  | _ => .ok before.reverse

/-- The bytes that a text of hexadecimal digits writes. -/
def decode (s : String) : Except Error Bytes :=
  let digits := Utf8.encode s
  if digits.length % 2 = 1 then .error .oddLength else decodePairs [] 0 digits

end Ndef.Hex
