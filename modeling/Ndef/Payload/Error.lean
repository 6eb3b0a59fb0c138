import Ndef.Bytes

/-!
# Payload errors

Why the payload of a well-known record cannot be interpreted.
-/

namespace Ndef

/-- Why a payload cannot be interpreted. -/
inductive PayloadError where
  /-- The payload is shorter than it has to be. -/
  | truncated (needed available : Nat)
  /-- The code stands for no abbreviation. -/
  | unknownAbbreviation (code : UInt8)
  /-- A text is not UTF-8. -/
  | invalidUtf8
  /-- A text is not UTF-16. -/
  | invalidUtf16
deriving DecidableEq

namespace PayloadError

/-- Two lower-case hexadecimal digits. -/
def twoDigits (b : UInt8) : String :=
  String.ofList [Nat.digitChar (b.toNat / 16), Nat.digitChar (b.toNat % 16)]

/-- The wording of the error. -/
def message : PayloadError → String
  | truncated needed available =>
    "truncated input: need " ++ toString needed ++ " bytes, have " ++ toString available
  | unknownAbbreviation code => "unknown URI prefix code 0x" ++ twoDigits code
  | invalidUtf8 => "invalid UTF-8"
  | invalidUtf16 => "invalid UTF-16"

end PayloadError

end Ndef
