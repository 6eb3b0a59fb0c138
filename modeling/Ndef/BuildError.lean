import Ndef.Unicode.Quoted
import Ndef.WellKnown

/-!
# Build errors

Why a record cannot be built from the given values.
-/

namespace Ndef

/-- Why a record cannot be built. -/
inductive BuildError where
  /-- The type does not fit its length field. -/
  | typeTooLong
  /-- The id does not fit its length field. -/
  | idTooLong
  /-- The payload is too long for a record. -/
  | payloadTooLong (length : Nat)
  /-- The language tag does not fit its length field. -/
  | languageTooLong
  /-- The text is not a media type. -/
  | invalidMediaType (text : String)
  /-- The payload that was built would not be interpreted as it should. -/
  | misread (expected : WellKnown)
deriving DecidableEq

namespace BuildError

/-- How a type of records is called in messages. -/
def name : WellKnown → String
  | .uri => "URI"
  | .text => "text"
  | .smartPoster => "smart poster"

/-- The wording of the error. -/
def message : BuildError → String
  | typeTooLong => "record type is longer than 255 bytes"
  | idTooLong => "record id is longer than 255 bytes"
  | payloadTooLong length =>
    "declared payload length " ++ toString length ++ " is out of range"
  | languageTooLong => "language tag is longer than 63 bytes"
  | invalidMediaType text => "invalid media type " ++ quoted text
  | misread expected => "encoded bytes did not decode as a " ++ name expected ++ " record"

end BuildError

end Ndef
