import Ndef.BuildError
import Ndef.Language
import Ndef.Payload.Error
import Ndef.Unicode.Utf8
import Ndef.Unicode.Utf16

/-!
# Text payloads

A text payload is a status byte, a language tag and the text.  The status byte holds
the length of the tag and says whether the text is UTF-8 or UTF-16.  UTF-16 text may
begin with a mark for its byte order; without a mark it is big-endian.
-/

namespace Ndef

/-- How the characters of a text are written. -/
inductive TextEncoding where
  | utf8
  | utf16 (order : ByteOrder)
deriving DecidableEq

/-- The encoding with the given name; case and hyphens do not matter. -/
def TextEncoding.ofName? (name : String) : Option TextEncoding :=
  let letters := String.ofList (name.toLower.toList.filter (· ≠ '-'))
  if letters = "utf8" then some .utf8
  else if letters = "utf16" ∨ letters = "utf16be" then some (.utf16 .bigEndian)
  else if letters = "utf16le" then some (.utf16 .littleEndian)
  else none

/-- A text with its language. -/
structure Text where
  /-- The language tag. -/
  language : String
  /-- The text itself. -/
  content : String
  /-- How the text is written. -/
  encoding : TextEncoding
deriving DecidableEq

namespace Text

/-- The bound on the length of language tags, in bytes. -/
def languageBound : Nat := 64

/-- The mark U+FEFF in the given byte order. -/
def mark (order : ByteOrder) : Bytes :=
  order.bytes 0xFEFF

/-- The status byte for a language tag of the given length. -/
def status (length : Nat) : TextEncoding → UInt8
  | .utf8 => UInt8.ofNat length
  | .utf16 _ => UInt8.ofNat (0x80 + length)

/-- The text as it stands after the language tag.  Little-endian text is marked. -/
def body (content : String) : TextEncoding → Bytes
  | .utf8 => Utf8.encode content
  | .utf16 .bigEndian => Utf16.encode .bigEndian content
  | .utf16 .littleEndian => mark .littleEndian ++ Utf16.encode .littleEndian content

/-- The payload of a text. -/
def encode (t : Text) : Except BuildError Bytes :=
  let tag := Utf8.encode t.language
  if tag.length < languageBound then
    .ok (status tag.length t.encoding :: (tag ++ body t.content t.encoding))
  else .error .languageTooLong

/-- The byte order of UTF-16 text, and the text without its mark. -/
def unmarked (b : Bytes) : ByteOrder × Bytes :=
  if b.take 2 = mark .littleEndian then (.littleEndian, b.drop 2)
  else if b.take 2 = mark .bigEndian then (.bigEndian, b.drop 2)
  else (.bigEndian, b)

/-- The text and its encoding, from what stands after the language tag. -/
def decodeBody (wide : Bool) (b : Bytes) : Except PayloadError (String × TextEncoding) :=
  if wide then
    let (order, units) := unmarked b
    match Utf16.decode? order units with
    | some content => .ok (content, .utf16 order)
    | none => .error .invalidUtf16
  else
    match Utf8.decode? b with
    | some content => .ok (content, .utf8)
    | none => .error .invalidUtf8

/-- The text with the given payload. -/
def decode : Bytes → Except PayloadError Text
  | [] => .error (.truncated 1 0)
  | status :: rest =>
    let length := status.toNat % languageBound
    match Bytes.split? length rest with
    | none => .error (.truncated (length + 1) (rest.length + 1))
    | some (tag, b) =>
      match Utf8.decode? tag with
      | none => .error .invalidUtf8
      | some language => do
        let (content, encoding) ← decodeBody (0x80 ≤ status.toNat) b
        return { language, content, encoding }

/-- How far the language of the text agrees with the target. -/
def agreement (t : Text) (target : Language) : Language.Agreement :=
  Language.agreementOfTag t.language target

end Text

end Ndef
