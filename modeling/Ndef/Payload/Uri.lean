import Ndef.Payload.Error
import Ndef.Unicode.Utf8

/-!
# URI payloads

A URI payload is a code and the UTF-8 bytes of the URI without the beginning that
the code stands for.  Code zero stands for no beginning.  Of the abbreviations that
begin a URI the first in the table is used, which need not be the longest.
-/

namespace Ndef.Uri

/-- The beginnings of URIs with a code, in the order of their codes, from one on. -/
def abbreviations : List String :=
  ["http://www.", "https://www.", "http://", "https://", "tel:", "mailto:",
    "ftp://anonymous:anonymous@", "ftp://ftp.", "ftps://", "sftp://", "smb://", "nfs://", "ftp://",
    "dav://", "news:", "telnet://", "imap:", "rtsp://", "urn:", "pop:", "sip:", "sips:", "tftp:",
    "btspp://", "btl2cap://", "btgoep://", "tcpobex://", "irdaobex://", "file://", "urn:epc:id:",
    "urn:epc:tag:", "urn:epc:pat:", "urn:epc:raw:", "urn:epc:", "urn:nfc:"]

/-- What the code stands for. -/
def expansion? (code : UInt8) : Option String :=
  ("" :: abbreviations)[code.toNat]?

/-- The text without its beginning, if it begins so. -/
def dropStart? (start s : String) : Option String :=
  (start.toList.isPrefixOf? s.toList).map String.ofList

/-- The code of the first abbreviation that begins the URI, and the rest of the URI. -/
def abbreviate? (uri : String) : Option (Nat × String) :=
  (abbreviations.zipIdx 1).findSome? fun (start, code) =>
    (dropStart? start uri).map (code, ·)

/-- The payload of a URI. -/
def encode (uri : String) : Bytes :=
  let (code, rest) := (abbreviate? uri).getD (0, uri)
  UInt8.ofNat code :: Utf8.encode rest

/-- The URI with the given payload. -/
def decode : Bytes → Except PayloadError String
  | [] => .error (.truncated 1 0)
  | code :: rest =>
    match expansion? code, Utf8.decode? rest with
    | none, _ => .error (.unknownAbbreviation code)
    | some _, none => .error .invalidUtf8
    | some start, some rest => .ok (start ++ rest)

end Ndef.Uri
