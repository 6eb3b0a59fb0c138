import Ndef.Hex
import Ndef.JsonText
import Ndef.Message

/-!
# Reports

A message is reported as one line of JSON for each record.  The line of a record has
its type name format, its place in the message, its type, its id if it has one, its
payload, the kind of its content, and the content itself; an icon is reported inside
the line of its poster.
-/

namespace Ndef

/-- The name of a type name format. -/
def Tnf.name : Tnf → String
  | empty => "empty"
  | wellKnown => "well_known"
  | mediaType => "media_type"
  | absoluteUri => "absolute_uri"
  | external => "external"
  | unknown => "unknown"
  | unchanged => "unchanged"
  | reserved => "reserved"

/-- The name of an encoding. -/
def TextEncoding.name : TextEncoding → String
  | utf8 => "utf8"
  | utf16 .bigEndian => "utf16_be"
  | utf16 .littleEndian => "utf16_le"

/-- The name of what to do with the target of a poster. -/
def Action.name : Option Action → String
  | none => "default"
  | some perform => "open"
  | some save => "save"
  | some edit => "edit"

namespace Report

open JsonText

/-- The members for what the header and the fields of a record say. -/
def fieldMembers (r : Record) : List (List Char) :=
  [member "tnf" (string r.tnf.name),
    member "first" (bool r.position.first),
    member "last" (bool r.position.last),
    member "type" (string (Utf8.lossy r.type))]
  ++ (r.id.map fun id => member "id" (string (Hex.encode id))).toList
  ++ [member "payload" (string (Hex.encode r.payload))]

/-- The member for the kind of content. -/
def kindMember (kind : String) : List Char :=
  member "kind" (string kind)

/-- The report of an icon, which is not interpreted. -/
def icon (f : Frame) : List Char :=
  object (fieldMembers (.uninterpreted f) ++ [kindMember "generic"])

/-- The members for the content of a record. -/
def contentMembers : Content → List (List Char)
  | .generic => [kindMember "generic"]
  | .uri address => [kindMember "uri", member "uri" (string address)]
  | .text t =>
    [kindMember "text",
      member "lang" (string t.language),
      member "text" (string t.content),
      member "encoding" (string t.encoding.name)]
  | .smartPoster p =>
    [kindMember "smart_poster",
      member "uri" (string p.uri),
      member "title" (orNull (string ·.content) p.title),
      member "lang" (orNull (string ·.language) p.title),
      member "media_type" (orNull string p.mediaType),
      member "size" (orNull (number ·.toNat) p.size),
      member "action" (string (Action.name p.action)),
      member "icon" (orNull icon p.icon)]

/-- The line of a record. -/
def line (r : Record) : List Char :=
  object (fieldMembers r ++ contentMembers r.content)

/-- The lines of a message, separated by newlines. -/
def lines (m : Message) : String :=
  String.ofList ((m.records.map line).intersperse ['\n']).flatten

end Report

end Ndef
