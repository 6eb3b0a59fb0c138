import Ndef.Hex
import Ndef.Message

/-!
# Descriptions

A text for programmers that shows all that is known of a record, and how many
records follow it in its message.
-/

namespace Ndef.Description

/-- A name with fields in braces. -/
def fields (name : String) (items : List (String × String)) : String :=
  name ++ " \x7b " ++ ", ".intercalate (items.map fun (key, value) => key ++ ": " ++ value)
    ++ " \x7d"

/-- A name with one value in parentheses. -/
def wrapped (name value : String) : String :=
  name ++ "(" ++ value ++ ")"

/-- A value that may be absent. -/
def optional {α : Type} (describe : α → String) : Option α → String
  | some a => wrapped "Some" (describe a)
  | none => "None"

/-- The description of a type name format. -/
def tnf : Tnf → String
  | .empty => "Empty"
  | .wellKnown => "WellKnown"
  | .mediaType => "MediaType"
  | .absoluteUri => "AbsoluteUri"
  | .external => "External"
  | .unknown => "Unknown"
  | .unchanged => "Unchanged"
  | .reserved => "Reserved"

/-- The description of the type as which a record was interpreted. -/
def wellKnown : Option WellKnown → String
  | none => "Unknown"
  | some .uri => "Uri"
  | some .text => "Text"
  | some .smartPoster => "SmartPoster"

/-- The description of an encoding. -/
def encoding : TextEncoding → String
  | .utf8 => "Utf8"
  | .utf16 .bigEndian => "Utf16Be"
  | .utf16 .littleEndian => "Utf16Le"

/-- The description of what to do with the target of a poster. -/
def action : Option Action → String
  | none => "Default"
  | some .perform => "Open"
  | some .save => "Save"
  | some .edit => "Edit"

/-- The description of a record whose content is described by `kind`. -/
def recordWith (r : Record) (kind : String) (following : Nat) : String :=
  fields "Record" [
    ("tnf", tnf r.tnf),
    ("rtd", wellKnown r.wellKnown?),
    ("flags", wrapped "RecordFlags" (toString r.position.number)),
    ("type", quoted (Utf8.lossy r.type)),
    ("id", optional (quoted <| Hex.encode ·) r.id),
    ("payload", quoted (Hex.encode r.payload)),
    ("kind", kind),
    ("following", toString following)]

/-- The description of the content of a record. -/
def content : Content → String
  | .generic => "Generic"
  | .uri address => wrapped "Uri" (fields "UriRecord" [("uri", quoted address)])
  | .text t => wrapped "Text" <| fields "TextRecord" [
      ("lang", quoted t.language),
      ("text", quoted t.content),
      ("encoding", encoding t.encoding)]
  | .smartPoster p => wrapped "SmartPoster" <| fields "SmartPosterRecord" [
      ("uri", quoted p.uri),
      ("title", optional (quoted ·.content) p.title),
      ("lang", optional (quoted ·.language) p.title),
      ("media_type", optional quoted p.mediaType),
      ("size", optional (toString ·.toNat) p.size),
      ("action", action p.action),
      ("icon", optional (fun f => recordWith (.uninterpreted f) "Generic" 0) p.icon)]

/-- The description of the first record of a message. -/
def head (m : Message) : String :=
  recordWith m.head (content m.head.content) m.tail.length

end Ndef.Description
