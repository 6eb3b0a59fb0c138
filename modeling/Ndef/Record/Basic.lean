import Ndef.Payload.SmartPoster

/-!
# Records

A record is either the empty record, which stands for a message of no bytes, or a
frame with its content.  The content depends on the frame and on the display
language only (`Content.ofFrame`): the payload of a well-known record is interpreted
if its type is known and the payload is as that type asks; all other records are
generic.
-/

namespace Ndef

/-- What the payload of a record says. -/
inductive Content where
  /-- The payload is not interpreted. -/
  | generic
  | uri (uri : String)
  | text (text : Text)
  | smartPoster (poster : SmartPoster)
deriving DecidableEq

namespace Content

/-- What the payload of a record of well-known type says. -/
def ofWellKnown (language : Option Language) (payload : Bytes) : WellKnown → Content
  | .uri =>
    match Uri.decode payload with
    | .ok address => .uri address
    | .error _ => .generic
  | .text =>
    match Text.decode payload with
    | .ok t => .text t
    | .error _ => .generic
  | .smartPoster =>
    match SmartPoster.decode? language payload with
    | some poster => .smartPoster poster
    | none => .generic

/-- What the payload of a frame says. -/
def ofFrame (language : Option Language) (f : Frame) : Content :=
  if f.tnf = .wellKnown then
    match WellKnown.ofType? f.type with
    | some w => ofWellKnown language f.payload w
    | none => .generic
  else .generic

/-- The well-known type as which a payload was interpreted. -/
def wellKnown? : Content → Option WellKnown
  | generic => none
  | uri _ => some .uri
  | text _ => some .text
  | smartPoster _ => some .smartPoster

end Content

/-- A record of a message. -/
inductive Record where
  /-- The record of a message of no bytes. -/
  | empty
  | framed (frame : Frame) (content : Content)
deriving DecidableEq

namespace Record

/-- The record of a frame, with the title of a smart poster chosen for the display
language. -/
def ofFrame (language : Option Language) (f : Frame) : Record :=
  framed f (Content.ofFrame language f)

/-- The record of a frame whose payload is left as it is. -/
def uninterpreted (f : Frame) : Record :=
  framed f .generic

/-- The frame of a record that has one. -/
def frame? : Record → Option Frame
  | empty => none
  | framed f _ => some f

/-- What the payload says. -/
def content : Record → Content
  | empty => .generic
  | framed _ c => c

/-- The format of the type name. -/
def tnf : Record → Tnf
  | empty => .empty
  | framed f _ => f.tnf

/-- The place in the message as the header has it. -/
def position : Record → Position
  | empty => .inner
  | framed f _ => f.position

/-- The type name. -/
def type : Record → Bytes
  | empty => []
  | framed f _ => f.type

/-- The id; an empty id differs from none. -/
def id : Record → Option Bytes
  | empty => none
  | framed f _ => f.id

/-- The payload. -/
def payload : Record → Bytes
  | empty => []
  | framed f _ => f.payload

/-- The record as it stands on the wire. -/
def bytes : Record → Bytes
  | empty => []
  | framed f _ => f.bytes

/-- The well-known type as which the record was interpreted. -/
def wellKnown? (r : Record) : Option WellKnown :=
  r.content.wellKnown?

/-- The URI of a URI record. -/
def uri? (r : Record) : Option String :=
  match r.content with
  | .uri address => some address
  | _ => none

/-- The text of a text record. -/
def text? (r : Record) : Option Text :=
  match r.content with
  | .text t => some t
  | _ => none

/-- The poster of a smart poster record. -/
def smartPoster? (r : Record) : Option SmartPoster :=
  match r.content with
  | .smartPoster poster => some poster
  | _ => none

/-- Whether the record is well-known with the given type name, interpreted or not. -/
def hasWellKnownType (r : Record) (type : Bytes) : Bool :=
  r.tnf = .wellKnown && r.type = type

end Record

end Ndef
