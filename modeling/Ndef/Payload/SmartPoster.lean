import Ndef.Frame
import Ndef.MediaType
import Ndef.Payload.Text
import Ndef.Payload.Uri
import Ndef.WellKnown

/-!
# Smart poster payloads

The payload of a smart poster is itself a message.  It has exactly one URI, and may
have titles in several languages, an action, the size and the media type of what the
URI leads to, and an icon.  Each of its records has one part in the poster, which is
read off that record alone (`PosterPart.ofFrame`), and the poster is put together
from the parts (`SmartPoster.ofParts?`).
-/

namespace Ndef

/-- What to do with the target of a smart poster. -/
inductive Action where
  /-- Go to it now. -/
  | perform
  /-- Save it for later. -/
  | save
  /-- Open it for editing. -/
  | edit
deriving DecidableEq

namespace Action

/-- The code of an action on the wire. -/
def code : Action → UInt8
  | perform => 0
  | save => 1
  | edit => 2

/-- The action with the given code. -/
def ofCode? (code : UInt8) : Option Action :=
  if code = 0 then some perform
  else if code = 1 then some save
  else if code = 2 then some edit
  else none

end Action

/-- The title of a smart poster. -/
structure PosterTitle where
  /-- The title itself. -/
  content : String
  /-- The tag of its language. -/
  language : String
deriving DecidableEq

/-- What a smart poster says. -/
structure SmartPoster where
  /-- The address of the target. -/
  uri : String
  /-- The title. -/
  title : Option PosterTitle
  /-- The media type of the target. -/
  mediaType : Option String
  /-- The size of the target in bytes. -/
  size : Option UInt32
  /-- What to do with the target. -/
  action : Option Action
  /-- An image or a video that stands for the target. -/
  icon : Option Frame
deriving DecidableEq

/-! ### The parts of a poster -/

/-- The part that a record has in a smart poster. -/
inductive PosterPart where
  | uri (uri : String)
  | title (text : Text)
  | action (code : UInt8)
  | size (size : UInt32)
  | mediaType (name : Bytes)
  | icon (frame : Frame)
  /-- The record is passed over. -/
  | ignored
deriving DecidableEq

namespace PosterPart

/-- The type name of an action record, `act`. -/
def actionType : Bytes := [0x61, 0x63, 0x74]

/-- The type name of a size record, `s`. -/
def sizeType : Bytes := [0x73]

/-- The type name of a media type record, `t`. -/
def mediaTypeType : Bytes := [0x74]

/-- Whether the frame can be an icon: a record of media type with an image or a video
in it. -/
def isIcon (f : Frame) : Bool :=
  f.tnf = .mediaType && !f.payload.isEmpty &&
    match Utf8.decode? f.type with
    | some name => MediaType.hasTop name "image" || MediaType.hasTop name "video"
    | none => false

/-- The part of a well-known record. -/
def ofWellKnown (type payload : Bytes) : PosterPart :=
  if type = WellKnown.uri.type then
    match Uri.decode payload with
    | .ok address => .uri address
    | .error _ => .ignored
  else if type = WellKnown.text.type then
    match Text.decode payload with
    | .ok text => .title text
    | .error _ => .ignored
  else if type = actionType then
    match payload with
    | [code] => .action code
    | _ => .ignored
  else if type = sizeType then
    if payload.length = 4 then .size (UInt32.ofNat (Bytes.toNat payload)) else .ignored
  else if type = mediaTypeType then .mediaType payload
  else .ignored

/-- The part of a record. -/
def ofFrame (f : Frame) : PosterPart :=
  if f.tnf = .wellKnown then ofWellKnown f.type f.payload
  else if isIcon f then .icon f
  else .ignored

/-- The URI, if the part is one. -/
def uri? : PosterPart → Option String
  | uri u => some u
  | _ => none

/-- The title, if the part is one. -/
def title? : PosterPart → Option Text
  | title t => some t
  | _ => none

/-- The code of the action, if the part is one. -/
def action? : PosterPart → Option UInt8
  | action code => some code
  | _ => none

/-- The size, if the part is one. -/
def size? : PosterPart → Option UInt32
  | size n => some n
  | _ => none

/-- The name of the media type, if the part is one. -/
def mediaType? : PosterPart → Option Bytes
  | mediaType name => some name
  | _ => none

/-- The icon, if the part is one. -/
def icon? : PosterPart → Option Frame
  | icon f => some f
  | _ => none

end PosterPart

/-! ### The poster made of its parts -/

namespace SmartPoster

/-- The first of the texts whose language agrees best with the display language, or
the first of all if there is no display language. -/
def bestTitle? (language : Option Language) : List Text → Option Text
  | [] => none
  | first :: rest =>
    match language with
    | none => some first
    | some target => some <| rest.foldl
        (fun best t => if (best.agreement target).rank < (t.agreement target).rank then t else best)
        first

/-- The media type with the given name, if it is one. -/
def mediaTypeOfName? (name : Bytes) : Option String :=
  (Utf8.decode? name).filter MediaType.isType

/-- The poster with the given parts, if exactly one of them is a URI.  Of actions,
sizes, media types and icons the first counts, even if it says nothing valid. -/
def ofParts? (language : Option Language) (parts : List PosterPart) : Option SmartPoster :=
  match parts.filterMap PosterPart.uri? with
  | [uri] => some {
      uri := uri
      title := (bestTitle? language (parts.filterMap PosterPart.title?)).map
        fun t => { content := t.content, language := t.language }
      mediaType := (parts.findSome? PosterPart.mediaType?).bind mediaTypeOfName?
      size := parts.findSome? PosterPart.size?
      action := (parts.findSome? PosterPart.action?).bind Action.ofCode?
      icon := parts.findSome? PosterPart.icon? }
  | _ => none

/-- The parts of the records in a payload; chunks are passed over. -/
def parts (payload : Bytes) : List PosterPart :=
  ((Frame.ofBytes payload).filter (!·.chunked)).map PosterPart.ofFrame

/-- The poster with the given payload, with the title for the display language. -/
def decode? (language : Option Language) (payload : Bytes) : Option SmartPoster :=
  ofParts? language (parts payload)

end SmartPoster

end Ndef
