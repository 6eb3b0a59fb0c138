import Ndef.Stored.Record

/-!
# Reading stored records

Records are framed one after the other, and each is stored with what its payload says.  The
payload of a smart poster is read in the same way, except that a smart poster in it is not
interpreted, and its records are gone through once to find the values of the poster.
-/

namespace Ndef

namespace RawRecord

/-- The type as which the record can be interpreted. -/
def wellKnown? (raw : RawRecord) : Option WellKnown :=
  if raw.tnf = .wellKnown then WellKnown.ofType? raw.typeBytes else none

/-- What a payload says under a type, given how smart posters are read. -/
def interpret? (poster? : Bytes → Option (StoredPoster StoredRecord)) (payload : Bytes) :
    WellKnown → Option (StoredContent StoredRecord)
  | .uri => (Uri.decode payload).toOption.map .uri
  | .text => (Text.decode payload).toOption.map .text
  | .smartPoster => (poster? payload).map .smartPoster

/-- The record as it is stored: interpreted if it can be, and else generic. -/
def dispatch (poster? : Bytes → Option (StoredPoster StoredRecord)) (raw : RawRecord) :
    StoredRecord :=
  match raw.wellKnown? with
  | some w =>
    match interpret? poster? raw.payloadBytes w with
    | some content => .ofRaw raw (some w) content
    | none => .ofRaw raw none .generic
  | none => .ofRaw raw none .generic

/-- The records at the front of a byte string, each alone; chunks are passed over. -/
def parse (poster? : Bytes → Option (StoredPoster StoredRecord)) (b : Bytes) :
    List StoredRecord :=
  ((reader.all b).1.filter (!·.isChunk)).map (dispatch poster?)

end RawRecord

/-- The records in a byte string, given how smart posters are read. -/
def StoredRecord.decodeWith? (poster? : Bytes → Option (StoredPoster StoredRecord)) (b : Bytes) :
    Option StoredRecord :=
  if b = [] then some empty else relink? (RawRecord.parse poster? b)

/-! ### Smart posters -/

/-- What was found in the payload of a smart poster. -/
structure PosterFindings where
  /-- The URI. -/
  uri : Option String := none
  /-- The texts, in order. -/
  titles : List Text := []
  /-- The first action record. -/
  action : Option StoredRecord := none
  /-- The first size record. -/
  size : Option StoredRecord := none
  /-- The first media type record. -/
  mediaType : Option StoredRecord := none
  /-- The first record that can be an icon. -/
  icon : Option StoredRecord := none

namespace StoredRecord

/-- Whether the record can be an icon: a record of media type with an image or a video in
it. -/
def isIcon (r : StoredRecord) : Bool :=
  r.tnf = .mediaType && !r.payload.isEmpty &&
    match Utf8.decode? r.type with
    | some name => MediaType.hasTop name "image" || MediaType.hasTop name "video"
    | none => false

end StoredRecord

namespace PosterFindings

/-- What was found together with one more record, unless that is a second URI. -/
def add (found : PosterFindings) (r : StoredRecord) : Option PosterFindings :=
  match r.content with
  | .uri address =>
    if found.uri.isSome then none else some { found with uri := some address }
  | .text t => some { found with titles := found.titles ++ [t] }
  | _ =>
    some <|
      if r.hasWellKnownType PosterPart.actionType && r.payload.length = 1 then
        { found with action := found.action <|> some r }
      else if r.hasWellKnownType PosterPart.sizeType && r.payload.length = 4 then
        { found with size := found.size <|> some r }
      else if r.hasWellKnownType PosterPart.mediaTypeType then
        { found with mediaType := found.mediaType <|> some r }
      else if found.icon.isNone && r.isIcon then
        { found with icon := some r }
      else found

/-- The poster with the values that were found, if a URI was. -/
def poster? (found : PosterFindings) (language : Option Language) :
    Option (StoredPoster StoredRecord) := do
  let uri ← found.uri
  let title := SmartPoster.bestTitle? language found.titles
  return {
    uri := uri
    title := title.map (·.content)
    language := title.map (·.language)
    mediaType := found.mediaType.bind fun r => SmartPoster.mediaTypeOfName? r.payload
    size := found.size.map fun r => UInt32.ofNat (Bytes.toNat r.payload)
    action := (found.action.bind (·.payload.head?)).bind Action.ofCode?
    icon := found.icon.map StoredRecord.detached }

end PosterFindings

namespace StoredPoster

/-- The poster with the given payload, with the title for the display language. -/
def decode? (language : Option Language) (payload : Bytes) :
    Option (StoredPoster StoredRecord) := do
  let records ← StoredRecord.decodeWith? (fun _ => none) payload
  let found ← records.nodes.foldlM PosterFindings.add {}
  found.poster? language

end StoredPoster

/-! ### Messages -/

namespace StoredRecord

/-- The records in a byte string, with the titles of smart posters chosen for the display
language. -/
def decode? (language : Option Language) (b : Bytes) : Option StoredRecord :=
  decodeWith? (StoredPoster.decode? language) b

/-- The records of all messages in an area. -/
def ofArea? (language : Option Language) (s : Bytes) : Option StoredRecord :=
  relink? <| (Area.messages s).flatMap fun message =>
    match decode? language message with
    | some r => r.breakUp
    | none => []

end StoredRecord

end Ndef
