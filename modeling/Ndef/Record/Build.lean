import Ndef.Record.Basic

/-!
# Building records

Records are built from values.  A new record stands alone in its message, is in
short form whenever its payload allows it, and is interpreted like a record that was
read: building one that has to be a URI, a text or a smart poster fails if its payload
says otherwise.
-/

namespace Ndef

/-- The frame of a new record with the given parts. -/
def Frame.build (tnf : Tnf) (type : Bytes) (id : Option Bytes) (payload : Bytes) :
    Except BuildError Frame :=
  if 0x100 ≤ type.length then .error .typeTooLong
  else if 0x100 ≤ (id.getD []).length then .error .idTooLong
  else if 0x80000000 ≤ payload.length then .error (.payloadTooLong payload.length)
  else .ok {
    position := .alone
    chunked := false
    short := payload.length < 0x100
    tnf := tnf
    type := type
    id := id
    payload := payload }

namespace Record

/-- A new record with the given parts; an empty id is kept apart from none. -/
def build (tnf : Tnf) (type : Bytes) (id : Option Bytes) (payload : Bytes) :
    Except BuildError Record :=
  (Frame.build tnf type id payload).map (ofFrame none)

/-- A new well-known record; an empty id is none. -/
def buildWellKnown (type id payload : Bytes) : Except BuildError Record :=
  build .wellKnown type (if id = [] then none else some id) payload

/-- A new record with data of a media type, which may not be a range. -/
def buildMedia (mediaType : String) (payload : Bytes) : Except BuildError Record :=
  if MediaType.isType mediaType then
    (Frame.build .mediaType (Utf8.encode mediaType) none payload).map uninterpreted
  else .error (.invalidMediaType mediaType)

/-- A new well-known record that has to be interpreted as its type. -/
def buildAs (w : WellKnown) (payload : Bytes) : Except BuildError Record := do
  let r ← buildWellKnown w.type [] payload
  if r.wellKnown? = some w then .ok r else .error (.misread w)

/-- A new URI record. -/
def buildUri (uri : String) : Except BuildError Record :=
  buildAs .uri (Uri.encode uri)

/-- A new text record. -/
def buildText (t : Text) : Except BuildError Record := do
  buildAs .text (← t.encode)

/-- A new text record with the text and language that are given, or else the empty
text and the current or default language. -/
def buildTextOrDefault (content language : Option String) (encoding : TextEncoding)
    (current : Option Language) : Except BuildError Record :=
  buildText {
    language := language.getD (Language.defaultTag current)
    content := content.getD ""
    encoding := encoding }

end Record

/-! ### Smart posters -/

/-- The values for a new smart poster. -/
structure PosterDraft where
  /-- The address of the target. -/
  uri : String
  /-- The title. -/
  title : Option String := none
  /-- The tag of the title's language. -/
  language : Option String := none
  /-- The current language, for a title whose language is not given. -/
  current : Option Language := none
  /-- The media type of the target. -/
  mediaType : Option String := none
  /-- The size of the target in bytes. -/
  size : Option UInt32 := none
  /-- What to do with the target. -/
  action : Option Action := none
  /-- The record whose parts the icon is built from. -/
  icon : Option Record := none

namespace PosterDraft

/-- A new record for the media type of the target. -/
def buildMediaType (name : String) : Except BuildError Record :=
  if MediaType.isType name then
    Record.buildWellKnown PosterPart.mediaTypeType [] (Utf8.encode name)
  else .error (.invalidMediaType name)

/-- The records of the poster, each as if it stood alone. -/
def records (d : PosterDraft) : Except BuildError (List Record) := do
  let uri ← Record.buildUri d.uri
  let title ← d.title.mapM fun title =>
    Record.buildTextOrDefault (some title) d.language .utf8 d.current
  let action ← d.action.mapM fun action =>
    Record.buildWellKnown PosterPart.actionType [] [action.code]
  let size ← d.size.mapM fun size =>
    Record.buildWellKnown PosterPart.sizeType [] (Bytes.ofNat 4 size.toNat)
  let mediaType ← d.mediaType.mapM buildMediaType
  let icon ← d.icon.mapM fun r => Record.build r.tnf r.type r.id r.payload
  return uri :: title.toList ++ action.toList ++ size.toList ++ mediaType.toList ++ icon.toList

end PosterDraft

/-- Puts a frame behind others: the one before it no longer ends the message, and the
frame itself no longer begins it. -/
def Frame.join (frames : List Frame) (f : Frame) : List Frame :=
  match frames.getLast? with
  | none => [f]
  | some before =>
    frames.dropLast ++ [
      { before with position := before.position.diff ⟨false, true⟩ },
      { f with position := f.position.diff ⟨true, false⟩ }]

/-- A new smart poster record. -/
def Record.buildSmartPoster (d : PosterDraft) : Except BuildError Record := do
  let frames := (← d.records).filterMap Record.frame?
  Record.buildAs .smartPoster ((frames.foldl Frame.join []).flatMap Frame.bytes)

end Ndef
