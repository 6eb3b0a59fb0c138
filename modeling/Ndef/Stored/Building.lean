import Ndef.Record.Build
import Ndef.Stored.Reading

/-!
# Building stored records

A record that is built is written, framed again and stored like one that was read.  The records
of a new smart poster are built one by one, and each is put behind those before it.
-/

namespace Ndef

/-- Why a record cannot be built and stored. -/
inductive StoreError where
  /-- It cannot be built of the values. -/
  | refused (error : BuildError)
  /-- What was written of it cannot be framed. -/
  | unframed (error : FramingError)
deriving DecidableEq

/-- The wording of the error. -/
def StoreError.message : StoreError → String
  | refused error => error.message
  | unframed error => error.message

namespace RawRecord

/-- The new record with the given parts, written and framed again. -/
def build (tnf : Tnf) (type : Bytes) (id : Option Bytes) (payload : Bytes) :
    Except StoreError RawRecord := do
  let f ← (Frame.build tnf type id payload).mapError .refused
  (frame f.bytes).mapError .unframed

end RawRecord

namespace StoredRecord

/-- A new record with the given parts; an empty id is kept apart from none. -/
def build (tnf : Tnf) (type : Bytes) (id : Option Bytes) (payload : Bytes) :
    Except StoreError StoredRecord :=
  (RawRecord.build tnf type id payload).map (RawRecord.dispatch (StoredPoster.decode? none))

/-- A new well-known record; an empty id is none. -/
def buildWellKnown (type id payload : Bytes) : Except StoreError StoredRecord :=
  build .wellKnown type (if id = [] then none else some id) payload

/-- A new record with data of a media type, which may not be a range. -/
def buildMedia (mediaType : String) (payload : Bytes) : Except StoreError StoredRecord :=
  if MediaType.isType mediaType then
    (RawRecord.build .mediaType (Utf8.encode mediaType) none payload).map
      fun raw => ofRaw raw none .generic
  else .error (.refused (.invalidMediaType mediaType))

/-- A new well-known record that has to be interpreted as its type. -/
def buildAs (w : WellKnown) (payload : Bytes) : Except StoreError StoredRecord := do
  let r ← buildWellKnown w.type [] payload
  if r.wellKnown? = some w then .ok r else .error (.refused (.misread w))

/-- A new URI record. -/
def buildUri (uri : String) : Except StoreError StoredRecord :=
  buildAs .uri (Uri.encode uri)

/-- A new text record. -/
def buildText (t : Text) : Except StoreError StoredRecord := do
  buildAs .text (← t.encode.mapError .refused)

/-- A new text record with the text and language that are given, or else the empty
text and the current or default language. -/
def buildTextOrDefault (content language : Option String) (encoding : TextEncoding)
    (current : Option Language) : Except StoreError StoredRecord :=
  buildText {
    language := language.getD (Language.defaultTag current)
    content := content.getD ""
    encoding := encoding }

end StoredRecord

/-! ### Smart posters -/

/-- The values for a new smart poster whose icon is stored. -/
structure StoredDraft where
  /-- The address of the target. -/
  uri : String
  /-- The title. -/
  title : Option String := none
  /-- The tag of the title's language. -/
  language : Option String := none
  /-- The current language, for a title whose language is not given. -/
  current : Option Language := none
  /-- The media type of the target. -/
  mediaType : Option String := none
  /-- The size of the target in bytes. -/
  size : Option UInt32 := none
  /-- What to do with the target. -/
  action : Option Action := none
  /-- The record whose parts the icon is built from; the records behind it do not matter. -/
  icon : Option StoredRecord := none

namespace StoredDraft

/-- A new record for the media type of the target. -/
def buildMediaType (name : String) : Except StoreError StoredRecord :=
  if MediaType.isType name then
    StoredRecord.buildWellKnown PosterPart.mediaTypeType [] (Utf8.encode name)
  else .error (.refused (.invalidMediaType name))

/-- The records of the poster, each as if it stood alone. -/
def records (d : StoredDraft) : Except StoreError (List StoredRecord) := do
  let uri ← StoredRecord.buildUri d.uri
  let title ← d.title.mapM fun title =>
    StoredRecord.buildTextOrDefault (some title) d.language .utf8 d.current
  let action ← d.action.mapM fun action =>
    StoredRecord.buildWellKnown PosterPart.actionType [] [action.code]
  let size ← d.size.mapM fun size =>
    StoredRecord.buildWellKnown PosterPart.sizeType [] (Bytes.ofNat 4 size.toNat)
  let mediaType ← d.mediaType.mapM buildMediaType
  let icon ← d.icon.mapM fun r => StoredRecord.build r.tnf r.type r.id r.payload
  return uri :: title.toList ++ action.toList ++ size.toList ++ mediaType.toList ++ icon.toList

end StoredDraft

namespace StoredRecord

/-- Puts a record behind others: the one before it no longer ends the message, and the record
itself no longer begins it. -/
def join (records : List StoredRecord) (r : StoredRecord) : List StoredRecord :=
  match records.getLast? with
  | none => [r]
  | some before =>
    records.dropLast ++ [before.clearFlags ⟨false, true⟩, r.clearFlags ⟨true, false⟩]

/-- A new smart poster record. -/
def buildSmartPoster (d : StoredDraft) : Except StoreError StoredRecord := do
  let records ← d.records
  buildAs .smartPoster ((records.foldl join []).flatMap bytes)

end StoredRecord

end Ndef
