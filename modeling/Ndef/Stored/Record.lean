import Ndef.RecordChain
import Ndef.Stored.Framing

/-!
# Stored records

A record is stored with all that is known of it, and with a link to the record behind it: the
format of its type name, the type as which it was interpreted, its place, its bytes, where its
fields stand in these, and its content.  So the same facts are stored several times, and every
operation that makes or changes a stored record has to keep them in step.
-/

namespace Ndef

/-- What is stored of a smart poster whose icon is stored as a `ρ`. -/
structure StoredPoster (ρ : Type) where
  /-- The address of the target. -/
  uri : String
  /-- The title. -/
  title : Option String
  /-- The tag of the title's language. -/
  language : Option String
  /-- The media type of the target. -/
  mediaType : Option String
  /-- The size of the target in bytes. -/
  size : Option UInt32
  /-- What to do with the target. -/
  action : Option Action
  /-- An image or a video that stands for the target. -/
  icon : Option ρ

/-- What is stored of the content of a record. -/
inductive StoredContent (ρ : Type) where
  /-- The payload is not interpreted. -/
  | generic
  | uri (uri : String)
  | text (text : Text)
  | smartPoster (poster : StoredPoster ρ)

/-- A record as it is stored, with the records behind it. -/
structure StoredRecord where
  /-- The format of the type name. -/
  tnf : Tnf
  /-- The well-known type as which the record was interpreted. -/
  wellKnown? : Option WellKnown
  /-- The place in the message as the header has it. -/
  position : Position
  /-- The record as it stands on the wire. -/
  bytes : Bytes
  /-- Where the type name stands in the bytes. -/
  typeRange : Range
  /-- Where the id stands in the bytes, if there is one. -/
  idRange : Option Range
  /-- Where the payload stands in the bytes. -/
  payloadRange : Range
  /-- What the payload says. -/
  content : StoredContent StoredRecord
  /-- The record behind this one, if there is one. -/
  next? : Option StoredRecord

namespace StoredRecord

/-- The record of a message of no bytes. -/
def empty : StoredRecord where
  tnf := .empty
  wellKnown? := none
  position := .inner
  bytes := []
  typeRange := ⟨0, 0⟩
  idRange := none
  payloadRange := ⟨0, 0⟩
  content := .generic
  next? := none

/-- A record that is framed, with what it was found to say. -/
def ofRaw (raw : RawRecord) (w : Option WellKnown) (content : StoredContent StoredRecord) :
    StoredRecord where
  tnf := raw.tnf
  wellKnown? := w
  position := .ofBits raw.header
  bytes := raw.bytes
  typeRange := raw.type
  idRange := raw.id
  payloadRange := raw.payload
  content := content
  next? := none

/-- The type name. -/
def type (r : StoredRecord) : Bytes :=
  r.bytes.slice r.typeRange

/-- The id; an empty id differs from none. -/
def id (r : StoredRecord) : Option Bytes :=
  r.idRange.map r.bytes.slice

/-- The payload. -/
def payload (r : StoredRecord) : Bytes :=
  r.bytes.slice r.payloadRange

/-- The URI of a URI record. -/
def uri? (r : StoredRecord) : Option String :=
  match r.content with
  | .uri address => some address
  | _ => none

/-- The text of a text record. -/
def text? (r : StoredRecord) : Option Text :=
  match r.content with
  | .text t => some t
  | _ => none

/-- The poster of a smart poster record. -/
def smartPoster? (r : StoredRecord) : Option (StoredPoster StoredRecord) :=
  match r.content with
  | .smartPoster poster => some poster
  | _ => none

/-- The icon of a smart poster record. -/
def icon? (r : StoredRecord) : Option StoredRecord :=
  r.smartPoster?.bind (·.icon)

/-- Whether the record is well-known with the given type name, interpreted or not. -/
def hasWellKnownType (r : StoredRecord) (type : Bytes) : Bool :=
  r.tnf = .wellKnown && r.type = type

/-- Takes the record away from the ends of the message at which `p` is, also in its bytes. -/
def clearFlags (r : StoredRecord) (p : Position) : StoredRecord :=
  { r with
    position := r.position.diff p
    bytes := r.bytes.modifyHead (· &&& ~~~p.bits) }

/-! ### Walking -/

/-- The stored records that begin with a record of the chain, in order. -/
def nodes (r : StoredRecord) : List StoredRecord :=
  match r with
  | { next? := none, .. } => [r]
  | { next? := some s, .. } => r :: s.nodes

/-- The number of records that a walk comes to. -/
def length (r : StoredRecord) : Nat :=
  r.nodes.length

/-! ### Linking -/

/-- The first record alone, and what was behind it. -/
def takeNext (r : StoredRecord) : StoredRecord × Option StoredRecord :=
  ({ r with next? := none }, r.next?)

/-- Links the records, from the last one to the first; what was behind them is dropped. -/
def relink? (records : List StoredRecord) : Option StoredRecord :=
  records.reverse.foldl (fun behind r => some { r with next? := behind }) none

/-- Puts the records, each of them alone, behind those in `before`, which is reversed. -/
def breakUpBehind (before : List StoredRecord) (r : StoredRecord) : List StoredRecord :=
  match r with
  | { next? := none, .. } => (r.takeNext.1 :: before).reverse
  | { next? := some s, .. } => s.breakUpBehind (r.takeNext.1 :: before)

/-- Each record alone. -/
def breakUp (r : StoredRecord) : List StoredRecord :=
  r.breakUpBehind []

/-- Puts records behind the last one. -/
def append (r s : StoredRecord) : StoredRecord :=
  match r with
  | { next? := none, .. } => { r with next? := some s }
  | { next? := some n, .. } => { r with next? := some (n.append s) }

/-! ### Copying -/

/-- What is stored of the record itself, with a copy of its content. -/
def aloneWith (r : StoredRecord) (content : StoredContent StoredRecord) : StoredRecord where
  tnf := r.tnf
  wellKnown? := r.wellKnown?
  position := r.position
  bytes := r.bytes
  typeRange := r.typeRange
  idRange := r.idRange
  payloadRange := r.payloadRange
  content := content
  next? := none

-- Icons are records, so copying a content copies a chain of records.
mutual

/-- A copy of each record of a chain, alone. -/
def copies (r : StoredRecord) : List StoredRecord :=
  match r with
  | { content, next?, .. } => r.aloneWith (copyContent content) :: copiesBehind next?

/-- A copy of each record behind a link, alone. -/
def copiesBehind : Option StoredRecord → List StoredRecord
  | none => []
  | some r => r.copies

/-- A copy of a content. -/
def copyContent : StoredContent StoredRecord → StoredContent StoredRecord
  | .generic => .generic
  | .uri address => .uri address
  | .text t => .text t
  | .smartPoster p => .smartPoster (copyPoster p)

/-- A copy of a poster. -/
def copyPoster : StoredPoster StoredRecord → StoredPoster StoredRecord
  | ⟨uri, title, language, mediaType, size, action, icon⟩ =>
    ⟨uri, title, language, mediaType, size, action, copyIcon icon⟩

/-- A copy of an icon. -/
def copyIcon : Option StoredRecord → Option StoredRecord
  | none => none
  | some r => relink? r.copies

end

/-- A copy of the record alone. -/
def detached (r : StoredRecord) : StoredRecord :=
  r.aloneWith (copyContent r.content)

/-- A copy of the chain. -/
def copy (r : StoredRecord) : StoredRecord :=
  { r.detached with next? := relink? (copiesBehind r.next?) }

/-! ### Comparing -/

/-- Whether two records agree in all but their contents and the records behind them. -/
def sameFields (r s : StoredRecord) : Bool :=
  r.tnf == s.tnf && r.wellKnown? == s.wellKnown? && r.position == s.position
    && r.bytes == s.bytes && r.typeRange == s.typeRange && r.idRange == s.idRange
    && r.payloadRange == s.payloadRange

mutual

/-- Whether walks along two chains come to the same records and end together. -/
def same (r s : StoredRecord) : Bool :=
  match r with
  | { content, next?, .. } =>
    r.sameFields s && sameContent content s.content && sameBehind next? s.next?

/-- Whether there are the same records behind two links, or none. -/
def sameBehind : Option StoredRecord → Option StoredRecord → Bool
  | none, none => true
  | some r, some s => r.same s
  | _, _ => false

/-- Whether two contents are the same. -/
def sameContent : StoredContent StoredRecord → StoredContent StoredRecord → Bool
  | .generic, .generic => true
  | .uri a, .uri b => a == b
  | .text t, .text u => t == u
  | .smartPoster p, .smartPoster q => samePoster p q
  | _, _ => false

/-- Whether two posters are the same. -/
def samePoster : StoredPoster StoredRecord → StoredPoster StoredRecord → Bool
  | ⟨uri, title, language, mediaType, size, action, icon⟩, q =>
    uri == q.uri && title == q.title && language == q.language && mediaType == q.mediaType
      && size == q.size && action == q.action && sameBehind icon q.icon

end

/-! ### Writing -/

/-- The bytes of a message of the given records; records without bytes are left out. -/
def encodeRecords (records : List StoredRecord) : Bytes :=
  let written := (records.map bytes).filter (· ≠ [])
  let count := written.length
  (written.mapIdx fun i b => b.modifyHead fun header =>
    header &&& ~~~Position.alone.bits ||| Position.bits ⟨i = 0, i + 1 = count⟩).flatten

/-- The bytes of a message of the records of a chain. -/
def encode (r : StoredRecord) : Bytes :=
  encodeRecords r.nodes

end StoredRecord

/-! ### The records that are stored -/

/-- The poster that is stored. -/
def StoredPoster.poster (p : StoredPoster StoredRecord) : SmartPoster where
  uri := p.uri
  title := do return { content := ← p.title, language := ← p.language }
  mediaType := p.mediaType
  size := p.size
  action := p.action
  icon := p.icon.bind fun i => (Frame.read? i.bytes).map Prod.fst

/-- The content that is stored. -/
def StoredContent.content : StoredContent StoredRecord → Content
  | generic => .generic
  | uri address => .uri address
  | text t => .text t
  | smartPoster p => .smartPoster p.poster

namespace StoredRecord

/-- The record that is stored, read off its bytes and its content. -/
def record (r : StoredRecord) : Record :=
  match Frame.read? r.bytes with
  | some (f, _) => .framed f r.content.content
  | none => .empty

/-- The chain that is stored. -/
def chain (r : StoredRecord) : RecordChain :=
  match r with
  | { next? := none, .. } => .node r.record none
  | { next? := some s, .. } => .node r.record (some s.chain)

end StoredRecord

end Ndef
