import Mathlib.Tactic.Common
import Ndef.Proofs.Genuine
import Ndef.Proofs.RawFraming
import Ndef.Proofs.Splicing
import Ndef.Stored.Record

/-!
# The stored form of records

A record has one stored form (`Record.stored`), in which all that is stored is in step: the
bytes and ranges are those of its frame, and the rest is told by these and by its content.
What is read off the stored form is what the record says, and taking a record away from the
ends of its message yields the stored form of its frame at another place
(`Record.clearFlags_stored`).  A genuine record is told by its stored form
(`Record.Genuine.record_stored`).
-/

namespace Ndef

/-! ### Stored forms -/

/-- A frame stored without being interpreted. -/
def StoredRecord.uninterpreted (f : Frame) : StoredRecord :=
  .ofRaw (.ofFrame f) none .generic

/-- What is stored of a smart poster. -/
def SmartPoster.stored (p : SmartPoster) : StoredPoster StoredRecord where
  uri := p.uri
  title := p.title.map (·.content)
  language := p.title.map (·.language)
  mediaType := p.mediaType
  size := p.size
  action := p.action
  icon := p.icon.map .uninterpreted

/-- What is stored of a content. -/
def Content.stored : Content → StoredContent StoredRecord
  | generic => .generic
  | uri address => .uri address
  | text t => .text t
  | smartPoster p => .smartPoster p.stored

/-- What is stored of a record that stands alone. -/
def Record.stored : Record → StoredRecord
  | empty => .empty
  | framed f c => .ofRaw (.ofFrame f) c.wellKnown? c.stored

/-- What is stored of a chain. -/
def RecordChain.stored : RecordChain → StoredRecord
  | node r none => r.stored
  | node r (some c) => { r.stored with next? := some c.stored }

namespace Content

variable {c : Content}

theorem stored_eq_uri_iff {u : String} :
  c.stored = .uri u ↔ c = .uri u
  := by
  cases c <;> simp [stored]

theorem stored_eq_text_iff {t : Text} :
  c.stored = .text t ↔ c = .text t
  := by
  cases c <;> simp [stored]

theorem stored_eq_smartPoster_iff {p : StoredPoster StoredRecord} :
  c.stored = .smartPoster p ↔ ∃ q, c = .smartPoster q ∧ q.stored = p
  := by
  cases c <;> simp [stored]

end Content

/-! ### What is read off a stored record -/

namespace Record

@[simp] theorem tnf_stored (r : Record) :
  r.stored.tnf = r.tnf
  := by
  cases r with
  | empty => rfl
  | framed f c => exact RawRecord.tnf_ofFrame f

@[simp] theorem wellKnown?_stored (r : Record) :
  r.stored.wellKnown? = r.wellKnown?
  := by
  cases r <;> rfl

@[simp] theorem position_stored (r : Record) :
  r.stored.position = r.position
  := by
  cases r with
  | empty => rfl
  | framed f c => exact congrArg Header.position (Header.ofByte_byte f.header)

@[simp] theorem bytes_stored (r : Record) :
  r.stored.bytes = r.bytes
  := by
  cases r <;> rfl

@[simp] theorem content_stored (r : Record) :
  r.stored.content = r.content.stored
  := by
  cases r <;> rfl

@[simp] theorem next?_stored (r : Record) :
  r.stored.next? = none
  := by
  cases r <;> rfl

@[simp] theorem type_stored (r : Record) :
  r.stored.type = r.type
  := by
  cases r with
  | empty => rfl
  | framed f c => exact f.slice_type

@[simp] theorem id_stored (r : Record) :
  r.stored.id = r.id
  := by
  cases r with
  | empty => rfl
  | framed f c => exact f.slice_id

@[simp] theorem payload_stored (r : Record) :
  r.stored.payload = r.payload
  := by
  cases r with
  | empty => rfl
  | framed f c => exact f.slice_payload

theorem icon?_stored (r : Record) :
  r.stored.icon? = (r.smartPoster?.bind (·.icon)).map .uninterpreted
  := by
  rw [StoredRecord.icon?, StoredRecord.smartPoster?, content_stored, smartPoster?]
  cases r.content <;> rfl

/-- Nothing is behind the stored form of a record. -/
theorem stored_alone (r : Record) :
  { r.stored with next? := none } = r.stored
  := by
  cases r <;> rfl

end Record

/-- The first record and the stored form of what is behind it are what is stored of a chain. -/
theorem RecordChain.stored_node (r : Record) (c? : Option RecordChain) :
  (node r c?).stored = { r.stored with next? := c?.map stored }
  := by
  cases c? with
  | none => exact r.stored_alone.symm
  | some c => rfl

/-! ### Clearing flags -/

/-- Clearing the bits of a place in a header takes it away from that end of the message. -/
theorem Header.byte_and_not_bits (h : Header) (p : Position) :
  h.byte &&& ~~~p.bits = { h with position := h.position.diff p }.byte
  := by
  have hbyte (b : UInt8) : ∀ first last : Bool,
      (ofByte b).byte &&& ~~~(Position.mk first last).bits
        = { ofByte b with position := (ofByte b).position.diff ⟨first, last⟩ }.byte := by
    revert b
    apply Bytes.forall_byte
    decide +kernel
  have hclear := hbyte h.byte p.first p.last
  rw [ofByte_byte] at hclear
  apply hclear

/-- A frame is taken away from ends of the message by clearing bits of its first byte. -/
theorem Frame.bytes_moved_diff (f : Frame) (p : Position) :
  (f.moved (f.position.diff p)).bytes = f.bytes.modifyHead (· &&& ~~~p.bits)
  := by
  have hheader : (f.moved (f.position.diff p)).header.byte = f.header.byte &&& ~~~p.bits :=
    (f.header.byte_and_not_bits p).symm
  rw [bytes, hheader]
  rfl

namespace Record

/-- The record away from the ends of the message at which `p` is. -/
def cleared (r : Record) (p : Position) : Record :=
  match r with
  | empty => empty
  | framed f c => framed (f.moved (f.position.diff p)) c

/-- Clearing the flags of a stored record keeps all that is stored of it in step. -/
theorem clearFlags_stored (r : Record) (p : Position) :
  r.stored.clearFlags p = (r.cleared p).stored
  := by
  cases r with
  | empty => rfl
  | framed f c =>
    let g := f.moved (f.position.diff p)
    have htnf : (RawRecord.ofFrame f).tnf = (RawRecord.ofFrame g).tnf := by
      rw [RawRecord.tnf_ofFrame, RawRecord.tnf_ofFrame]
      rfl
    have hposition : (framed f c).stored.position.diff p = (framed g c).stored.position := by
      rw [position_stored, position_stored]
      rfl
    have hbytes : f.bytes.modifyHead (· &&& ~~~p.bits) = g.bytes := (f.bytes_moved_diff p).symm
    change { StoredRecord.ofRaw (.ofFrame f) c.wellKnown? c.stored with
      position := (framed f c).stored.position.diff p
      bytes := f.bytes.modifyHead (· &&& ~~~p.bits) } = _
    rw [hposition, hbytes, StoredRecord.ofRaw, htnf]
    rfl

theorem cleared_ofFrame (language : Option Language) (f : Frame) (p : Position) :
  (ofFrame language f).cleared p = ofFrame language (f.moved (f.position.diff p))
  := rfl

theorem Genuine.cleared {language : Option Language} {r : Record} (h : r.Genuine language)
    (p : Position) :
  (r.cleared p).Genuine language
  := by
  rcases h with rfl | ⟨f, hfits, hwhole, rfl⟩
  · apply genuine_empty
  · right
    exact ⟨f.moved (f.position.diff p), hfits, hwhole, cleared_ofFrame language f p⟩

end Record

/-! ### Records told by their stored forms -/

/-- A poster whose icon is a frame that fits is told by what is stored of it. -/
theorem SmartPoster.poster_stored {p : SmartPoster} (h : ∀ f, p.icon = some f → f.Fits) :
  p.stored.poster = p
  := by
  obtain ⟨uri, title, mediaType, size, action, icon⟩ := p
  have htitle : (do return PosterTitle.mk (← title.map (·.content)) (← title.map (·.language)))
      = title := by
    cases title <;> rfl
  have hicon : ((icon.map StoredRecord.uninterpreted).bind
      fun i => (Frame.read? i.bytes).map Prod.fst) = icon := by
    cases icon with
    | none => rfl
    | some f =>
      have hread := Frame.read?_bytes_append (h f rfl) []
      rw [List.append_nil] at hread
      change (Frame.read? f.bytes).map Prod.fst = some f
      rw [hread]
      rfl
  rw [stored, StoredPoster.poster, htitle, hicon]

namespace Record

theorem Genuine.fits {language : Option Language} {f : Frame} {c : Content}
    (h : (framed f c).Genuine language) :
  f.Fits
  := by
  rcases h with h | ⟨g, hfits, -, h⟩
  · cases h
  · obtain rfl : f = g := Option.some.inj (congrArg frame? h)
    apply hfits

/-- The content of a genuine record is told by what is stored of it. -/
theorem Genuine.content_stored {language : Option Language} {r : Record}
    (h : r.Genuine language) :
  r.content.stored.content = r.content
  := by
  cases hc : r.content with
  | smartPoster p =>
    apply congrArg Content.smartPoster
    apply SmartPoster.poster_stored
    intro f hf
    apply (h.icon hc hf none).1.fits
  | _ => rfl

/-- A genuine record is told by its stored form. -/
theorem Genuine.record_stored {language : Option Language} {r : Record}
    (h : r.Genuine language) :
  r.stored.record = r
  := by
  have hcontent := h.content_stored
  rcases h with rfl | ⟨f, hfits, hwhole, rfl⟩
  · rfl
  · have hread : Frame.read? (ofFrame language f).bytes = some (f, []) := by
      have hread := Frame.read?_bytes_append hfits []
      rw [List.append_nil] at hread
      apply hread
    rw [StoredRecord.record, bytes_stored, hread, Record.content_stored, hcontent]
    rfl

end Record

end Ndef
