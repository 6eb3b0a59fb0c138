import Ndef.Bytes

/-!
# Record headers

The first byte of a record: the place of the record in its message, whether it is
a chunk, whether its payload length takes one byte, whether it has an id, and the
format of its type name.  A header is recovered from its byte, and every byte is the
byte of a header.
-/

namespace Ndef

/-- The type name format: how the type of a record is to be understood. -/
inductive Tnf where
  | empty
  | wellKnown
  | mediaType
  | absoluteUri
  | external
  | unknown
  | unchanged
  | reserved
deriving DecidableEq

namespace Tnf

/-- The low three bits of a header. -/
def bits : Tnf → UInt8
  | empty => 0
  | wellKnown => 1
  | mediaType => 2
  | absoluteUri => 3
  | external => 4
  | unknown => 5
  | unchanged => 6
  | reserved => 7

/-- The format that the low three bits name. -/
def ofBits (b : UInt8) : Tnf :=
  match b.toNat % 8 with
  | 0 => empty
  | 1 => wellKnown
  | 2 => mediaType
  | 3 => absoluteUri
  | 4 => external
  | 5 => unknown
  | 6 => unchanged
  | _ => reserved

end Tnf

/-- The place of a record in its message. -/
structure Position where
  /-- The record begins the message. -/
  first : Bool
  /-- The record ends the message. -/
  last : Bool
deriving DecidableEq

namespace Position

/-- The place of a record that neither begins nor ends its message. -/
def inner : Position := ⟨false, false⟩

/-- The place of the only record of a message. -/
def alone : Position := ⟨true, true⟩

/-- The ends of the message at which one of the places is. -/
def union (p q : Position) : Position :=
  ⟨p.first || q.first, p.last || q.last⟩

/-- The ends of the message at which `p` is and `q` is not. -/
def diff (p q : Position) : Position :=
  ⟨p.first && !q.first, p.last && !q.last⟩

/-- Whether `p` is at every end of the message at which `q` is. -/
def includes (p q : Position) : Bool :=
  (p.first || !q.first) && (p.last || !q.last)

/-- One for the begin of the message and two for its end, added up. -/
def number (p : Position) : Nat :=
  p.first.toNat + 2 * p.last.toNat

/-- The two high bits of a header. -/
def bits (p : Position) : UInt8 :=
  (if p.first then 0x80 else 0) ||| (if p.last then 0x40 else 0)

/-- The place that the two high bits name. -/
def ofBits (b : UInt8) : Position :=
  ⟨b &&& 0x80 != 0, b &&& 0x40 != 0⟩

end Position

/-- The first byte of a record, taken apart. -/
structure Header where
  /-- The place in the message. -/
  position : Position
  /-- The payload is a chunk of a longer one. -/
  chunked : Bool
  /-- The payload length takes one byte. -/
  short : Bool
  /-- The record has an id. -/
  hasId : Bool
  /-- The format of the type name. -/
  tnf : Tnf
deriving DecidableEq

namespace Header

/-- The byte of a header. -/
def byte (h : Header) : UInt8 :=
  h.position.bits ||| (if h.chunked then 0x20 else 0) ||| (if h.short then 0x10 else 0)
    ||| (if h.hasId then 0x08 else 0) ||| h.tnf.bits

/-- The header with the given byte. -/
def ofByte (b : UInt8) : Header where
  position := Position.ofBits b
  chunked := b &&& 0x20 != 0
  short := b &&& 0x10 != 0
  hasId := b &&& 0x08 != 0
  tnf := Tnf.ofBits b

/-- A header is recovered from its byte. -/
theorem ofByte_byte (h : Header) :
  ofByte h.byte = h
  := by
  obtain ⟨⟨first, last⟩, chunked, short, hasId, tnf⟩ := h
  cases first <;> cases last <;> cases chunked <;> cases short <;> cases hasId <;> cases tnf <;> rfl

/-- Every byte is the byte of a header. -/
theorem byte_ofByte (b : UInt8) :
  (ofByte b).byte = b
  := by
  revert b
  apply Bytes.forall_byte
  decide +kernel

end Header

end Ndef
