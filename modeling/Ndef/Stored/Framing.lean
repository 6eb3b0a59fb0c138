import Ndef.BuildError
import Ndef.Layout
import Ndef.Payload.Error

/-!
# Framing

A record is framed at the front of a byte string by position: the header and the length
fields tell where type, id and payload begin and end.  What is framed is the bytes of the
record and the ranges of its fields in them (`RawRecord.frame`).
-/

namespace Ndef

/-- Why no record is framed. -/
inductive FramingError where
  /-- The record is longer than the byte string. -/
  | truncated (needed available : Nat)
  /-- The payload is too long for a record. -/
  | payloadTooLong (length : Nat)
deriving DecidableEq

/-- The wording of the error. -/
def FramingError.message : FramingError → String
  | truncated needed available => (PayloadError.truncated needed available).message
  | payloadTooLong length => (BuildError.payloadTooLong length).message

namespace Bytes

/-- The bytes up to a position, if there are so many. -/
def upTo (b : Bytes) (stop : Nat) : Except FramingError Bytes :=
  match split? stop b with
  | some (front, _) => .ok front
  | none => .error (.truncated stop b.length)

/-- The number written in the bytes of a range. -/
def numberAt (b : Bytes) (r : Range) : Except FramingError Nat := do
  let front ← b.upTo r.stop
  return toNat (front.drop r.start)

theorem length_of_upTo {b front : Bytes} {stop : Nat} (h : b.upTo stop = .ok front) :
  front.length = stop ∧ stop ≤ b.length
  := by
  rw [upTo] at h
  split at h
  · next hsplit =>
    cases h
    obtain ⟨rfl, hlength⟩ := split?_eq_some_iff.mp hsplit
    simp [hlength]
  · cases h

end Bytes

/-- A record that is framed: its header and bytes, and the ranges of its fields in these. -/
structure RawRecord extends Layout where
  header : UInt8
  bytes : Bytes
deriving DecidableEq

namespace RawRecord

/-- The format of the type name. -/
def tnf (raw : RawRecord) : Tnf :=
  .ofBits raw.header

/-- Whether the payload is a chunk of a longer one. -/
def isChunk (raw : RawRecord) : Bool :=
  raw.header &&& 0x20 != 0

/-- The bytes of the type name. -/
def typeBytes (raw : RawRecord) : Bytes :=
  raw.bytes.slice raw.type

/-- The bytes of the payload. -/
def payloadBytes (raw : RawRecord) : Bytes :=
  raw.bytes.slice raw.payload

/-- The record at the front of a byte string that begins with the header and the type length. -/
def frameFields (header typeLength : UInt8) (b : Bytes) : Except FramingError RawRecord := do
  let short := header &&& 0x10 != 0
  let hasId := header &&& 0x08 != 0
  let lengthField := Range.from 2 (Frame.lengthWidth short)
  let payload ← b.numberAt lengthField
  if payload < Frame.lengthBound short then
    let idField := Range.from lengthField.stop (Frame.idWidth hasId)
    let id ← b.numberAt idField
    let layout := Layout.ofLengths idField.stop typeLength.toNat
      (if hasId then some id else none) payload
    let bytes ← b.upTo layout.payload.stop
    .ok { layout with header, bytes }
  else .error (.payloadTooLong payload)

/-- The record at the front of a byte string. -/
def frame (b : Bytes) : Except FramingError RawRecord :=
  match b with
  | header :: typeLength :: _ :: _ => frameFields header typeLength b
  | _ => .error (.truncated 3 b.length)

/-- A record takes bytes off the front of the byte string. -/
theorem length_of_frame {b : Bytes} {raw : RawRecord} (h : frame b = .ok raw) :
  0 < raw.bytes.length ∧ raw.bytes.length ≤ b.length
  := by
  unfold frame at h
  split at h
  · simp only [frameFields, bind, Except.bind] at h
    split at h
    · cases h
    · split at h
      · split at h
        · cases h
        · split at h
          · cases h
          · next bytes hbytes =>
            cases h
            obtain ⟨hlength, hle⟩ := Bytes.length_of_upTo hbytes
            have hheader : 2 ≤ bytes.length := by
              rw [hlength]
              simp only [Layout.ofLengths, Range.from]
              omega
            dsimp only
            omega
      · cases h
  · cases h

/-- The reader of framed records. -/
def reader : Reader UInt8 RawRecord where
  read b :=
    match frame b with
    | .ok raw => some (raw, b.drop raw.bytes.length)
    | .error _ => none
  shorter := by
    intro b raw rest h
    split at h
    · next hframe =>
      cases h
      obtain ⟨hpos, hle⟩ := length_of_frame hframe
      rw [List.length_drop]
      omega
    · cases h

end RawRecord

end Ndef
