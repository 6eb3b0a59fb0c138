import Ndef.Header
import Ndef.Reader

/-!
# Frames

A frame is one record on the wire, before its payload is interpreted: the header,
the lengths of type, payload and id, and then these three.  `Frame.bytes` writes a
frame and `Frame.read?` takes one off the front of a byte string; reading accepts
exactly what writing a frame that fits its length fields produces.
-/

namespace Ndef

/-- One record on the wire. -/
structure Frame where
  /-- The place in the message. -/
  position : Position
  /-- The payload is a chunk of a longer one. -/
  chunked : Bool
  /-- The payload length takes one byte. -/
  short : Bool
  /-- The format of the type name. -/
  tnf : Tnf
  /-- The type name. -/
  type : Bytes
  /-- The id; an empty id differs from none. -/
  id : Option Bytes
  /-- The payload. -/
  payload : Bytes
deriving DecidableEq

namespace Frame

/-- The number of bytes of a payload length. -/
def lengthWidth (short : Bool) : Nat :=
  if short then 1 else 4

/-- The bound on payload lengths; the long form leaves its highest bit unused. -/
def lengthBound (short : Bool) : Nat :=
  if short then 0x100 else 0x80000000

/-- The number of bytes of an id length. -/
def idWidth (hasId : Bool) : Nat :=
  if hasId then 1 else 0

/-- Type, id and payload are not too long for their length fields. -/
def Fits (f : Frame) : Prop :=
  f.type.length < 0x100 ∧ (f.id.getD []).length < 0x100
    ∧ f.payload.length < lengthBound f.short

instance (f : Frame) : Decidable f.Fits :=
  inferInstanceAs (Decidable (_ ∧ _ ∧ _))

/-- The header of a frame. -/
def header (f : Frame) : Header where
  position := f.position
  chunked := f.chunked
  short := f.short
  hasId := f.id.isSome
  tnf := f.tnf

/-- The fields after header and type length. -/
def fields (f : Frame) : Bytes :=
  Bytes.ofNat (lengthWidth f.short) f.payload.length
    ++ (Bytes.ofNat (idWidth f.id.isSome) (f.id.getD []).length
      ++ (f.type ++ (f.id.getD [] ++ f.payload)))

/-- The frame as it stands on the wire. -/
def bytes (f : Frame) : Bytes :=
  f.header.byte :: UInt8.ofNat f.type.length :: f.fields

/-- The frame at the front, if it is complete, and the rest. -/
def read? : Bytes → Option (Frame × Bytes)
  | first :: typeLength :: s => do
    let header := Header.ofByte first
    let (length, s) ← Bytes.split? (lengthWidth header.short) s
    if Bytes.toNat length < lengthBound header.short then
      let (idLength, s) ← Bytes.split? (idWidth header.hasId) s
      let (type, s) ← Bytes.split? typeLength.toNat s
      let (id, s) ← Bytes.split? (Bytes.toNat idLength) s
      let (payload, s) ← Bytes.split? (Bytes.toNat length) s
      some ({
        position := header.position
        chunked := header.chunked
        short := header.short
        tnf := header.tnf
        type := type
        id := if header.hasId then some id else none
        payload := payload }, s)
    else none
  | _ => none

theorem lengthBound_le (short : Bool) :
  lengthBound short ≤ Bytes.capacity (lengthWidth short)
  := by
  cases short <;> decide

/-- A frame that fits is read back from its bytes, whatever follows them. -/
theorem read?_bytes_append {f : Frame} (h : f.Fits) (rest : Bytes) :
  read? (f.bytes ++ rest) = some (f, rest)
  := by
  obtain ⟨position, chunked, short, tnf, type, id, payload⟩ := f
  obtain ⟨htype, hid, hpayload⟩ := h
  have htypeLength : (UInt8.ofNat type.length).toNat = type.length := by
    rw [UInt8.toNat_ofNat', Nat.mod_eq_of_lt htype]
  have hlength :
      Bytes.toNat (Bytes.ofNat (lengthWidth short) payload.length) = payload.length :=
    Bytes.toNat_ofNat (Nat.lt_of_lt_of_le hpayload (lengthBound_le short))
  have hidLength :
      Bytes.toNat (Bytes.ofNat (idWidth id.isSome) (id.getD []).length) = (id.getD []).length := by
    cases id with
    | none => rfl
    | some i => exact Bytes.toNat_ofNat hid
  have hguard : payload.length < lengthBound short := hpayload
  have split (front rest : Bytes) (n : Nat) (hn : front.length = n) :
      Bytes.split? n (front ++ rest) = some (front, rest) :=
    Bytes.split?_eq_some_iff.mpr ⟨rfl, hn⟩
  simp only [bytes, fields, List.cons_append, List.append_assoc, read?]
  rw [Header.ofByte_byte]
  simp only [header]
  rw [split _ _ _ (Bytes.length_ofNat _ _)]
  simp only [Option.bind_eq_bind, Option.bind_some, hlength, hguard, if_true]
  rw [split _ _ _ (Bytes.length_ofNat _ _), Option.bind_some, split _ _ _ htypeLength.symm,
    Option.bind_some, split _ _ _ hidLength.symm, Option.bind_some, split _ _ _ rfl]
  cases id <;> rfl

/-- What is read stands in front of the rest, and fits. -/
theorem eq_bytes_append_of_read? {s rest : Bytes} {f : Frame} (h : read? s = some (f, rest)) :
  s = f.bytes ++ rest ∧ f.Fits
  := by
  unfold read? at h
  split at h
  · next first typeLength s =>
    simp only [Option.bind_eq_bind, Option.bind_eq_some_iff] at h
    obtain ⟨⟨length, s₁⟩, hlength, h⟩ := h
    split at h
    · next hbound =>
      simp only [Option.bind_eq_some_iff] at h
      obtain ⟨⟨idLength, s₂⟩, hidLength, ⟨type, s₃⟩, htype, ⟨id, s₄⟩, hid, ⟨payload, s₅⟩,
        hpayload, h⟩ := h
      simp only [Option.some.injEq, Prod.mk.injEq] at h
      obtain ⟨rfl, rfl⟩ := h
      rw [Bytes.split?_eq_some_iff] at hlength hidLength htype hid hpayload
      have hfirst : (Header.ofByte first).byte = first := Header.byte_ofByte first
      generalize Header.ofByte first = header at *
      obtain ⟨position, chunked, short, hasId, tnf⟩ := header
      obtain ⟨rfl, hlengthWidth⟩ := hlength
      obtain ⟨rfl, hidWidth⟩ := hidLength
      obtain ⟨rfl, htypeLength⟩ := htype
      obtain ⟨rfl, hidLength⟩ := hid
      obtain ⟨rfl, hpayloadLength⟩ := hpayload
      have htypeByte : UInt8.ofNat type.length = typeLength := by
        rw [htypeLength, UInt8.ofNat_toNat]
      have htypeLt : type.length < 0x100 := by
        rw [htypeLength]
        exact typeLength.toNat_lt
      have hlengthBytes : Bytes.ofNat (lengthWidth short) payload.length = length := by
        rw [hpayloadLength, ← hlengthWidth, Bytes.ofNat_toNat]
      have hpayloadLt : payload.length < lengthBound short := by
        rw [hpayloadLength]
        exact hbound
      cases hasId with
      | false =>
        obtain rfl := List.length_eq_zero_iff.mp hidWidth
        obtain rfl := List.length_eq_zero_iff.mp hidLength
        refine ⟨?_, htypeLt, Nat.zero_lt_succ _, hpayloadLt⟩
        simp [bytes, fields, Frame.header, hfirst, htypeByte, hlengthBytes, idWidth, Bytes.ofNat]
      | true =>
        have hidBytes : Bytes.ofNat 1 id.length = idLength := by
          have h := Bytes.ofNat_toNat idLength
          rwa [hidWidth, ← hidLength] at h
        have hidLt : id.length < 0x100 := by
          have h := Bytes.toNat_lt idLength
          rwa [hidWidth, ← hidLength] at h
        refine ⟨?_, htypeLt, hidLt, hpayloadLt⟩
        simp [bytes, fields, Frame.header, hfirst, htypeByte, hlengthBytes, idWidth, hidBytes]
    · cases h
  · cases h

/-- Reading accepts exactly what writing a frame that fits produces. -/
theorem read?_eq_some_iff {s rest : Bytes} {f : Frame} :
  read? s = some (f, rest) ↔ s = f.bytes ++ rest ∧ f.Fits
  := by
  constructor
  · exact eq_bytes_append_of_read?
  · rintro ⟨rfl, h⟩
    exact read?_bytes_append h rest

/-- The reader of frames. -/
def reader : Reader UInt8 Frame where
  read := read?
  shorter := by
    intro s f rest h
    rw [(eq_bytes_append_of_read? h).1]
    simp only [bytes, List.cons_append, List.length_cons, List.length_append]
    omega

/-- The frames at the front of a byte string, up to the first that is not complete. -/
def ofBytes (s : Bytes) : List Frame :=
  (reader.all s).1

end Frame

end Ndef
