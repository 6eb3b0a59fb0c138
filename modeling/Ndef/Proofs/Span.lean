import Mathlib.Tactic.Common
import Ndef.Frame
import Ndef.Proofs.Reading

/-!
# Spans

A span is a byte string that is one complete record.  `Spells` describes spans field by
field, in the order of the fields on the wire, and without reading: each length field
announces how long its field is, and the flags of the header say which length fields
there are.  The spans are the bytes of the frames that fit their length fields
(`isSpan_iff`), and hence what `Frame.read?` takes off the front of a byte string
(`Frame.accepts`).
-/

namespace Ndef

/-- `SpellsLength header n s`: after a header with the given byte, `s` is the field for a
payload of `n` bytes. -/
inductive SpellsLength (header : UInt8) : Nat → Bytes → Prop where
  /-- The short form takes one byte. -/
  | short (n : UInt8) (hflag : header &&& 0x10 ≠ 0) : SpellsLength header n.toNat [n]
  /-- The long form takes four bytes, the most significant first. -/
  | long (a b c d : UInt8) (hflag : header &&& 0x10 = 0)
      (hle : a.toNat * 0x1000000 + b.toNat * 0x10000 + c.toNat * 0x100 + d.toNat ≤ 0x7FFFFFFF) :
      SpellsLength header
        (a.toNat * 0x1000000 + b.toNat * 0x10000 + c.toNat * 0x100 + d.toNat) [a, b, c, d]

/-- `SpellsIdLength header id s`: after a header with the given byte, `s` is the length
field for the id. -/
inductive SpellsIdLength (header : UInt8) : Option Bytes → Bytes → Prop where
  /-- Without an id there is no length field. -/
  | absent (hflag : header &&& 0x08 = 0) : SpellsIdLength header none []
  /-- The length of an id takes one byte. -/
  | present (id : Bytes) (n : UInt8) (hflag : header &&& 0x08 ≠ 0) (hlength : id.length = n.toNat) :
      SpellsIdLength header (some id) [n]

/-- `Spells header type id payload s`: the byte string `s` is one complete record with the
given header byte, type, id and payload. -/
inductive Spells (header : UInt8) (type : Bytes) (id : Option Bytes) (payload : Bytes) :
    Bytes → Prop where
  /-- Header and length fields stand in front of type, id and payload. -/
  | mk (typeLength : UInt8) (lengthField idLengthField : Bytes)
      (htype : type.length = typeLength.toNat)
      (hpayload : SpellsLength header payload.length lengthField)
      (hid : SpellsIdLength header id idLengthField) :
      Spells header type id payload
        (header :: typeLength :: (lengthField ++ idLengthField ++ type ++ id.getD [] ++ payload))

/-- A span is one complete record. -/
def IsSpan (s : Bytes) : Prop :=
  ∃ header type id payload, Spells header type id payload s

/-- Whether the chunk flag is set in the header of a span. -/
def isChunk (s : Bytes) : Bool :=
  s.headD 0 &&& 0x20 != 0

/-! ### The flags of a header byte -/

namespace Header

theorem byte_and_first (h : Header) :
  (h.byte &&& 0x80 != 0) = h.position.first
  := congrArg (fun g => g.position.first) (ofByte_byte h)

theorem byte_and_last (h : Header) :
  (h.byte &&& 0x40 != 0) = h.position.last
  := congrArg (fun g => g.position.last) (ofByte_byte h)

theorem byte_and_chunked (h : Header) :
  (h.byte &&& 0x20 != 0) = h.chunked
  := congrArg Header.chunked (ofByte_byte h)

theorem byte_and_short (h : Header) :
  (h.byte &&& 0x10 != 0) = h.short
  := congrArg Header.short (ofByte_byte h)

theorem byte_and_hasId (h : Header) :
  (h.byte &&& 0x08 != 0) = h.hasId
  := congrArg Header.hasId (ofByte_byte h)

theorem ofBits_byte (h : Header) :
  Tnf.ofBits h.byte = h.tnf
  := congrArg Header.tnf (ofByte_byte h)

end Header

/-! ### Length fields -/

namespace Bytes

theorem toNat_one (a : UInt8) :
  toNat [a] = a.toNat
  := by
  simp [toNat, capacity]

theorem toNat_four (a b c d : UInt8) :
  toNat [a, b, c, d] = a.toNat * 0x1000000 + b.toNat * 0x10000 + c.toNat * 0x100 + d.toNat
  := by
  simp only [toNat, capacity, List.length_cons, List.length_nil]
  omega

end Bytes

theorem capacity_idWidth_le (hasId : Bool) :
  Bytes.capacity (Frame.idWidth hasId) ≤ 0x100
  := by
  cases hasId <;> decide

/-- The field for the payload length has the width that the short flag asks for and
writes a number below the bound of that form. -/
theorem spellsLength_iff {header : UInt8} {n : Nat} {s : Bytes} :
  SpellsLength header n s
    ↔ s.length = Frame.lengthWidth (header &&& 0x10 != 0) ∧ Bytes.toNat s = n
      ∧ n < Frame.lengthBound (header &&& 0x10 != 0)
  := by
  constructor
  · rintro (⟨n, hflag⟩ | ⟨a, b, c, d, hflag, hle⟩)
    · have hshort : (header &&& 0x10 != 0) = true := by simpa using hflag
      rw [hshort]
      exact ⟨rfl, Bytes.toNat_one n, n.toNat_lt⟩
    · have hlong : (header &&& 0x10 != 0) = false := by simpa using hflag
      rw [hlong]
      refine ⟨rfl, Bytes.toNat_four a b c d, ?_⟩
      change _ < 0x80000000
      omega
  · rintro ⟨hwidth, rfl, hbound⟩
    cases hflag : header &&& 0x10 != 0 with
    | true =>
      rw [hflag] at hwidth
      obtain ⟨n, rfl⟩ := List.length_eq_one_iff.mp hwidth
      rw [Bytes.toNat_one]
      apply SpellsLength.short
      simpa using hflag
    | false =>
      rw [hflag] at hwidth hbound
      obtain ⟨a, b, c, d, rfl⟩ : ∃ a b c d, s = [a, b, c, d] := by
        match s, hwidth with
        | [a, b, c, d], _ => exact ⟨a, b, c, d, rfl⟩
      rw [Bytes.toNat_four] at hbound ⊢
      apply SpellsLength.long
      · simpa using hflag
      · change _ < 0x80000000 at hbound
        omega

/-- The length field for the id is there if the id is, which the header says, and writes
the length of the id. -/
theorem spellsIdLength_iff {header : UInt8} {id : Option Bytes} {s : Bytes} :
  SpellsIdLength header id s
    ↔ id.isSome = (header &&& 0x08 != 0) ∧ s.length = Frame.idWidth id.isSome
      ∧ Bytes.toNat s = (id.getD []).length
  := by
  constructor
  · rintro (hflag | ⟨id, n, hflag, hlength⟩)
    · simp [hflag, Frame.idWidth, Bytes.toNat]
    · simp [hflag, Frame.idWidth, Bytes.toNat_one, hlength]
  · rintro ⟨hflag, hwidth, hlength⟩
    cases id with
    | none =>
      obtain rfl := List.length_eq_zero_iff.mp hwidth
      apply SpellsIdLength.absent
      simpa using hflag
    | some id =>
      obtain ⟨n, rfl⟩ := List.length_eq_one_iff.mp hwidth
      rw [Bytes.toNat_one] at hlength
      apply SpellsIdLength.present
      · simpa using hflag
      · symm
        apply hlength

/-! ### Spans and frames -/

/-- The reader of frames accepts what writing a frame that fits produces. -/
theorem Frame.accepts :
  Frame.reader.Accepts Frame.bytes Frame.Fits
  := by
  intro s f rest
  apply Frame.read?_eq_some_iff

/-- The bytes of a frame that fits are spelled by its header and its fields. -/
theorem spells_bytes {f : Frame} (h : f.Fits) :
  Spells f.header.byte f.type f.id f.payload f.bytes
  := by
  obtain ⟨htype, hid, hpayload⟩ := h
  have hshort : (f.header.byte &&& 0x10 != 0) = f.short := f.header.byte_and_short
  have hhasId : (f.header.byte &&& 0x08 != 0) = f.id.isSome := f.header.byte_and_hasId
  have hfields : f.bytes = f.header.byte :: UInt8.ofNat f.type.length
      :: (Bytes.ofNat (Frame.lengthWidth f.short) f.payload.length
        ++ Bytes.ofNat (Frame.idWidth f.id.isSome) (f.id.getD []).length
        ++ f.type ++ f.id.getD [] ++ f.payload) := by
    simp [Frame.bytes, Frame.fields]
  rw [hfields]
  apply Spells.mk
  · rw [UInt8.toNat_ofNat', Nat.mod_eq_of_lt htype]
  · rw [spellsLength_iff, hshort]
    refine ⟨Bytes.length_ofNat _ _, ?_, hpayload⟩
    apply Bytes.toNat_ofNat
    apply Nat.lt_of_lt_of_le hpayload (Frame.lengthBound_le f.short)
  · rw [spellsIdLength_iff]
    refine ⟨hhasId.symm, Bytes.length_ofNat _ _, ?_⟩
    cases hcase : f.id with
    | none => rfl
    | some id =>
      rw [hcase] at hid
      apply Bytes.toNat_ofNat hid

/-- What is spelled is the bytes of a frame that fits. -/
theorem Spells.exists_frame {header : UInt8} {type payload s : Bytes} {id : Option Bytes}
    (h : Spells header type id payload s) :
  ∃ f : Frame, f.Fits ∧ f.bytes = s ∧ f.header.byte = header
    ∧ f.type = type ∧ f.id = id ∧ f.payload = payload
  := by
  obtain ⟨typeLength, lengthField, idLengthField, htype, hpayload, hid⟩ := h
  obtain ⟨hlengthWidth, hlength, hbound⟩ := spellsLength_iff.mp hpayload
  obtain ⟨hhasId, hidWidth, hidLength⟩ := spellsIdLength_iff.mp hid
  let head := Header.ofByte header
  use {
    position := head.position
    chunked := head.chunked
    short := head.short
    tnf := head.tnf
    type := type
    id := id
    payload := payload }
  have hheader : Frame.header ⟨head.position, head.chunked, head.short, head.tnf, type, id, payload⟩
      = head := by
    simp [Frame.header, hhasId, head, Header.ofByte]
  refine ⟨⟨?_, ?_, hbound⟩, ?_, ?_, rfl, rfl, rfl⟩
  · rw [htype]
    apply typeLength.toNat_lt
  · have hlt := Bytes.toNat_lt idLengthField
    dsimp only
    rw [← hidLength]
    apply Nat.lt_of_lt_of_le hlt
    rw [hidWidth]
    apply capacity_idWidth_le
  · have htypeByte : UInt8.ofNat type.length = typeLength := by
      rw [htype, UInt8.ofNat_toNat]
    have hlengthBytes : Bytes.ofNat (Frame.lengthWidth head.short) payload.length
        = lengthField := by
      rw [← hlength]
      change Bytes.ofNat (Frame.lengthWidth (header &&& 0x10 != 0)) _ = _
      rw [← hlengthWidth, Bytes.ofNat_toNat]
    have hidBytes : Bytes.ofNat (Frame.idWidth id.isSome) (id.getD []).length
        = idLengthField := by
      rw [← hidLength, ← hidWidth, Bytes.ofNat_toNat]
    simp [Frame.bytes, Frame.fields, hheader, htypeByte, hlengthBytes, hidBytes, head,
      Header.byte_ofByte]
  · rw [hheader]
    apply Header.byte_ofByte

/-- The bytes of a frame that fits are spelled by its own header and fields only. -/
theorem spells_bytes_iff {f : Frame} (h : f.Fits) {header : UInt8} {type payload : Bytes}
    {id : Option Bytes} :
  Spells header type id payload f.bytes
    ↔ header = f.header.byte ∧ type = f.type ∧ id = f.id ∧ payload = f.payload
  := by
  constructor
  · intro hspells
    obtain ⟨g, hfits, hbytes, hheader, htype, hid, hpayload⟩ := hspells.exists_frame
    obtain rfl := Frame.accepts.write_injective hfits h hbytes
    exact ⟨hheader.symm, htype.symm, hid.symm, hpayload.symm⟩
  · rintro ⟨rfl, rfl, rfl, rfl⟩
    apply spells_bytes h

/-- The spans are the bytes of the frames that fit. -/
theorem isSpan_iff {s : Bytes} :
  IsSpan s ↔ ∃ f : Frame, f.Fits ∧ f.bytes = s
  := by
  constructor
  · rintro ⟨header, type, id, payload, h⟩
    obtain ⟨f, hfits, hbytes, -⟩ := h.exists_frame
    exact ⟨f, hfits, hbytes⟩
  · rintro ⟨f, hfits, rfl⟩
    exact ⟨_, _, _, _, spells_bytes hfits⟩

/-- No span stands at the front of what the reader of frames refuses, and only there. -/
theorem Frame.read?_eq_none_iff {rest : Bytes} :
  read? rest = none ↔ ∀ s, IsSpan s → ¬ s <+: rest
  := by
  constructor
  · intro hread s hs hprefix
    obtain ⟨f, hfits, rfl⟩ := isSpan_iff.mp hs
    obtain ⟨t, rfl⟩ := hprefix
    rw [read?_bytes_append hfits] at hread
    cases hread
  · intro hspan
    cases hread : read? rest with
    | none => rfl
    | some fr =>
      obtain ⟨f, t⟩ := fr
      obtain ⟨hrest, hfits⟩ := read?_eq_some_iff.mp hread
      exfalso
      apply hspan f.bytes
      · apply isSpan_iff.mpr
        exact ⟨f, hfits, rfl⟩
      · rw [hrest]
        apply List.prefix_append

@[simp] theorem isChunk_bytes (f : Frame) :
  isChunk f.bytes = f.chunked
  := f.header.byte_and_chunked

end Ndef
