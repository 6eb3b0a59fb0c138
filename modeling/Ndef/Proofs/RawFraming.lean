import Mathlib.Tactic.Common
import Ndef.Proofs.Layout
import Ndef.Proofs.Outcome
import Ndef.Stored.Framing

/-!
# Framing by position

Framing finds a record at the front of a byte string exactly where a frame is read, and what it
finds is the bytes and the layout of that frame (`RawRecord.frame_eq_ok_iff`).  So framing
records one after the other comes to the frames that are read one after the other
(`RawRecord.all_eq`).
-/

namespace Ndef

namespace Bytes

variable {b front : Bytes}

theorem upTo_eq_ok_iff {stop : Nat} :
  b.upTo stop = .ok front ↔ stop ≤ b.length ∧ b.take stop = front
  := by
  rw [upTo]
  cases hsplit : split? stop b with
  | none =>
    have hlt := split?_eq_none_iff.mp hsplit
    simp
    omega
  | some parts =>
    obtain ⟨rfl, rfl⟩ := split?_eq_some_iff.mp hsplit
    simp

/-- The bytes up to the end of a part are those of that part and what is before it. -/
theorem upTo_append (front rest : Bytes) {stop : Nat} (hstop : front.length = stop) :
  (front ++ rest).upTo stop = .ok front
  := by
  rw [upTo_eq_ok_iff, ← hstop]
  simp

/-- The number written in a part of a byte string is found at the position of the part. -/
theorem numberAt_append (before part after : Bytes) {start width : Nat}
    (hstart : before.length = start) (hwidth : part.length = width) :
  (before ++ (part ++ after)).numberAt (.from start width) = .ok (toNat part)
  := by
  have hstop : (before ++ part).length = start + width := by
    rw [List.length_append, hstart, hwidth]
  rw [numberAt, Range.from, ← List.append_assoc, upTo_append _ _ hstop, ← hstart]
  change Except.ok (toNat ((before ++ part).drop before.length)) = _
  rw [List.drop_left]

/-- A byte string has a front of every length up to its own. -/
theorem exists_eq_append {n : Nat} (h : n ≤ b.length) :
  ∃ front rest, b = front ++ rest ∧ front.length = n
  := by
  use b.take n, b.drop n
  simp [h]

end Bytes

/-! ### Spans by their lengths -/

/-- Header and length fields of the widths that the flags ask for, with fields of the
lengths that they announce, are a span. -/
theorem isSpan_of_lengths {header typeLength : UInt8} {lengthField idField type id payload : Bytes}
    (hlengthWidth : lengthField.length = Frame.lengthWidth (header &&& 0x10 != 0))
    (hidWidth : idField.length = Frame.idWidth (header &&& 0x08 != 0))
    (htype : type.length = typeLength.toNat)
    (hid : id.length = if header &&& 0x08 != 0 then Bytes.toNat idField else 0)
    (hpayload : payload.length = Bytes.toNat lengthField)
    (hbound : payload.length < Frame.lengthBound (header &&& 0x10 != 0)) :
  IsSpan (header :: typeLength :: (lengthField ++ idField ++ type ++ id ++ payload))
  := by
  have hlengthSpells : SpellsLength header payload.length lengthField :=
    spellsLength_iff.mpr ⟨hlengthWidth, hpayload.symm, hbound⟩
  use header, type
  cases hflag : header &&& 0x08 != 0 with
  | true =>
    rw [hflag] at hidWidth hid
    have hidSpells : SpellsIdLength header (some id) idField :=
      spellsIdLength_iff.mpr ⟨hflag.symm, hidWidth, hid.symm⟩
    exact ⟨some id, payload, .mk typeLength lengthField idField htype hlengthSpells hidSpells⟩
  | false =>
    rw [hflag] at hidWidth hid
    obtain rfl := List.length_eq_zero_iff.mp hid
    obtain rfl := List.length_eq_zero_iff.mp hidWidth
    have hidSpells : SpellsIdLength header none [] :=
      spellsIdLength_iff.mpr ⟨hflag.symm, rfl, rfl⟩
    exact ⟨none, payload, .mk typeLength lengthField [] htype hlengthSpells hidSpells⟩

/-! ### Framing -/

namespace RawRecord

/-- What framing finds of a frame. -/
def ofFrame (f : Frame) : RawRecord :=
  { f.layout with
    header := f.header.byte
    bytes := f.bytes }

variable {f : Frame} {b : Bytes} {raw : RawRecord}

theorem frame_eq_frameFields (header typeLength : UInt8) {s : Bytes} (hs : s ≠ []) :
  frame (header :: typeLength :: s) = frameFields header typeLength (header :: typeLength :: s)
  := by
  cases s with
  | nil => contradiction
  | cons => rfl

/-- A frame that fits is framed, whatever follows it. -/
theorem frame_bytes_append (h : f.Fits) (rest : Bytes) :
  frame (f.bytes ++ rest) = .ok (ofFrame f)
  := by
  obtain ⟨htype, hid, hpayload⟩ := h
  let lengthField := Bytes.ofNat (Frame.lengthWidth f.short) f.payload.length
  let idField := Bytes.ofNat (Frame.idWidth f.id.isSome) (f.id.getD []).length
  let tail := f.type ++ (f.id.getD [] ++ f.payload) ++ rest
  have hb : f.bytes ++ rest
      = [f.header.byte, UInt8.ofNat f.type.length] ++ (lengthField ++ (idField ++ tail)) := by
    simp [Frame.bytes, Frame.fields, lengthField, idField, tail]
  have hlengthField : Bytes.toNat lengthField = f.payload.length :=
    Bytes.toNat_ofNat (Nat.lt_of_lt_of_le hpayload (Frame.lengthBound_le f.short))
  have hidField : Bytes.toNat idField = (f.id.getD []).length := by
    cases hcase : f.id with
    | none => simp [idField, hcase, Frame.idWidth, Bytes.ofNat, Bytes.toNat]
    | some id =>
      rw [hcase] at hid
      simp only [idField, hcase]
      apply Bytes.toNat_ofNat hid
  have hlengthAt : (f.bytes ++ rest).numberAt (.from 2 (Frame.lengthWidth f.short))
      = .ok f.payload.length := by
    rw [hb, ← hlengthField]
    apply Bytes.numberAt_append _ _ _ rfl (Bytes.length_ofNat _ _)
  have hidAt : (f.bytes ++ rest).numberAt
      (.from (2 + Frame.lengthWidth f.short) (Frame.idWidth f.id.isSome))
        = .ok (f.id.getD []).length := by
    rw [hb, ← hidField, ← List.append_assoc]
    apply Bytes.numberAt_append _ _ _ _ (Bytes.length_ofNat _ _)
    rw [List.length_append, Bytes.length_ofNat]
    rfl
  have hidLength : (if f.id.isSome then some (f.id.getD []).length else none)
      = f.id.map List.length := by
    cases f.id <;> rfl
  have htypeLength : (UInt8.ofNat f.type.length).toNat = f.type.length := by
    rw [UInt8.toNat_ofNat', Nat.mod_eq_of_lt htype]
  have hlayout : Layout.ofLengths (2 + Frame.lengthWidth f.short + Frame.idWidth f.id.isSome)
      (UInt8.ofNat f.type.length).toNat
      (if f.id.isSome then some (f.id.getD []).length else none) f.payload.length = f.layout := by
    rw [htypeLength, hidLength]
    rfl
  have hbytes : (f.bytes ++ rest).upTo f.layout.payload.stop = .ok f.bytes :=
    Bytes.upTo_append _ _ f.stop_payload.symm
  have hshort : (f.header.byte &&& 0x10 != 0) = f.short := f.header.byte_and_short
  have hhasId : (f.header.byte &&& 0x08 != 0) = f.id.isSome := f.header.byte_and_hasId
  have hfields : f.fields ++ rest ≠ [] := by
    apply List.ne_nil_of_length_pos
    simp only [Frame.fields, List.length_append, Bytes.length_ofNat, Frame.lengthWidth]
    split <;> omega
  have hframe : frame (f.bytes ++ rest)
      = frameFields f.header.byte (UInt8.ofNat f.type.length) (f.bytes ++ rest) :=
    frame_eq_frameFields _ _ hfields
  have hstop (start width : Nat) : (Range.from start width).stop = start + width := rfl
  rw [hframe, frameFields]
  simp only [hshort, hhasId, hstop, hlengthAt, hidAt, hlayout, hbytes, bind, Except.bind]
  rw [if_pos hpayload]
  rfl

/-- Where fields are framed, numbers for the lengths of payload and id are written, and the
byte string is long enough for the fields. -/
theorem exists_lengths_of_frameFields {header typeLength : UInt8}
    (h : frameFields header typeLength b = .ok raw) :
  let lengthWidth := Frame.lengthWidth (header &&& 0x10 != 0)
  let idWidth := Frame.idWidth (header &&& 0x08 != 0)
  ∃ m k, b.numberAt (.from 2 lengthWidth) = .ok m
    ∧ b.numberAt (.from (2 + lengthWidth) idWidth) = .ok k
    ∧ m < Frame.lengthBound (header &&& 0x10 != 0)
    ∧ 2 + lengthWidth + idWidth + typeLength.toNat + (if header &&& 0x08 != 0 then k else 0) + m
      ≤ b.length
  := by
  simp only [frameFields, Except.bind_eq_ok_iff] at h
  obtain ⟨m, hlength, h⟩ := h
  split at h
  · next hbound =>
    simp only [Except.bind_eq_ok_iff] at h
    obtain ⟨k, hid, bytes, hbytes, -⟩ := h
    refine ⟨m, k, hlength, hid, hbound, ?_⟩
    have hstop := (Bytes.length_of_upTo hbytes).2
    simp only [Layout.ofLengths, Range.from] at hstop
    cases hflag : header &&& 0x08 != 0 <;> simp_all
  · cases h

/-- Where a record is framed, a span stands at the front. -/
theorem exists_span_of_frame (h : frame b = .ok raw) :
  ∃ s rest, IsSpan s ∧ b = s ++ rest
  := by
  obtain ⟨header, typeLength, s, rfl, hfields⟩ : ∃ header typeLength s,
      b = header :: typeLength :: s
        ∧ frameFields header typeLength (header :: typeLength :: s) = .ok raw := by
    unfold frame at h
    split at h
    · next header typeLength first s => exact ⟨header, typeLength, first :: s, rfl, h⟩
    · cases h
  obtain ⟨m, k, hlength, hid, hbound, hstop⟩ := exists_lengths_of_frameFields hfields
  simp only [List.length_cons] at hstop
  -- The string is taken apart from the front, by the lengths of its fields.
  obtain ⟨lengthField, s, rfl, hlengthWidth⟩ :=
    Bytes.exists_eq_append (b := s) (n := Frame.lengthWidth (header &&& 0x10 != 0)) (by omega)
  simp only [List.length_append] at hstop
  obtain ⟨idField, s, rfl, hidWidth⟩ :=
    Bytes.exists_eq_append (b := s) (n := Frame.idWidth (header &&& 0x08 != 0)) (by omega)
  simp only [List.length_append] at hstop
  obtain ⟨type, s, rfl, htypeLength⟩ :=
    Bytes.exists_eq_append (b := s) (n := typeLength.toNat) (by omega)
  simp only [List.length_append] at hstop
  obtain ⟨id, s, rfl, hidLength⟩ :=
    Bytes.exists_eq_append (b := s) (n := if header &&& 0x08 != 0 then k else 0) (by omega)
  simp only [List.length_append] at hstop
  obtain ⟨payload, s, rfl, hpayloadLength⟩ :=
    Bytes.exists_eq_append (b := s) (n := m) (by omega)
  have hm : Bytes.toNat lengthField = m := Except.ok.inj
    ((Bytes.numberAt_append [header, typeLength] _ _ rfl hlengthWidth).symm.trans hlength)
  have hk : Bytes.toNat idField = k := by
    apply Except.ok.inj (ε := FramingError)
    rw [← hid]
    symm
    apply Bytes.numberAt_append (header :: typeLength :: lengthField) _ _ _ hidWidth
    simp only [List.length_cons, hlengthWidth]
    omega
  have hspan : IsSpan
      (header :: typeLength :: (lengthField ++ idField ++ type ++ id ++ payload)) := by
    apply isSpan_of_lengths hlengthWidth hidWidth htypeLength
    · rw [hidLength, hk]
    · rw [hpayloadLength, hm]
    · rw [hpayloadLength]
      apply hbound
  refine ⟨_, s, hspan, ?_⟩
  simp

/-- A record is framed exactly of a frame at the front, and as that frame. -/
theorem frame_eq_ok_iff :
  frame b = .ok raw ↔ ∃ f rest, Frame.read? b = some (f, rest) ∧ raw = ofFrame f
  := by
  constructor
  · intro h
    obtain ⟨s, rest, hspan, rfl⟩ := exists_span_of_frame h
    obtain ⟨f, hfits, rfl⟩ := isSpan_iff.mp hspan
    rw [frame_bytes_append hfits] at h
    exact ⟨f, rest, Frame.read?_bytes_append hfits rest, (Except.ok.inj h).symm⟩
  · rintro ⟨f, rest, hread, rfl⟩
    obtain ⟨rfl, hfits⟩ := Frame.read?_eq_some_iff.mp hread
    apply frame_bytes_append hfits

/-! ### Framing one record after the other -/

/-- One step of framing is one step of reading frames. -/
theorem read_eq (b : Bytes) :
  reader.read b = (Frame.read? b).map fun (f, rest) => (ofFrame f, rest)
  := by
  rw [reader]
  cases hread : Frame.read? b with
  | some fr =>
    obtain ⟨f, rest⟩ := fr
    obtain ⟨rfl, hfits⟩ := Frame.read?_eq_some_iff.mp hread
    simp [frame_bytes_append hfits, ofFrame]
  | none =>
    cases hframe : frame b with
    | error e => simp [hframe]
    | ok raw =>
      obtain ⟨f, rest, hsome, -⟩ := frame_eq_ok_iff.mp hframe
      rw [hread] at hsome
      cases hsome

/-- Framing comes to the frames that are read, and leaves what reading leaves. -/
theorem all_eq (b : Bytes) :
  reader.all b = ((Frame.reader.all b).1.map ofFrame, (Frame.reader.all b).2)
  := by
  induction b using Frame.reader.induction with
  | refused b hnone =>
    have hread : reader.read b = none := by
      rw [read_eq]
      change (Frame.reader.read b).map _ = none
      rw [hnone]
      rfl
    rw [Reader.all_of_none hread, Reader.all_of_none hnone]
    rfl
  | item b f rest hsome ih =>
    have hread : reader.read b = some (ofFrame f, rest) := by
      rw [read_eq]
      change (Frame.reader.read b).map _ = _
      rw [hsome]
      rfl
    rw [Reader.all_of_some hread, Reader.all_of_some hsome, ih]
    rfl

/-! ### What is framed of a frame -/

@[simp] theorem tnf_ofFrame (f : Frame) :
  (ofFrame f).tnf = f.tnf
  := f.header.ofBits_byte

@[simp] theorem isChunk_ofFrame (f : Frame) :
  (ofFrame f).isChunk = f.chunked
  := f.header.byte_and_chunked

@[simp] theorem typeBytes_ofFrame (f : Frame) :
  (ofFrame f).typeBytes = f.type
  := f.slice_type

@[simp] theorem payloadBytes_ofFrame (f : Frame) :
  (ofFrame f).payloadBytes = f.payload
  := f.slice_payload

end RawRecord

end Ndef
