import Ndef.Proofs.Genuine

/-!
# Building records again

A record that is built from its parts has just these parts, and reading its bytes gives the
record.  Conversely a record that was read can be built again from its parts; it says the
same then, and it has the same bytes exactly if its header is the one that building chooses
(`Record.build_rebuild`).
-/

namespace Ndef

/-! ### The form that building chooses -/

theorem Header.alone_iff (h : Header) :
  h.position = .alone ↔ h.byte &&& 0x80 ≠ 0 ∧ h.byte &&& 0x40 ≠ 0
  := by
  rw [← bne_iff_ne, ← bne_iff_ne, h.byte_and_first, h.byte_and_last]
  obtain ⟨first, last⟩ := h.position
  simp [Position.alone]

theorem Header.short_iff (h : Header) :
  h.short = true ↔ h.byte &&& 0x10 ≠ 0
  := by
  rw [← bne_iff_ne, h.byte_and_short]

namespace Frame

variable {f : Frame}

/-- The parts of a frame that fits do so in the form that building chooses. -/
theorem Fits.ofParts (h : f.Fits) :
  (Frame.ofParts f.tnf f.type f.id f.payload).Fits
  := by
  obtain ⟨htype, hid, hpayload⟩ := h
  have hbound : lengthBound f.short ≤ 0x80000000 := by
    cases f.short <;> decide
  apply fits_ofParts_iff.mpr
  exact ⟨htype, hid, Nat.lt_of_lt_of_le hpayload hbound⟩

/-- Building chooses the bytes of a frame exactly if the frame stands alone and is in short
form whenever its payload allows it. -/
theorem bytes_ofParts_eq_iff (hfits : f.Fits) (hwhole : f.chunked = false) :
  (ofParts f.tnf f.type f.id f.payload).bytes = f.bytes
    ↔ f.position = .alone ∧ (f.short = true ↔ f.payload.length ≤ 255)
  := by
  constructor
  · intro hbytes
    have heq := accepts.write_injective hfits.ofParts hfits hbytes
    have hshort : decide (f.payload.length < 0x100) = f.short := congrArg short heq
    refine ⟨(congrArg position heq).symm, ?_⟩
    rw [← hshort, decide_eq_true_iff]
    omega
  · rintro ⟨hposition, hshort⟩
    congr 1
    have hchosen : decide (f.payload.length < 0x100) = f.short := by
      rw [Bool.eq_iff_iff, hshort, decide_eq_true_iff]
      omega
    rw [ofParts, hchosen, ← hposition, ← hwhole]

end Frame

namespace Record

variable {tnf : Tnf} {type payload : Bytes} {id : Option Bytes} {r : Record}

/-! ### Building -/

theorem build_eq_typeTooLong_iff :
  build tnf type id payload = .error .typeTooLong ↔ 255 < type.length
  := by
  rw [build, Except.map_eq_error_iff, Frame.build_eq_typeTooLong_iff]
  omega

theorem build_eq_idTooLong_iff (htype : type.length ≤ 255) :
  build tnf type id payload = .error .idTooLong ↔ ∃ i, id = some i ∧ 255 < i.length
  := by
  rw [build, Except.map_eq_error_iff, Frame.build_eq_idTooLong_iff]
  cases id with
  | none => simp
  | some i => simp; omega

/-- If type and id fit, a record with these parts is built that stands alone, and it is the
first one that is read of its bytes, whatever follows them. -/
theorem exists_build_eq_ok (htype : type.length ≤ 255) (hid : ∀ i, id = some i → i.length ≤ 255)
    (hpayload : payload.length < 0x80000000) :
  ∃ r, build tnf type id payload = .ok r
    ∧ r.tnf = tnf ∧ r.type = type ∧ r.id = id ∧ r.payload = payload ∧ r.position = .alone
    ∧ ∀ x, ∃ m, Message.decode? none (r.bytes ++ x) = some m ∧ m.head = r
  := by
  have hidLength : (id.getD []).length < 0x100 := by
    cases id with
    | none => decide
    | some i => exact Nat.lt_succ_of_le (hid i rfl)
  have hfits : (Frame.ofParts tnf type id payload).Fits :=
    Frame.fits_ofParts_iff.mpr ⟨Nat.lt_succ_of_le htype, hidLength, hpayload⟩
  use ofFrame none (.ofParts tnf type id payload)
  refine ⟨build_eq_ok_iff.mpr ⟨hfits, rfl⟩, rfl, rfl, rfl, rfl, rfl, ?_⟩
  intro x
  apply Message.decode?_bytes_append none hfits rfl

/-! ### Building again -/

/-- A genuine record that is not empty can be built again from its parts.  It says the same
then, and has the same bytes exactly if its header has the flags that building sets. -/
theorem Genuine.rebuild (h : r.Genuine none) (hbytes : r.bytes ≠ []) :
  ∃ s, build r.tnf r.type r.id r.payload = .ok s
    ∧ s.wellKnown? = r.wellKnown? ∧ s.content = r.content
    ∧ (s.bytes = r.bytes ↔ r.bytes.headD 0 &&& 0x80 ≠ 0 ∧ r.bytes.headD 0 &&& 0x40 ≠ 0
      ∧ (r.bytes.headD 0 &&& 0x10 ≠ 0 ↔ r.payload.length ≤ 255))
  := by
  rcases h with rfl | ⟨f, hfits, hwhole, rfl⟩
  · exact absurd rfl hbytes
  · use ofFrame none (.ofParts f.tnf f.type f.id f.payload)
    refine ⟨build_eq_ok_iff.mpr ⟨hfits.ofParts, rfl⟩, rfl, rfl, ?_⟩
    change (Frame.ofParts f.tnf f.type f.id f.payload).bytes = f.bytes
      ↔ f.header.byte &&& 0x80 ≠ 0 ∧ f.header.byte &&& 0x40 ≠ 0
        ∧ (f.header.byte &&& 0x10 ≠ 0 ↔ f.payload.length ≤ 255)
    rw [← and_assoc, ← f.header.alone_iff, ← f.header.short_iff]
    apply Frame.bytes_ofParts_eq_iff hfits hwhole

/-- Building is undone by reading: of parts that fit it makes a record with these parts, and
that record is the first one in its bytes and whatever follows them.  Conversely reading is
undone by building, up to the flags of the header. -/
theorem build_rebuild :
  (∀ tnf type id payload, payload.length < 0x80000000 →
    (build tnf type id payload = .error .typeTooLong ↔ 255 < type.length)
    ∧ (type.length ≤ 255 →
      (build tnf type id payload = .error .idTooLong ↔ ∃ i, id = some i ∧ 255 < i.length))
    ∧ (type.length ≤ 255 → (∀ i, id = some i → i.length ≤ 255) →
      ∃ r, build tnf type id payload = .ok r
        ∧ r.tnf = tnf ∧ r.type = type ∧ r.id = id ∧ r.payload = payload ∧ r.position = .alone
        ∧ ∀ x, ∃ m, Message.decode? none (r.bytes ++ x) = some m ∧ m.head = r))
  ∧ ∀ r : Record, r.Obtained none → r.bytes ≠ [] →
    ∃ s, build r.tnf r.type r.id r.payload = .ok s
      ∧ s.wellKnown? = r.wellKnown? ∧ s.content = r.content
      ∧ (s.bytes = r.bytes ↔ r.bytes.headD 0 &&& 0x80 ≠ 0 ∧ r.bytes.headD 0 &&& 0x40 ≠ 0
        ∧ (r.bytes.headD 0 &&& 0x10 ≠ 0 ↔ r.payload.length ≤ 255))
  := by
  constructor
  · intro tnf type id payload hpayload
    refine ⟨build_eq_typeTooLong_iff, build_eq_idTooLong_iff, ?_⟩
    intro htype hid
    apply exists_build_eq_ok htype hid hpayload
  · intro r hr hbytes
    apply hr.genuine.rebuild hbytes

/-- A record alone in its message, in long form with a payload of one byte, and the record
that is built of its parts. -/
theorem build_rebuild_long_form :
  let b : Bytes := [0xC1, 0x01, 0x00, 0x00, 0x00, 0x01, 0x61, 0x01]
  ∃ m s, Message.decode? none b = some m
    ∧ build m.head.tnf m.head.type m.head.id m.head.payload = .ok s
    ∧ s.content = m.head.content ∧ s.bytes ≠ m.head.bytes
    ∧ ∃ t, build .wellKnown [0x61] none [0x01] = .ok t ∧ t.position = .alone
  := by
  intro b
  let r : Record := .ofFrame none { Frame.ofParts .wellKnown [0x61] none [0x01] with short := false }
  have hm : Message.decode? none b = some (.single r) := by decide +kernel
  obtain ⟨hbuild, hrebuild⟩ := build_rebuild
  obtain ⟨s, hs, -, hcontent, hbytes⟩ :=
    hrebuild r (.decode hm List.mem_cons_self) (List.cons_ne_nil _ _)
  obtain ⟨t, ht, -, -, -, -, hposition, -⟩ :=
    (hbuild .wellKnown [0x61] none [0x01] (by decide)).2.2 (by decide) (by simp)
  have hheader : ¬ (r.bytes.headD 0 &&& 0x80 ≠ 0 ∧ r.bytes.headD 0 &&& 0x40 ≠ 0
      ∧ (r.bytes.headD 0 &&& 0x10 ≠ 0 ↔ r.payload.length ≤ 255)) := by
    decide +kernel
  exact ⟨_, s, hm, hs, hcontent, fun heq => hheader (hbytes.mp heq), t, ht, hposition⟩

end Record

end Ndef
