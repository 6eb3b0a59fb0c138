import Ndef.Proofs.Layout
import Ndef.Record.Same

/-!
# Records that are the same

Comparing all that is stored of two records tells whether they are equal
(`Record.same_iff`): the bytes and the positions of the fields determine the frame, and the
icons of smart posters are frames.
-/

namespace Ndef

/-- A frame is determined by its bytes and the positions of its fields. -/
theorem Frame.eq_of_layout_eq {f g : Frame} (hbytes : f.bytes = g.bytes)
    (hlayout : f.layout = g.layout) :
  f = g
  := by
  have hbyte : f.header.byte = g.header.byte := (List.cons.inj hbytes).1
  have hheader : f.header = g.header := by
    rw [← Header.ofByte_byte f.header, hbyte, Header.ofByte_byte]
  have htype : f.type = g.type := by
    rw [← f.slice_type, hbytes, hlayout, g.slice_type]
  have hid : f.id = g.id := by
    rw [← f.slice_id, hbytes, hlayout, g.slice_id]
  have hpayload : f.payload = g.payload := by
    rw [← f.slice_payload, hbytes, hlayout, g.slice_payload]
  have hposition : f.position = g.position := congrArg Header.position hheader
  have hchunked : f.chunked = g.chunked := congrArg Header.chunked hheader
  have hshort : f.short = g.short := congrArg Header.short hheader
  have htnf : f.tnf = g.tnf := congrArg Header.tnf hheader
  cases f
  cases g
  simp only at hposition hchunked hshort htnf htype hid hpayload
  rw [hposition, hchunked, hshort, htnf, htype, hid, hpayload]

namespace Record

/-- Two records agree in all but their contents exactly if they have the same frame, or none,
and are interpreted as the same type. -/
theorem sameFields_iff {r s : Record} :
  r.sameFields s = true ↔ r.frame? = s.frame? ∧ r.wellKnown? = s.wellKnown?
  := by
  simp only [sameFields, Bool.and_eq_true, beq_iff_eq, and_assoc]
  constructor
  · rintro ⟨-, hwellKnown, -, hbytes, htype, hid, hpayload⟩
    refine ⟨?_, hwellKnown⟩
    match r, s with
    | empty, empty => rfl
    | empty, framed g _ => cases hbytes
    | framed f _, empty => cases hbytes
    | framed f _, framed g _ =>
      have hlayout : f.layout = g.layout := by
        cases hf : f.layout
        cases hg : g.layout
        simp_all [layout]
      exact congrArg some (Frame.eq_of_layout_eq hbytes hlayout)
  · rintro ⟨hframe, hwellKnown⟩
    match r, s with
    | empty, empty => simp
    | empty, framed g _ => cases hframe
    | framed f _, empty => cases hframe
    | framed f c, framed g d =>
      obtain rfl : f = g := Option.some.inj hframe
      exact ⟨rfl, hwellKnown, rfl, rfl, rfl, rfl, rfl⟩

end Record

theorem SmartPoster.sameIcon_iff {f? g? : Option Frame} :
  sameIcon f? g? = true ↔ f? = g?
  := by
  match f?, g? with
  | none, none => simp [sameIcon]
  | none, some g => simp [sameIcon]
  | some f, none => simp [sameIcon]
  | some f, some g =>
    rw [sameIcon, Record.sameFields_iff]
    constructor
    · rintro ⟨hframe, -⟩
      apply hframe
    · intro h
      obtain rfl : f = g := Option.some.inj h
      exact ⟨rfl, rfl⟩

theorem SmartPoster.same_iff {p q : SmartPoster} :
  p.same q = true ↔ p = q
  := by
  simp only [same, Bool.and_eq_true, beq_iff_eq, sameIcon_iff, and_assoc]
  constructor
  · rintro ⟨huri, htitle, hmediaType, hsize, haction, hicon⟩
    cases p
    cases q
    simp_all
  · rintro rfl
    exact ⟨rfl, rfl, rfl, rfl, rfl, rfl⟩

theorem Content.same_iff {c d : Content} :
  c.same d = true ↔ c = d
  := by
  cases c <;> cases d <;> simp [same, SmartPoster.same_iff]

/-- Two records are the same exactly if they are equal. -/
theorem Record.same_iff {r s : Record} :
  r.same s = true ↔ r = s
  := by
  rw [same, Bool.and_eq_true, sameFields_iff, Content.same_iff]
  constructor
  · rintro ⟨⟨hframe, -⟩, hcontent⟩
    match r, s with
    | empty, empty => rfl
    | empty, framed g _ => cases hframe
    | framed f _, empty => cases hframe
    | framed f c, framed g d =>
      obtain rfl : f = g := Option.some.inj hframe
      obtain rfl : c = d := hcontent
      rfl
  · rintro rfl
    exact ⟨⟨rfl, rfl⟩, rfl⟩

end Ndef
