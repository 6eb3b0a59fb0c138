import Mathlib.Tactic.Common
import Ndef.Layout
import Ndef.Proofs.Span

/-!
# The fields of a frame in its bytes

The layout of a frame says where its fields stand: cutting them out of the bytes of the frame
yields the fields (`Frame.slice_type`, `Frame.slice_id`, `Frame.slice_payload`), which follow one
another and end where the bytes end.
-/

namespace Ndef

namespace Layout

/-- The id begins where the type ends, and the payload where the field before it ends. -/
def Contiguous (l : Layout) : Prop :=
  match l.id with
  | none => l.payload.start = l.type.stop
  | some id => id.start = l.type.stop ∧ l.payload.start = id.stop

theorem contiguous_ofLengths (start type : Nat) (id : Option Nat) (payload : Nat) :
  (ofLengths start type id payload).Contiguous
  := by
  cases id with
  | none => rfl
  | some id => exact ⟨rfl, rfl⟩

end Layout

/-! ### Slices -/

namespace Bytes

/-- A part of a byte string is the slice at its position. -/
theorem slice_append {before part after : Bytes} {start : Nat} (hstart : before.length = start) :
  slice (before ++ (part ++ after)) (.from start part.length) = part
  := by
  subst hstart
  rw [slice, Range.from, List.take_length_add_append, List.drop_left, List.take_left]

end Bytes

/-! ### The fields of a frame in its bytes -/

namespace Frame

/-- The header and the length fields, which stand in front of the other fields. -/
def preamble (f : Frame) : Bytes :=
  f.header.byte :: UInt8.ofNat f.type.length
    :: (Bytes.ofNat (lengthWidth f.short) f.payload.length
      ++ Bytes.ofNat (idWidth f.id.isSome) (f.id.getD []).length)

theorem bytes_eq_preamble_append (f : Frame) :
  f.bytes = f.preamble ++ (f.type ++ (f.id.getD [] ++ f.payload))
  := by
  simp [bytes, fields, preamble]

theorem length_preamble (f : Frame) :
  f.preamble.length = 2 + lengthWidth f.short + idWidth f.id.isSome
  := by
  simp only [preamble, List.length_cons, List.length_append, Bytes.length_ofNat]
  omega

theorem slice_type (f : Frame) :
  f.bytes.slice f.layout.type = f.type
  := by
  rw [bytes_eq_preamble_append]
  apply Bytes.slice_append f.length_preamble

/-- The lengths of the fields before the payload add up to where it begins. -/
theorem length_before_payload (f : Frame) :
  (f.preamble ++ (f.type ++ f.id.getD [])).length = f.layout.payload.start
  := by
  simp only [List.length_append, length_preamble, layout, Layout.ofLengths, Range.from]
  cases f.id with
  | none => rfl
  | some id => simp [Nat.add_assoc]

theorem slice_id (f : Frame) :
  f.layout.id.map f.bytes.slice = f.id
  := by
  cases hid : f.id with
  | none => simp [layout, Layout.ofLengths, hid]
  | some id =>
    have hbytes : f.bytes = (f.preamble ++ f.type) ++ (id ++ f.payload) := by
      rw [bytes_eq_preamble_append, hid, Option.getD_some, List.append_assoc]
    have hlayout : f.layout.id = some (.from (f.preamble ++ f.type).length id.length) := by
      rw [List.length_append, length_preamble, layout, Layout.ofLengths, hid]
      rfl
    rw [hlayout, hbytes, Option.map_some, Bytes.slice_append rfl]

theorem slice_payload (f : Frame) :
  f.bytes.slice f.layout.payload = f.payload
  := by
  have hbytes : f.bytes = (f.preamble ++ (f.type ++ f.id.getD [])) ++ (f.payload ++ []) := by
    rw [bytes_eq_preamble_append, List.append_nil, List.append_assoc, List.append_assoc]
  rw [hbytes]
  apply Bytes.slice_append f.length_before_payload

/-- The payload ends where the bytes of the frame end. -/
theorem stop_payload (f : Frame) :
  f.layout.payload.stop = f.bytes.length
  := by
  rw [bytes_eq_preamble_append, ← List.append_assoc f.type, ← List.append_assoc,
    List.length_append, length_before_payload]
  rfl

end Frame

end Ndef
