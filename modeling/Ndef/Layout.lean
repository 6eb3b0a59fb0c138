import Ndef.Record.Basic

/-!
# Layouts

The layout of a record says at which positions of its bytes type, id and payload stand.
-/

namespace Ndef

/-- A range of positions in a byte string. -/
structure Range where
  start : Nat
  stop : Nat
deriving DecidableEq

/-- The range of `length` positions from a position on. -/
def Range.from (start length : Nat) : Range :=
  ⟨start, start + length⟩

/-- The bytes at the positions of a range. -/
def Bytes.slice (b : Bytes) (r : Range) : Bytes :=
  (b.take r.stop).drop r.start

/-- Where the fields of a record stand in its bytes. -/
structure Layout where
  type : Range
  id : Option Range
  payload : Range
deriving DecidableEq

/-- The layout of fields with the given lengths, of which the first stands at `start`. -/
def Layout.ofLengths (start type : Nat) (id : Option Nat) (payload : Nat) : Layout where
  type := .from start type
  id := id.map (.from (start + type))
  payload := .from (start + type + id.getD 0) payload

/-- The layout of a frame. -/
def Frame.layout (f : Frame) : Layout :=
  .ofLengths (2 + lengthWidth f.short + idWidth f.id.isSome) f.type.length
    (f.id.map List.length) f.payload.length

/-- The layout that the parts of a record give it; the fields of the empty record are at
the position zero. -/
def Record.layout : Record → Layout
  | empty => ⟨⟨0, 0⟩, none, ⟨0, 0⟩⟩
  | framed f _ => f.layout

end Ndef
