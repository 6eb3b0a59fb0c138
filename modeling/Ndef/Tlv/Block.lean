import Ndef.Reader
import Ndef.Bytes

/-!
# TLV blocks

A block of tag memory is a tag, the length of its value, and the value.  The length
takes one byte, or the byte `0xFF` and two more.  Reading a block accepts exactly what
writing a block that fits its length field produces.
-/

namespace Ndef

/-- A block of tag memory. -/
structure Block where
  /-- What kind of value the block holds. -/
  tag : UInt8
  /-- The length takes three bytes. -/
  wide : Bool
  /-- The value. -/
  value : Bytes
deriving DecidableEq

namespace Block

/-- The first byte of a length in three bytes. -/
def escape : UInt8 := 0xFF

/-- The bound on the length of values. -/
def lengthBound (wide : Bool) : Nat :=
  if wide then 0x10000 else 0xFF

/-- The value is not too long for its length field. -/
def Fits (b : Block) : Prop :=
  b.value.length < lengthBound b.wide

instance (b : Block) : Decidable b.Fits :=
  inferInstanceAs (Decidable (_ < _))

/-- The length field. -/
def lengthBytes (b : Block) : Bytes :=
  if b.wide then escape :: Bytes.ofNat 2 b.value.length else Bytes.ofNat 1 b.value.length

/-- The block as it stands in memory. -/
def bytes (b : Block) : Bytes :=
  b.tag :: (b.lengthBytes ++ b.value)

/-- The length at the front, and whether it takes three bytes. -/
def readLength? : Bytes → Option ((Bool × Nat) × Bytes)
  | [] => none
  | n :: s =>
    if n = escape then (Bytes.split? 2 s).map fun (length, s) => ((true, Bytes.toNat length), s)
    else some ((false, n.toNat), s)

/-- The block at the front, if it is complete, and the rest. -/
def read? : Bytes → Option (Block × Bytes)
  | [] => none
  | tag :: s => do
    let ((wide, length), s) ← readLength? s
    let (value, s) ← Bytes.split? length s
    some ({ tag := tag, wide := wide, value := value }, s)

/-- A block that fits is read back from its bytes, whatever follows them. -/
theorem read?_bytes_append {b : Block} (h : b.Fits) (rest : Bytes) :
  read? (b.bytes ++ rest) = some (b, rest)
  := by
  obtain ⟨tag, wide, value⟩ := b
  have hlength : readLength? (lengthBytes ⟨tag, wide, value⟩ ++ (value ++ rest))
      = some ((wide, value.length), value ++ rest) := by
    cases wide with
    | true =>
      have hvalue : Bytes.toNat (Bytes.ofNat 2 value.length) = value.length :=
        Bytes.toNat_ofNat h
      have hsplit : Bytes.split? 2 (Bytes.ofNat 2 value.length ++ (value ++ rest))
          = some (Bytes.ofNat 2 value.length, value ++ rest) :=
        Bytes.split?_eq_some_iff.mpr ⟨rfl, Bytes.length_ofNat 2 value.length⟩
      simp [lengthBytes, readLength?, hsplit, hvalue]
    | false =>
      have hlt : value.length < 255 := h
      have hbyte : (UInt8.ofNat value.length).toNat = value.length := by
        rw [UInt8.toNat_ofNat', Nat.mod_eq_of_lt (by omega)]
      have hne : UInt8.ofNat value.length ≠ escape := by
        intro heq
        have := congrArg UInt8.toNat heq
        rw [hbyte] at this
        have hescape : escape.toNat = 255 := rfl
        omega
      simp [lengthBytes, readLength?, Bytes.ofNat_one, hne, hbyte]
  have hsplit : Bytes.split? value.length (value ++ rest) = some (value, rest) :=
    Bytes.split?_eq_some_iff.mpr ⟨rfl, rfl⟩
  simp [bytes, read?, hlength, hsplit]

/-- What is read stands in front of the rest, and fits. -/
theorem eq_bytes_append_of_read? {s rest : Bytes} {b : Block} (h : read? s = some (b, rest)) :
  s = b.bytes ++ rest ∧ b.Fits
  := by
  unfold read? at h
  split at h
  · cases h
  · next tag s =>
    simp only [Option.bind_eq_bind, Option.bind_eq_some_iff] at h
    obtain ⟨⟨⟨wide, length⟩, s₁⟩, hlength, ⟨value, s₂⟩, hvalue, h⟩ := h
    simp only [Option.some.injEq, Prod.mk.injEq] at h
    obtain ⟨rfl, rfl⟩ := h
    dsimp only at hvalue
    obtain ⟨hs₁, hvalueLength⟩ := Bytes.split?_eq_some_iff.mp hvalue
    unfold readLength? at hlength
    split at hlength
    · cases hlength
    · next n s =>
      split at hlength
      · next hn =>
        rw [Option.map_eq_some_iff] at hlength
        obtain ⟨⟨lengthBytes, s₃⟩, hsplit, hlength⟩ := hlength
        obtain ⟨rfl, hwidth⟩ := Bytes.split?_eq_some_iff.mp hsplit
        simp only [Prod.mk.injEq] at hlength
        obtain ⟨⟨rfl, rfl⟩, rfl⟩ := hlength
        have hbytes : Bytes.ofNat 2 value.length = lengthBytes := by
          rw [hvalueLength, ← hwidth, Bytes.ofNat_toNat]
        have hlt : value.length < 0x10000 := by
          have hroom := Bytes.toNat_lt lengthBytes
          rw [hwidth] at hroom
          rw [hvalueLength]
          exact hroom
        refine ⟨?_, hlt⟩
        simp [bytes, Block.lengthBytes, hbytes, hn, hs₁]
      · next hn =>
        simp only [Option.some.injEq, Prod.mk.injEq] at hlength
        obtain ⟨⟨rfl, rfl⟩, rfl⟩ := hlength
        have hbyte : UInt8.ofNat value.length = n := by
          rw [hvalueLength, UInt8.ofNat_toNat]
        have hlt : value.length < 255 := by
          have hn' : n.toNat ≠ 255 := by
            intro heq
            apply hn
            apply UInt8.toNat_inj.mp
            rw [heq]
            rfl
          have := n.toNat_lt
          omega
        refine ⟨?_, hlt⟩
        simp [bytes, Block.lengthBytes, Bytes.ofNat_one, hbyte, hs₁]

/-- Reading accepts exactly what writing a block that fits produces. -/
theorem read?_eq_some_iff {s rest : Bytes} {b : Block} :
  read? s = some (b, rest) ↔ s = b.bytes ++ rest ∧ b.Fits
  := by
  constructor
  · exact eq_bytes_append_of_read?
  · rintro ⟨rfl, h⟩
    exact read?_bytes_append h rest

end Block

end Ndef
