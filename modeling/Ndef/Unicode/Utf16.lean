import Ndef.Reader
import Ndef.Bytes

/-!
# UTF-16

`Utf16.units` writes a text as 16-bit code units, a surrogate pair for each
character above U+FFFF, and `Utf16.ofUnits?` reads it back; surrogates that stand
alone are refused.  Units are written as two bytes, in either byte order.
-/

namespace Ndef

/-- Which byte of a code unit comes first. -/
inductive ByteOrder where
  | bigEndian
  | littleEndian
deriving DecidableEq

namespace ByteOrder

/-- The two bytes of a code unit. -/
def bytes : ByteOrder → UInt16 → Bytes
  | bigEndian, u => Bytes.ofNat 2 u.toNat
  | littleEndian, u => (Bytes.ofNat 2 u.toNat).reverse

/-- The code unit with the given bytes. -/
def unit : ByteOrder → UInt8 → UInt8 → UInt16
  | bigEndian, a, b => UInt16.ofNat (Bytes.toNat [a, b])
  | littleEndian, a, b => UInt16.ofNat (Bytes.toNat [b, a])

/-- Two bytes are recovered from the code unit they write. -/
theorem bytes_unit (order : ByteOrder) (a b : UInt8) :
  order.bytes (order.unit a b) = [a, b]
  := by
  have h (a b : UInt8) : Bytes.ofNat 2 (UInt16.ofNat (Bytes.toNat [a, b])).toNat = [a, b] := by
    have hlt : Bytes.toNat [a, b] < 0x10000 := Bytes.toNat_lt [a, b]
    rw [UInt16.toNat_ofNat', Nat.mod_eq_of_lt hlt]
    exact Bytes.ofNat_toNat [a, b]
  cases order
  · exact h a b
  · rw [bytes, unit, h b a]
    rfl

/-- A code unit is written in two bytes, from which it is recovered. -/
theorem exists_bytes_eq (order : ByteOrder) (u : UInt16) :
  ∃ a b, order.bytes u = [a, b] ∧ order.unit a b = u
  := by
  have h : Bytes.toNat (Bytes.ofNat 2 u.toNat) = u.toNat :=
    Bytes.toNat_ofNat u.toNat_lt
  simp only [Bytes.ofNat] at h
  cases order
  · refine ⟨_, _, rfl, ?_⟩
    rw [unit, h, UInt16.ofNat_toNat]
  · refine ⟨_, _, rfl, ?_⟩
    rw [unit, h, UInt16.ofNat_toNat]

/-- The reader of code units of two bytes. -/
def reader (order : ByteOrder) : Reader UInt8 UInt16 where
  read
    | a :: b :: rest => some (order.unit a b, rest)
    | _ => none
  shorter := by
    intro s a rest h
    split at h
    · cases h
      simp only [List.length_cons]
      omega
    · cases h

end ByteOrder

namespace Utf16

/-- The code units of a character. -/
def unitsOfChar (c : Char) : List UInt16 :=
  let n := c.toNat
  if n < 0x10000 then [UInt16.ofNat n]
  else [UInt16.ofNat (0xD800 + (n - 0x10000) / 0x400), UInt16.ofNat (0xDC00 + (n - 0x10000) % 0x400)]

/-- The character that two units write, if they form a surrogate pair. -/
def pair? (high low : UInt16) : Option Char :=
  let h := high.toNat
  let l := low.toNat
  if 0xD800 ≤ h ∧ h < 0xDC00 ∧ 0xDC00 ≤ l ∧ l < 0xE000 then
    some (Char.ofNat (0x10000 + (h - 0xD800) * 0x400 + (l - 0xDC00)))
  else none

/-- The character at the front, which is one unit or a surrogate pair. -/
def readChar : List UInt16 → Option (Char × List UInt16)
  | [] => none
  | u :: rest =>
    if u.toNat < 0xD800 ∨ 0xE000 ≤ u.toNat then some (Char.ofNat u.toNat, rest)
    else match rest with
      | [] => none
      | v :: rest => (pair? u v).map (·, rest)

/-- The reader of characters. -/
def reader : Reader UInt16 Char where
  read := readChar
  shorter := by
    intro s a rest h
    unfold readChar at h
    split at h
    · cases h
    · split at h
      · cases h; simp
      · split at h
        · cases h
        · obtain ⟨_, _, h⟩ := Option.map_eq_some_iff.mp h
          cases h
          simp only [List.length_cons]
          omega

/-- The code units of a text. -/
def units (s : String) : List UInt16 :=
  s.toList.flatMap unitsOfChar

/-- The text that the units write, if every surrogate stands in a pair. -/
def ofUnits? (u : List UInt16) : Option String :=
  (reader.whole? u).map String.ofList

/-- The UTF-16 bytes of a text. -/
def encode (order : ByteOrder) (s : String) : Bytes :=
  (units s).flatMap order.bytes

/-- The text with the given UTF-16 bytes, if there is one. -/
def decode? (order : ByteOrder) (b : Bytes) : Option String :=
  (order.reader.whole? b).bind ofUnits?

end Utf16

end Ndef
