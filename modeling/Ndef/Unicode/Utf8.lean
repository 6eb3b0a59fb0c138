import Ndef.Reader
import Ndef.Bytes

/-!
# UTF-8

`Utf8.encode` and `Utf8.decode?` convert between texts and their UTF-8 bytes;
decoding accepts exactly what encoding produces.  `Utf8.lossy` reads any bytes: it
puts one replacement character for each maximal piece that begins a character but
does not complete it, and for each byte that cannot begin one.
-/

namespace Ndef.Utf8

/-- The UTF-8 bytes of a text. -/
def encode (s : String) : Bytes :=
  s.toUTF8.data.toList

/-- The text with the given UTF-8 bytes, if there is one. -/
def decode? (b : Bytes) : Option String :=
  String.fromUTF8? b.toByteArray

theorem encode_injective {s t : String} (h : encode s = encode t) :
  s = t
  := by
  apply String.toByteArray_inj.mp
  apply ByteArray.ext
  exact Array.toList_inj.mp h

/-- Decoding accepts exactly what encoding produces. -/
theorem decode?_eq_some_iff {b : Bytes} {s : String} :
  decode? b = some s ↔ b = encode s
  := by
  constructor
  · intro h
    unfold decode? String.fromUTF8? at h
    split at h
    · injection h with h
      rw [← h, encode]
      simp [String.fromUTF8, String.toUTF8]
    · cases h
  · rintro rfl
    have hbytes : (encode s).toByteArray = s.toByteArray := by
      apply ByteArray.ext
      simp [encode, String.toUTF8]
    unfold decode? String.fromUTF8?
    rw [hbytes, dif_pos s.isValidUTF8]
    rfl

theorem decode?_encode (s : String) :
  decode? (encode s) = some s
  :=
  decode?_eq_some_iff.mpr rfl

/-! ### Reading ill-formed bytes -/

/-- The replacement character U+FFFD. -/
def replacement : Char := '\ufffd'

/-- What the lead byte of a longer character fixes. -/
structure Lead where
  /-- The leading bits of the code point. -/
  bits : Nat
  /-- The least second byte. -/
  low : UInt8
  /-- The greatest second byte. -/
  high : UInt8
  /-- The number of bytes after the second. -/
  further : Nat

/-- The lead bytes of characters of two to four bytes, with the bounds on the second
byte that exclude overlong forms, surrogates and code points above U+10FFFF. -/
def Lead.ofByte? (b : UInt8) : Option Lead :=
  let n := b.toNat
  if 0xC2 ≤ n ∧ n ≤ 0xDF then some ⟨n - 0xC0, 0x80, 0xBF, 0⟩
  else if n = 0xE0 then some ⟨n - 0xE0, 0xA0, 0xBF, 1⟩
  else if n = 0xED then some ⟨n - 0xE0, 0x80, 0x9F, 1⟩
  else if 0xE1 ≤ n ∧ n ≤ 0xEF then some ⟨n - 0xE0, 0x80, 0xBF, 1⟩
  else if n = 0xF0 then some ⟨n - 0xF0, 0x90, 0xBF, 2⟩
  else if n = 0xF4 then some ⟨n - 0xF0, 0x80, 0x8F, 2⟩
  else if 0xF1 ≤ n ∧ n ≤ 0xF3 then some ⟨n - 0xF0, 0x80, 0xBF, 2⟩
  else none

/-- Takes `more` continuation bytes off the front and returns the character they
complete, or stops at the first byte that does not fit and returns the replacement. -/
def complete (bits : Nat) : (more : Nat) → Bytes → Char × Bytes
  | 0, s => (Char.ofNat bits, s)
  | _ + 1, [] => (replacement, [])
  | more + 1, b :: s =>
    if 0x80 ≤ b ∧ b ≤ 0xBF then complete (64 * bits + (b.toNat - 0x80)) more s
    else (replacement, b :: s)

/-- The character or the replacement for the ill-formed piece at the front. -/
def readLossy : Bytes → Option (Char × Bytes)
  | [] => none
  | b :: s =>
    if b < 0x80 then some (Char.ofNat b.toNat, s)
    else match Lead.ofByte? b, s with
      | some lead, c :: r =>
        if lead.low ≤ c ∧ c ≤ lead.high then
          some (complete (64 * lead.bits + (c.toNat - 0x80)) lead.further r)
        else some (replacement, s)
      | _, _ => some (replacement, s)

theorem length_complete_le (bits more : Nat) (s : Bytes) :
  (complete bits more s).2.length ≤ s.length
  := by
  fun_induction complete bits more s with
  | case1 => simp
  | case2 => simp
  | case3 bits more b s _ ih =>
    rw [List.length_cons]
    omega
  | case4 => simp

/-- The reader of characters and of replacements for ill-formed pieces. -/
def lossyReader : Reader UInt8 Char where
  read := readLossy
  shorter := by
    intro s a rest h
    unfold readLossy at h
    split at h
    · cases h
    · next b s =>
      split at h
      · cases h; simp
      · split at h
        · next lead c r _ =>
          split at h
          · injection h with h
            have hle : rest.length ≤ r.length := by
              have := length_complete_le (64 * lead.bits + (c.toNat - 0x80)) lead.further r
              rw [h] at this
              exact this
            simp only [List.length_cons]
            omega
          · cases h; simp
        · cases h; simp

/-- The text that the bytes write, with replacements for what is ill-formed. -/
def lossy (b : Bytes) : String :=
  String.ofList (lossyReader.all b).1

end Ndef.Utf8
