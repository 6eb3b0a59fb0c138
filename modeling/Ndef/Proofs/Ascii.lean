import Mathlib.Tactic.Common
import Ndef.Hex
import Ndef.MediaType
import Ndef.Unicode.WhiteSpace

/-!
# ASCII texts

An ASCII character is one byte of UTF-8, and reading the bytes of an ASCII text gives it back
(`Utf8.lossy_encode_of_ascii`).  Media types are ASCII texts, and so are hexadecimal digits, so
bytes are read back from their digits (`Hex.decode_encode`), whatever white space is put
between these (`Hex.decode_filter_of_spaced`).
-/

namespace Ndef

namespace Utf8

/-- The byte of an ASCII character. -/
def byteOfChar (c : Char) : UInt8 :=
  UInt8.ofNat c.toNat

theorem encode_ofList (s : List Char) :
  encode (String.ofList s) = s.flatMap String.utf8EncodeChar
  := by
  rw [encode, String.toUTF8, String.toByteArray_ofList, List.utf8Encode]
  simp

/-- ASCII characters are written as one byte each. -/
theorem encode_ofList_of_ascii {s : List Char} (h : ∀ c ∈ s, c.toNat < 0x80) :
  encode (String.ofList s) = s.map byteOfChar
  := by
  rw [encode_ofList]
  induction s with
  | nil => rfl
  | cons c s ih =>
    rw [List.forall_mem_cons] at h
    have hc : c.val ≤ 127 := UInt32.le_iff_toNat_le.mpr (Nat.le_of_lt_succ h.1)
    rw [List.flatMap_cons, ih h.2,
      String.utf8EncodeChar_eq_singleton (Char.utf8Size_eq_one_iff.mpr hc), List.map_cons,
      List.singleton_append]
    congr 1

theorem toNat_byteOfChar {c : Char} (h : c.toNat < 0x80) :
  (byteOfChar c).toNat = c.toNat
  := by
  rw [byteOfChar, UInt8.toNat_ofNat']
  omega

theorem read_lossyReader_of_ascii {c : Char} (h : c.toNat < 0x80) (rest : Bytes) :
  lossyReader.read (byteOfChar c :: rest) = some (c, rest)
  := by
  have hlt : byteOfChar c < 0x80 := by
    rw [UInt8.lt_iff_toNat_lt, toNat_byteOfChar h]
    exact h
  change readLossy (byteOfChar c :: rest) = some (c, rest)
  rw [readLossy.eq_def]
  dsimp only
  rw [if_pos hlt, toNat_byteOfChar h, Char.ofNat_toNat]

/-- Reading the bytes of ASCII characters yields these, also if bytes are read that need not be
well-formed. -/
theorem all_lossyReader_of_ascii {s : List Char} (h : ∀ c ∈ s, c.toNat < 0x80) :
  (lossyReader.all (s.map byteOfChar)).1 = s
  := by
  induction s with
  | nil => rw [List.map_nil, Reader.all_of_none (p := lossyReader) rfl]
  | cons c s ih =>
    rw [List.forall_mem_cons] at h
    rw [List.map_cons, Reader.all_of_some (read_lossyReader_of_ascii h.1 _), ih h.2]

/-- Reading the bytes of an ASCII text gives it back. -/
theorem lossy_encode_of_ascii {s : String} (h : ∀ c ∈ s.toList, c.toNat < 0x80) :
  lossy (encode s) = s
  := by
  have hencode := encode_ofList_of_ascii h
  rw [String.ofList_toList] at hencode
  rw [lossy, hencode, all_lossyReader_of_ascii h, String.ofList_toList]

end Utf8

/-! ### Media types -/

/-- A media type is an ASCII text. -/
theorem MediaType.ascii_of_isType {s : String} (h : isType s = true) :
  ∀ c ∈ s.toList, c.toNat < 0x80
  := by
  have htoken {token : String} (htoken : isToken token = true) : ∀ c ∈ token.toList, c.toNat < 0x80 := by
    intro c hc
    have hchar := List.all_eq_true.mp (Bool.and_eq_true_iff.mp htoken).2 c hc
    simp only [isTokenChar, Bool.and_eq_true, decide_eq_true_eq] at hchar
    omega
  rw [isType] at h
  split at h
  · next type subtype hparts =>
    obtain ⟨slash, hslash, hs⟩ := toList_of_cut_eq hparts
    simp only [Bool.and_eq_true] at h
    obtain ⟨⟨-, htype⟩, hsubtype⟩ := h
    intro c hc
    rw [hs, List.mem_append, List.mem_cons] at hc
    rcases hc with hc | rfl | hc
    · apply htoken htype c hc
    · rw [beq_iff_eq.mp hslash]
      decide
    · apply htoken hsubtype c hc
  · cases h

/-! ### Hexadecimal digits -/

namespace Hex

/-- `Spaced digits text`: the text is the digits with white space put between them. -/
inductive Spaced : List Char → List Char → Prop where
  | nil : Spaced [] []
  | digit (c : Char) {s t : List Char} (h : Spaced s t) : Spaced (c :: s) (c :: t)
  | space {c : Char} (hc : isWhiteSpace c = true) {s t : List Char} (h : Spaced s t) :
      Spaced s (c :: t)

/-- The digits of a byte. -/
def digits (x : UInt8) : List Char :=
  [digit (x / 16), digit (x % 16)]

/-- Digits are ASCII, are no white space, and are read back. -/
theorem digit_spec :
  ∀ n < 16, (digit (UInt8.ofNat n)).toNat < 0x80 ∧ isWhiteSpace (digit (UInt8.ofNat n)) = false
    ∧ value? (Utf8.byteOfChar (digit (UInt8.ofNat n))) = some (UInt8.ofNat n)
  := by
  decide

theorem exists_digit_of_mem {b : Bytes} {c : Char} (h : c ∈ b.flatMap digits) :
  ∃ n < 16, c = digit (UInt8.ofNat n)
  := by
  have hdigit (x : UInt8) (hx : x.toNat < 16) : ∃ n < 16, digit x = digit (UInt8.ofNat n) :=
    ⟨x.toNat, hx, by rw [UInt8.ofNat_toNat]⟩
  obtain ⟨x, -, hc⟩ := List.mem_flatMap.mp h
  have hx := x.toNat_lt
  rw [digits, List.mem_cons, List.mem_singleton] at hc
  rcases hc with rfl | rfl
  · apply hdigit
    rw [UInt8.toNat_div]
    change x.toNat / 16 < 16
    omega
  · apply hdigit
    rw [UInt8.toNat_mod]
    change x.toNat % 16 < 16
    omega

/-- The bytes are read back from their digits, behind the bytes that were read before. -/
theorem decodePairs_digits (before b : Bytes) (offset : Nat) :
  decodePairs before offset ((b.flatMap digits).map Utf8.byteOfChar) = .ok (before.reverse ++ b)
  := by
  induction b generalizing before offset with
  | nil => simp [decodePairs]
  | cons x b ih =>
    have hx := x.toNat_lt
    obtain ⟨-, -, hhigh⟩ := digit_spec (x.toNat / 16) (by omega)
    obtain ⟨-, -, hlow⟩ := digit_spec (x.toNat % 16) (by omega)
    have hdiv : UInt8.ofNat (x.toNat / 16) = x / 16 := by
      apply UInt8.toNat_inj.mp
      simp
      omega
    have hmod : UInt8.ofNat (x.toNat % 16) = x % 16 := by
      apply UInt8.toNat_inj.mp
      simp
      omega
    have hbyte : 16 * (x / 16) + x % 16 = x := by
      apply UInt8.toNat_inj.mp
      simp
      omega
    rw [hdiv] at hhigh
    rw [hmod] at hlow
    rw [List.flatMap_cons, List.map_append]
    change decodePairs before offset (_ :: _ :: _) = _
    simp only [decodePairs, hhigh, hlow, hbyte]
    change decodePairs (x :: before) (offset + 2) ((b.flatMap digits).map Utf8.byteOfChar) = _
    rw [ih, List.reverse_cons, List.append_assoc, List.singleton_append]

/-- Bytes are read back from their digits. -/
theorem decode_encode (b : Bytes) :
  decode (encode b) = .ok b
  := by
  have hascii : ∀ c ∈ b.flatMap digits, c.toNat < 0x80 := by
    intro c hc
    obtain ⟨n, hn, rfl⟩ := exists_digit_of_mem hc
    exact (digit_spec n hn).1
  have hlength : (b.flatMap digits).length % 2 ≠ 1 := by
    have hsum : (b.flatMap digits).length = b.length * 2 := by
      simp [List.length_flatMap, digits, List.map_const']
    omega
  change decode (String.ofList (b.flatMap digits)) = _
  rw [decode, Utf8.encode_ofList_of_ascii hascii, List.length_map, if_neg hlength,
    decodePairs_digits]
  rfl

/-- What is left of a text without its white space is the digits that it spaces. -/
theorem spaced_filter (t : List Char) :
  Spaced (t.filter (!isWhiteSpace ·)) t
  := by
  induction t with
  | nil => exact .nil
  | cons c t ih =>
    cases hc : isWhiteSpace c with
    | true =>
      rw [List.filter_cons_of_neg (by simp [hc])]
      exact .space hc ih
    | false =>
      rw [List.filter_cons_of_pos (by simp [hc])]
      exact .digit c ih

/-- White space between digits is taken away again. -/
theorem Spaced.filter_eq {s t : List Char} (h : Spaced s t)
    (hs : ∀ c ∈ s, isWhiteSpace c = false) :
  t.filter (!isWhiteSpace ·) = s
  := by
  induction h with
  | nil => rfl
  | digit c _ ih =>
    rw [List.forall_mem_cons] at hs
    rw [List.filter_cons_of_pos (by simp [hs.1]), ih hs.2]
  | space hc _ ih => rw [List.filter_cons_of_neg (by simp [hc]), ih hs]

theorem Spaced.filter_encode {b : Bytes} {t : List Char} (h : Spaced (encode b).toList t) :
  t.filter (!isWhiteSpace ·) = (encode b).toList
  := by
  apply h.filter_eq
  intro c hc
  rw [encode, String.toList_ofList] at hc
  obtain ⟨n, hn, rfl⟩ := exists_digit_of_mem hc
  exact (digit_spec n hn).2.1

/-- Bytes are read back from their digits with white space between them. -/
theorem decode_filter_of_spaced {b : Bytes} {text : String}
    (h : Spaced (encode b).toList text.toList) :
  decode (String.ofList (text.toList.filter (!isWhiteSpace ·))) = .ok b
  := by
  rw [h.filter_encode, String.ofList_toList, decode_encode]

end Hex

end Ndef
