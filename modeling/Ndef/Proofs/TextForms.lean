import Mathlib.Tactic.Common
import Ndef.Proofs.Surrogates
import Ndef.Proofs.TextPayload

/-!
# The forms of text payloads

A payload is read as a text exactly if it is a status byte, a language tag as long as that
byte says, and a body in the encoding that it says (`Text.IsPayload`).  Writing the text again
gives the same payload, unless the reserved bit of the status byte is set or the body has a
big-endian mark (`Text.decode_exact`).  So a text in UTF-16 has three forms, of which the one
without a mark is another text if it seems to begin with a mark (`Text.decode_utf16_forms`).
-/

namespace Ndef

/-- Bytes are UTF-8 exactly if they are the UTF-8 bytes of a text. -/
theorem Utf8.isValid_iff {b : Bytes} :
  b.toByteArray.IsValidUTF8 ↔ ∃ s, b = encode s
  := by
  simp only [← decode?_eq_some_iff, decode?, String.fromUTF8?]
  constructor
  · intro h
    rw [dif_pos h]
    exact ⟨_, rfl⟩
  · rintro ⟨s, hs⟩
    by_contra h
    rw [dif_neg h] at hs
    cases hs

namespace Text

/-- The bytes `b` can stand behind the language tag of a payload with the given status byte:
as UTF-8 if the highest bit is clear, and else as UTF-16 behind its mark, if there is one. -/
inductive IsBody (status : UInt8) (b : Bytes) : Prop where
  | utf8 (hflag : status &&& 0x80 = 0) (hvalid : b.toByteArray.IsValidUTF8) : IsBody status b
  | utf16 {order : ByteOrder} {units : Bytes} (hflag : status &&& 0x80 ≠ 0)
      (hunmarks : Unmarks b order units) (hvalid : Utf16.IsValid order units) : IsBody status b

/-- `IsPayload status tag b p`: the payload `p` is a status byte, a language tag in UTF-8 that
is as long as the low six bits of that byte say, and a body. -/
structure IsPayload (status : UInt8) (tag b p : Bytes) : Prop where
  concat : p = status :: (tag ++ b)
  length : tag.length = (status &&& 0x3F).toNat
  tag : tag.toByteArray.IsValidUTF8
  body : IsBody status b

variable {s : UInt8} {b p tag : Bytes} {content : String} {e : TextEncoding} {t : Text}

/-! ### The bits of the status byte -/

theorem toNat_and_low (s : UInt8) :
  (s &&& 0x3F).toNat = s.toNat % languageBound
  := by
  rw [UInt8.toNat_and]
  apply Nat.and_two_pow_sub_one_eq_mod s.toNat 6

theorem le_toNat_iff (s : UInt8) :
  0x80 ≤ s.toNat ↔ s &&& 0x80 ≠ 0
  := by
  revert s
  apply Bytes.forall_byte
  decide +kernel

/-- The length and the flag for UTF-16 are the whole status byte exactly if the reserved bit
is clear. -/
theorem status_eq_iff (h : e.isWide = decide (0x80 ≤ s.toNat)) :
  status (s.toNat % languageBound) e = s ↔ s &&& 0x40 = 0
  := by
  have hbits : ∀ s : UInt8, UInt8.ofNat ((if 0x80 ≤ s.toNat then 0x80 else 0) + s.toNat % 64) = s
      ↔ s &&& 0x40 = 0 := by
    apply Bytes.forall_byte
    decide +kernel
  rw [← hbits, languageBound]
  cases e with
  | utf8 =>
    have hlow : ¬ 0x80 ≤ s.toNat := of_decide_eq_false h.symm
    rw [status, if_neg hlow, Nat.zero_add]
  | utf16 order =>
    have hhigh : 0x80 ≤ s.toNat := of_decide_eq_true h.symm
    rw [status, if_pos hhigh]

/-! ### Bodies -/

theorem exists_decodeBody_iff :
  (∃ content e, decodeBody (0x80 ≤ s.toNat) b = .ok (content, e)) ↔ IsBody s b
  := by
  by_cases hflag : s &&& 0x80 = 0
  · have hlow : ¬ 0x80 ≤ s.toNat := by simp [le_toNat_iff, hflag]
    simp only [decide_eq_false hlow, decodeBody_false_eq_ok_iff]
    constructor
    · rintro ⟨content, -, hb, -⟩
      exact .utf8 hflag (Utf8.isValid_iff.mpr ⟨content, hb⟩)
    · rintro (⟨-, hvalid⟩ | ⟨hwide, -, -⟩)
      · obtain ⟨content, hb⟩ := Utf8.isValid_iff.mp hvalid
        exact ⟨content, _, hb, rfl⟩
      · exact absurd hflag hwide
  · have hhigh : 0x80 ≤ s.toNat := (le_toNat_iff s).mpr hflag
    simp only [decide_eq_true hhigh, decodeBody_true_eq_ok_iff]
    constructor
    · rintro ⟨content, -, order, hunmarks, -⟩
      exact .utf16 hflag hunmarks (Utf16.isValid_iff.mpr ⟨content, rfl⟩)
    · rintro (⟨hnarrow, -⟩ | ⟨-, hunmarks, hvalid⟩)
      · exact absurd hnarrow hflag
      · obtain ⟨content, rfl⟩ := Utf16.isValid_iff.mp hvalid
        exact ⟨content, _, _, hunmarks, rfl⟩

/-- A body is read as wide text exactly if it is said to be. -/
theorem isWide_of_decodeBody {wide : Bool} (h : decodeBody wide b = .ok (content, e)) :
  e.isWide = wide
  := by
  cases wide with
  | false =>
    obtain ⟨-, rfl⟩ := decodeBody_false_eq_ok_iff.mp h
    rfl
  | true =>
    obtain ⟨order, -, rfl⟩ := decodeBody_true_eq_ok_iff.mp h
    rfl

/-- A UTF-16 body is written again the same exactly if it does not begin with a big-endian
mark, since that mark is not written. -/
theorem Unmarks.body_eq_iff {order : ByteOrder}
    (h : Unmarks b order (Utf16.encode order content)) :
  Text.body content (.utf16 order) = b ↔ ¬ [0xFE, 0xFF] <+: b
  := by
  cases order with
  | bigEndian =>
    rw [Text.body]
    generalize Utf16.encode .bigEndian content = units at h
    cases h with
    | bigEndian =>
      have hlength (rest : Bytes) : rest ≠ 0xFE :: 0xFF :: rest := by
        intro heq
        have hlength := congrArg List.length heq
        simp only [List.length_cons] at hlength
        omega
      simp [hlength]
    | unmarked _ hbig => simp [hbig]
  | littleEndian =>
    rw [Text.body]
    generalize Utf16.encode .littleEndian content = units at h
    cases h with
    | littleEndian =>
      have hmark : mark .littleEndian = [0xFF, 0xFE] := by decide
      simp [hmark]

/-- A body is written again the same exactly if it is not UTF-16 with a big-endian mark. -/
theorem body_eq_iff (h : decodeBody (0x80 ≤ s.toNat) b = .ok (content, e)) :
  Text.body content e = b ↔ ¬ (s &&& 0x80 ≠ 0 ∧ [0xFE, 0xFF] <+: b)
  := by
  rw [← le_toNat_iff]
  by_cases hflag : 0x80 ≤ s.toNat
  · rw [decide_eq_true hflag, decodeBody_true_eq_ok_iff] at h
    obtain ⟨order, hunmarks, rfl⟩ := h
    rw [hunmarks.body_eq_iff]
    simp [hflag]
  · rw [decide_eq_false hflag, decodeBody_false_eq_ok_iff] at h
    obtain ⟨rfl, rfl⟩ := h
    simp [hflag, Text.body]

/-! ### Payloads -/

/-- A payload that is read has the tag of the text behind its status byte. -/
theorem exists_of_decode (h : decode p = .ok t) :
  ∃ s b, p = s :: (Utf8.encode t.language ++ b)
    ∧ (Utf8.encode t.language).length = s.toNat % languageBound
    ∧ decodeBody (0x80 ≤ s.toNat) b = .ok (t.content, t.encoding)
  := by
  cases p with
  | nil => cases h
  | cons s rest =>
    have hread := h
    rw [decode] at h
    dsimp only at h
    split at h
    · cases h
    · next tag b hsplit =>
      obtain ⟨rfl, hlength⟩ := Bytes.split?_eq_some_iff.mp hsplit
      split at h
      · cases h
      · next language htag =>
        obtain rfl := Utf8.decode?_eq_some_iff.mp htag
        obtain ⟨hlanguage, hbody⟩ := (decode_cons_eq_ok_iff hlength).mp hread
        refine ⟨s, b, ?_, ?_, hbody⟩
        · rw [hlanguage]
        · rw [hlanguage]
          apply hlength

/-- What is read off a payload is the text of its tag and its body. -/
theorem IsPayload.decode_eq_ok_iff (h : IsPayload s tag b p) :
  decode p = .ok t
    ↔ tag = Utf8.encode t.language ∧ decodeBody (0x80 ≤ s.toNat) b = .ok (t.content, t.encoding)
  := by
  obtain ⟨rfl, hlength, htag, -⟩ := h
  obtain ⟨language, rfl⟩ := Utf8.isValid_iff.mp htag
  rw [toNat_and_low] at hlength
  rw [decode_cons_eq_ok_iff hlength]
  constructor
  · rintro ⟨rfl, hbody⟩
    exact ⟨rfl, hbody⟩
  · rintro ⟨heq, hbody⟩
    exact ⟨(Utf8.encode_injective heq).symm, hbody⟩

/-- A text is read off exactly the payloads of the right form. -/
theorem exists_decode_iff :
  (∃ t, decode p = .ok t) ↔ ∃ s tag b, IsPayload s tag b p
  := by
  constructor
  · rintro ⟨t, h⟩
    obtain ⟨s, b, hp, hlength, hbody⟩ := exists_of_decode h
    refine ⟨s, Utf8.encode t.language, b, hp, ?_, ?_, ?_⟩
    · rw [toNat_and_low, hlength]
    · apply Utf8.isValid_iff.mpr
      exact ⟨_, rfl⟩
    · apply exists_decodeBody_iff.mp
      exact ⟨_, _, hbody⟩
  · rintro ⟨s, tag, b, h⟩
    obtain ⟨language, htag⟩ := Utf8.isValid_iff.mp h.tag
    obtain ⟨content, e, hbody⟩ := exists_decodeBody_iff.mpr h.body
    use { language, content, encoding := e }
    apply h.decode_eq_ok_iff.mpr
    exact ⟨htag, hbody⟩

/-- The text that is read off a payload is written, as the same payload exactly if the
reserved bit is clear and there is no big-endian mark. -/
theorem IsPayload.exists_encode (h : IsPayload s tag b p) (ht : decode p = .ok t) :
  ∃ q, encode t = .ok q
    ∧ (q = p ↔ s &&& 0x40 = 0 ∧ ¬ (s &&& 0x80 ≠ 0 ∧ [0xFE, 0xFF] <+: b))
  := by
  obtain ⟨rfl, hbody⟩ := h.decode_eq_ok_iff.mp ht
  obtain ⟨rfl, hlength, -, -⟩ := h
  rw [toNat_and_low] at hlength
  have hlt : (Utf8.encode t.language).length < languageBound := by
    rw [hlength]
    apply Nat.mod_lt
    decide
  refine ⟨t.payload, encode_eq_ok_iff.mpr ⟨hlt, rfl⟩, ?_⟩
  rw [payload, hlength, List.cons.injEq, List.append_cancel_left_eq,
    status_eq_iff (isWide_of_decodeBody hbody), body_eq_iff hbody]

/-- A byte string is read as a text exactly if it is a status byte, a tag and a body of the
right form.  The text is written again then, as the same byte string exactly if the reserved
bit is clear and the body is not UTF-16 with a big-endian mark. -/
theorem decode_exact (p : Bytes) :
  ((∃ t, decode p = .ok t) ↔ ∃ s tag b, IsPayload s tag b p)
    ∧ ∀ t s tag b, decode p = .ok t → IsPayload s tag b p →
      ∃ q, encode t = .ok q
        ∧ (q = p ↔ s &&& 0x40 = 0 ∧ ¬ (s &&& 0x80 ≠ 0 ∧ [0xFE, 0xFF] <+: b))
  := by
  constructor
  · apply exists_decode_iff
  · intro t s tag b ht h
    apply h.exists_encode ht

/-- A payload with a big-endian mark, before a pair of surrogates. -/
theorem decode_exact_marked :
  let b : Bytes := [0xFE, 0xFF, 0xD8, 0x3D, 0xDE, 0x00]
  let p : Bytes := [0x82, 0x65, 0x6E] ++ b
  let t : Text := { language := "en", content := "😀", encoding := .utf16 .bigEndian }
  decode p = .ok t ∧ IsPayload 0x82 [0x65, 0x6E] b p ∧ ∃ q, encode t = .ok q ∧ q ≠ p
  := by
  intro b p t
  have ht : decode p = .ok t := by decide +kernel
  have hpayload : IsPayload 0x82 [0x65, 0x6E] b p := by
    refine ⟨rfl, rfl, Utf8.isValid_iff.mpr ⟨"en", by decide +kernel⟩, ?_⟩
    apply IsBody.utf16 (by decide) (.bigEndian _)
    exact Utf16.isValid_iff.mpr ⟨"😀", by decide +kernel⟩
  obtain ⟨q, hq, hiff⟩ := (decode_exact p).2 t 0x82 _ b ht hpayload
  refine ⟨ht, hpayload, q, hq, ?_⟩
  rintro rfl
  obtain ⟨-, hmark⟩ := hiff.mp rfl
  exact hmark ⟨by decide, _, rfl⟩

/-! ### Text in UTF-16 -/

/-- The payload of text in UTF-16: the status byte with the flag for UTF-16 and the length of
the language tag, the tag, and the body. -/
def widePayload (language : String) (b : Bytes) : Bytes :=
  UInt8.ofNat (0x80 + (Utf8.encode language).length) :: (Utf8.encode language ++ b)

theorem decode_widePayload_eq_ok_iff {language : String}
    (h : (Utf8.encode language).length ≤ 63) :
  decode (widePayload language b) = .ok t
    ↔ t.language = language ∧ decodeBody true b = .ok (t.content, t.encoding)
  := by
  have hlt : (Utf8.encode language).length < languageBound := Nat.lt_succ_of_le h
  have hlength := toNat_status_mod hlt (.utf16 .bigEndian)
  have hflag := le_toNat_status hlt (.utf16 .bigEndian)
  rw [status] at hlength hflag
  rw [widePayload, decode_cons_eq_ok_iff hlength.symm, hflag, TextEncoding.isWide]

/-- Big-endian text behind its mark and little-endian text behind its mark are read as that
text.  Big-endian text without a mark is read as that text exactly if it does not begin with
a character that is taken for a mark. -/
theorem decode_utf16_forms {language : String} (h : (Utf8.encode language).length ≤ 63)
    (content : String) :
  decode (widePayload language ([0xFE, 0xFF] ++ Utf16.encode .bigEndian content))
      = .ok { language, content, encoding := .utf16 .bigEndian }
    ∧ decode (widePayload language ([0xFF, 0xFE] ++ Utf16.encode .littleEndian content))
      = .ok { language, content, encoding := .utf16 .littleEndian }
    ∧ ((∃ t, decode (widePayload language (Utf16.encode .bigEndian content)) = .ok t
        ∧ t.language = language ∧ t.content = content)
      ↔ content.toList.head? ≠ some '\ufeff' ∧ content.toList.head? ≠ some '\ufffe')
  := by
  simp only [decode_widePayload_eq_ok_iff h, true_and]
  refine ⟨?_, ?_, ?_⟩
  · apply decodeBody_true_eq_ok_iff.mpr
    exact ⟨_, .bigEndian _, rfl⟩
  · apply decodeBody_true_eq_ok_iff.mpr
    exact ⟨_, .littleEndian _, rfl⟩
  · constructor
    · rintro ⟨t, ⟨-, hbody⟩, -, rfl⟩
      obtain ⟨-, hmark⟩ := decodeBody_bigEndian_iff.mp hbody
      exact ⟨hmark .bigEndian, hmark .littleEndian⟩
    · rintro ⟨hbig, hlittle⟩
      use { language, content, encoding := .utf16 .bigEndian }
      refine ⟨⟨rfl, decodeBody_bigEndian_iff.mpr ⟨rfl, ?_⟩⟩, rfl, rfl⟩
      rintro (_ | _)
      · apply hbig
      · apply hlittle

/-- A text that begins with a mark itself, behind a mark and without one. -/
theorem decode_utf16_forms_second_mark :
  (Utf8.encode "en").length ≤ 63
    ∧ decode (widePayload "en" [0xFE, 0xFF, 0xFE, 0xFF, 0x00, 0x41])
      = .ok { language := "en", content := "\ufeffA", encoding := .utf16 .bigEndian }
    ∧ ¬ ∃ t, decode (widePayload "en" [0xFE, 0xFF, 0x00, 0x41]) = .ok t
      ∧ t.language = "en" ∧ t.content = "\ufeffA"
  := by
  have h : (Utf8.encode "en").length ≤ 63 := by decide +kernel
  have hunits : Utf16.encode .bigEndian "\ufeffA" = [0xFE, 0xFF, 0x00, 0x41] := by decide +kernel
  obtain ⟨hbig, -, hplain⟩ := decode_utf16_forms h "\ufeffA"
  rw [hunits] at hbig hplain
  refine ⟨h, hbig, ?_⟩
  rw [hplain]
  rintro ⟨hhead, -⟩
  exact absurd rfl hhead

end Text

end Ndef
