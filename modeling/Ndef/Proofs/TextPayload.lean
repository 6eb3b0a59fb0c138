import Mathlib.Tactic.Common
import Ndef.Payload.Text
import Ndef.Proofs.Outcome
import Ndef.Proofs.Utf16

/-!
# Reading texts back

The status byte of a text gives back the length of the language tag and whether the text
is UTF-16.  So a text is read back from its payload if its body is read back
(`Text.decode_payload`).  That is so unless the text is big-endian UTF-16 and its first
character is taken for a byte order mark (`Text.decode_payload_iff`).
-/

namespace Ndef

/-- Whether the encoding is one of UTF-16. -/
def TextEncoding.isWide : TextEncoding → Bool
  | utf8 => false
  | utf16 _ => true

namespace Text

variable {t : Text}

/-- The payload of a text, whatever the length of its language tag. -/
def payload (t : Text) : Bytes :=
  status (Utf8.encode t.language).length t.encoding
    :: (Utf8.encode t.language ++ body t.content t.encoding)

/-- A text is encoded exactly if its language tag is below the bound. -/
theorem encode_eq_ok_iff {b : Bytes} :
  t.encode = .ok b ↔ (Utf8.encode t.language).length < languageBound ∧ b = t.payload
  := by
  rw [encode]
  split
  · next hlength => simp [hlength, payload, eq_comm]
  · next hlength => simp [hlength]

/-! ### The status byte -/

theorem toNat_status {length : Nat} (h : length < languageBound) (e : TextEncoding) :
  (status length e).toNat = length + if e.isWide then 0x80 else 0
  := by
  rw [languageBound] at h
  cases e with
  | utf8 =>
    rw [status, UInt8.toNat_ofNat']
    simp only [TextEncoding.isWide, Bool.false_eq_true, if_false]
    omega
  | utf16 order =>
    rw [status, UInt8.toNat_ofNat']
    simp only [TextEncoding.isWide, if_true]
    omega

theorem toNat_status_mod {length : Nat} (h : length < languageBound) (e : TextEncoding) :
  (status length e).toNat % languageBound = length
  := by
  rw [toNat_status h]
  rw [languageBound] at h ⊢
  split <;> omega

theorem le_toNat_status {length : Nat} (h : length < languageBound) (e : TextEncoding) :
  decide (0x80 ≤ (status length e).toNat) = e.isWide
  := by
  rw [toNat_status h]
  rw [languageBound] at h
  cases he : e.isWide
  · simp
    omega
  · simp

/-! ### Reading -/

/-- Behind the status byte, a language tag of the length that it says is read as such, and
the rest as a body. -/
theorem decode_cons_eq_ok_iff {s : UInt8} {language : String} {b : Bytes}
    (h : (Utf8.encode language).length = s.toNat % languageBound) {u : Text} :
  decode (s :: (Utf8.encode language ++ b)) = .ok u
    ↔ u.language = language ∧ decodeBody (0x80 ≤ s.toNat) b = .ok (u.content, u.encoding)
  := by
  have hsplit : Bytes.split? (s.toNat % languageBound) (Utf8.encode language ++ b)
      = some (Utf8.encode language, b) :=
    Bytes.split?_eq_some_iff.mpr ⟨rfl, h⟩
  rw [decode]
  simp only [hsplit, Utf8.decode?_encode, Except.bind_eq_ok_iff]
  constructor
  · rintro ⟨⟨content, encoding⟩, hbody, hu⟩
    injection hu with hu
    rw [← hu]
    exact ⟨rfl, hbody⟩
  · rintro ⟨hlanguage, hbody⟩
    use (u.content, u.encoding), hbody
    rw [← hlanguage]
    rfl

/-- What is read off the payload of a text is its language and what is read off its body. -/
theorem decode_payload_eq_ok_iff (h : (Utf8.encode t.language).length < languageBound) {u : Text} :
  decode t.payload = .ok u
    ↔ u.language = t.language
      ∧ decodeBody t.encoding.isWide (body t.content t.encoding) = .ok (u.content, u.encoding)
  := by
  rw [payload, decode_cons_eq_ok_iff (toNat_status_mod h t.encoding).symm, le_toNat_status h]

/-- A text is read back from its payload if its body is read back. -/
theorem decode_payload (h : (Utf8.encode t.language).length < languageBound)
    (hbody : decodeBody t.encoding.isWide (body t.content t.encoding)
      = .ok (t.content, t.encoding)) :
  decode t.payload = .ok t
  := (decode_payload_eq_ok_iff h).mpr ⟨rfl, hbody⟩

/-! ### Bodies -/

/-- `Unmarks b order units`: the UTF-16 body `b` is the text `units` in the given byte order,
behind the mark for that order if there is one.  Without a mark the order is big-endian. -/
inductive Unmarks : Bytes → ByteOrder → Bytes → Prop where
  | bigEndian (units : Bytes) : Unmarks (0xFE :: 0xFF :: units) .bigEndian units
  | littleEndian (units : Bytes) : Unmarks (0xFF :: 0xFE :: units) .littleEndian units
  | unmarked (units : Bytes) (hbig : ¬ [0xFE, 0xFF] <+: units)
      (hlittle : ¬ [0xFF, 0xFE] <+: units) : Unmarks units .bigEndian units

variable {b units : Bytes} {order : ByteOrder} {content : String} {e : TextEncoding}

theorem mark_prefix_iff (order : ByteOrder) :
  mark order <+: b ↔ b.take 2 = mark order
  := by
  have hlength : (mark order).length = 2 := by
    cases order <;> rfl
  rw [List.prefix_iff_eq_take, hlength, eq_comm]

/-- A mark is taken off exactly as it should. -/
theorem unmarks_iff :
  Unmarks b order units ↔ Text.unmarked b = (order, units)
  := by
  constructor
  · intro h
    cases h with
    | bigEndian => rfl
    | littleEndian => rfl
    | unmarked _ hbig hlittle =>
      rw [Text.unmarked, if_neg (mt (mark_prefix_iff .littleEndian).mpr hlittle),
        if_neg (mt (mark_prefix_iff .bigEndian).mpr hbig)]
  · intro h
    rw [Text.unmarked] at h
    split at h
    · next hlittle =>
      obtain ⟨rest, rfl⟩ := (mark_prefix_iff _).mpr hlittle
      obtain ⟨rfl, rfl⟩ := Prod.mk.inj h
      apply Unmarks.littleEndian
    · next hlittle =>
      split at h
      · next hbig =>
        obtain ⟨rest, rfl⟩ := (mark_prefix_iff _).mpr hbig
        obtain ⟨rfl, rfl⟩ := Prod.mk.inj h
        apply Unmarks.bigEndian
      · next hbig =>
        obtain ⟨rfl, rfl⟩ := Prod.mk.inj h
        exact .unmarked _ (mt (mark_prefix_iff .bigEndian).mp hbig)
          (mt (mark_prefix_iff .littleEndian).mp hlittle)

/-- Nothing is taken off a body that is as long as its text. -/
theorem Unmarks.not_mark_prefix (h : Unmarks b order units) (hlength : units.length = b.length) :
  order = .bigEndian ∧ ∀ order, ¬ mark order <+: b
  := by
  cases h with
  | bigEndian =>
    simp only [List.length_cons] at hlength
    omega
  | littleEndian =>
    simp only [List.length_cons] at hlength
    omega
  | unmarked _ hbig hlittle =>
    refine ⟨rfl, ?_⟩
    rintro (_ | _)
    · apply hbig
    · apply hlittle

/-- A UTF-8 body is read back. -/
theorem decodeBody_utf8 (content : String) :
  decodeBody false (body content .utf8) = .ok (content, .utf8)
  := by
  simp only [decodeBody, body, Utf8.decode?_encode]
  rfl

/-- A UTF-8 body is what is written of a text. -/
theorem decodeBody_false_eq_ok_iff :
  decodeBody false b = .ok (content, e) ↔ b = Utf8.encode content ∧ e = .utf8
  := by
  rw [decodeBody, if_neg Bool.false_ne_true, ← Utf8.decode?_eq_some_iff]
  cases Utf8.decode? b with
  | none => simp
  | some s => simp [eq_comm]

/-- A UTF-16 body is what is written of a text, in the byte order that its mark says, behind
its mark. -/
theorem decodeBody_true_eq_ok_iff :
  decodeBody true b = .ok (content, e)
    ↔ ∃ order, Unmarks b order (Utf16.encode order content) ∧ e = .utf16 order
  := by
  have hread : decodeBody true b = .ok (content, e)
      ↔ (Text.unmarked b).2 = Utf16.encode (Text.unmarked b).1 content
        ∧ e = .utf16 (Text.unmarked b).1 := by
    rw [decodeBody, if_pos rfl, ← Utf16.decode?_eq_some_iff]
    dsimp only
    cases Utf16.decode? (Text.unmarked b).1 (Text.unmarked b).2 with
    | none => simp
    | some s => simp [eq_comm]
  rw [hread]
  constructor
  · rintro ⟨hunits, he⟩
    refine ⟨_, unmarks_iff.mpr ?_, he⟩
    rw [← hunits]
  · rintro ⟨order, hunmarks, rfl⟩
    rw [unmarks_iff.mp hunmarks]
    exact ⟨rfl, rfl⟩

/-- The character that big-endian text begins with if it begins with the mark of the given
byte order. -/
def seemingMark : ByteOrder → Char
  | .bigEndian => '\ufeff'
  | .littleEndian => '\ufffe'

theorem toNat_seemingMark_lt (order : ByteOrder) :
  (seemingMark order).toNat < 0x10000
  := by
  cases order <;> decide

theorem mark_eq_bytes_seemingMark (order : ByteOrder) :
  mark order = ByteOrder.bigEndian.bytes (UInt16.ofNat (seemingMark order).toNat)
  := by
  cases order <;> decide

/-- Big-endian text begins with a mark exactly if its first character is that mark. -/
theorem mark_prefix_encode_iff :
  mark order <+: Utf16.encode .bigEndian content
    ↔ content.toList.head? = some (seemingMark order)
  := by
  rw [mark_prefix_iff, mark_eq_bytes_seemingMark]
  apply Utf16.take_encode_eq_iff (toNat_seemingMark_lt order)

/-- A little-endian body begins with its mark, so it is read back whatever the text is. -/
theorem decodeBody_littleEndian (content : String) :
  decodeBody true (body content (.utf16 .littleEndian)) = .ok (content, .utf16 .littleEndian)
  := by
  apply decodeBody_true_eq_ok_iff.mpr
  exact ⟨_, .littleEndian _, rfl⟩

/-- A big-endian body is not marked, so it is read back exactly if its first character is
not taken for a mark. -/
theorem decodeBody_bigEndian_iff :
  decodeBody true (body content (.utf16 .bigEndian)) = .ok (content, e)
    ↔ e = .utf16 .bigEndian ∧ ∀ order, content.toList.head? ≠ some (seemingMark order)
  := by
  simp only [decodeBody_true_eq_ok_iff, body, ne_eq, ← mark_prefix_encode_iff]
  constructor
  · rintro ⟨order, hunmarks, rfl⟩
    -- What would be left behind a mark is shorter than the text.
    have hlength : (Utf16.encode order content).length
        = (Utf16.encode .bigEndian content).length := by
      rw [Utf16.length_encode, Utf16.length_encode]
    obtain ⟨rfl, hmark⟩ := hunmarks.not_mark_prefix hlength
    exact ⟨rfl, hmark⟩
  · rintro ⟨rfl, hmark⟩
    exact ⟨_, .unmarked _ (hmark .bigEndian) (hmark .littleEndian), rfl⟩

/-- Big-endian text is written without a mark, but its first character reads as one. -/
def LooksMarked (t : Text) : Prop :=
  t.encoding = .utf16 .bigEndian ∧ ∃ order, t.content.toList.head? = some (seemingMark order)

/-- A body is read back exactly if it is not taken to be marked. -/
theorem decodeBody_body_iff :
  decodeBody t.encoding.isWide (body t.content t.encoding) = .ok (t.content, t.encoding)
    ↔ ¬ t.LooksMarked
  := by
  rw [LooksMarked]
  match t.encoding with
  | .utf8 => simp [TextEncoding.isWide, decodeBody_utf8]
  | .utf16 .littleEndian => simp [TextEncoding.isWide, decodeBody_littleEndian]
  | .utf16 .bigEndian => simp [TextEncoding.isWide, decodeBody_bigEndian_iff]

/-- A text is read back from its payload exactly if it is not taken to be marked. -/
theorem decode_payload_iff (h : (Utf8.encode t.language).length < languageBound) :
  decode t.payload = .ok t ↔ ¬ t.LooksMarked
  := by
  rw [decode_payload_eq_ok_iff h, decodeBody_body_iff]
  simp

end Text

end Ndef
