import Mathlib.Tactic.Common
import Ndef.Proofs.Building
import Ndef.Proofs.Content
import Ndef.Proofs.TextPayload

/-!
# Reading texts back from records

A record is built of every text whose language tag fits the status byte, and it is read
back with that text (`Text.RoundTrips`), except for big-endian text whose first character is
taken for a byte order mark (`Text.roundTrips_iff`).  Of such text a record may be built as
well, but the record says something else.
-/

namespace Ndef

namespace Text

variable {t : Text}

/-- A record is built of the text, which says the text, and so does the single record that
is read off its bytes, whatever the display language.  What that record says is built into
the same bytes again. -/
def RoundTrips (t : Text) : Prop :=
  ∃ r, Record.buildText t = .ok r ∧ r.text? = some t
    ∧ ∀ language, ∃ s, Message.decode? language r.bytes = some (.single s)
      ∧ s.text? = some t
      ∧ ∀ u, s.text? = some u → ∃ again, Record.buildText u = .ok again ∧ again.bytes = r.bytes

/-- No record is built of a text whose language tag does not fit the status byte. -/
theorem buildText_eq_error (h : 63 < (Utf8.encode t.language).length) :
  Record.buildText t = .error .languageTooLong
  := by
  have hbound : ¬ (Utf8.encode t.language).length < languageBound := by
    rw [languageBound]
    omega
  rw [Record.buildText, encode, if_neg hbound]
  rfl

/-- A text that is read back from its payload is read back from its record. -/
theorem roundTrips_of_decode_payload (hlanguage : (Utf8.encode t.language).length ≤ 63)
    (hpayload : t.payload.length < 0x80000000) (hdecode : decode t.payload = .ok t) :
  t.RoundTrips
  := by
  let f := Frame.ofParts .wellKnown WellKnown.text.type none t.payload
  have hfits : f.Fits := Frame.fits_ofParts_iff.mpr ⟨by decide, by decide, hpayload⟩
  have hcontent (language : Option Language) : Content.ofFrame language f = .text t :=
    Content.ofFrame_eq_text_iff.mpr ⟨rfl, rfl, hdecode⟩
  have htext (language : Option Language) : (Record.ofFrame language f).text? = some t :=
    Record.text?_eq_some_iff.mpr (hcontent language)
  have hbuild : Record.buildText t = .ok (.ofFrame none f) := by
    apply Record.buildText_eq_ok_iff.mpr
    exact ⟨Nat.lt_succ_of_le hlanguage, hfits, rfl, congrArg Content.wellKnown? (hcontent none)⟩
  refine ⟨_, hbuild, htext none, ?_⟩
  intro language
  refine ⟨_, Message.decode?_bytes language hfits rfl, htext language, ?_⟩
  intro u hu
  rw [htext language] at hu
  injection hu with hu
  exact ⟨_, hu ▸ hbuild, rfl⟩

/-- A record that is built of a text and says it has a payload that says it. -/
theorem decode_payload_of_text? {r : Record} (hbuild : Record.buildText t = .ok r)
    (htext : r.text? = some t) :
  decode t.payload = .ok t
  := by
  obtain ⟨-, -, rfl, -⟩ := Record.buildText_eq_ok_iff.mp hbuild
  have hcontent := Record.text?_eq_some_iff.mp htext
  exact (Content.ofFrame_eq_text_iff.mp hcontent).2.2

/-- A text with a language tag that fits is read back from its record exactly if it is not
big-endian text whose first character is taken for a byte order mark. -/
theorem roundTrips_iff_not_looksMarked (hlanguage : (Utf8.encode t.language).length ≤ 63)
    (hpayload : t.payload.length < 0x80000000) :
  t.RoundTrips ↔ ¬ t.LooksMarked
  := by
  rw [← decode_payload_iff (Nat.lt_succ_of_le hlanguage)]
  constructor
  · rintro ⟨r, hbuild, htext, -⟩
    apply decode_payload_of_text? hbuild htext
  · apply roundTrips_of_decode_payload hlanguage hpayload

/-- A text whose language tag is too long is refused.  Every other one is read back from its
record, in each of the three encodings, except for big-endian text whose first character is
taken for a byte order mark. -/
theorem roundTrips_iff (t : Text) :
  (63 < (Utf8.encode t.language).length → Record.buildText t = .error .languageTooLong)
    ∧ ((Utf8.encode t.language).length ≤ 63 → t.payload.length < 0x80000000 →
      (t.RoundTrips ↔ ¬ t.LooksMarked))
  := by
  constructor
  · apply buildText_eq_error
  · apply roundTrips_iff_not_looksMarked

/-- A character outside the 16-bit range, as marked little-endian text, and a tag that is
too long. -/
theorem roundTrips_surrogates :
  let t : Text := { language := "en", content := "\ufeff😀", encoding := .utf16 .littleEndian }
  let long : Text := { t with language := String.ofList (List.replicate 64 'a') }
  (Utf8.encode t.language).length ≤ 63 ∧ t.payload.length < 0x80000000 ∧ t.RoundTrips
    ∧ 63 < (Utf8.encode long.language).length ∧ Record.buildText long = .error .languageTooLong
  := by
  intro t long
  have hlanguage : (Utf8.encode t.language).length ≤ 63 := by decide +kernel
  have hpayload : t.payload.length < 0x80000000 := by decide +kernel
  have hlong : 63 < (Utf8.encode long.language).length := by decide +kernel
  refine ⟨hlanguage, hpayload, ?_, hlong, (roundTrips_iff long).1 hlong⟩
  apply ((roundTrips_iff t).2 hlanguage hpayload).mpr
  rintro ⟨hencoding, -⟩
  cases hencoding

/-- Big-endian text that begins with U+FEFF: the record that is built of it says the text
without that character. -/
theorem not_roundTrips_mark :
  let t : Text := { language := "en", content := "\ufeffA", encoding := .utf16 .bigEndian }
  (Utf8.encode t.language).length ≤ 63 ∧ t.payload.length < 0x80000000 ∧ ¬ t.RoundTrips
    ∧ ∃ r, Record.buildText t = .ok r ∧ r.text? = some { t with content := "A" }
  := by
  intro t
  have hlanguage : (Utf8.encode t.language).length ≤ 63 := by decide +kernel
  have hpayload : t.payload.length < 0x80000000 := by decide +kernel
  have hmarked : t.LooksMarked := ⟨rfl, .bigEndian, by decide⟩
  refine ⟨hlanguage, hpayload, ?_, ?_⟩
  · rw [roundTrips_iff_not_looksMarked hlanguage hpayload]
    simpa using hmarked
  · let f := Frame.ofParts .wellKnown WellKnown.text.type none t.payload
    have hdecode : decode f.payload = .ok { t with content := "A" } := by decide +kernel
    have hcontent : Content.ofFrame none f = .text { t with content := "A" } :=
      Content.ofFrame_eq_text_iff.mpr ⟨rfl, rfl, hdecode⟩
    use .ofFrame none f
    constructor
    · apply Record.buildText_eq_ok_iff.mpr
      exact ⟨Nat.lt_succ_of_le hlanguage, by decide +kernel, rfl, congrArg Content.wellKnown? hcontent⟩
    · apply Record.text?_eq_some_iff.mpr
      apply hcontent

end Text

end Ndef
