import Ndef.Proofs.AreaMessages
import Ndef.Proofs.Ascii
import Ndef.Proofs.Building
import Ndef.Proofs.CommandLine

/-!
# Runs that decode

What is written of a record of given parts is read back in the same container
(`Options.decode?_of_encode`).  A run that decodes the hexadecimal text of bytes, with white
space between the digits, reports the message in these bytes, whether the text is an argument
or the standard input (`CommandLine.run_of_decodes`).
-/

namespace Ndef

/-! ### Messages of one record -/

/-- The message of a record that stands alone has the bytes of the record. -/
theorem Message.encode_single {f : Frame} (c : Content) (h : f.position = .alone) :
  encode (single (.framed f c)) = f.bytes
  := by
  obtain ⟨position, chunked, short, tnf, type, id, payload⟩ := f
  subst h
  change [_].flatMap Frame.bytes = _
  rw [List.flatMap_singleton]
  rfl

/-- A frame of given parts that fits is read back from the text that is written of it, in the
same container. -/
theorem Options.decode?_of_encode {o p : Options} (hcontainer : p.container = o.container)
    {tnf : Tnf} {type payload : Bytes} {id : Option Bytes} {c : Content} {text : String}
    (hfits : (Frame.ofParts tnf type id payload).Fits)
    (h : o.encode (.framed (.ofParts tnf type id payload) c) = .ok text) :
  ∃ b, text = Hex.encode b
    ∧ p.decode? b = some (.single (.ofFrame p.language (.ofParts tnf type id payload)))
  := by
  have hdecode := Message.decode?_bytes p.language hfits rfl
  rw [encode, Message.encode_single c rfl] at h
  cases hc : o.container with
  | bare =>
    rw [hc] at h
    cases h
    refine ⟨_, rfl, ?_⟩
    rw [decode?, hcontainer, hc]
    exact hdecode
  | tlv =>
    rw [hc] at h
    dsimp only at h
    split at h
    · next area hwrap =>
      cases h
      refine ⟨area, rfl, ?_⟩
      have hmessages : Area.messages ([].flatten ++ (area ++ [])) = [_] :=
        (Area.messages_around_wrap? hwrap (by simp) []).1
      rw [List.flatten_nil, List.nil_append, List.append_nil] at hmessages
      rw [decode?, hcontainer, hc]
      dsimp only
      rw [Message.ofArea?_eq, hmessages, List.flatMap_singleton, Message.ofRecords?_decodedRecords,
        hdecode]
    · cases h

/-! ### Hexadecimal text among the arguments -/

/-- Digits with white space between them have no hyphen, so they are neither an option nor the
word for the standard input. -/
theorem Hex.Spaced.hyphen_not_mem {b : Bytes} {text : String}
    (h : Spaced (encode b).toList text.toList) :
  '-' ∉ text.toList
  := by
  have hdigit : ∀ n < 16, Hex.digit (UInt8.ofNat n) ≠ '-' := by decide
  intro hmem
  have hfilter : '-' ∈ text.toList.filter (!isWhiteSpace ·) :=
    List.mem_filter.mpr ⟨hmem, by decide⟩
  rw [h.filter_encode, encode, String.toList_ofList] at hfilter
  obtain ⟨n, hn, heq⟩ := exists_digit_of_mem hfilter
  exact hdigit n hn heq.symm

namespace Source

variable {b input : Bytes} {text : String}

/-- The bytes that digits write, from an argument or the standard input. -/
theorem bytes_of_text_eq (h : Hex.Spaced (Hex.encode b).toList text.toList) {source : Source}
    (hsource : source.text input = .ok text) :
  source.bytes input = .ok b
  := by
  rw [bytes, hsource]
  change (Hex.decode _).mapError _ = _
  rw [Hex.decode_filter_of_spaced h]
  rfl

theorem text_ofWord (h : text ≠ "-") :
  (ofWord text).text input = .ok text
  := by
  rw [ofWord, if_neg h, Source.text]

theorem text_standardInput (text : String) :
  standardInput.text (Utf8.encode text) = .ok text
  := by
  rw [Source.text, Utf8.decode?_encode]

end Source

/-! ### Runs that decode -/

/-- The message in the bytes of the source is reported. -/
theorem Request.answer_decode {o : Options} {source : Source} {b input : Bytes}
    {message : Message} (hbytes : source.bytes input = .ok b)
    (hmessage : o.decode? b = some message) :
  (decode source).answer o input = .ok (Report.lines message)
  := by
  rw [answer, hbytes]
  simp only [bind, Except.bind, hmessage]
  rfl

namespace CommandLine

/-- The run `m` decodes the text: it is an argument, or it is the standard input. -/
def Decodes (m : CommandLine) (input : Bytes) (text : String) : Prop :=
  m.words = ["decode", text] ∨ m.words = ["decode", "-"] ∧ input = Utf8.encode text

variable {l m : CommandLine} {input : Bytes}

/-- A run that decodes the digits of bytes reports the message in these bytes. -/
theorem run_of_decodes {b : Bytes} {text : String} {message : Message} (hnamed : m.Named)
    (hdecodes : m.Decodes input text) (htext : Hex.Spaced (Hex.encode b).toList text.toList)
    (hmessage : m.options.decode? b = some message) :
  m.run input = .ok (Report.lines message)
  := by
  have hhyphen := htext.hyphen_not_mem
  have hword : text ≠ "-" ∧ text ∉ optionWords := by
    constructor
    · rintro rfl
      exact hhyphen (by decide)
    · intro hmem
      simp only [optionWords, List.mem_cons, List.not_mem_nil, or_false] at hmem
      rcases hmem with rfl | rfl | rfl | rfl | rfl <;> exact hhyphen (by decide)
  obtain ⟨source, hplain, hrequest, hsource⟩ : ∃ source, m.Plain
      ∧ Request.ofWords m.words = .ok (.decode source) ∧ source.text input = .ok text := by
    rcases hdecodes with hwords | ⟨hwords, rfl⟩
    · refine ⟨.ofWord text, ?_, ?_, Source.text_ofWord hword.1⟩
      · rw [Plain, hwords, List.forall_mem_cons, List.forall_mem_singleton]
        exact ⟨by decide, hword.2⟩
      · rw [hwords]
        rfl
    · refine ⟨.standardInput, ?_, ?_, Source.text_standardInput text⟩
      · rw [Plain, hwords]
        decide
      · rw [hwords]
        rfl
  rw [run_eq hplain hnamed, hrequest]
  apply Request.answer_decode (Source.bytes_of_text_eq htext hsource) hmessage

end CommandLine

end Ndef
