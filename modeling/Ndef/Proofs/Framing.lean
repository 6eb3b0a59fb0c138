import Mathlib.Data.List.Forall2
import Mathlib.Tactic.Common
import Ndef.Message
import Ndef.Proofs.Span

/-!
# Framing

A byte string falls into spans and a rest at whose front no span stands (`Splits`), in
exactly one way.  Decoding a message is this splitting with the rest dropped: it yields
one record for each span that is not a chunk, and the record depends on that span and on
the display language only.  So what one record carries has no influence on the others.
-/

namespace Ndef

/-- `Splits b spans rest`: the byte string `b` is made of the spans and of a rest that is
empty or has no span at its front. -/
structure Splits (b : Bytes) (spans : List Bytes) (rest : Bytes) : Prop where
  concat : b = spans.flatten ++ rest
  isSpan : ∀ s ∈ spans, IsSpan s
  stuck : rest = [] ∨ ∀ s, IsSpan s → ¬ s <+: rest

/-- What a span says for the display language. -/
def Content.ofSpan (language : Option Language) (s : Bytes) : Content :=
  match Frame.read? s with
  | some (f, _) => ofFrame language f
  | none => .generic

/-- `IsRecordOf language s r`: the record `r` has the bytes and the fields of the span
`s`, and says what the span says for the display language. -/
structure IsRecordOf (language : Option Language) (s : Bytes) (r : Record) : Prop where
  bytes : r.bytes = s
  fields : ∃ header, Spells header r.type r.id r.payload s
  content : r.content = Content.ofSpan language s
  wellKnown : r.wellKnown? = (Content.ofSpan language s).wellKnown?

/-- The records of the decoded message; there are none if decoding fails. -/
def Message.decodedRecords (language : Option Language) (b : Bytes) : List Record :=
  match decode? language b with
  | some m => m.records
  | none => []

/-! ### Splitting -/

/-- An empty rest is a special case of a rest with no span at its front. -/
theorem Splits.read?_rest {b rest : Bytes} {spans : List Bytes} (h : Splits b spans rest) :
  Frame.read? rest = none
  := by
  rcases h.stuck with rfl | hstuck
  · rfl
  · apply Frame.read?_eq_none_iff.mpr hstuck

/-- Spans are the bytes of frames that fit. -/
theorem exists_frames {spans : List Bytes} (h : ∀ s ∈ spans, IsSpan s) :
  ∃ frames : List Frame, (∀ f ∈ frames, f.Fits) ∧ frames.map Frame.bytes = spans
  := by
  apply Reader.exists_map_eq
  intro s hs
  apply isSpan_iff.mp (h s hs)

/-- A byte string splits into the bytes of the frames that are read off its front and
what is left then, and in no other way. -/
theorem splits_iff {b rest : Bytes} {spans : List Bytes} :
  Splits b spans rest
    ↔ ∃ frames, Frame.reader.all b = (frames, rest) ∧ frames.map Frame.bytes = spans
  := by
  rw [Frame.accepts.exists_all_eq_iff]
  simp only [← isSpan_iff]
  constructor
  · intro h
    exact ⟨h.concat, h.isSpan, h.read?_rest⟩
  · rintro ⟨hconcat, hspans, hrest⟩
    exact ⟨hconcat, hspans, .inr (Frame.read?_eq_none_iff.mp hrest)⟩

/-- Every byte string splits in exactly one way. -/
theorem existsUnique_splits (b : Bytes) :
  ∃! d : List Bytes × Bytes, Splits b d.1 d.2
  := by
  simp only [splits_iff]
  apply Reader.existsUnique_all

/-! ### The records of the spans -/

/-- Interpreting a frame that fits gives the record of its bytes. -/
theorem isRecordOf_ofFrame (language : Option Language) {f : Frame} (h : f.Fits) :
  IsRecordOf language f.bytes (Record.ofFrame language f)
  := by
  have hread := Frame.read?_bytes_append h []
  rw [List.append_nil] at hread
  have hcontent : Content.ofSpan language f.bytes = Content.ofFrame language f := by
    rw [Content.ofSpan, hread]
  exact {
    bytes := rfl
    fields := ⟨_, spells_bytes h⟩
    content := hcontent.symm
    wellKnown := by
      rw [hcontent]
      rfl }

/-- The frames in the bytes of frames that fit are these frames. -/
theorem Frame.ofBytes_flatMap_bytes {frames : List Frame} (h : ∀ f ∈ frames, f.Fits) :
  ofBytes (frames.flatMap bytes) = frames
  := by
  have hall : reader.all (frames.flatMap bytes) = (frames, []) :=
    accepts.all_eq_iff.mpr ⟨(List.append_nil _).symm, h, rfl⟩
  rw [ofBytes, hall]

namespace Message

/-- The records in front of what follows the bytes of frames that fit are those of the
frames that are no chunks. -/
theorem recordsOf_append (language : Option Language) {frames : List Frame}
    (h : ∀ f ∈ frames, f.Fits) (b : Bytes) :
  recordsOf language (frames.flatMap Frame.bytes ++ b)
    = (frames.filter (!·.chunked)).map (Record.ofFrame language) ++ recordsOf language b
  := by
  rw [recordsOf, recordsOf, Frame.ofBytes, Frame.ofBytes, Frame.accepts.all_append h,
    List.filter_append, List.map_append]

/-- No record is at the front of a byte string at whose front no frame is. -/
theorem recordsOf_of_read?_eq_none (language : Option Language) {b : Bytes}
    (h : Frame.read? b = none) :
  recordsOf language b = []
  := by
  rw [recordsOf, Frame.ofBytes, Reader.all_of_none (p := Frame.reader) h]
  rfl

theorem recordsOf_nil (language : Option Language) :
  recordsOf language [] = []
  := recordsOf_of_read?_eq_none language rfl

/-- A frame that fits and is no chunk contributes its record, whatever follows. -/
theorem recordsOf_bytes_append (language : Option Language) {f : Frame} (hfits : f.Fits)
    (hwhole : f.chunked = false) (b : Bytes) :
  recordsOf language (f.bytes ++ b) = Record.ofFrame language f :: recordsOf language b
  := by
  have hframes : ∀ g ∈ [f], g.Fits := by simpa using hfits
  have happend := recordsOf_append language hframes b
  simpa [hwhole] using happend

/-- The records in the bytes of frames that fit are those of the frames that are no
chunks. -/
theorem recordsOf_flatMap_bytes (language : Option Language) {frames : List Frame}
    (h : ∀ f ∈ frames, f.Fits) :
  recordsOf language (frames.flatMap Frame.bytes)
    = (frames.filter (!·.chunked)).map (Record.ofFrame language)
  := by
  rw [recordsOf, Frame.ofBytes_flatMap_bytes h]

/-- The records of a byte string that splits are those of its spans that are no chunks. -/
theorem forall₂_isRecordOf (language : Option Language) {b rest : Bytes} {spans : List Bytes}
    (h : Splits b spans rest) :
  List.Forall₂ (IsRecordOf language) (spans.filter (!isChunk ·)) (recordsOf language b)
  := by
  obtain ⟨frames, hall, rfl⟩ := splits_iff.mp h
  obtain ⟨-, hfits, -⟩ := Frame.accepts.all_eq_iff.mp hall
  have hwhole : (fun s => !isChunk s) ∘ Frame.bytes = (!·.chunked) := by
    funext f
    simp
  rw [List.filter_map, hwhole, recordsOf, Frame.ofBytes, hall, List.forall₂_map_left_iff,
    List.forall₂_map_right_iff, List.forall₂_same]
  intro f hf
  apply isRecordOf_ofFrame language
  apply hfits f (List.mem_of_mem_filter hf)

/-- Spans contribute their records one after the other, whatever follows them. -/
theorem recordsOf_flatten_append (language : Option Language) {spans : List Bytes}
    (h : ∀ s ∈ spans, IsSpan s) (b : Bytes) :
  recordsOf language (spans.flatten ++ b)
    = recordsOf language spans.flatten ++ recordsOf language b
  := by
  obtain ⟨frames, hfits, rfl⟩ := exists_frames h
  rw [← List.flatMap_def, recordsOf_append language hfits, recordsOf_flatMap_bytes language hfits]

/-! ### Decoding -/

theorem ofRecords?_decodedRecords (language : Option Language) (b : Bytes) :
  ofRecords? (decodedRecords language b) = decode? language b
  := by
  rw [decodedRecords]
  cases decode? language b with
  | none => rfl
  | some m => apply ofRecords?_records

theorem decodedRecords_eq_nil_iff {language : Option Language} {b : Bytes} :
  decodedRecords language b = [] ↔ decode? language b = none
  := by
  rw [← ofRecords?_eq_none_iff, ofRecords?_decodedRecords]

theorem decodedRecords_of_ne_nil (language : Option Language) {b : Bytes} (h : b ≠ []) :
  decodedRecords language b = recordsOf language b
  := by
  rw [decodedRecords, decode?, if_neg h]
  cases recordsOf language b <;> rfl

/-- The bytes of a frame that fits and is no chunk are a message of its record. -/
theorem decode?_bytes (language : Option Language) {f : Frame} (hfits : f.Fits)
    (hwhole : f.chunked = false) :
  decode? language f.bytes = some (single (.ofFrame language f))
  := by
  have hrecords := recordsOf_bytes_append language hfits hwhole []
  rw [List.append_nil, recordsOf_nil] at hrecords
  have hne : f.bytes ≠ [] := List.cons_ne_nil _ _
  rw [decode?, if_neg hne, hrecords]
  rfl

/-- A frame that fits and is no chunk is the first record, whatever follows its bytes. -/
theorem decode?_bytes_append (language : Option Language) {f : Frame} (hfits : f.Fits)
    (hwhole : f.chunked = false) (x : Bytes) :
  ∃ m, decode? language (f.bytes ++ x) = some m ∧ m.head = .ofFrame language f
  := by
  have hne : f.bytes ++ x ≠ [] := List.cons_ne_nil _ _
  rw [decode?, if_neg hne, recordsOf_bytes_append language hfits hwhole]
  exact ⟨_, rfl, rfl⟩

theorem decode?_eq_none_iff (language : Option Language) {b : Bytes} (h : b ≠ []) :
  decode? language b = none ↔ recordsOf language b = []
  := by
  rw [decode?, if_neg h]
  apply ofRecords?_eq_none_iff

/-- Each span contributes its own records to the decoded ones, whatever stands around it. -/
theorem decodedRecords_around (language : Option Language) {before after : List Bytes}
    {s rest : Bytes} (hbefore : ∀ t ∈ before, IsSpan t) (hs : IsSpan s)
    (hafter : ∀ t ∈ after, IsSpan t) (hrest : Frame.read? rest = none) :
  decodedRecords language (before.flatten ++ (s ++ (after.flatten ++ rest)))
    = recordsOf language before.flatten
      ++ (recordsOf language s ++ recordsOf language after.flatten)
  := by
  have hne : before.flatten ++ (s ++ (after.flatten ++ rest)) ≠ [] := by
    obtain ⟨header, type, id, payload, hspells⟩ := hs
    obtain ⟨⟩ := hspells
    simp
  have hspans : ∀ t ∈ [s], IsSpan t := by simpa using hs
  have hspan := recordsOf_flatten_append language hspans
  rw [List.flatten_singleton] at hspan
  rw [decodedRecords_of_ne_nil language hne, recordsOf_flatten_append language hbefore, hspan,
    recordsOf_flatten_append language hafter, recordsOf_of_read?_eq_none language hrest,
    List.append_nil]

/-- A byte string that is not empty splits in exactly one way.  Decoding it yields, in
order, the records of the spans that are no chunks, and fails exactly if there are none.
Putting another span in the place of one of them changes the record of that span only. -/
theorem decode?_splits (language : Option Language) (b : Bytes) (hb : b ≠ []) :
  (∃! d : List Bytes × Bytes, Splits b d.1 d.2)
    ∧ ∀ spans rest, Splits b spans rest →
      List.Forall₂ (IsRecordOf language) (spans.filter (!isChunk ·)) (decodedRecords language b)
      ∧ (decode? language b = none ↔ ∀ s ∈ spans, isChunk s = true)
      ∧ ∀ before s after, spans = before ++ s :: after → ∀ s', IsSpan s' →
        decodedRecords language (before.flatten ++ (s' ++ (after.flatten ++ rest)))
          = recordsOf language before.flatten
            ++ (recordsOf language s' ++ recordsOf language after.flatten)
  := by
  refine ⟨existsUnique_splits b, ?_⟩
  intro spans rest h
  have hrecords := forall₂_isRecordOf language h
  refine ⟨?_, ?_, ?_⟩
  · rw [decodedRecords_of_ne_nil language hb]
    apply hrecords
  · rw [decode?_eq_none_iff language hb]
    constructor
    · intro hnone s hs
      rw [hnone, List.forall₂_nil_right_iff, List.filter_eq_nil_iff] at hrecords
      simpa using hrecords s hs
    · intro hchunks
      have hfilter : spans.filter (!isChunk ·) = [] := by
        rw [List.filter_eq_nil_iff]
        intro s hs
        simp [hchunks s hs]
      rw [hfilter] at hrecords
      apply List.forall₂_nil_left_iff.mp hrecords
  · rintro before s after rfl s' hs'
    have hbefore : ∀ t ∈ before, IsSpan t := fun t ht =>
      h.isSpan t (List.mem_append_left _ ht)
    have hafter : ∀ t ∈ after, IsSpan t := fun t ht =>
      h.isSpan t (List.mem_append_right _ (List.mem_cons_of_mem s ht))
    apply decodedRecords_around language hbefore hs' hafter h.read?_rest

/-- Two spans, the first a chunk, and two bytes that begin no span. -/
theorem decode?_splits_chunk_first :
  let chunk : Bytes := [0xB1, 0x01, 0x01, 0x61, 0x01]
  let whole : Bytes := [0x51, 0x01, 0x01, 0x62, 0x02]
  let b : Bytes := chunk ++ whole ++ [0x00, 0x00]
  b ≠ [] ∧ Splits b [chunk, whole] [0x00, 0x00]
    ∧ List.Forall₂ (IsRecordOf none) [whole] (decodedRecords none b)
  := by
  intro chunk whole b
  have hb : b ≠ [] := by decide
  let f : Frame := {
    position := ⟨true, false⟩, chunked := true, short := true, tnf := .wellKnown
    type := [0x61], id := none, payload := [0x01] }
  let g : Frame := {
    position := ⟨false, true⟩, chunked := false, short := true, tnf := .wellKnown
    type := [0x62], id := none, payload := [0x02] }
  have hsplits : Splits b [chunk, whole] [0x00, 0x00] := by
    apply splits_iff.mpr
    use [f, g]
    constructor
    · apply Frame.accepts.all_eq_iff.mpr
      decide
    · decide
  have hwhole : [chunk, whole].filter (!isChunk ·) = [whole] := by decide
  refine ⟨hb, hsplits, ?_⟩
  rw [← hwhole]
  exact ((decode?_splits none b hb).2 _ _ hsplits).1

end Message

end Ndef
