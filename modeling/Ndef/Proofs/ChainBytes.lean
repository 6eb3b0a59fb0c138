import Ndef.Proofs.ChainRecords
import Ndef.Proofs.Genuine

/-!
# The bytes of a chain

Whether it was read or built, a record that is genuine for a display language is determined
by its bytes (`Record.Genuine.eq_of_bytes_eq`), and so is a chain of such records by the bytes
of each of them (`RecordChain.same_iff_bytes`).
-/

namespace Ndef

namespace Record.Genuine

variable {language : Option Language} {r s : Record}

/-- A record that is genuine for a display language is determined by its bytes. -/
theorem eq_of_bytes_eq (hr : r.Genuine language) (hs : s.Genuine language)
    (h : r.bytes = s.bytes) :
  r = s
  := by
  rcases hr with rfl | ⟨f, hf, -, rfl⟩ <;> rcases hs with rfl | ⟨g, hg, -, rfl⟩
  · rfl
  · cases h
  · cases h
  · rw [Frame.accepts.write_injective hf hg h]

/-- Reading the bytes of a genuine record, unless it has none, yields that record alone. -/
theorem decode?_bytes (h : r.Genuine language) (hbytes : r.bytes ≠ []) :
  RecordChain.decode? language r.bytes = some (.single r)
  := by
  rcases h with rfl | ⟨f, hfits, hwhole, rfl⟩
  · exact absurd rfl hbytes
  · have hread := RecordChain.map_message_decode? language f.bytes
    rw [Message.decode?_bytes language hfits hwhole, Option.map_eq_some_iff] at hread
    obtain ⟨c, hc, hmessage⟩ := hread
    rw [RecordChain.message_eq_iff] at hmessage
    obtain rfl : c = .single (.ofFrame language f) := RecordChain.records_injective hmessage
    exact hc

end Record.Genuine

namespace RecordChain

variable {language : Option Language}

/-- Every record of the chain was obtained for the display language. -/
def Obtained (language : Option Language) (c : RecordChain) : Prop :=
  ∀ r ∈ c.records, r.Obtained language

theorem obtained_of_decode? {b : Bytes} {c : RecordChain} (h : decode? language b = some c) :
  c.Obtained language
  := by
  have hmessage : Message.decode? language b = some c.message := by
    rw [← map_message_decode?, h]
    rfl
  intro r hr
  rw [← records_message] at hr
  exact .decode hmessage hr

theorem obtained_single {r : Record} (h : r.Obtained language) :
  (single r).Obtained language
  := by
  intro s hs
  obtain rfl : s = r := List.mem_singleton.mp hs
  exact h

theorem Obtained.append {c d : RecordChain} (hc : c.Obtained language)
    (hd : d.Obtained language) :
  (c.append d).Obtained language
  := by
  intro r hr
  rw [records_append, List.mem_append] at hr
  rcases hr with hr | hr
  · apply hc r hr
  · apply hd r hr

theorem records_eq_of_bytes_eq {records others : List Record}
    (hrecords : ∀ r ∈ records, r.Obtained language) (hothers : ∀ s ∈ others, s.Obtained language)
    (h : records.map Record.bytes = others.map Record.bytes) :
  records = others
  := by
  induction records generalizing others with
  | nil =>
    rw [List.map_nil, eq_comm, List.map_eq_nil_iff] at h
    exact h.symm
  | cons r records ih =>
    obtain ⟨s, others, rfl⟩ : ∃ s rest, others = s :: rest := by
      cases others with
      | nil => cases h
      | cons s others => exact ⟨s, others, rfl⟩
    rw [List.map_cons, List.map_cons, List.cons.injEq] at h
    rw [List.forall_mem_cons] at hrecords hothers
    rw [hrecords.1.genuine.eq_of_bytes_eq hothers.1.genuine h.1,
      ih hrecords.2 hothers.2 h.2]

/-- Two chains of records that were obtained for the same display language are the same exactly
if their records have the same bytes, one by one.  Reading the bytes of such a record, unless it
has none, yields a chain that is the same as the record alone. -/
theorem same_iff_bytes :
  (∀ (language : Option Language) (c d : RecordChain),
    c.Obtained language → d.Obtained language →
    (c.same d = true ↔ c.records.map Record.bytes = d.records.map Record.bytes))
  ∧ ∀ (language : Option Language) (r : Record), r.Obtained language → r.bytes ≠ [] →
    ∃ c, decode? language r.bytes = some c ∧ c.length = 1 ∧ c.same (single r) = true
  := by
  constructor
  · intro language c d hc hd
    rw [same_iff]
    constructor
    · rintro rfl
      rfl
    · intro h
      apply records_injective
      apply records_eq_of_bytes_eq hc hd h
  · intro language r hr hbytes
    exact ⟨single r, hr.genuine.decode?_bytes hbytes, rfl, same_iff.mpr rfl⟩

/-- A built record of a media type with a built URI record behind it, and the chain that is
read of the bytes of both. -/
theorem same_iff_bytes_media_uri :
  ∃ r s c d, Record.buildMedia "a/b" [0x01] = .ok r ∧ Record.buildUri "tel:1" = .ok s
    ∧ decode? none (r.bytes ++ s.bytes) = some c ∧ c.same ((single r).append (single s)) = true
    ∧ decode? none r.bytes = some d ∧ d.length = 1 ∧ d.same (single r) = true
  := by
  let r : Record := .uninterpreted (.ofParts .mediaType [0x61, 0x2F, 0x62] none [0x01])
  let s : Record := .ofFrame none (.ofParts .wellKnown [0x55] none [0x05, 0x31])
  have hr : Record.buildMedia "a/b" [0x01] = .ok r := by decide +kernel
  have hs : Record.buildUri "tel:1" = .ok s := by decide +kernel
  have hmessage : Message.decode? none (r.bytes ++ s.bytes) = some ⟨r, [s]⟩ := by decide +kernel
  rw [← map_message_decode?, Option.map_eq_some_iff] at hmessage
  obtain ⟨c, hc, hrecords⟩ := hmessage
  rw [message_eq_iff] at hrecords
  obtain ⟨hsame, hdecode⟩ := same_iff_bytes
  obtain ⟨d, hd, hlength, hdr⟩ := hdecode none r (.buildMedia hr) (List.cons_ne_nil _ _)
  refine ⟨r, s, c, d, hr, hs, hc, ?_, hd, hlength, hdr⟩
  rw [hsame none _ _ (obtained_of_decode? hc)
    ((obtained_single (.buildMedia hr)).append (obtained_single (.buildUri hs))), hrecords]
  rfl

end RecordChain

end Ndef
