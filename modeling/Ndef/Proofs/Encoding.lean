import Ndef.Proofs.Genuine
import Ndef.Proofs.Splicing

/-!
# Encoding messages

Encoding drops the empty records and sets the places of the others anew; it changes
nothing else.  So decoding gives the records back, wherever empty records stood among them
and whatever their places were before (`Message.decode?_encodeRecords`).
-/

namespace Ndef

/-- The records say the same, and their bytes differ at most in the two bits for the place. -/
structure Record.SameExceptPlace (r s : Record) : Prop where
  tnf : r.tnf = s.tnf
  wellKnown : r.wellKnown? = s.wellKnown?
  type : r.type = s.type
  id : r.id = s.id
  payload : r.payload = s.payload
  content : r.content = s.content
  bytes : ∃ x y rest, r.bytes = x :: rest ∧ s.bytes = y :: rest ∧ x &&& 0x3F = y &&& 0x3F

/-! ### The bits for the place -/

/-- The place is in the two high bits of a header. -/
theorem Position.bits_or_and (p : Position) (x : UInt8) :
  (p.bits ||| x) &&& 0x3F = x &&& 0x3F
  := by
  have hbits : p.bits &&& 0x3F = 0 := by
    obtain ⟨first, last⟩ := p
    cases first <;> cases last <;> rfl
  have hor : (p.bits ||| x) &&& 0x3F = (p.bits &&& 0x3F) ||| (x &&& 0x3F) :=
    UInt8.toBitVec_inj.mp BitVec.and_or_distrib_right
  rw [hor, hbits, UInt8.zero_or]

/-- The other bits of a header do not depend on the place. -/
theorem Header.byte_and (h : Header) (p : Position) :
  { h with position := p }.byte &&& 0x3F = h.byte &&& 0x3F
  := by
  simp only [byte, UInt8.or_assoc, Position.bits_or_and]

/-- Moving a frame changes the place of its record only. -/
theorem Record.sameExceptPlace_moved (language : Option Language) (f : Frame) (p : Position) :
  (ofFrame language f).SameExceptPlace (ofFrame language (f.moved p))
  where
  tnf := rfl
  wellKnown := rfl
  type := rfl
  id := rfl
  payload := rfl
  content := rfl
  bytes := ⟨_, _, _, rfl, rfl, (f.header.byte_and p).symm⟩

/-! ### The frames of the records -/

/-- Genuine records that are not empty are those of their frames. -/
theorem Record.exists_frames_of_genuine {language : Option Language} {records : List Record}
    (h : ∀ r ∈ records, r.Genuine language) :
  ∃ frames : List Frame, (∀ f ∈ frames, f.Fits) ∧ (∀ f ∈ frames, f.chunked = false)
    ∧ records.filterMap frame? = frames
    ∧ records.filter (·.bytes ≠ []) = frames.map (ofFrame language)
  := by
  induction records with
  | nil =>
    use []
    simp
  | cons r records ih =>
    obtain ⟨frames, hfits, hwhole, hframes, hrecords⟩ :=
      ih fun s hs => h s (List.mem_cons_of_mem r hs)
    rcases h r List.mem_cons_self with rfl | ⟨f, hf, hchunked, rfl⟩
    · use frames, hfits, hwhole, hframes, hrecords
    · have hbytes : (ofFrame language f).bytes ≠ [] := List.cons_ne_nil _ _
      use f :: frames
      refine ⟨?_, ?_, ?_, ?_⟩
      · simpa using ⟨hf, hfits⟩
      · simpa using ⟨hchunked, hwhole⟩
      · rw [List.filterMap_cons, hframes]
        rfl
      · rw [List.filter_cons_of_pos (by simpa using hbytes), hrecords]
        rfl

namespace Message

variable {language : Option Language} {frames : List Frame}

/-- The bytes of frames that fit and are no chunks are the message of their records. -/
theorem decode?_flatMap_bytes (language : Option Language) (hne : frames ≠ [])
    (hfits : ∀ f ∈ frames, f.Fits) (hwhole : ∀ f ∈ frames, f.chunked = false) :
  ∃ m, decode? language (frames.flatMap Frame.bytes) = some m
    ∧ m.records = frames.map (Record.ofFrame language)
  := by
  obtain ⟨f, frames, rfl⟩ := List.exists_cons_of_ne_nil hne
  have hbytes : (f :: frames).flatMap Frame.bytes ≠ [] := List.cons_ne_nil _ _
  have hrecords := recordsOf_flatMap_bytes language hfits
  rw [List.filter_eq_self.mpr (by simpa using hwhole)] at hrecords
  rw [decode?, if_neg hbytes, hrecords]
  exact ⟨_, rfl, rfl⟩

theorem forall₂_placed (frames : List Frame) :
  List.Forall₂ (fun f g => ∃ p, g = f.moved p) frames (placed frames)
  := by
  rw [List.forall₂_iff_get]
  constructor
  · simp [placed]
  · intro i hi hi'
    simp only [placed, List.get_eq_getElem, List.getElem_mapIdx]
    exact ⟨_, rfl⟩

/-- The bytes of frames in their places are a message of the records of the frames, each
changed in its place only, and they are the bytes of that message. -/
theorem decode?_placed (language : Option Language) (hne : frames ≠ [])
    (hfits : ∀ f ∈ frames, f.Fits) (hwhole : ∀ f ∈ frames, f.chunked = false) :
  ∃ m, decode? language ((placed frames).flatMap Frame.bytes) = some m
    ∧ List.Forall₂ Record.SameExceptPlace (frames.map (Record.ofFrame language)) m.records
    ∧ (∀ i (hi : i < m.records.length), m.records[i].position = ⟨i = 0, i + 1 = m.records.length⟩)
    ∧ m.encode = (placed frames).flatMap Frame.bytes
  := by
  have hplaced : placed frames ≠ [] := by simpa [placed] using hne
  have hplacedWhole : ∀ f ∈ placed frames, f.chunked = false := by
    simpa using List.filter_eq_self.mp (filter_placed hwhole)
  obtain ⟨m, hm, hrecords⟩ :=
    decode?_flatMap_bytes language hplaced (fits_of_mem_placed hfits) hplacedWhole
  refine ⟨m, hm, ?_, ?_, ?_⟩
  · rw [hrecords, List.forall₂_map_left_iff, List.forall₂_map_right_iff]
    apply (forall₂_placed frames).imp
    rintro f _ ⟨p, rfl⟩
    apply Record.sameExceptPlace_moved
  · simp [hrecords, placed, Record.ofFrame, Record.position]
  · rw [encode, encodeRecords, hrecords, Record.filterMap_frame?_map_ofFrame, placed_placed]

/-- Encoding a list of records that were read for a display language, or built, and decoding
it again for that language gives the empty record if all records are empty.  Else it gives
those that are not empty, in order, each changed in its place only: the first one begins the
message and the last one ends it.  Encoding what was decoded gives the same bytes. -/
theorem decode?_encodeRecords {records : List Record} (h : ∀ r ∈ records, r.Obtained language) :
  let present := records.filter (·.bytes ≠ [])
  ∃ m, decode? language (encodeRecords records) = some m
    ∧ (present = [] → m = single .empty)
    ∧ (present ≠ [] → List.Forall₂ Record.SameExceptPlace present m.records
      ∧ ∀ i (hi : i < m.records.length), m.records[i].position = ⟨i = 0, i + 1 = m.records.length⟩)
    ∧ m.encode = encodeRecords records
  := by
  intro present
  obtain ⟨frames, hfits, hwhole, hframes,
    (hpresent : present = frames.map (Record.ofFrame language))⟩ :=
      Record.exists_frames_of_genuine fun r hr => (h r hr).genuine
  rw [encodeRecords, hframes, hpresent]
  by_cases hne : frames = []
  · use single .empty
    rw [hne]
    exact ⟨rfl, fun _ => rfl, fun h => absurd rfl h, rfl⟩
  · obtain ⟨m, hm, hsame, hposition, hencode⟩ := decode?_placed language hne hfits hwhole
    use m, hm
    have hmap : frames.map (Record.ofFrame language) ≠ [] := by simpa using hne
    exact ⟨fun heq => absurd heq hmap, fun _ => ⟨hsame, hposition⟩, hencode⟩

/-- Empty records at the front and between two others; the first of these ended its message. -/
theorem decode?_encodeRecords_between_empty :
  let a : Record := .ofFrame none { Frame.ofParts .wellKnown [0x61] none [0x01] with
    position := ⟨false, true⟩ }
  let b : Record := .ofFrame none (.ofParts .external [0x62] (some []) [0x02])
  let records := [.empty, a, .empty, b]
  ∃ m, decode? none (encodeRecords records) = some m
    ∧ List.Forall₂ Record.SameExceptPlace [a, b] m.records ∧ m.encode = encodeRecords records
  := by
  intro a b records
  have ha : decode? none [0x51, 0x01, 0x01, 0x61, 0x01] = some (single a) := by decide +kernel
  have hb : Record.build .external [0x62] (some []) [0x02] = .ok b :=
    Record.build_eq_ok_iff.mpr ⟨by decide, rfl⟩
  have hobtained : ∀ r ∈ records, r.Obtained none := by
    simp only [records, List.forall_mem_cons]
    exact ⟨.empty, .decode ha List.mem_cons_self, .empty, .build hb, List.forall_mem_nil _⟩
  have hpresent : records.filter (·.bytes ≠ []) = [a, b] := by decide +kernel
  obtain ⟨m, hm, -, hrecords, hencode⟩ := decode?_encodeRecords hobtained
  rw [hpresent] at hrecords
  exact ⟨m, hm, (hrecords (List.cons_ne_nil _ _)).1, hencode⟩

end Message

end Ndef
