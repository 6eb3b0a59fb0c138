import Mathlib.Tactic.Common
import Ndef.Proofs.FirstOf
import Ndef.Proofs.Genuine

/-!
# What a smart poster takes from its records

The records in the payload of a smart poster are read like those of a message, except that
smart posters among them are not interpreted (`SmartPoster.subrecords`).  The payload says
something exactly if one of these records is a URI and no other is.  Then the poster has
that URI, the title from the first of the texts that agree best with the display language,
and every other value from the first record of its kind (`SmartPoster.Selected`).
-/

namespace Ndef

/-! ### The records in a payload -/

/-- What is said if smart posters are not interpreted. -/
def Content.shallow : Content → Content
  | smartPoster _ => generic
  | c => c

/-- The record, not interpreted if it is a smart poster. -/
def Record.shallow : Record → Record
  | empty => empty
  | framed f c => framed f c.shallow

/-- The records in the payload of a smart poster. -/
def SmartPoster.subrecords (payload : Bytes) : List Record :=
  (Message.recordsOf none payload).map Record.shallow

/-- `IsSubrecordOf s r`: in the payload of a smart poster, the record `r` has the bytes and
the fields of the span `s`, and says what the span says for any display language, unless
that is a smart poster. -/
structure IsSubrecordOf (s : Bytes) (r : Record) : Prop where
  bytes : r.bytes = s
  fields : ∃ header, Spells header r.type r.id r.payload s
  content : ∀ language, r.content = (Content.ofSpan language s).shallow

/-! ### The kinds of records -/

/-- The record tells the action: it is well-known of type `act`, with one byte. -/
def Record.TellsAction (r : Record) : Prop :=
  r.hasWellKnownType PosterPart.actionType = true ∧ r.payload.length = 1

/-- The record tells the size: it is well-known of type `s`, with four bytes. -/
def Record.TellsSize (r : Record) : Prop :=
  r.hasWellKnownType PosterPart.sizeType = true ∧ r.payload.length = 4

/-- The record tells the media type: it is well-known of type `t`. -/
def Record.TellsMediaType (r : Record) : Prop :=
  r.hasWellKnownType PosterPart.mediaTypeType = true

/-- The record is a text, and no text among the records agrees better with the display
language, if there is one. -/
def Record.IsBestText (language : Option Language) (records : List Record) (r : Record) : Prop :=
  ∃ t, r.text? = some t ∧ ∀ target ∈ language, ∀ s ∈ records, ∀ u, s.text? = some u →
    (u.agreement target).rank ≤ (t.agreement target).rank

/-- What a smart poster takes from the records in its payload, of which exactly one is a
URI.  The first record of a kind decides, also if it says nothing valid. -/
structure SmartPoster.Selected (language : Option Language) (records : List Record)
    (p : SmartPoster) : Prop where
  uri : ∃ r ∈ records, r.uri? = some p.uri
  untitled : p.title = none ↔ ∀ r ∈ records, r.text? = none
  title : ∀ title, p.title = some title ↔ ∃ r t, FirstOf (Record.IsBestText language records) records r
    ∧ r.text? = some t ∧ title = { content := t.content, language := t.language }
  action : ∀ a, p.action = some a ↔ ∃ r, FirstOf Record.TellsAction records r ∧ r.payload = [a.code]
  size : ∀ n, p.size = some n
    ↔ ∃ r, FirstOf Record.TellsSize records r ∧ r.payload = Bytes.ofNat 4 n.toNat
  mediaType : ∀ name, p.mediaType = some name
    ↔ ∃ r, FirstOf Record.TellsMediaType records r ∧ r.payload = Utf8.encode name
      ∧ MediaType.isType name = true
  icon : ∀ f, p.icon = some f ↔ FirstOf Record.Pictures records (.uninterpreted f)

/-! ### Reading the records -/

namespace Content

variable {language : Option Language} {f : Frame}

theorem shallow_eq_iff {c d : Content} (hgeneric : d ≠ .generic)
    (hposter : ∀ p, d ≠ .smartPoster p) :
  c.shallow = d ↔ c = d
  := by
  cases c with
  | smartPoster p =>
    simp [shallow, hgeneric.symm, (hposter p).symm]
  | _ => rfl

/-- Only the titles of smart posters depend on the display language. -/
theorem shallow_ofFrame (language language' : Option Language) (f : Frame) :
  (ofFrame language f).shallow = (ofFrame language' f).shallow
  := by
  rw [ofFrame, ofFrame]
  split
  · split
    · next w hw =>
      cases w with
      | uri => rfl
      | text => rfl
      | smartPoster =>
        rw [ofWellKnown, ofWellKnown]
        cases SmartPoster.decode? language f.payload <;>
          cases SmartPoster.decode? language' f.payload <;> rfl
    · rfl
  · rfl

end Content

namespace Record

/-- The record of a frame in the payload of a smart poster. -/
def nested (f : Frame) : Record :=
  (ofFrame none f).shallow

theorem uri?_nested_eq_some_iff {f : Frame} {u : String} :
  (nested f).uri? = some u ↔ PosterPart.ofFrame f = .uri u
  := by
  rw [uri?_eq_some_iff, PosterPart.ofFrame_eq_uri_iff, ← Content.ofFrame_eq_uri_iff]
  apply Content.shallow_eq_iff <;> simp

theorem text?_nested_eq_some_iff {f : Frame} {t : Text} :
  (nested f).text? = some t ↔ PosterPart.ofFrame f = .title t
  := by
  rw [text?_eq_some_iff, PosterPart.ofFrame_eq_title_iff, ← Content.ofFrame_eq_text_iff]
  apply Content.shallow_eq_iff <;> simp

theorem hasWellKnownType_nested {f : Frame} {type : Bytes} :
  (nested f).hasWellKnownType type = true ↔ f.tnf = .wellKnown ∧ f.type = type
  := by
  rw [hasWellKnownType, Bool.and_eq_true, decide_eq_true_iff, decide_eq_true_iff]
  rfl

theorem pictures_nested_iff {f g : Frame} :
  (nested f).Pictures ∧ nested f = uninterpreted g ↔ PosterPart.ofFrame f = .icon g
  := by
  rw [PosterPart.ofFrame_eq_icon_iff]
  constructor
  · rintro ⟨hpictures, heq⟩
    rw [heq, pictures_uninterpreted_iff] at hpictures
    obtain rfl : f = g := Option.some.inj (congrArg frame? heq)
    exact ⟨rfl, hpictures⟩
  · rintro ⟨rfl, hicon⟩
    have heq : nested f = uninterpreted f := by
      obtain ⟨htnf, -⟩ := PosterPart.isIcon_iff.mp hicon
      rw [nested, ofFrame, Content.ofFrame_of_tnf_ne (by simp [htnf])]
      rfl
    rw [heq, pictures_uninterpreted_iff]
    exact ⟨hicon, rfl⟩

end Record

namespace SmartPoster

variable {language : Option Language} {payload : Bytes}

theorem subrecords_eq (payload : Bytes) :
  subrecords payload = ((Frame.ofBytes payload).filter (!·.chunked)).map Record.nested
  := by
  rw [subrecords, Message.recordsOf, List.map_map]
  rfl

/-- The records in a payload are those of the spans into which it falls, without the
chunks. -/
theorem forall₂_isSubrecordOf {spans : List Bytes} {rest : Bytes} (h : Splits payload spans rest) :
  List.Forall₂ IsSubrecordOf (spans.filter (!isChunk ·)) (subrecords payload)
  := by
  rw [subrecords, List.forall₂_map_right_iff]
  apply (Message.forall₂_isRecordOf none h).imp
  rintro s (_ | ⟨f, c⟩) hr
  · obtain ⟨header, hspells⟩ := hr.fields
    have hbytes := hr.bytes
    cases hspells
    cases hbytes
  · use hr.bytes, hr.fields
    intro language
    change c.shallow = _
    rw [show c = _ from hr.content, Content.ofSpan, Content.ofSpan]
    split
    · apply Content.shallow_ofFrame
    · rfl

/-! ### Searching the records -/

/-- What is found among the parts is told by the first record of the kind that tells it. -/
theorem findSome?_parts_eq_some_iff {α : Type} {g : PosterPart → Option α} {P : Record → Prop}
    (tells : Record → α → Prop)
    (hg : ∀ f a, g (.ofFrame f) = some a ↔ P (.nested f) ∧ tells (.nested f) a)
    (htells : ∀ f, P (.nested f) → ∃ a, tells (.nested f) a) {a : α} :
  (parts payload).findSome? g = some a ↔ ∃ r, FirstOf P (subrecords payload) r ∧ tells r a
  := by
  have hkind (f : Frame) : (g (.ofFrame f)).isSome = true ↔ P (.nested f) := by
    rw [Option.isSome_iff_exists]
    constructor
    · rintro ⟨b, hb⟩
      apply ((hg f b).mp hb).1
    · intro hP
      obtain ⟨b, hb⟩ := htells f hP
      exact ⟨b, (hg f b).mpr ⟨hP, hb⟩⟩
  rw [parts, List.findSome?_map, findSome?_eq_some_iff_firstOf, subrecords_eq]
  simp only [firstOf_map]
  constructor
  · rintro ⟨f, hf, ha⟩
    exact ⟨_, ⟨f, hf.congr fun g _ => hkind g, rfl⟩, ((hg f a).mp ha).2⟩
  · rintro ⟨-, ⟨f, hf, rfl⟩, ha⟩
    exact ⟨f, hf.congr fun g _ => (hkind g).symm, (hg f a).mpr ⟨hf.holds, ha⟩⟩

theorem filterMap_uri?_parts (payload : Bytes) :
  (parts payload).filterMap PosterPart.uri? = (subrecords payload).filterMap Record.uri?
  := by
  rw [parts, subrecords_eq, List.filterMap_map, List.filterMap_map]
  apply List.filterMap_congr
  intro f _
  ext u
  rw [Function.comp_apply, Function.comp_apply, PosterPart.uri?_eq_some_iff, Record.uri?_nested_eq_some_iff]

theorem filterMap_title?_parts (payload : Bytes) :
  (parts payload).filterMap PosterPart.title? = (subrecords payload).filterMap Record.text?
  := by
  rw [parts, subrecords_eq, List.filterMap_map, List.filterMap_map]
  apply List.filterMap_congr
  intro f _
  ext t
  rw [Function.comp_apply, Function.comp_apply, PosterPart.title?_eq_some_iff, Record.text?_nested_eq_some_iff]

theorem findSome?_action?_eq_some_iff {code : UInt8} :
  (parts payload).findSome? PosterPart.action? = some code
    ↔ ∃ r, FirstOf Record.TellsAction (subrecords payload) r ∧ r.payload = [code]
  := by
  apply findSome?_parts_eq_some_iff fun r code => r.payload = [code]
  · intro f code
    rw [PosterPart.action?_eq_some_iff, PosterPart.ofFrame_eq_action_iff, Record.TellsAction,
      Record.hasWellKnownType_nested]
    constructor
    · rintro ⟨htnf, htype, hpayload⟩
      exact ⟨⟨⟨htnf, htype⟩, congrArg List.length hpayload⟩, hpayload⟩
    · rintro ⟨⟨⟨htnf, htype⟩, -⟩, hpayload⟩
      exact ⟨htnf, htype, hpayload⟩
  · rintro f ⟨-, hlength⟩
    apply List.length_eq_one_iff.mp hlength

theorem findSome?_size?_eq_some_iff {n : UInt32} :
  (parts payload).findSome? PosterPart.size? = some n
    ↔ ∃ r, FirstOf Record.TellsSize (subrecords payload) r ∧ r.payload = Bytes.ofNat 4 n.toNat
  := by
  apply findSome?_parts_eq_some_iff fun r (n : UInt32) => r.payload = Bytes.ofNat 4 n.toNat
  · intro f n
    rw [PosterPart.size?_eq_some_iff, PosterPart.ofFrame_eq_size_iff, Record.TellsSize,
      Record.hasWellKnownType_nested]
    constructor
    · rintro ⟨htnf, htype, hpayload⟩
      refine ⟨⟨⟨htnf, htype⟩, ?_⟩, hpayload⟩
      have hlength := congrArg List.length hpayload
      rwa [Bytes.length_ofNat] at hlength
    · rintro ⟨⟨⟨htnf, htype⟩, -⟩, hpayload⟩
      exact ⟨htnf, htype, hpayload⟩
  · rintro f ⟨-, hlength⟩
    exact ⟨_, (Bytes.uint32_ofNat_toNat_iff hlength).mp rfl⟩

theorem findSome?_mediaType?_eq_some_iff {name : Bytes} :
  (parts payload).findSome? PosterPart.mediaType? = some name
    ↔ ∃ r, FirstOf Record.TellsMediaType (subrecords payload) r ∧ r.payload = name
  := by
  apply findSome?_parts_eq_some_iff fun r name => r.payload = name
  · intro f name
    rw [PosterPart.mediaType?_eq_some_iff, PosterPart.ofFrame_eq_mediaType_iff,
      Record.TellsMediaType, Record.hasWellKnownType_nested, and_assoc]
    rfl
  · intro f _
    exact ⟨_, rfl⟩

theorem findSome?_icon?_eq_some_iff {g : Frame} :
  (parts payload).findSome? PosterPart.icon? = some g
    ↔ FirstOf Record.Pictures (subrecords payload) (.uninterpreted g)
  := by
  rw [findSome?_parts_eq_some_iff (P := Record.Pictures) fun r g => r = Record.uninterpreted g]
  · simp
  · intro f g
    rw [PosterPart.icon?_eq_some_iff, Record.pictures_nested_iff]
  · intro f h
    exact ⟨f, congrArg (Record.framed f) h.content⟩

/-! ### The title -/

/-- The best of the texts is the first of those that agree best with the display language,
or the first of all if there is no display language. -/
theorem firstOf_of_bestTitle? {texts : List Text} {t : Text}
    (h : bestTitle? language texts = some t) :
  FirstOf (fun t => ∀ target ∈ language, Greatest (fun u => (u.agreement target).rank) texts t)
    texts t
  := by
  cases texts with
  | nil => cases h
  | cons first rest =>
    cases language with
    | none =>
      injection h with h
      rw [← h]
      exact ⟨by simp, [], rest, rfl, by simp⟩
    | some target =>
      injection h with h
      rw [← h]
      apply (firstOf_greatest_foldl (fun u => (u.agreement target).rank) first rest).congr
      simp

theorem bestTitle?_eq_some_iff {texts : List Text} {t : Text} :
  bestTitle? language texts = some t
    ↔ FirstOf (fun t => ∀ target ∈ language, Greatest (fun u => (u.agreement target).rank) texts t)
        texts t
  := by
  constructor
  · apply firstOf_of_bestTitle?
  · intro h
    have hsome : ∃ u, bestTitle? language texts = some u := by
      cases texts with
      | nil => cases h.mem
      | cons first rest => cases language <;> exact ⟨_, rfl⟩
    obtain ⟨u, hu⟩ := hsome
    rw [hu, (firstOf_of_bestTitle? hu).unique h]

theorem bestTitle?_eq_none_iff {texts : List Text} :
  bestTitle? language texts = none ↔ texts = []
  := by
  cases texts with
  | nil => simp [bestTitle?]
  | cons first rest => cases language <;> simp [bestTitle?]

/-- The best of the texts among records comes from the first best text record. -/
theorem bestTitle?_filterMap_eq_some_iff {records : List Record} {t : Text} :
  bestTitle? language (records.filterMap Record.text?) = some t
    ↔ ∃ r, FirstOf (Record.IsBestText language records) records r ∧ r.text? = some t
  := by
  have hbest (r : Record) : (∃ t, r.text? = some t ∧ ∀ target ∈ language,
      Greatest (fun u => (u.agreement target).rank) (records.filterMap Record.text?) t)
        ↔ r.IsBestText language records := by
    simp only [Record.IsBestText, Greatest, List.mem_filterMap]
    grind
  rw [bestTitle?_eq_some_iff, firstOf_filterMap]
  simp only [hbest]

/-! ### The poster -/

/-- A payload says something exactly if it has one URI. -/
theorem exists_decode?_iff :
  (∃ p, decode? language payload = some p)
    ↔ (subrecords payload).countP (·.uri?.isSome) = 1
  := by
  rw [← List.length_filterMap_eq_countP, List.length_eq_one_iff, decode?, ofParts?,
    filterMap_uri?_parts]
  constructor
  · rintro ⟨p, hp⟩
    split at hp
    · next u hu => exact ⟨u, hu⟩
    · cases hp
  · rintro ⟨u, hu⟩
    rw [hu]
    exact ⟨_, rfl⟩

/-- A poster takes from the records in its payload what it is said to. -/
theorem selected_of_decode? {p : SmartPoster} (h : decode? language payload = some p) :
  Selected language (subrecords payload) p
  := by
  rw [decode?, ofParts?, filterMap_uri?_parts, filterMap_title?_parts] at h
  split at h
  · next u hu =>
    injection h with h
    subst h
    constructor
    · have hmem : u ∈ (subrecords payload).filterMap Record.uri? := by
        rw [hu]
        apply List.mem_singleton_self
      apply List.mem_filterMap.mp hmem
    · rw [Option.map_eq_none_iff, bestTitle?_eq_none_iff, List.filterMap_eq_nil_iff]
    · intro title
      simp only [Option.map_eq_some_iff, bestTitle?_filterMap_eq_some_iff]
      constructor
      · rintro ⟨t, ⟨r, hr, ht⟩, rfl⟩
        exact ⟨r, t, hr, ht, rfl⟩
      · rintro ⟨r, t, hr, ht, rfl⟩
        exact ⟨t, ⟨r, hr, ht⟩, rfl⟩
    · intro a
      simp only [Option.bind_eq_some_iff, findSome?_action?_eq_some_iff,
        Action.ofCode?_eq_some_iff]
      constructor
      · rintro ⟨code, hr, rfl⟩
        apply hr
      · intro hr
        exact ⟨_, hr, rfl⟩
    · intro n
      apply findSome?_size?_eq_some_iff
    · intro name
      simp only [Option.bind_eq_some_iff, findSome?_mediaType?_eq_some_iff,
        mediaTypeOfName?_eq_some_iff]
      constructor
      · rintro ⟨bytes, ⟨r, hr, rfl⟩, hname, htype⟩
        exact ⟨r, hr, hname, htype⟩
      · rintro ⟨r, hr, hname, htype⟩
        exact ⟨_, ⟨r, hr, rfl⟩, hname, htype⟩
    · intro f
      apply findSome?_icon?_eq_some_iff
  · cases h

end SmartPoster

/-- Wherever a well-known record of type `Sp` stands among the records, it is a smart poster
exactly if one record in its payload is a URI and no other is; then it says what it takes
from these records for the display language.  Otherwise it is left as it is. -/
theorem Message.decodedRecords_smartPoster (language : Option Language) {before : List Bytes}
    (hbefore : ∀ s ∈ before, IsSpan s) {header : UInt8} {id : Option Bytes} {payload s : Bytes}
    (hs : Spells header WellKnown.smartPoster.type id payload s) (hwhole : isChunk s = false)
    (htnf : Tnf.ofBits header = .wellKnown) (rest : Bytes) :
  ∃ r, decodedRecords language (before.flatten ++ (s ++ rest))
      = recordsOf language before.flatten ++ r :: recordsOf language rest
    ∧ r.tnf = .wellKnown ∧ r.type = WellKnown.smartPoster.type ∧ r.id = id ∧ r.payload = payload
    ∧ (∀ spans stuck, Splits payload spans stuck →
      List.Forall₂ IsSubrecordOf (spans.filter (!isChunk ·)) (SmartPoster.subrecords payload))
    ∧ ((∃ p, r.content = .smartPoster p)
      ↔ (SmartPoster.subrecords payload).countP (·.uri?.isSome) = 1)
    ∧ ((∀ p, r.content ≠ .smartPoster p) → r.content = .generic)
    ∧ ∀ p, r.content = .smartPoster p →
      SmartPoster.Selected language (SmartPoster.subrecords payload) p
  := by
  obtain ⟨f, hfits, rfl, hheader, htype, rfl, rfl⟩ := hs.exists_frame
  rw [isChunk_bytes] at hwhole
  have htnf : f.tnf = .wellKnown := by
    rw [← hheader] at htnf
    rw [← htnf]
    exact (congrArg Header.tnf (Header.ofByte_byte f.header)).symm
  have hposter (p : SmartPoster) : (Record.ofFrame language f).content = .smartPoster p
      ↔ SmartPoster.decode? language f.payload = some p := by
    change Content.ofFrame language f = _ ↔ _
    rw [Content.ofFrame_eq_smartPoster_iff]
    simp [htnf, htype]
  refine ⟨.ofFrame language f, ?_, htnf, htype, rfl, rfl, ?_, ?_, ?_, ?_⟩
  · have hne : before.flatten ++ (f.bytes ++ rest) ≠ [] := by
      simp [Frame.bytes]
    rw [decodedRecords_of_ne_nil language hne, recordsOf_flatten_append language hbefore,
      recordsOf_bytes_append language hfits hwhole]
  · intro spans stuck hsplits
    apply SmartPoster.forall₂_isSubrecordOf hsplits
  · simp only [hposter]
    apply SmartPoster.exists_decode?_iff
  · apply Content.ofFrame_eq_generic_of_ne htnf htype
  · intro p hp
    apply SmartPoster.selected_of_decode? ((hposter p).mp hp)

/-- A smart poster with an unknown action before a known one, and with two titles of which the
second one agrees better with the display language, behind another record. -/
theorem Message.decodedRecords_smartPoster_unknown_action :
  let language : Option Language := some ⟨"ru", some "RU"⟩
  let other : Bytes := [0x10, 0x00, 0x00]
  let payload : Bytes := [
    0x91, 0x01, 0x02, 0x55, 0x04, 0x61, 0x11, 0x01, 0x04, 0x54, 0x02, 0x65, 0x6E, 0x61,
    0x11, 0x01, 0x04, 0x54, 0x02, 0x72, 0x75, 0x62, 0x11, 0x03, 0x01, 0x61, 0x63, 0x74, 0x09,
    0x51, 0x03, 0x01, 0x61, 0x63, 0x74, 0x00]
  let poster : Bytes := [0xD1, 0x02, 0x24, 0x53, 0x70] ++ payload
  IsSpan other ∧ Spells 0xD1 WellKnown.smartPoster.type none payload poster
    ∧ isChunk poster = false ∧ Tnf.ofBits 0xD1 = .wellKnown
    ∧ ∃ r p, decodedRecords language (other ++ poster) = recordsOf language other ++ [r]
      ∧ r.content = .smartPoster p
      ∧ SmartPoster.Selected language (SmartPoster.subrecords payload) p
      ∧ p.action = none ∧ p.title = some { content := "b", language := "ru" }
  := by
  intro language other payload poster
  let f : Frame := {
    position := .inner, chunked := false, short := true, tnf := .empty
    type := [], id := none, payload := [] }
  let g : Frame := {
    position := .alone, chunked := false, short := true, tnf := .wellKnown
    type := WellKnown.smartPoster.type, id := none, payload := payload }
  have hother : IsSpan other := isSpan_iff.mpr ⟨f, by decide, by decide⟩
  have hposter : Spells 0xD1 WellKnown.smartPoster.type none payload poster := by
    have hspells := spells_bytes (f := g) (by decide)
    have hheader : g.header.byte = 0xD1 := by decide
    have hbytes : g.bytes = poster := by decide
    rwa [hheader, hbytes] at hspells
  have hone : (SmartPoster.subrecords payload).countP (·.uri?.isSome) = 1 := by
    decide +kernel
  have hbefore : ∀ s ∈ [other], IsSpan s := by simpa using hother
  obtain ⟨r, hrecords, -, -, -, -, -, hiff, -, hselected⟩ :=
    decodedRecords_smartPoster language hbefore hposter (by decide) (by decide) []
  obtain ⟨p, hp⟩ := hiff.mpr hone
  have haction : p.action = none := by
    have hfirst : (SmartPoster.parts payload).findSome? PosterPart.action? = some 0x09 := by
      decide +kernel
    obtain ⟨r', hr', hpayload⟩ := SmartPoster.findSome?_action?_eq_some_iff.mp hfirst
    rw [Option.eq_none_iff_forall_ne_some]
    intro a ha
    obtain ⟨s, hs, hcode⟩ := ((hselected p hp).action a).mp ha
    rw [hs.unique hr', hpayload] at hcode
    cases a <;> cases hcode
  have htitle : p.title = some { content := "b", language := "ru" } := by
    have hbest : SmartPoster.bestTitle? language
        ((SmartPoster.subrecords payload).filterMap Record.text?)
          = some { language := "ru", content := "b", encoding := .utf8 } := by
      decide +kernel
    obtain ⟨r', hr', htext⟩ := SmartPoster.bestTitle?_filterMap_eq_some_iff.mp hbest
    apply ((hselected p hp).title _).mpr
    exact ⟨r', _, hr', htext, rfl⟩
  refine ⟨hother, hposter, by decide, by decide, r, p, ?_, hp, hselected p hp, haction, htitle⟩
  rw [recordsOf_nil] at hrecords
  simpa using hrecords

end Ndef
