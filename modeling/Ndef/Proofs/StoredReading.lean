import Ndef.Proofs.Selection
import Ndef.Proofs.StoredChains
import Ndef.Stored.Reading

/-!
# Reading stored records

What is stored of the messages that are read is their stored form: framing the records,
interpreting them, and linking them gives the stored form of the chain that is read
(`StoredRecord.decode?_eq`, `StoredRecord.ofArea?_eq`).  The values of a smart poster are found
while its records are gone through once.  After every record, what was found agrees with the
parts of the records so far (`PosterFindings.Agrees.step`), so in the end it makes up the
poster with these parts (`StoredPoster.decode?_eq`).
-/

namespace Ndef

/-! ### Interpreting -/

namespace RawRecord

variable {f : Frame} {c : Content}

theorem wellKnown?_ofFrame_eq_some_iff {w : WellKnown} :
  (ofFrame f).wellKnown? = some w ↔ f.tnf = .wellKnown ∧ f.type = w.type
  := by
  rw [wellKnown?, tnf_ofFrame, typeBytes_ofFrame, Option.ite_none_right_eq_some,
    WellKnown.ofType?_eq_some_iff]

/-- What is framed of a frame is stored with the given content if the frame is not of a
well-known type, or its payload is interpreted so under its type. -/
theorem dispatch_ofFrame {poster? : Bytes → Option (StoredPoster StoredRecord)}
    (hother : (ofFrame f).wellKnown? = none → c = .generic)
    (htype : ∀ w, (ofFrame f).wellKnown? = some w →
      c = .generic ∧ interpret? poster? f.payload w = none
        ∨ c.wellKnown? = some w ∧ interpret? poster? f.payload w = some c.stored) :
  dispatch poster? (ofFrame f) = (Record.framed f c).stored
  := by
  rw [dispatch, payloadBytes_ofFrame]
  cases hw : (ofFrame f).wellKnown? with
  | none =>
    rw [hother hw]
    rfl
  | some w =>
    rcases htype w hw with ⟨rfl, hnone⟩ | ⟨hc, hsome⟩
    · simp only [hnone]
      rfl
    · simp only [hsome]
      rw [Record.stored, hc]

/-- A payload that is no smart poster is interpreted as its content says, however smart posters
are read. -/
theorem interpret?_of_ne (poster? : Bytes → Option (StoredPoster StoredRecord))
    (language : Option Language) (payload : Bytes) {w : WellKnown} (hw : w ≠ .smartPoster) :
  let c := Content.ofWellKnown language payload w
  c.shallow = c
    ∧ (c = .generic ∧ interpret? poster? payload w = none
      ∨ c.wellKnown? = some w ∧ interpret? poster? payload w = some c.stored)
  := by
  cases w with
  | uri =>
    rw [Content.ofWellKnown, interpret?]
    cases Uri.decode payload with
    | error e => exact ⟨rfl, .inl ⟨rfl, rfl⟩⟩
    | ok u => exact ⟨rfl, .inr ⟨rfl, rfl⟩⟩
  | text =>
    rw [Content.ofWellKnown, interpret?]
    cases Text.decode payload with
    | error e => exact ⟨rfl, .inl ⟨rfl, rfl⟩⟩
    | ok t => exact ⟨rfl, .inr ⟨rfl, rfl⟩⟩
  | smartPoster => contradiction

theorem ofFrame_of_wellKnown?_eq_none (h : (ofFrame f).wellKnown? = none)
    (language : Option Language) :
  Content.ofFrame language f = .generic
  := by
  rw [wellKnown?, tnf_ofFrame, typeBytes_ofFrame] at h
  rw [Content.ofFrame]
  split
  · next htnf =>
    rw [if_pos htnf] at h
    rw [h]
  · rfl

/-- In the payload of a smart poster, a frame is stored like any other, except that a smart
poster is not interpreted. -/
theorem dispatch_nested (f : Frame) :
  dispatch (fun _ => none) (ofFrame f) = (Record.nested f).stored
  := by
  apply dispatch_ofFrame
  · intro h
    rw [ofFrame_of_wellKnown?_eq_none h]
    rfl
  · intro w hw
    obtain ⟨htnf, htype⟩ := wellKnown?_ofFrame_eq_some_iff.mp hw
    rw [Content.ofFrame_of_type htnf htype]
    by_cases hposter : w = .smartPoster
    · left
      rw [hposter, Content.ofWellKnown]
      cases SmartPoster.decode? none f.payload <;> exact ⟨rfl, rfl⟩
    · obtain ⟨hshallow, hcases⟩ := interpret?_of_ne (fun _ => none) none f.payload hposter
      rw [hshallow]
      apply hcases

end RawRecord

/-! ### What is found in the payload of a smart poster -/

namespace StoredRecord

/-- The record is stored for a frame in the payload of a smart poster. -/
def IsNested (r : StoredRecord) (f : Frame) : Prop :=
  r.detached = (Record.nested f).stored

variable {r : StoredRecord} {f : Frame}

theorem IsNested.content (h : r.IsNested f) :
  r.content = (Record.nested f).content.stored
  := by
  rw [← Record.content_stored, ← h, detached_eq]

theorem IsNested.payload (h : r.IsNested f) :
  r.payload = f.payload
  := by
  have hpayload : r.detached.payload = r.payload := rfl
  rw [← hpayload, h, Record.payload_stored]
  rfl

theorem IsNested.hasWellKnownType_iff (h : r.IsNested f) {type : Bytes} :
  r.hasWellKnownType type = true ↔ f.tnf = .wellKnown ∧ f.type = type
  := by
  have htype : r.detached.hasWellKnownType type = r.hasWellKnownType type := rfl
  rw [← htype, h, ← Record.hasWellKnownType_nested, hasWellKnownType, Record.tnf_stored,
    Record.type_stored, Record.hasWellKnownType]

theorem IsNested.content_eq_uri_iff (h : r.IsNested f) {u : String} :
  r.content = .uri u ↔ PosterPart.ofFrame f = .uri u
  := by
  rw [h.content, Content.stored_eq_uri_iff, ← Record.uri?_nested_eq_some_iff,
    Record.uri?_eq_some_iff]

theorem IsNested.content_eq_text_iff (h : r.IsNested f) {t : Text} :
  r.content = .text t ↔ PosterPart.ofFrame f = .title t
  := by
  rw [h.content, Content.stored_eq_text_iff, ← Record.text?_nested_eq_some_iff,
    Record.text?_eq_some_iff]

theorem IsNested.isAction_iff (h : r.IsNested f) :
  (r.hasWellKnownType PosterPart.actionType && decide (r.payload.length = 1)) = true
    ↔ ∃ code, PosterPart.ofFrame f = .action code
  := by
  simp only [Bool.and_eq_true, decide_eq_true_iff, h.hasWellKnownType_iff, h.payload,
    PosterPart.ofFrame_eq_action_iff, List.length_eq_one_iff, exists_and_left, and_assoc]

theorem IsNested.isSize_iff (h : r.IsNested f) :
  (r.hasWellKnownType PosterPart.sizeType && decide (r.payload.length = 4)) = true
    ↔ ∃ n, PosterPart.ofFrame f = .size n
  := by
  have hlength : f.payload.length = 4 ↔ ∃ n : UInt32, f.payload = Bytes.ofNat 4 n.toNat := by
    constructor
    · intro h
      exact ⟨_, (Bytes.uint32_ofNat_toNat_iff h).mp rfl⟩
    · rintro ⟨n, hn⟩
      rw [hn, Bytes.length_ofNat]
  simp only [Bool.and_eq_true, decide_eq_true_iff, h.hasWellKnownType_iff, h.payload,
    PosterPart.ofFrame_eq_size_iff, hlength, exists_and_left, and_assoc]

theorem IsNested.isMediaType_iff (h : r.IsNested f) :
  r.hasWellKnownType PosterPart.mediaTypeType = true
    ↔ ∃ name, PosterPart.ofFrame f = .mediaType name
  := by
  simp [h.hasWellKnownType_iff, PosterPart.ofFrame_eq_mediaType_iff]

theorem IsNested.isIcon_iff (h : r.IsNested f) :
  r.isIcon = true ↔ ∃ g, PosterPart.ofFrame f = .icon g
  := by
  have hicon : r.detached.isIcon = r.isIcon := rfl
  rw [← hicon, h, isIcon, Record.tnf_stored, Record.type_stored, Record.payload_stored]
  change PosterPart.isIcon f = true ↔ _
  simp [PosterPart.ofFrame_eq_icon_iff]

end StoredRecord

namespace PosterFindings

variable {found : PosterFindings} {parts : List PosterPart} {r : StoredRecord} {f : Frame}

/-- What a record adds to what was found is told by its part. -/
theorem add_eq (found : PosterFindings) (h : r.IsNested f) :
  let part := PosterPart.ofFrame f
  found.add r =
    if part.uri?.isSome && found.uri.isSome then none
    else some {
      uri := found.uri <|> part.uri?
      titles := found.titles ++ part.title?.toList
      action := found.action <|> part.action?.map fun _ => r
      size := found.size <|> part.size?.map fun _ => r
      mediaType := found.mediaType <|> part.mediaType?.map fun _ => r
      icon := found.icon <|> part.icon?.map fun _ => r }
  := by
  obtain ⟨uri, titles, action, size, mediaType, icon⟩ := found
  rw [add]
  split
  · next u hu =>
    rw [h.content_eq_uri_iff.mp hu]
    cases uri <;> simp [PosterPart.uri?, PosterPart.title?, PosterPart.action?, PosterPart.size?,
      PosterPart.mediaType?, PosterPart.icon?]
  · next t ht =>
    rw [h.content_eq_text_iff.mp ht]
    simp [PosterPart.uri?, PosterPart.title?, PosterPart.action?, PosterPart.size?,
      PosterPart.mediaType?, PosterPart.icon?]
  · next huri htext =>
    cases hpart : PosterPart.ofFrame f with
    | uri u => exact absurd (h.content_eq_uri_iff.mpr hpart) (huri u)
    | title t => exact absurd (h.content_eq_text_iff.mpr hpart) (htext t)
    | icon g =>
      cases icon <;> simp [h.isAction_iff, h.isSize_iff, h.isMediaType_iff, h.isIcon_iff, hpart,
        PosterPart.uri?, PosterPart.title?, PosterPart.action?, PosterPart.size?,
        PosterPart.mediaType?, PosterPart.icon?]
    | _ =>
      simp [h.isAction_iff, h.isSize_iff, h.isMediaType_iff, h.isIcon_iff, hpart,
        PosterPart.uri?, PosterPart.title?, PosterPart.action?, PosterPart.size?,
        PosterPart.mediaType?, PosterPart.icon?]

/-- What was found agrees with the parts of the records that were gone through: it is the only
URI, all titles, and the first of each other kind. -/
structure Agrees (found : PosterFindings) (parts : List PosterPart) : Prop where
  uri : parts.filterMap PosterPart.uri? = found.uri.toList
  titles : parts.filterMap PosterPart.title? = found.titles
  action : (parts.findSome? PosterPart.action?).map (fun code => [code])
    = found.action.map StoredRecord.payload
  size : (parts.findSome? PosterPart.size?).map (fun n => Bytes.ofNat 4 n.toNat)
    = found.size.map StoredRecord.payload
  mediaType : (parts.findSome? PosterPart.mediaType?).map id
    = found.mediaType.map StoredRecord.payload
  icon : (parts.findSome? PosterPart.icon?).map StoredRecord.uninterpreted
    = found.icon.map StoredRecord.detached

theorem agrees_nil :
  Agrees {} []
  where
  uri := rfl
  titles := rfl
  action := rfl
  size := rfl
  mediaType := rfl
  icon := rfl

/-- The first value of a kind and the first record of that kind agree if they did so far and
the next record has the value of its part. -/
theorem map_findSome?_append {α β : Type} {kind : PosterPart → Option α} {g : α → β}
    {tells : StoredRecord → β} {first : Option StoredRecord} {part : PosterPart}
    (h : (parts.findSome? kind).map g = first.map tells)
    (hpart : ∀ a, kind part = some a → g a = tells r) :
  ((parts ++ [part]).findSome? kind).map g = (first <|> (kind part).map fun _ => r).map tells
  := by
  rw [List.findSome?_append, List.findSome?_singleton]
  generalize parts.findSome? kind = a? at h
  cases hkind : kind part with
  | none => simpa using h
  | some a =>
    have ha := hpart a hkind
    cases a? <;> cases first <;> simp_all

/-- Going through one more record finds what its part says, unless the part is a second URI. -/
theorem Agrees.step (h : found.Agrees parts) (hr : r.IsNested f) :
  (∃ next, found.add r = some next ∧ next.Agrees (parts ++ [PosterPart.ofFrame f]))
    ∨ found.add r = none
      ∧ 2 ≤ ((parts ++ [PosterPart.ofFrame f]).filterMap PosterPart.uri?).length
  := by
  have huris : (parts ++ [PosterPart.ofFrame f]).filterMap PosterPart.uri?
      = found.uri.toList ++ (PosterPart.ofFrame f).uri?.toList := by
    rw [List.filterMap_append, h.uri]
    cases hu : (PosterPart.ofFrame f).uri? <;> simp [hu]
  rw [found.add_eq hr]
  by_cases hsecond : (PosterPart.ofFrame f).uri?.isSome = true ∧ found.uri.isSome = true
  · right
    obtain ⟨u, hu⟩ := Option.isSome_iff_exists.mp hsecond.1
    obtain ⟨v, hv⟩ := Option.isSome_iff_exists.mp hsecond.2
    simp [huris, hu, hv]
  · left
    rw [← Bool.and_eq_true] at hsecond
    refine ⟨_, if_neg hsecond, ?_⟩
    constructor
    · rw [huris]
      cases hu : (PosterPart.ofFrame f).uri? <;> cases hv : found.uri <;> simp_all
    · rw [List.filterMap_append, h.titles]
      cases ht : (PosterPart.ofFrame f).title? <;> simp [ht]
    · apply map_findSome?_append h.action
      intro code hcode
      rw [PosterPart.action?_eq_some_iff, PosterPart.ofFrame_eq_action_iff] at hcode
      rw [hr.payload, hcode.2.2]
    · apply map_findSome?_append h.size
      intro n hn
      rw [PosterPart.size?_eq_some_iff, PosterPart.ofFrame_eq_size_iff] at hn
      rw [hr.payload, hn.2.2]
    · apply map_findSome?_append h.mediaType
      intro name hname
      rw [PosterPart.mediaType?_eq_some_iff, PosterPart.ofFrame_eq_mediaType_iff] at hname
      rw [hr.payload, hname.2.2]
      rfl
    · apply map_findSome?_append h.icon
      intro g hg
      rw [PosterPart.icon?_eq_some_iff, ← Record.pictures_nested_iff] at hg
      rw [hr, hg.2]
      rfl

/-- Going through more records finds what their parts say, unless there is a second URI. -/
theorem Agrees.run {records : List StoredRecord} {frames : List Frame} (h : found.Agrees parts)
    (hrecords : List.Forall₂ StoredRecord.IsNested records frames) :
  (∃ next, records.foldlM add found = some next
      ∧ next.Agrees (parts ++ frames.map PosterPart.ofFrame))
    ∨ records.foldlM add found = none
      ∧ 2 ≤ ((parts ++ frames.map PosterPart.ofFrame).filterMap PosterPart.uri?).length
  := by
  induction hrecords generalizing found parts with
  | nil =>
    left
    refine ⟨found, rfl, ?_⟩
    rw [List.map_nil, List.append_nil]
    apply h
  | cons hr hrecords ih =>
    rename_i r f records frames
    rw [List.foldlM_cons, List.map_cons, ← List.singleton_append, ← List.append_assoc]
    rcases h.step hr with ⟨next, hadd, hnext⟩ | ⟨hadd, huris⟩
    · rw [hadd]
      apply ih hnext
    · right
      rw [hadd]
      refine ⟨rfl, ?_⟩
      rw [List.filterMap_append, List.length_append]
      omega

/-- What was found in all records makes up the poster with their parts. -/
theorem Agrees.poster? (h : found.Agrees parts) (language : Option Language) :
  found.poster? language = (SmartPoster.ofParts? language parts).map SmartPoster.stored
  := by
  have haction : found.action.bind (·.payload.head?) = parts.findSome? PosterPart.action? := by
    calc found.action.bind (·.payload.head?)
        = (found.action.map StoredRecord.payload).bind List.head? := by
          rw [Option.bind_map]
          rfl
      _ = ((parts.findSome? PosterPart.action?).map fun code => [code]).bind List.head? := by
        rw [h.action]
      _ = parts.findSome? PosterPart.action? := by
        cases parts.findSome? PosterPart.action? <;> rfl
  have hsize : (found.size.map fun r => UInt32.ofNat (Bytes.toNat r.payload))
      = parts.findSome? PosterPart.size? := by
    have hback (n : UInt32) : UInt32.ofNat (Bytes.toNat (Bytes.ofNat 4 n.toNat)) = n :=
      (Bytes.uint32_ofNat_toNat_iff (Bytes.length_ofNat 4 _)).mpr rfl
    calc found.size.map (fun r => UInt32.ofNat (Bytes.toNat r.payload))
        = (found.size.map StoredRecord.payload).map fun b => UInt32.ofNat (Bytes.toNat b) := by
          rw [Option.map_map]
          rfl
      _ = ((parts.findSome? PosterPart.size?).map fun n => Bytes.ofNat 4 n.toNat).map
          fun b => UInt32.ofNat (Bytes.toNat b) := by
        rw [h.size]
      _ = parts.findSome? PosterPart.size? := by
        cases parts.findSome? PosterPart.size? <;> simp [hback]
  have hmediaType : (found.mediaType.bind fun r => SmartPoster.mediaTypeOfName? r.payload)
      = (parts.findSome? PosterPart.mediaType?).bind SmartPoster.mediaTypeOfName? := by
    calc found.mediaType.bind (fun r => SmartPoster.mediaTypeOfName? r.payload)
        = (found.mediaType.map StoredRecord.payload).bind SmartPoster.mediaTypeOfName? := by
          rw [Option.bind_map]
          rfl
      _ = (parts.findSome? PosterPart.mediaType?).bind SmartPoster.mediaTypeOfName? := by
        rw [← h.mediaType, Option.map_id_apply]
  rw [PosterFindings.poster?, SmartPoster.ofParts?, h.uri, haction, hsize, hmediaType, h.titles,
    ← h.icon]
  cases found.uri with
  | none => rfl
  | some u =>
    simp [SmartPoster.stored, Function.comp_def]

end PosterFindings

/-- Parts with more than one URI make up no poster. -/
theorem SmartPoster.ofParts?_eq_none {language : Option Language} {parts : List PosterPart}
    (h : 2 ≤ (parts.filterMap PosterPart.uri?).length) :
  ofParts? language parts = none
  := by
  rw [ofParts?]
  split
  · next huri =>
    rw [huri, List.length_singleton] at h
    omega
  · rfl

/-! ### Linking what was read -/

namespace StoredRecord

/-- Linking stored records stores the chain of the records. -/
theorem relink?_map_record_stored (records : List Record) :
  relink? (records.map Record.stored)
    = (RecordChain.relink? (records.map RecordChain.single)).map RecordChain.stored
  := by
  rw [← RecordChain.relink?_map_stored, List.map_map]
  rfl

/-- The records that are linked of the frames in a payload are nested records of these. -/
theorem forall₂_isNested {frames : List Frame} {r : StoredRecord}
    (h : relink? (frames.map fun f => (Record.nested f).stored) = some r) :
  List.Forall₂ IsNested r.nodes frames
  := by
  have hmap : (frames.map fun f => (Record.nested f).stored)
      = (frames.map Record.nested).map Record.stored := by
    rw [List.map_map]
    rfl
  rw [hmap, relink?_map_record_stored, Option.map_eq_some_iff] at h
  obtain ⟨c, hc, rfl⟩ := h
  have hrecords : c.nodes.map RecordChain.record = frames.map Record.nested := by
    rw [RecordChain.map_record_nodes, RecordChain.records_of_relink?_single hc]
  rw [← List.forall₂_eq_eq_eq, List.forall₂_map_left_iff, List.forall₂_map_right_iff] at hrecords
  rw [RecordChain.nodes_stored, List.forall₂_map_left_iff]
  apply hrecords.imp
  intro d f hd
  rw [IsNested, RecordChain.detached_stored, ← hd]
  rfl

end StoredRecord

namespace RawRecord

/-- The records that are framed are the frames that are read, each stored by itself. -/
theorem parse_eq_map {poster? : Bytes → Option (StoredPoster StoredRecord)}
    {stores : Frame → StoredRecord} (h : ∀ f, dispatch poster? (ofFrame f) = stores f) (b : Bytes) :
  parse poster? b = ((Frame.ofBytes b).filter (!·.chunked)).map stores
  := by
  rw [parse, all_eq, Frame.ofBytes, List.filter_map, List.map_map]
  have hchunk : ((!·.isChunk) ∘ ofFrame : Frame → Bool) = (!·.chunked) := by
    funext f
    rw [Function.comp_apply, isChunk_ofFrame]
  rw [hchunk]
  exact List.map_congr_left fun f _ => h f

end RawRecord

/-- What is stored of a smart poster is the stored form of the poster that is read. -/
theorem StoredPoster.decode?_eq (language : Option Language) (payload : Bytes) :
  decode? language payload = (SmartPoster.decode? language payload).map SmartPoster.stored
  := by
  rw [decode?, StoredRecord.decodeWith?, RawRecord.parse_eq_map RawRecord.dispatch_nested,
    SmartPoster.decode?, SmartPoster.parts]
  split
  · next hempty =>
    have hframes : Frame.ofBytes payload = [] := by
      rw [hempty, Frame.ofBytes, Reader.all_of_none rfl]
    rw [hframes]
    rfl
  · cases hr : StoredRecord.relink? (((Frame.ofBytes payload).filter (!·.chunked)).map
        fun f => (Record.nested f).stored) with
    | none =>
      have hframes : (Frame.ofBytes payload).filter (!·.chunked) = [] := by
        cases hframes : (Frame.ofBytes payload).filter (!·.chunked) with
        | nil => rfl
        | cons f frames =>
          rw [hframes, List.map_cons, StoredRecord.relink?_cons] at hr
          cases hr
      rw [hframes]
      rfl
    | some r =>
      have hnodes := StoredRecord.forall₂_isNested hr
      rcases PosterFindings.agrees_nil.run hnodes with ⟨found, hfound, hagrees⟩ | ⟨hfound, huris⟩
      · simp only [Option.bind_eq_bind, Option.bind_some, hfound]
        apply hagrees.poster?
      · simp only [Option.bind_eq_bind, Option.bind_some, hfound, Option.bind_none]
        rw [List.nil_append] at huris
        rw [SmartPoster.ofParts?_eq_none huris]
        rfl

namespace RawRecord

/-- A frame is stored with what it says. -/
theorem dispatch_eq (language : Option Language) (f : Frame) :
  dispatch (StoredPoster.decode? language) (ofFrame f) = (Record.ofFrame language f).stored
  := by
  apply dispatch_ofFrame
  · intro h
    apply ofFrame_of_wellKnown?_eq_none h
  · intro w hw
    obtain ⟨htnf, htype⟩ := wellKnown?_ofFrame_eq_some_iff.mp hw
    rw [Content.ofFrame_of_type htnf htype]
    by_cases hposter : w = .smartPoster
    · rw [hposter, Content.ofWellKnown, interpret?, StoredPoster.decode?_eq]
      cases SmartPoster.decode? language f.payload with
      | none => exact .inl ⟨rfl, rfl⟩
      | some p => exact .inr ⟨rfl, rfl⟩
    · exact (interpret?_of_ne (StoredPoster.decode? language) language f.payload hposter).2

/-- The records that are stored of a byte string are those that are read. -/
theorem parse_eq (language : Option Language) (b : Bytes) :
  parse (StoredPoster.decode? language) b = (Message.recordsOf language b).map Record.stored
  := by
  rw [parse_eq_map (dispatch_eq language), Message.recordsOf, List.map_map]
  rfl

end RawRecord

namespace StoredRecord

/-- What is stored of a message is the stored form of the chain that is read. -/
theorem decode?_eq (language : Option Language) (b : Bytes) :
  decode? language b = (RecordChain.decode? language b).map RecordChain.stored
  := by
  rw [decode?, decodeWith?, RecordChain.decode?]
  split
  · rfl
  · rw [RawRecord.parse_eq, relink?_map_record_stored]

/-- What is stored of an area is the stored form of the chain that is read. -/
theorem ofArea?_eq (language : Option Language) (s : Bytes) :
  ofArea? language s = (RecordChain.ofArea? language s).map RecordChain.stored
  := by
  rw [ofArea?, RecordChain.ofArea?, ← RecordChain.relink?_map_stored, List.map_flatMap]
  congr 2
  funext message
  rw [decode?_eq]
  cases RecordChain.decode? language message with
  | none => rfl
  | some c => exact c.breakUp_stored

end StoredRecord

end Ndef
