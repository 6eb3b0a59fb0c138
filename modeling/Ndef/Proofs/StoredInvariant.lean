import Ndef.Proofs.StoredBuilding

/-!
# What stored records keep

`StoredRecord.Reachable` is every stored record that comes out of reading, of building, of taking
chains apart and putting them together, of copying, and of clearing flags, in any order and any
number of times.  It is the stored form of a chain of genuine records
(`StoredRecord.Reachable.exists_chain`).  So all that is stored of it is in step: framing its
bytes finds the stored ranges, format and place are those of its first byte, and its content
is what its payload says under the stored type (`StoredRecord.Reachable.coherent`).
-/

namespace Ndef

namespace StoredRecord

/-- The stored records that the operations make. -/
inductive Reachable : StoredRecord → Prop where
  /-- The record of a message of no bytes. -/
  | empty : Reachable .empty
  /-- A record built from its parts. -/
  | build {tnf : Tnf} {type : Bytes} {id : Option Bytes} {payload : Bytes} {r : StoredRecord}
      (h : StoredRecord.build tnf type id payload = .ok r) : Reachable r
  /-- A well-known record. -/
  | buildWellKnown {type id payload : Bytes} {r : StoredRecord}
      (h : StoredRecord.buildWellKnown type id payload = .ok r) : Reachable r
  /-- A record of a media type. -/
  | buildMedia {mediaType : String} {payload : Bytes} {r : StoredRecord}
      (h : StoredRecord.buildMedia mediaType payload = .ok r) : Reachable r
  /-- A URI record. -/
  | buildUri {uri : String} {r : StoredRecord} (h : StoredRecord.buildUri uri = .ok r) :
      Reachable r
  /-- A text record. -/
  | buildText {t : Text} {r : StoredRecord} (h : StoredRecord.buildText t = .ok r) : Reachable r
  /-- A text record whose text or language need not be given. -/
  | buildTextOrDefault {content language : Option String} {encoding : TextEncoding}
      {current : Option Language} {r : StoredRecord}
      (h : StoredRecord.buildTextOrDefault content language encoding current = .ok r) :
      Reachable r
  /-- A smart poster whose icon, if it is given, is such a record itself. -/
  | buildSmartPoster {d : StoredDraft} {r : StoredRecord}
      (hicon : ∀ i, d.icon = some i → Reachable i)
      (h : StoredRecord.buildSmartPoster d = .ok r) : Reachable r
  /-- The records in a byte string. -/
  | decode {language : Option Language} {b : Bytes} {r : StoredRecord}
      (h : StoredRecord.decode? language b = some r) : Reachable r
  /-- The records of the messages in an area. -/
  | ofArea {language : Option Language} {s : Bytes} {r : StoredRecord}
      (h : StoredRecord.ofArea? language s = some r) : Reachable r
  /-- A chain with another one behind it. -/
  | append {r s : StoredRecord} (hr : Reachable r) (hs : Reachable s) : Reachable (r.append s)
  /-- The first record alone. -/
  | alone {r : StoredRecord} (hr : Reachable r) : Reachable r.takeNext.1
  /-- What was behind the first record. -/
  | behind {r s : StoredRecord} (hr : Reachable r) (h : r.takeNext.2 = some s) : Reachable s
  /-- A record to which a walk comes, with the records behind it. -/
  | node {r s : StoredRecord} (hr : Reachable r) (h : s ∈ r.nodes) : Reachable s
  /-- One of the records of a chain that is broken up. -/
  | broken {r s : StoredRecord} (hr : Reachable r) (h : s ∈ r.breakUp) : Reachable s
  /-- The linked records. -/
  | relink {records : List StoredRecord} {r : StoredRecord}
      (hrecords : ∀ s ∈ records, Reachable s) (h : relink? records = some r) : Reachable r
  /-- A copy of a chain. -/
  | copy {r : StoredRecord} (hr : Reachable r) : Reachable r.copy
  /-- A copy of a record alone. -/
  | detached {r : StoredRecord} (hr : Reachable r) : Reachable r.detached
  /-- A record some of whose flags were cleared. -/
  | clearFlags {r : StoredRecord} (hr : Reachable r) (p : Position) : Reachable (r.clearFlags p)
  /-- The icon of a smart poster. -/
  | icon {r i : StoredRecord} (hr : Reachable r) (h : r.icon? = some i) : Reachable i

/-! ### Being in step -/

/-- Nothing is stored of the record. -/
structure IsEmpty (r : StoredRecord) : Prop where
  bytes : r.bytes = []
  typeRange : r.typeRange = ⟨0, 0⟩
  idRange : r.idRange = none
  payloadRange : r.payloadRange = ⟨0, 0⟩
  tnf : r.tnf = .empty
  position : r.position = ⟨false, false⟩
  wellKnown : r.wellKnown? = none
  content : r.content = .generic

/-- What is stored of the place, the format and the fields of a record is what its bytes say,
of which `header` is the first. -/
structure AgreesWithBytes (header : UInt8) (r : StoredRecord) : Prop where
  first : r.bytes.head? = some header
  framed : RawRecord.frame r.bytes = .ok {
    header := header
    bytes := r.bytes
    type := r.typeRange
    id := r.idRange
    payload := r.payloadRange }
  spelled : Spells header r.type r.id r.payload r.bytes
  contiguous : Layout.Contiguous ⟨r.typeRange, r.idRange, r.payloadRange⟩
  stop : r.payloadRange.stop = r.bytes.length
  whole : header &&& 0x20 = 0
  tnf : r.tnf.bits = header &&& 0x07
  begins : r.position.first = true ↔ header &&& 0x80 ≠ 0
  ends : r.position.last = true ↔ header &&& 0x40 ≠ 0
  hasId : r.id.isSome = true ↔ header &&& 0x08 ≠ 0

/-- The record is interpreted as the type of which its content is, and then it is a well-known
record of that type whose payload says so. -/
structure AgreesWithPayload (r : StoredRecord) : Prop where
  uri : r.wellKnown? = some .uri ↔ ∃ u, r.content = .uri u
  text : r.wellKnown? = some .text ↔ ∃ t, r.content = .text t
  smartPoster : r.wellKnown? = some .smartPoster ↔ ∃ p, r.content = .smartPoster p
  ofUri : ∀ u, r.content = .uri u →
    r.tnf = .wellKnown ∧ r.type = [0x55] ∧ Uri.decode r.payload = .ok u
  ofText : ∀ t, r.content = .text t →
    r.tnf = .wellKnown ∧ r.type = [0x54] ∧ Text.decode r.payload = .ok t
  ofSmartPoster : ∀ p, r.content = .smartPoster p →
    r.tnf = .wellKnown ∧ r.type = [0x53, 0x70]
      ∧ ∃ language, StoredPoster.decode? language r.payload = some p

/-- All that is stored of the record itself is in step. -/
structure Coherent (r : StoredRecord) : Prop where
  bytes : r.IsEmpty ∨ ∃ header, r.AgreesWithBytes header
  content : r.AgreesWithPayload

/-- A record is fit to be an icon: it stands alone, is not interpreted, not empty, and an image
or a video. -/
structure Pictures (r : StoredRecord) : Prop where
  alone : r.next? = none
  tnf : r.tnf = .mediaType
  content : r.content = .generic
  payload : r.payload ≠ []
  mediaType : ∃ name, Utf8.decode? r.type = some name ∧ MediaType.isType name = true
    ∧ (equalUpToCase (MediaType.parts name).1 "image" = true
      ∨ equalUpToCase (MediaType.parts name).1 "video" = true)

end StoredRecord

/-! ### Genuine records are stored in step -/

theorem Tnf.bits_ofBits (b : UInt8) :
  (ofBits b).bits = b &&& 0x07
  := by
  revert b
  apply Bytes.forall_byte
  decide +kernel

namespace Record

variable {language : Option Language} {r : Record}

theorem isEmpty_stored (next? : Option StoredRecord) :
  { empty.stored with next? := next? }.IsEmpty
  where
  bytes := rfl
  typeRange := rfl
  idRange := rfl
  payloadRange := rfl
  tnf := rfl
  position := rfl
  wellKnown := rfl
  content := rfl

theorem agreesWithBytes_stored {f : Frame} (hfits : f.Fits) (hwhole : f.chunked = false)
    (c : Content) (next? : Option StoredRecord) :
  { (framed f c).stored with next? := next? }.AgreesWithBytes f.header.byte
  where
  first := rfl
  framed := by
    have hframe := RawRecord.frame_bytes_append hfits []
    rw [List.append_nil] at hframe
    apply hframe
  spelled := by
    change Spells _ (f.bytes.slice f.layout.type) (f.layout.id.map f.bytes.slice)
      (f.bytes.slice f.layout.payload) f.bytes
    rw [f.slice_type, f.slice_id, f.slice_payload]
    apply spells_bytes hfits
  contiguous := Layout.contiguous_ofLengths _ _ _ _
  stop := f.stop_payload
  whole := by
    have hchunked : (f.header.byte &&& 0x20 != 0) = f.chunked := f.header.byte_and_chunked
    rw [hwhole] at hchunked
    simpa using hchunked
  tnf := Tnf.bits_ofBits f.header.byte
  begins := bne_iff_ne
  ends := bne_iff_ne
  hasId := by
    have hid : (f.layout.id.map f.bytes.slice).isSome = f.id.isSome := congrArg _ f.slice_id
    change (f.layout.id.map f.bytes.slice).isSome = true ↔ _
    rw [hid, ← bne_iff_ne]
    exact iff_of_eq (congrArg (· = true) f.header.byte_and_hasId.symm)

/-- A genuine record says what its payload says under its type. -/
theorem Genuine.of_content (h : r.Genuine language) {w : WellKnown}
    (hw : r.content.wellKnown? = some w) :
  r.tnf = .wellKnown ∧ r.type = w.type ∧ Content.ofWellKnown language r.payload w = r.content
  := by
  rcases h with rfl | ⟨f, -, -, rfl⟩
  · cases hw
  · exact (Content.ofFrame_eq_iff hw).mp rfl

theorem Genuine.agreesWithPayload_stored (h : r.Genuine language) (next? : Option StoredRecord) :
  { r.stored with next? := next? }.AgreesWithPayload
  := by
  have hwellKnown : { r.stored with next? := next? }.wellKnown? = r.content.wellKnown? :=
    r.wellKnown?_stored
  have hcontent : { r.stored with next? := next? }.content = r.content.stored := r.content_stored
  have htnf : { r.stored with next? := next? }.tnf = r.tnf := r.tnf_stored
  have htype : { r.stored with next? := next? }.type = r.type := r.type_stored
  have hpayload : { r.stored with next? := next? }.payload = r.payload := r.payload_stored
  constructor
  case uri | text | smartPoster =>
    rw [hwellKnown, hcontent]
    cases r.content <;> simp [Content.wellKnown?, Content.stored]
  case ofUri =>
    rw [hcontent, htnf, htype, hpayload]
    intro u hu
    have hc := Content.stored_eq_uri_iff.mp hu
    obtain ⟨hwk, hU, hdecode⟩ := h.of_content (congrArg Content.wellKnown? hc)
    rw [hc, Content.ofWellKnown_eq_uri_iff] at hdecode
    exact ⟨hwk, hU, hdecode⟩
  case ofText =>
    rw [hcontent, htnf, htype, hpayload]
    intro t ht
    have hc := Content.stored_eq_text_iff.mp ht
    obtain ⟨hwk, hT, hdecode⟩ := h.of_content (congrArg Content.wellKnown? hc)
    rw [hc, Content.ofWellKnown_eq_text_iff] at hdecode
    exact ⟨hwk, hT, hdecode⟩
  case ofSmartPoster =>
    rw [hcontent, htnf, htype, hpayload]
    intro p hp
    obtain ⟨q, hc, rfl⟩ := Content.stored_eq_smartPoster_iff.mp hp
    obtain ⟨hwk, hSp, hdecode⟩ := h.of_content (congrArg Content.wellKnown? hc)
    rw [hc, Content.ofWellKnown_eq_smartPoster_iff] at hdecode
    refine ⟨hwk, hSp, language, ?_⟩
    rw [StoredPoster.decode?_eq, hdecode]
    rfl

/-- All that is stored of a genuine record is in step, whatever is behind it. -/
theorem Genuine.coherent_stored (h : r.Genuine language) (next? : Option StoredRecord) :
  { r.stored with next? := next? }.Coherent
  where
  bytes := by
    rcases h with rfl | ⟨f, hfits, hwhole, rfl⟩
    · left
      apply isEmpty_stored
    · right
      exact ⟨_, agreesWithBytes_stored hfits hwhole _ next?⟩
  content := h.agreesWithPayload_stored next?

/-- The icon that is stored of a genuine record is fit to be one, and is the stored form of a
genuine record itself. -/
theorem Genuine.icon_stored (h : r.Genuine language) {i : StoredRecord}
    (hi : r.stored.icon? = some i) :
  i.Pictures ∧ ∃ s : Record, s.Genuine none ∧ i = s.stored
  := by
  rw [icon?_stored, Option.map_eq_some_iff] at hi
  obtain ⟨f, hf, rfl⟩ := hi
  obtain ⟨p, hp, hf⟩ := Option.bind_eq_some_iff.mp hf
  obtain ⟨hgenuine, hicon⟩ := h.icon (smartPoster?_eq_some_iff.mp hp) hf none
  obtain ⟨htnf, hcontent, hpayload, hmediaType⟩ := pictures_uninterpreted_iff.mpr hicon
  have hstored : StoredRecord.uninterpreted f = (uninterpreted f).stored := rfl
  rw [hstored]
  refine ⟨⟨rfl, ?_, rfl, ?_, ?_⟩, _, hgenuine, rfl⟩
  · rw [tnf_stored, htnf]
  · rw [payload_stored]
    apply hpayload
  · rw [type_stored]
    apply hmediaType

end Record

/-! ### The operations keep genuine chains -/

namespace RecordChain

theorem genuine_single {r : Record} {language : Option Language} (h : r.Genuine language) :
  (single r).Genuine
  := genuine_node.mpr ⟨⟨language, h⟩, nofun⟩

theorem Genuine.record {c : RecordChain} (h : c.Genuine) :
  ∃ language, c.record.Genuine language
  := by
  apply h
  rw [records_eq_cons]
  apply List.mem_cons_self

theorem Genuine.of_message {c : RecordChain} {language : Option Language}
    (h : ∀ r ∈ c.message.records, r.Genuine language) :
  c.Genuine
  := by
  intro r hr
  rw [← records_message] at hr
  exact ⟨language, h r hr⟩

theorem genuine_of_decode? {language : Option Language} {b : Bytes} {c : RecordChain}
    (h : decode? language b = some c) :
  c.Genuine
  := by
  have hmessage := map_message_decode? language b
  rw [h, Option.map_some] at hmessage
  exact .of_message fun r hr => Message.genuine_of_decode? hmessage.symm hr

theorem genuine_of_ofArea? {language : Option Language} {s : Bytes} {c : RecordChain}
    (h : ofArea? language s = some c) :
  c.Genuine
  := by
  have hmessage := map_message_ofArea? language s
  rw [h, Option.map_some] at hmessage
  exact .of_message fun r hr => Message.genuine_of_ofArea? hmessage.symm hr

theorem Genuine.append {c d : RecordChain} (hc : c.Genuine) (hd : d.Genuine) :
  (c.append d).Genuine
  := by
  intro r hr
  rw [records_append, List.mem_append] at hr
  rcases hr with hr | hr
  · apply hc r hr
  · apply hd r hr

theorem Genuine.next {c d : RecordChain} (h : c.Genuine) (hd : c.next? = some d) :
  d.Genuine
  := by
  obtain ⟨r, c?⟩ := c
  apply (genuine_node.mp h).2 d hd

/-- Linking the first records of genuine chains makes a genuine chain. -/
theorem Genuine.relink {chains : List RecordChain} {c : RecordChain}
    (h : ∀ d ∈ chains, d.Genuine) (hc : relink? chains = some c) :
  c.Genuine
  := by
  have hrecords := map_records_relink? chains
  rw [hc, Option.map_some] at hrecords
  split at hrecords
  · cases hrecords
  · injection hrecords with hrecords
    intro r hr
    rw [hrecords] at hr
    obtain ⟨d, hd, rfl⟩ := List.mem_map.mp hr
    exact (h d hd).record

/-- The icon of the first record is that of the chain. -/
theorem icon?_stored (c : RecordChain) :
  c.stored.icon? = c.record.stored.icon?
  := by
  obtain ⟨r, c?⟩ := c
  rw [stored_node]
  rfl

/-- Walks along a genuine chain come to genuine chains. -/
theorem Genuine.of_mem_nodes {c d : RecordChain} (h : c.Genuine) (hd : d ∈ c.nodes) :
  d.Genuine
  := by
  induction c using induction with
  | single r =>
    rw [nodes, List.mem_singleton] at hd
    rw [hd]
    apply h
  | link r c ih =>
    rw [nodes, List.mem_cons] at hd
    rcases hd with rfl | hd
    · apply h
    · apply ih _ hd
      apply h.next rfl

end RecordChain

namespace StoredRecord

/-- What is stored of a record that is built is the stored form of a genuine chain if the record
is genuine. -/
theorem exists_chain_of_storing {x : Except BuildError Record} {r : StoredRecord}
    (h : storing Record.stored x = .ok r) (hgenuine : ∀ s, x = .ok s → s.Genuine none) :
  ∃ c : RecordChain, c.Genuine ∧ c.stored = r
  := by
  obtain ⟨s, hs, rfl⟩ := storing_eq_ok_iff.mp h
  exact ⟨.single s, RecordChain.genuine_single (hgenuine s hs), rfl⟩

/-- A stored record that is reachable is the stored form of a genuine chain. -/
theorem Reachable.exists_chain {r : StoredRecord} (h : r.Reachable) :
  ∃ c : RecordChain, c.Genuine ∧ c.stored = r
  := by
  induction h with
  | empty => exact ⟨_, RecordChain.genuine_single (Record.genuine_empty none), rfl⟩
  | build h =>
    rw [build_eq] at h
    exact exists_chain_of_storing h fun s hs => Record.genuine_of_build hs
  | buildWellKnown h =>
    rw [buildWellKnown_eq] at h
    exact exists_chain_of_storing h fun s hs => Record.genuine_of_build hs
  | buildMedia h =>
    rw [buildMedia_eq] at h
    exact exists_chain_of_storing h fun s hs => Record.genuine_of_buildMedia hs
  | buildUri h =>
    rw [buildUri_eq] at h
    exact exists_chain_of_storing h fun s hs => Record.genuine_of_buildAs hs
  | buildText h =>
    rw [buildText_eq] at h
    exact exists_chain_of_storing h fun s hs => Record.genuine_of_buildText hs
  | buildTextOrDefault h =>
    rw [buildTextOrDefault_eq] at h
    exact exists_chain_of_storing h fun s hs => Record.genuine_of_buildText hs
  | buildSmartPoster _ h ih =>
    obtain ⟨d, hd⟩ := exists_stored_draft fun i hi => (ih i hi).imp fun c hc => hc.2
    rw [← buildSmartPoster_detached, ← hd, buildSmartPoster_eq] at h
    exact exists_chain_of_storing h fun s hs => Record.genuine_of_buildSmartPoster hs
  | decode h =>
    rw [decode?_eq, Option.map_eq_some_iff] at h
    obtain ⟨c, hc, rfl⟩ := h
    exact ⟨c, RecordChain.genuine_of_decode? hc, rfl⟩
  | ofArea h =>
    rw [ofArea?_eq, Option.map_eq_some_iff] at h
    obtain ⟨c, hc, rfl⟩ := h
    exact ⟨c, RecordChain.genuine_of_ofArea? hc, rfl⟩
  | append _ _ ihr ihs =>
    obtain ⟨c, hc, rfl⟩ := ihr
    obtain ⟨d, hd, rfl⟩ := ihs
    exact ⟨_, hc.append hd, (c.append_stored d).symm⟩
  | alone _ ih =>
    obtain ⟨c, hc, rfl⟩ := ih
    obtain ⟨language, hgenuine⟩ := hc.record
    rw [RecordChain.takeNext_stored]
    exact ⟨_, RecordChain.genuine_single hgenuine, rfl⟩
  | behind _ h ih =>
    obtain ⟨c, hc, rfl⟩ := ih
    rw [RecordChain.takeNext_stored, Option.map_eq_some_iff] at h
    obtain ⟨d, hd, rfl⟩ := h
    exact ⟨d, hc.next hd, rfl⟩
  | node _ h ih =>
    obtain ⟨c, hc, rfl⟩ := ih
    rw [RecordChain.nodes_stored, List.mem_map] at h
    obtain ⟨d, hd, rfl⟩ := h
    exact ⟨d, hc.of_mem_nodes hd, rfl⟩
  | broken _ h ih =>
    obtain ⟨c, hc, rfl⟩ := ih
    rw [RecordChain.breakUp_stored, RecordChain.breakUp_eq, List.map_map, List.mem_map] at h
    obtain ⟨s, hs, rfl⟩ := h
    obtain ⟨language, hgenuine⟩ := hc s hs
    exact ⟨_, RecordChain.genuine_single hgenuine, rfl⟩
  | relink _ h ih =>
    obtain ⟨chains, hchains, rfl⟩ := Reader.exists_map_eq ih
    rw [RecordChain.relink?_map_stored, Option.map_eq_some_iff] at h
    obtain ⟨c, hc, rfl⟩ := h
    exact ⟨c, .relink hchains hc, rfl⟩
  | copy _ ih =>
    rw [copy_eq]
    apply ih
  | detached _ ih =>
    obtain ⟨c, hc, rfl⟩ := ih
    obtain ⟨language, hgenuine⟩ := hc.record
    rw [RecordChain.detached_stored]
    exact ⟨_, RecordChain.genuine_single hgenuine, rfl⟩
  | clearFlags _ p ih =>
    obtain ⟨c, hc, rfl⟩ := ih
    obtain ⟨language, hgenuine⟩ := hc.record
    refine ⟨_, RecordChain.genuine_node.mpr ⟨⟨language, hgenuine.cleared p⟩, ?_⟩,
      (c.clearFlags_stored p).symm⟩
    intro d hd
    apply hc.next hd
  | icon _ h ih =>
    obtain ⟨c, hc, rfl⟩ := ih
    obtain ⟨language, hgenuine⟩ := hc.record
    rw [c.icon?_stored] at h
    obtain ⟨-, s, hs, rfl⟩ := hgenuine.icon_stored h
    exact ⟨_, RecordChain.genuine_single hs, rfl⟩

/-- A reachable stored record is no more than the genuine records that its bytes and contents
tell. -/
theorem Reachable.stored_chain {r : StoredRecord} (h : r.Reachable) :
  r.chain.Genuine ∧ r.chain.stored = r
  := by
  obtain ⟨c, hc, rfl⟩ := h.exists_chain
  rw [hc.chain_stored]
  exact ⟨hc, rfl⟩

/-- All that is stored of a record of a reachable chain is in step, and an icon of such a record
is fit to be one, stands alone, and is in step itself. -/
theorem Reachable.coherent {r : StoredRecord} (h : r.Reachable) :
  ∀ s ∈ r.nodes, s.Coherent ∧ ∀ i, s.icon? = some i → i.Pictures ∧ i.Coherent
  := by
  obtain ⟨c, hc, rfl⟩ := h.exists_chain
  intro s hs
  rw [RecordChain.nodes_stored, List.mem_map] at hs
  obtain ⟨d, hd, rfl⟩ := hs
  obtain ⟨language, hgenuine⟩ := (hc.of_mem_nodes hd).record
  constructor
  · obtain ⟨q, d?⟩ := d
    rw [RecordChain.stored_node]
    apply hgenuine.coherent_stored
  · intro i hi
    rw [d.icon?_stored] at hi
    obtain ⟨hpictures, q, hq, rfl⟩ := hgenuine.icon_stored hi
    use hpictures
    rw [← q.stored_alone]
    apply hq.coherent_stored

/-- A smart poster with an icon, decoded, with the empty record behind it. -/
theorem Reachable.coherent_decoded_poster :
  let b : Bytes := [
    0xD1, 0x02, 0x13, 0x53, 0x70, 0x91, 0x01, 0x02, 0x55, 0x04, 0x61, 0x52,
    0x09, 0x01, 0x69, 0x6D, 0x61, 0x67, 0x65, 0x2F, 0x70, 0x6E, 0x67, 0x89]
  ∃ r i, decode? none b = some r ∧ (r.append .empty).Reachable
    ∧ (r.append .empty).icon? = some i
    ∧ (r.typeRange, r.idRange, r.payloadRange) = (⟨3, 5⟩, none, ⟨5, 24⟩)
    ∧ (i.typeRange, i.idRange, i.payloadRange) = (⟨3, 12⟩, none, ⟨12, 13⟩)
    ∧ (r.append .empty).length = 2
    ∧ (∀ s ∈ (r.append .empty).nodes, s.Coherent)
    ∧ i.Pictures ∧ i.Coherent
  := by
  intro b
  have hread : ((decode? none b).bind fun r => (r.append .empty).icon?.map fun i =>
      ((r.typeRange, r.idRange, r.payloadRange), (i.typeRange, i.idRange, i.payloadRange),
        (r.append .empty).length))
        = some ((⟨3, 5⟩, none, ⟨5, 24⟩), (⟨3, 12⟩, none, ⟨12, 13⟩), 2) := by
    decide +kernel
  obtain ⟨r, hr, hread⟩ := Option.bind_eq_some_iff.mp hread
  obtain ⟨i, hi, hread⟩ := Option.map_eq_some_iff.mp hread
  simp only [Prod.mk.injEq] at hread
  obtain ⟨⟨htype, hid, hpayload⟩, ⟨htype', hid', hpayload'⟩, hlength⟩ := hread
  have hreachable : (r.append .empty).Reachable := .append (.decode hr) .empty
  have hcoherent := hreachable.coherent
  refine ⟨r, i, hr, hreachable, hi, ?_, ?_, hlength, fun s hs => (hcoherent s hs).1, ?_⟩
  · rw [htype, hid, hpayload]
  · rw [htype', hid', hpayload']
  · exact (hcoherent _ (mem_nodes_self _)).2 i hi

end StoredRecord

end Ndef
