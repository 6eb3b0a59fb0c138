import Ndef.Proofs.ChainRecords
import Ndef.Proofs.StoredRecords

/-!
# Stored chains

What is done with stored chains is what is done with the chains of their records: each
operation takes the stored forms of chains to the stored form of the outcome.  Copying makes
the record that was copied (`StoredRecord.copy_eq`), and two stored records are the same exactly
if they are equal (`StoredRecord.same_iff`).
-/

namespace Ndef

namespace StoredRecord

variable {r s : StoredRecord}

/-! ### Linking and walking -/

/-- The first record of those that are linked is the last one to be linked. -/
theorem relink?_cons (r : StoredRecord) (records : List StoredRecord) :
  relink? (r :: records) = some { r with next? := relink? records }
  := by
  rw [relink?, List.reverse_cons, List.foldl_append]
  rfl

theorem nodes_of_none (h : r.next? = none) :
  r.nodes = [r]
  := by
  cases r
  cases h
  rfl

theorem nodes_of_some (h : r.next? = some s) :
  r.nodes = r :: s.nodes
  := by
  cases r
  cases h
  rfl

theorem mem_nodes_self (r : StoredRecord) :
  r ∈ r.nodes
  := by
  cases h : r.next? with
  | none => simp [nodes_of_none h]
  | some s => simp [nodes_of_some h]

theorem breakUpBehind_of_none (h : r.next? = none) (before : List StoredRecord) :
  r.breakUpBehind before = (r.takeNext.1 :: before).reverse
  := by
  cases r
  cases h
  rfl

theorem breakUpBehind_of_some (h : r.next? = some s) (before : List StoredRecord) :
  r.breakUpBehind before = s.breakUpBehind (r.takeNext.1 :: before)
  := by
  cases r
  cases h
  rfl

theorem append_of_none (h : r.next? = none) (s : StoredRecord) :
  r.append s = { r with next? := some s }
  := by
  cases r
  cases h
  rfl

theorem append_of_some {n : StoredRecord} (h : r.next? = some n) (s : StoredRecord) :
  r.append s = { r with next? := some (n.append s) }
  := by
  cases r
  cases h
  rfl

theorem chain_of_none (h : r.next? = none) :
  r.chain = .node r.record none
  := by
  cases r
  cases h
  rfl

theorem chain_of_some (h : r.next? = some s) :
  r.chain = .node r.record (some s.chain)
  := by
  cases r
  cases h
  rfl

/-! ### Copying -/

mutual

/-- The copies of the records of a chain are linked to that chain. -/
theorem relink?_copies : ∀ r : StoredRecord, relink? r.copies = some r
  | ⟨tnf, w, position, bytes, typeRange, idRange, payloadRange, content, next?⟩ => by
    rw [copies, relink?_cons, relink?_copiesBehind next?, copyContent_eq content]
    rfl

theorem relink?_copiesBehind : ∀ next? : Option StoredRecord, relink? (copiesBehind next?) = next?
  | none => rfl
  | some r => by rw [copiesBehind, relink?_copies r]

theorem copyContent_eq : ∀ content : StoredContent StoredRecord, copyContent content = content
  | .generic => rfl
  | .uri _ => rfl
  | .text _ => rfl
  | .smartPoster p => by rw [copyContent, copyPoster_eq p]

theorem copyPoster_eq : ∀ p : StoredPoster StoredRecord, copyPoster p = p
  | ⟨uri, title, language, mediaType, size, action, icon⟩ => by rw [copyPoster, copyIcon_eq icon]

theorem copyIcon_eq : ∀ icon : Option StoredRecord, copyIcon icon = icon
  | none => rfl
  | some r => by rw [copyIcon, relink?_copies r]

end

/-- A copy of a record alone is that record with nothing behind it. -/
theorem detached_eq (r : StoredRecord) :
  r.detached = { r with next? := none }
  := by
  rw [detached, copyContent_eq]
  rfl

/-- A copy of a chain is that chain. -/
theorem copy_eq (r : StoredRecord) :
  r.copy = r
  := by
  rw [copy, detached_eq, relink?_copiesBehind]
  cases r
  rfl

/-! ### Comparing -/

theorem sameFields_iff :
  r.sameFields s = true ↔ r.tnf = s.tnf ∧ r.wellKnown? = s.wellKnown? ∧ r.position = s.position
    ∧ r.bytes = s.bytes ∧ r.typeRange = s.typeRange ∧ r.idRange = s.idRange
    ∧ r.payloadRange = s.payloadRange
  := by
  simp only [sameFields, Bool.and_eq_true, beq_iff_eq, and_assoc]

mutual

/-- Two stored records are the same exactly if they are equal. -/
theorem same_iff : ∀ r s : StoredRecord, r.same s = true ↔ r = s
  | ⟨tnf, w, position, bytes, typeRange, idRange, payloadRange, content, next?⟩,
    ⟨tnf', w', position', bytes', typeRange', idRange', payloadRange', content', next?'⟩ => by
    rw [same, Bool.and_eq_true, Bool.and_eq_true, sameFields_iff, sameContent_iff content content',
      sameBehind_iff next? next?']
    simp only [mk.injEq, and_assoc]

theorem sameBehind_iff : ∀ o p : Option StoredRecord, sameBehind o p = true ↔ o = p
  | none, none => by simp [sameBehind]
  | none, some s => by simp [sameBehind]
  | some r, none => by simp [sameBehind]
  | some r, some s => by rw [sameBehind, same_iff r s, Option.some.injEq]

theorem sameContent_iff : ∀ c d : StoredContent StoredRecord, sameContent c d = true ↔ c = d
  | .generic, d => by cases d <;> simp [sameContent]
  | .uri a, d => by cases d <;> simp [sameContent]
  | .text t, d => by cases d <;> simp [sameContent]
  | .smartPoster p, d => by
    cases d with
    | smartPoster q => rw [sameContent, samePoster_iff p q, StoredContent.smartPoster.injEq]
    | _ => simp [sameContent]

theorem samePoster_iff : ∀ p q : StoredPoster StoredRecord, samePoster p q = true ↔ p = q
  | ⟨uri, title, language, mediaType, size, action, icon⟩,
    ⟨uri', title', language', mediaType', size', action', icon'⟩ => by
    simp only [samePoster, Bool.and_eq_true, beq_iff_eq, and_assoc, sameBehind_iff icon icon',
      StoredPoster.mk.injEq]

end

end StoredRecord

/-! ### Stored forms of chains -/

namespace RecordChain

variable {c d : RecordChain}

theorem next?_stored (c : RecordChain) :
  c.stored.next? = c.next?.map stored
  := by
  obtain ⟨r, c?⟩ := c
  rw [stored_node]
  rfl

/-- Walks along stored chains come to the stored forms of chains. -/
theorem nodes_stored (c : RecordChain) :
  c.stored.nodes = c.nodes.map stored
  := by
  induction c using induction with
  | single r => exact StoredRecord.nodes_of_none r.next?_stored
  | link r c ih => rw [StoredRecord.nodes_of_some (s := c.stored) rfl, ih, nodes, List.map_cons]

theorem length_stored (c : RecordChain) :
  c.stored.length = c.length
  := by
  rw [StoredRecord.length, nodes_stored, List.length_map, length]

/-- What is stored of the first record alone is its stored form. -/
theorem detached_stored (c : RecordChain) :
  c.stored.detached = c.detached.stored
  := by
  obtain ⟨r, c?⟩ := c
  rw [StoredRecord.detached_eq, stored_node]
  exact (stored_node r none).symm

theorem takeNext_stored (c : RecordChain) :
  c.stored.takeNext = (c.takeNext.1.stored, c.takeNext.2.map stored)
  := by
  rw [StoredRecord.takeNext, next?_stored, ← StoredRecord.detached_eq, detached_stored]
  rfl

theorem relink?_map_stored (chains : List RecordChain) :
  StoredRecord.relink? (chains.map stored) = (relink? chains).map stored
  := by
  induction chains with
  | nil => rfl
  | cons c chains ih =>
    obtain ⟨r, c?⟩ := c
    rw [List.map_cons, StoredRecord.relink?_cons, ih, relink?_cons, Option.map_some, stored_node,
      stored_node]
    rfl

theorem breakUpBehind_stored (before : List RecordChain) (c : RecordChain) :
  c.stored.breakUpBehind (before.map stored) = (c.breakUpBehind before).map stored
  := by
  induction c using induction generalizing before with
  | single r =>
    have hnext : (node r none).stored.next? = none := r.next?_stored
    rw [StoredRecord.breakUpBehind_of_none hnext, takeNext_stored, breakUpBehind,
      List.map_reverse, List.map_cons]
    rfl
  | link r c ih =>
    rw [StoredRecord.breakUpBehind_of_some (s := c.stored) rfl, takeNext_stored, breakUpBehind,
      ← ih]
    rfl

theorem breakUp_stored (c : RecordChain) :
  c.stored.breakUp = c.breakUp.map stored
  := c.breakUpBehind_stored []

theorem append_stored (c d : RecordChain) :
  c.stored.append d.stored = (c.append d).stored
  := by
  induction c using induction with
  | single r => exact StoredRecord.append_of_none r.next?_stored d.stored
  | link r c ih =>
    rw [StoredRecord.append_of_some (n := c.stored) rfl, ih]
    rfl

/-- Clearing flags of the first record does nothing to the records behind it. -/
theorem clearFlags_stored (c : RecordChain) (p : Position) :
  c.stored.clearFlags p = (node (c.record.cleared p) c.next?).stored
  := by
  obtain ⟨r, c?⟩ := c
  rw [stored_node, stored_node, record, next?, ← Record.clearFlags_stored]
  rfl

/-! ### Genuine chains -/

/-- Every record of the chain is genuine for some display language. -/
def Genuine (c : RecordChain) : Prop :=
  ∀ r ∈ c.records, ∃ language, r.Genuine language

theorem genuine_node {r : Record} {c? : Option RecordChain} :
  (node r c?).Genuine
    ↔ (∃ language, r.Genuine language) ∧ ∀ c, c? = some c → c.Genuine
  := by
  cases c? <;> simp [Genuine]

/-- A genuine chain is told by its stored form. -/
theorem Genuine.chain_stored (h : c.Genuine) :
  c.stored.chain = c
  := by
  induction c using induction with
  | single r =>
    obtain ⟨⟨language, hgenuine⟩, -⟩ := genuine_node.mp h
    have hnext : (node r none).stored.next? = none := r.next?_stored
    rw [StoredRecord.chain_of_none hnext]
    exact congrArg single hgenuine.record_stored
  | link r c ih =>
    obtain ⟨⟨language, hgenuine⟩, hbehind⟩ := genuine_node.mp h
    have hrecord : (node r (some c)).stored.record = r := hgenuine.record_stored
    rw [StoredRecord.chain_of_some (s := c.stored) rfl, hrecord, ih (hbehind c rfl)]

/-- Stored forms of genuine chains are the same exactly if the chains are. -/
theorem Genuine.same_stored (hc : c.Genuine) (hd : d.Genuine) :
  c.stored.same d.stored = c.same d
  := by
  rw [Bool.eq_iff_iff, StoredRecord.same_iff, same_iff]
  constructor
  · intro h
    rw [← hc.chain_stored, h, hd.chain_stored]
  · rintro rfl
    rfl

end RecordChain

/-! ### Writing -/

/-- Setting the bits of a place in a header moves it to that place. -/
theorem Header.byte_and_not_alone_or (h : Header) (p : Position) :
  h.byte &&& ~~~Position.alone.bits ||| p.bits = { h with position := p }.byte
  := by
  have hinner : h.position.diff .alone = .inner := by
    simp [Position.diff, Position.alone, Position.inner]
  have hbits : Position.inner.bits = 0 := rfl
  rw [byte_and_not_bits, hinner, UInt8.or_comm]
  simp only [byte, UInt8.or_assoc, hbits, UInt8.zero_or]

/-- Setting the bits of a place in the first byte of a frame moves it to that place. -/
theorem Frame.bytes_moved (f : Frame) (p : Position) :
  (f.moved p).bytes
    = f.bytes.modifyHead fun header => header &&& ~~~Position.alone.bits ||| p.bits
  := by
  have hheader := f.header.byte_and_not_alone_or p
  rw [bytes, bytes, List.modifyHead_cons, hheader]
  rfl

/-- The records that have bytes are those that have frames. -/
theorem Record.filter_map_bytes (records : List Record) :
  (records.map bytes).filter (· ≠ []) = (records.filterMap frame?).map Frame.bytes
  := by
  induction records with
  | nil => rfl
  | cons r records ih =>
    cases r with
    | empty =>
      rw [List.filterMap_cons_none rfl, ← ih]
      rfl
    | framed f c =>
      have hframe : frame? (framed f c) = some f := rfl
      rw [List.filterMap_cons_some hframe, List.map_cons, List.map_cons, ← ih]
      rfl

/-- Stored records are written like the records whose bytes they have. -/
theorem StoredRecord.encodeRecords_eq {stored : List StoredRecord} {records : List Record}
    (h : stored.map bytes = records.map Record.bytes) :
  encodeRecords stored = Message.encodeRecords records
  := by
  rw [encodeRecords, h, Record.filter_map_bytes, Message.encodeRecords, List.flatMap]
  apply congrArg List.flatten
  apply List.ext_getElem
  · simp [Message.placed]
  · intro i hi hi'
    simp only [Message.placed, List.length_map, List.getElem_mapIdx, List.getElem_map]
    exact (Frame.bytes_moved _ _).symm

theorem RecordChain.encode_stored (c : RecordChain) :
  c.stored.encode = c.message.encode
  := by
  have hbytes (d : RecordChain) : d.stored.bytes = d.record.bytes := by
    obtain ⟨r, d?⟩ := d
    rw [stored_node]
    apply r.bytes_stored
  apply StoredRecord.encodeRecords_eq
  rw [nodes_stored, List.map_map, records_message, ← map_record_nodes, List.map_map]
  exact List.map_congr_left fun d _ => hbytes d

end Ndef
