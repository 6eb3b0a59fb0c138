import Mathlib.Data.List.Forall2
import Ndef.Proofs.Same
import Ndef.RecordChain

/-!
# The records of a chain

A chain is determined by its records (`RecordChain.records_injective`), and each operation on
chains is told by what it does to them.  Reading yields the chain of the message that is read
(`RecordChain.map_message_decode?`).
-/

namespace Ndef.RecordChain

/-- What holds of the chains of one record, and of a chain if it holds of the chain behind the
first record, holds of every chain. -/
@[elab_as_elim]
theorem induction {motive : RecordChain → Prop} (single : ∀ r, motive (node r none))
    (link : ∀ r c, motive c → motive (node r (some c))) (c : RecordChain) :
  motive c
  :=
  match c with
  | node r none => single r
  | node r (some c) => link r c (induction single link c)

variable {c d : RecordChain}

/-! ### Walking -/

@[simp]
theorem records_node_none (r : Record) :
  (node r none).records = [r]
  := rfl

@[simp]
theorem records_node_some (r : Record) (c : RecordChain) :
  (node r (some c)).records = r :: c.records
  := rfl

/-- The records are the first one and those of the chain behind it. -/
theorem records_node (r : Record) (c? : Option RecordChain) :
  (node r c?).records = r :: (c?.map records).getD []
  := by
  cases c? <;> rfl

theorem records_eq_cons (c : RecordChain) :
  c.records = c.record :: c.records.tail
  := by
  obtain ⟨r, c?⟩ := c
  rw [records_node]
  rfl

theorem records_ne_nil (c : RecordChain) :
  c.records ≠ []
  := by
  rw [records_eq_cons]
  apply List.cons_ne_nil

/-- A walk comes to the records in order. -/
theorem map_record_nodes (c : RecordChain) :
  c.nodes.map record = c.records
  := by
  induction c using induction with
  | single r => rfl
  | link r c ih =>
    rw [nodes, List.map_cons, ih]
    rfl

theorem length_records (c : RecordChain) :
  c.records.length = c.length
  := by
  rw [← map_record_nodes, List.length_map, length]

/-- A chain is determined by its records. -/
theorem records_injective (h : c.records = d.records) :
  c = d
  := by
  induction c using induction generalizing d with
  | single r =>
    match d with
    | node s none =>
      obtain rfl : r = s := List.head_eq_of_cons_eq h
      rfl
    | node s (some d) => exact absurd (List.cons.inj h).2.symm d.records_ne_nil
  | link r c ih =>
    match d with
    | node s none => exact absurd (List.cons.inj h).2 c.records_ne_nil
    | node s (some d) =>
      obtain ⟨hrecord, hrest⟩ := List.cons.inj h
      obtain rfl : r = s := hrecord
      rw [ih hrest]

/-- The message that a chain holds has the records of the chain. -/
theorem records_message (c : RecordChain) :
  c.message.records = c.records
  := c.records_eq_cons.symm

theorem message_eq_iff {m : Message} :
  c.message = m ↔ c.records = m.records
  := by
  rw [← records_message]
  constructor
  · rintro rfl
    rfl
  · intro h
    rw [← Message.ofRecords?_eq_some_iff, Message.ofRecords?_records] at h
    exact (Option.some.inj h).symm

/-! ### Linking -/

theorem relink?_nil :
  relink? [] = none
  := rfl

/-- The first chain of those that are linked is the last one to be linked. -/
theorem relink?_cons (c : RecordChain) (chains : List RecordChain) :
  relink? (c :: chains) = some (node c.record (relink? chains))
  := by
  rw [relink?, List.reverse_cons, List.foldl_append]
  rfl

/-- Only no chains at all are linked to none. -/
theorem relink?_eq_none_iff (chains : List RecordChain) :
  relink? chains = none ↔ chains = []
  := by
  cases chains with
  | nil => simp [relink?_nil]
  | cons c chains => simp [relink?_cons]

/-- Linking chains drops what is behind their first records. -/
theorem relink?_map_detached (chains : List RecordChain) :
  relink? (chains.map detached) = relink? chains
  := by
  induction chains with
  | nil => rfl
  | cons c chains ih =>
    rw [List.map_cons, relink?_cons, relink?_cons, ih]
    rfl

/-- Linking the chains that begin with a record of a chain yields that chain. -/
theorem relink?_nodes (c : RecordChain) :
  relink? c.nodes = some c
  := by
  induction c using induction with
  | single r => rfl
  | link r c ih =>
    rw [nodes, relink?_cons, ih]
    rfl

/-- The records of the linked chain are the first ones of the chains, in order. -/
theorem map_records_relink? (chains : List RecordChain) :
  (relink? chains).map records = if chains = [] then none else some (chains.map record)
  := by
  induction chains with
  | nil => rfl
  | cons c chains ih =>
    rw [relink?_cons, Option.map_some, records_node, ih, if_neg (List.cons_ne_nil _ _)]
    cases chains <;> rfl

/-- The records that are linked one by one are those of the chain. -/
theorem records_of_relink?_single {records : List Record} {c : RecordChain}
    (h : relink? (records.map single) = some c) :
  c.records = records
  := by
  have hrecords := map_records_relink? (records.map single)
  rw [h, Option.map_some, List.map_map] at hrecords
  split at hrecords
  · cases hrecords
  · injection hrecords with hrecords
    rw [hrecords]
    exact List.map_id records

theorem breakUpBehind_eq (before : List RecordChain) (c : RecordChain) :
  c.breakUpBehind before = before.reverse ++ c.records.map single
  := by
  induction c using induction generalizing before with
  | single r => simp [breakUpBehind]
  | link r c ih => simp [breakUpBehind, ih]

/-- Breaking up yields each record as a chain of its own, in order. -/
theorem breakUp_eq (c : RecordChain) :
  c.breakUp = c.records.map single
  := by
  rw [breakUp, breakUpBehind_eq]
  rfl

/-- Linking undoes breaking up. -/
theorem relink?_breakUp (c : RecordChain) :
  relink? c.breakUp = some c
  := by
  have hdetached : c.breakUp = c.nodes.map detached := by
    rw [breakUp_eq, ← map_record_nodes, List.map_map]
    rfl
  rw [hdetached, relink?_map_detached, relink?_nodes]

@[simp]
theorem records_append (c d : RecordChain) :
  (c.append d).records = c.records ++ d.records
  := by
  induction c using induction with
  | single r => rfl
  | link r c ih => rw [append, records_node_some, ih, records_node_some, List.cons_append]

/-- A copy is the chain that was copied. -/
theorem copy_eq (c : RecordChain) :
  c.copy = c
  := by
  rw [copy, relink?_map_detached]
  match c with
  | node r none => rfl
  | node r (some c) =>
    rw [nodes, List.drop_one, List.tail_cons, relink?_nodes]
    rfl

theorem records_detached (c : RecordChain) :
  c.detached.records = [c.record]
  := rfl

/-- The first record, and the records of the chain behind it, are all the records. -/
theorem records_takeNext (c : RecordChain) :
  c.takeNext.1.records = [c.record] ∧ (c.takeNext.2.map records).getD [] = c.records.tail
  := by
  obtain ⟨r, c?⟩ := c
  rw [records_node]
  exact ⟨rfl, rfl⟩

/-! ### Comparing -/

/-- Two chains are the same exactly if they have equally many records, of which those at the
same place are the same. -/
theorem same_iff_forall₂ :
  c.same d = true ↔ List.Forall₂ (fun r s => r.same s = true) c.records d.records
  := by
  induction c using induction generalizing d with
  | single r =>
    match d with
    | node s none => simp [same]
    | node s (some d) => simp [same, d.records_ne_nil]
  | link r c ih =>
    match d with
    | node s none => simp [same, c.records_ne_nil]
    | node s (some d) =>
      rw [same, records_node_some, records_node_some, List.forall₂_cons, ← ih]
      simp

/-- Two chains are the same exactly if they are equal. -/
theorem same_iff :
  c.same d = true ↔ c = d
  := by
  simp only [same_iff_forall₂, Record.same_iff, List.forall₂_eq_eq_eq]
  constructor
  · apply records_injective
  · rintro rfl
    rfl

/-! ### Reading -/

/-- The linked chain holds the message of the first records of the chains. -/
theorem map_message_relink? (chains : List RecordChain) :
  (relink? chains).map message = Message.relink? (chains.map message)
  := by
  cases chains with
  | nil => rfl
  | cons c chains =>
    rw [relink?_cons, Option.map_some]
    apply congrArg some
    rw [message_eq_iff, records_node, map_records_relink?]
    cases chains with
    | nil => rfl
    | cons d chains =>
      rw [if_neg (List.cons_ne_nil _ _)]
      simp [Message.records, Function.comp_def, message]

theorem map_message_relink?_single (records : List Record) :
  (relink? (records.map single)).map message = Message.ofRecords? records
  := by
  rw [map_message_relink?, Message.relink?, List.map_map, List.map_map]
  exact congrArg Message.ofRecords? (List.map_id records)

/-- The chain that is read holds the message that is read. -/
theorem map_message_decode? (language : Option Language) (b : Bytes) :
  (decode? language b).map message = Message.decode? language b
  := by
  rw [decode?, Message.decode?]
  split
  · rfl
  · apply map_message_relink?_single

/-- The chain that is read of an area holds the message of all records in the area. -/
theorem map_message_ofArea? (language : Option Language) (s : Bytes) :
  (ofArea? language s).map message = Message.ofArea? language s
  := by
  rw [ofArea?, Message.ofArea?, ← map_message_relink?_single, List.map_flatMap]
  congr 3
  funext b
  rw [← map_message_decode?]
  cases decode? language b with
  | none => rfl
  | some c =>
    change c.breakUp = c.message.records.map single
    rw [breakUp_eq, records_message]

end Ndef.RecordChain
