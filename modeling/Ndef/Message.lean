import Ndef.Record.Basic

/-!
# Messages

A message is a sequence of records that is not empty.  Messages are read from bytes
(`Message.decode?`) and written to bytes (`Message.encode`), and they can be appended,
taken apart and put together again.  These operations do not touch the headers of
the records; writing sets them so that the first record begins the message and the
last one ends it.
-/

namespace Ndef

/-- A sequence of records that is not empty. -/
structure Message where
  /-- The first record. -/
  head : Record
  /-- The records after the first. -/
  tail : List Record
deriving DecidableEq

namespace Message

/-- The records of a message, in order. -/
def records (m : Message) : List Record :=
  m.head :: m.tail

/-- The message with the given records, if there are any. -/
def ofRecords? : List Record → Option Message
  | [] => none
  | r :: rest => some ⟨r, rest⟩

/-- The number of records. -/
def length (m : Message) : Nat :=
  m.tail.length + 1

/-- The last record. -/
def last (m : Message) : Record :=
  m.tail.getLast?.getD m.head

theorem records_ne_nil (m : Message) :
  m.records ≠ []
  := by
  simp [records]

@[simp] theorem length_records (m : Message) :
  m.records.length = m.length
  := by
  simp [records, length]

/-- A message is determined by its records. -/
theorem ofRecords?_eq_some_iff {records : List Record} {m : Message} :
  ofRecords? records = some m ↔ m.records = records
  := by
  obtain ⟨head, tail⟩ := m
  cases records <;> simp [ofRecords?, Message.records, eq_comm]

/-- Only no records at all make no message. -/
theorem ofRecords?_eq_none_iff {records : List Record} :
  ofRecords? records = none ↔ records = []
  := by
  cases records <;> simp [ofRecords?]

@[simp] theorem ofRecords?_records (m : Message) :
  ofRecords? m.records = some m
  := ofRecords?_eq_some_iff.mpr rfl

/-! ### Operations -/

/-- The message that consists of one record. -/
def single (r : Record) : Message := ⟨r, []⟩

/-- The records of two messages, one after the other. -/
def append (m n : Message) : Message :=
  ⟨m.head, m.tail ++ n.records⟩

/-- The message of the first record alone. -/
def alone (m : Message) : Message :=
  single m.head

/-- The message of the records after the first, if there are any. -/
def following? (m : Message) : Option Message :=
  ofRecords? m.tail

/-- Each record as a message of its own. -/
def singles (m : Message) : List Message :=
  m.records.map single

/-- The message of the first records of the given messages, if there are any. -/
def relink? (messages : List Message) : Option Message :=
  ofRecords? (messages.map head)

/-- The icon of the first record as a message of its own, if the record is a smart poster
with an icon. -/
def icon? (m : Message) : Option Message := do
  let poster ← m.head.smartPoster?
  let icon ← poster.icon
  return single (.uninterpreted icon)

@[simp] theorem records_single (r : Record) :
  (single r).records = [r]
  := rfl

@[simp] theorem records_append (m n : Message) :
  (m.append n).records = m.records ++ n.records
  := by
  simp [append, records]

/-! ### Bytes -/

/-- The frames with the places they have in a message of their own. -/
def placed (frames : List Frame) : List Frame :=
  let count := frames.length
  frames.mapIdx fun i f =>
    { f with position := { first := i = 0, last := i + 1 = count } }

/-- The bytes of a message of the given records; empty records have none. -/
def encodeRecords (records : List Record) : Bytes :=
  (placed (records.filterMap Record.frame?)).flatMap Frame.bytes

/-- The bytes of a message. -/
def encode (m : Message) : Bytes :=
  encodeRecords m.records

/-- The records at the front of a byte string; chunks are passed over. -/
def recordsOf (language : Option Language) (b : Bytes) : List Record :=
  ((Frame.ofBytes b).filter (!·.chunked)).map (Record.ofFrame language)

/-- The message in a byte string, with the titles of smart posters chosen for the display
language.  What follows the first incomplete record is dropped; no bytes at all are
a message of one empty record. -/
def decode? (language : Option Language) (b : Bytes) : Option Message :=
  if b = [] then some (single .empty) else ofRecords? (recordsOf language b)

end Message

end Ndef
