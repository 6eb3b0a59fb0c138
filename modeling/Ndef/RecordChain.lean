import Ndef.Message
import Ndef.Record.Same
import Ndef.Tlv.Area

/-!
# Chains of records

A message is held as a chain: a record with a link to the chain behind it, if there is one.
Chains are linked from the last record to the first, taken apart and walked along link by
link.  A chain is read as the list of its records in the order of the links
(`RecordChain.records`), which are those of the message that it holds (`RecordChain.message`).
-/

namespace Ndef

/-- A record and the chain behind it, if there is one. -/
inductive RecordChain where
  | node (record : Record) (next : Option RecordChain)

namespace RecordChain

/-- The first record. -/
def record : RecordChain → Record
  | node r _ => r

/-- The chain behind the first record, if there is one. -/
def next? : RecordChain → Option RecordChain
  | node _ next => next

/-- The chain of one record. -/
def single (r : Record) : RecordChain :=
  node r none

/-- The first record alone. -/
def detached (c : RecordChain) : RecordChain :=
  single c.record

/-- The first record alone, and the chain that was behind it. -/
def takeNext (c : RecordChain) : RecordChain × Option RecordChain :=
  (c.detached, c.next?)

/-! ### Walking -/

/-- The chains that begin with a record of the chain, in order. -/
def nodes : RecordChain → List RecordChain
  | node r none => [node r none]
  | node r (some c) => node r (some c) :: c.nodes

/-- The records, in the order of the links. -/
def records : RecordChain → List Record
  | node r none => [r]
  | node r (some c) => r :: c.records

/-- The number of records that a walk comes to. -/
def length (c : RecordChain) : Nat :=
  c.nodes.length

/-- The message that the chain holds. -/
def message (c : RecordChain) : Message where
  head := c.record
  tail := c.records.tail

/-! ### Linking -/

/-- The chain of the first records of the given chains, if there are any.  It is linked from
the last record to the first; what was behind the records is dropped. -/
def relink? (chains : List RecordChain) : Option RecordChain :=
  chains.reverse.foldl (fun behind c => some (node c.record behind)) none

/-- Puts the records, each as a chain of its own, behind those in `before`, which is
reversed. -/
def breakUpBehind (before : List RecordChain) : RecordChain → List RecordChain
  | node r none => (single r :: before).reverse
  | node r (some c) => breakUpBehind (single r :: before) c

/-- Each record as a chain of its own. -/
def breakUp (c : RecordChain) : List RecordChain :=
  c.breakUpBehind []

/-- Puts a chain behind the last record of another one. -/
def append : RecordChain → RecordChain → RecordChain
  | node r none, d => node r (some d)
  | node r (some c), d => node r (some (c.append d))

/-- A chain of copies of the records. -/
def copy (c : RecordChain) : RecordChain :=
  node c.record (relink? ((c.nodes.drop 1).map detached))

/-! ### Comparing -/

/-- Whether walks along two chains come to the same records and end together. -/
def same : RecordChain → RecordChain → Bool
  | node r c?, node s d? =>
    if r.same s then
      match c?, d? with
      | some c, some d => c.same d
      | none, none => true
      | _, _ => false
    else false

/-! ### Reading -/

/-- The chain of the records in a byte string, as `Message.decode?` reads them. -/
def decode? (language : Option Language) (b : Bytes) : Option RecordChain :=
  if b = [] then some (single .empty)
  else relink? ((Message.recordsOf language b).map single)

/-- The chain of the records of all messages in an area. -/
def ofArea? (language : Option Language) (s : Bytes) : Option RecordChain :=
  relink? <| (Area.messages s).flatMap fun message =>
    match decode? language message with
    | some c => c.breakUp
    | none => []

end RecordChain

end Ndef
