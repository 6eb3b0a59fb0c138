import Ndef.Message
import Ndef.Tlv.Block

/-!
# Tag memory

The memory of a tag is an area of TLV blocks.  Null bytes may stand between blocks and
are skipped; a terminator ends the area, and what follows it does not matter.  The
blocks with the tag of a message hold the messages of the tag.
-/

namespace Ndef.Area

/-- The byte that is skipped. -/
def null : UInt8 := 0x00

/-- The tag of a block that holds a message. -/
def messageTag : UInt8 := 0x03

/-- The byte that ends the area. -/
def terminator : UInt8 := 0xFE

/-- What stands at the front of an area behind null bytes, and the rest. -/
inductive Front where
  | block (block : Block) (rest : Bytes)
  | terminator (rest : Bytes)
  /-- Nothing is left, or a block that is not complete, which belongs to the rest. -/
  | stuck (rest : Bytes)
deriving DecidableEq

/-- What stands at the front of an area. -/
def front : Bytes → Front
  | [] => .stuck []
  | x :: s =>
    if x = null then front s
    else if x = terminator then .terminator s
    else match Block.read? (x :: s) with
      | some (block, rest) => .block block rest
      | none => .stuck (x :: s)

/-- The block at the front, if there is one, and what is left.  Null bytes and a
terminator are used up. -/
def next (s : Bytes) : Option Block × Bytes :=
  match front s with
  | .block block rest => (some block, rest)
  | .terminator rest => (none, rest)
  | .stuck rest => (none, rest)

theorem length_lt_of_front_eq_block {s rest : Bytes} {block : Block}
    (h : front s = .block block rest) :
  rest.length < s.length
  := by
  fun_induction front s with
  | case1 => cases h
  | case2 s ih =>
    have := ih h
    rw [List.length_cons]
    omega
  | case3 => cases h
  | case4 x s _ _ block' rest' hread =>
    cases h
    rw [(Block.eq_bytes_append_of_read? hread).1]
    simp only [Block.bytes, List.cons_append, List.length_cons, List.length_append]
    omega
  | case5 => cases h

/-- The reader of blocks. -/
def reader : Reader UInt8 Block where
  read s :=
    match front s with
    | .block block rest => some (block, rest)
    | _ => none
  shorter := by
    intro s block rest h
    split at h
    · next heq =>
      cases h
      exact length_lt_of_front_eq_block heq
    · cases h

/-- The blocks of an area. -/
def blocks (s : Bytes) : List Block :=
  (reader.all s).1

/-- What follows the blocks and the terminator of an area. -/
def remainder (s : Bytes) : Bytes :=
  (next (reader.all s).2).2

/-- Whether a terminator ends the area. -/
def isTerminated (s : Bytes) : Bool :=
  match front (reader.all s).2 with
  | .terminator _ => true
  | _ => false

/-- The messages in an area, in order. -/
def messages (s : Bytes) : List Bytes :=
  ((blocks s).filter (·.tag = messageTag)).map Block.value

/-- The area of one message, unless the message is too long for a block. -/
def wrap? (message : Bytes) : Option Bytes :=
  if message.length < 0xFFFF then
    let block : Block :=
      { tag := messageTag, wide := 0xFF ≤ message.length, value := message }
    some (block.bytes ++ [terminator])
  else none

end Ndef.Area

namespace Ndef.Message

/-- The records of all messages in an area as one message, if there are any. -/
def ofArea? (language : Option Language) (s : Bytes) : Option Message :=
  ofRecords? <| (Area.messages s).flatMap fun message =>
    match decode? language message with
    | some m => m.records
    | none => []

end Ndef.Message
