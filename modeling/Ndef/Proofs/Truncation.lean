import Mathlib.Data.List.Infix
import Mathlib.Tactic.Common
import Ndef.Proofs.AreaMessages

/-!
# Truncation

Cutting off the end of a byte string neither adds nor changes a record: the frames, and the
items of an area, that are read off what is left are the first of those that are read off
the whole.  So its records are the first of the records of the whole, for messages
(`Message.recordsOf_truncate`) and for areas alike (`Message.records_truncate`).
-/

namespace Ndef

variable {p b : Bytes}

/-- Cutting off the end of an area leaves the first of its messages. -/
theorem Area.messages_truncate (h : p <+: b) :
  messages p <+: messages b
  := by
  rw [messages, messages, (blocks_eq p).1, (blocks_eq b).1]
  apply List.IsPrefix.map
  apply List.IsPrefix.filter
  apply List.IsPrefix.filterMap
  apply items_accepts.all_truncate h

namespace Message

variable (language : Option Language)

/-- Cutting off the end of a byte string leaves the first of its records. -/
theorem recordsOf_truncate (h : p <+: b) :
  recordsOf language p <+: recordsOf language b
  := by
  apply List.IsPrefix.map
  apply List.IsPrefix.filter
  apply Frame.accepts.all_truncate h

/-- Cutting off the end of an area leaves the first of its records. -/
theorem areaRecords_truncate (h : p <+: b) :
  areaRecords language p <+: areaRecords language b
  := by
  rw [areaRecords_eq, areaRecords_eq]
  apply List.IsPrefix.flatMap (Area.messages_truncate h)

/-- What is left of a byte string when its end is cut off has the first of its records and
no others, unless nothing is left, and so has what is left of an area. -/
theorem records_truncate (h : p <+: b) :
  (p ≠ [] → decodedRecords language p <+: decodedRecords language b)
    ∧ areaRecords language p <+: areaRecords language b
  := by
  constructor
  · intro hp
    have hb : b ≠ [] := by
      rintro rfl
      exact hp (List.prefix_nil.mp h)
    rw [decodedRecords_of_ne_nil language hp, decodedRecords_of_ne_nil language hb]
    apply recordsOf_truncate language h
  · apply areaRecords_truncate language h

/-- A message cut off within its second record, and an area cut off within the value of its
second block. -/
theorem records_truncate_second :
  let first : Bytes := [0x91, 0x01, 0x01, 0x61, 0x01]
  let second : Bytes := [0x51, 0x01, 0x01, 0x62, 0x02]
  let area : Bytes := [0x03, 0x05] ++ first ++ [0x03, 0x05] ++ second ++ [0xFE]
  first ++ second.take 4 <+: first ++ second ∧ first ++ second.take 4 ≠ []
    ∧ decodedRecords none (first ++ second.take 4) <+: decodedRecords none (first ++ second)
    ∧ (decodedRecords none (first ++ second.take 4)).length = 1
    ∧ area.take 13 <+: area
    ∧ areaRecords none (area.take 13) <+: areaRecords none area
    ∧ (areaRecords none (area.take 13)).length = 1
  := by
  intro first second area
  have hmessage : first ++ second.take 4 <+: first ++ second := by decide
  have hne : first ++ second.take 4 ≠ [] := by decide
  have harea : area.take 13 <+: area := List.take_prefix 13 area
  exact ⟨hmessage, hne, (records_truncate none hmessage).1 hne, by decide +kernel,
    harea, (records_truncate none harea).2, by decide +kernel⟩

end Message

end Ndef
