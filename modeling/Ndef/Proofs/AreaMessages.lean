import Mathlib.Data.List.Forall2
import Mathlib.Tactic.Common
import Ndef.Command
import Ndef.Proofs.Framing
import Ndef.Proofs.Scanning

/-!
# Messages in areas

The messages in an area are the values of the message blocks among its items, and decoding
the area yields the records of these messages, one message after the other.  Wrapping makes
an area of a message unless the message is too long for a block.  The wrapped message is the
only one in the area, whatever follows the area and whatever items other than message blocks
precede it, and so decoding that area is decoding the message (`Message.ofArea?_wrap?`).
-/

namespace Ndef

/-- Whether an item is a message block. -/
def Area.isMessage (i : Bytes) : Bool :=
  i.head? = some 0x03

/-- The records of the messages in an area; there are none if decoding fails. -/
def Message.areaRecords (language : Option Language) (s : Bytes) : List Record :=
  match ofArea? language s with
  | some m => m.records
  | none => []

namespace Area

/-! ### Message blocks -/

theorem isMessage_iff {tag : UInt8} {value i : Bytes} (h : SpellsBlock tag value i) :
  isMessage i = true ↔ tag = 0x03
  := by
  cases h <;> simp [isMessage]

/-- The messages are the values of the message blocks among the items. -/
theorem forall₂_messages {s tail : Bytes} {items : List Bytes} (h : Splits s items tail) :
  List.Forall₂ (fun i value => SpellsBlock 0x03 value i) (items.filter isMessage) (messages s)
  := by
  -- A null byte is no message block, so only the items that spell blocks count.
  have hmessage : items.filter isMessage = (items.filter (· ≠ [0x00])).filter isMessage := by
    rw [List.filter_filter]
    apply List.filter_congr
    intro i _
    by_cases hi : i = [0x00]
    · subst hi
      rfl
    · simp [hi]
  rw [hmessage, messages, List.forall₂_map_right_iff]
  have hblocks := forall₂_spellsBlock h
  generalize items.filter (· ≠ [0x00]) = others at hblocks ⊢
  generalize blocks s = blocks at hblocks ⊢
  induction hblocks with
  | nil => exact .nil
  | @cons i b others blocks hspells hblocks ih =>
    by_cases htag : b.tag = messageTag
    · have hi : isMessage i = true := (isMessage_iff hspells).mpr htag
      simp only [List.filter_cons, hi, decide_eq_true htag, if_true]
      apply List.Forall₂.cons _ ih
      rw [htag] at hspells
      apply hspells
    · have hi : isMessage i = false := by
        rw [Bool.eq_false_iff, ne_eq, isMessage_iff hspells]
        apply htag
      simp only [List.filter_cons, hi, decide_eq_false htag, Bool.false_eq_true, if_false]
      apply ih

/-! ### Wrapping -/

theorem wrap?_eq_none_iff {message : Bytes} :
  wrap? message = none ↔ 0xFFFE < message.length
  := by
  rw [wrap?]
  split <;> simp <;> omega

/-- A wrapped message is a message block and a terminator. -/
theorem exists_block_of_wrap? {message area : Bytes} (h : wrap? message = some area) :
  ∃ i, SpellsBlock 0x03 message i ∧ area = i ++ [0xFE]
  := by
  rw [wrap?, Option.ite_none_right_eq_some] at h
  obtain ⟨hlt, harea⟩ := h
  injection harea with harea
  refine ⟨_, ?_, harea.symm⟩
  apply spellsBlock_iff.mpr
  refine ⟨_, rfl, rfl, ?_, rfl⟩
  simp only [Block.Fits, Block.lengthBound, decide_eq_true_eq]
  split <;> omega

/-- Between items and further bytes, a wrapped message is the last item, and its terminator
is at the front of the tail. -/
theorem splits_around_wrap? {message area : Bytes} (h : wrap? message = some area)
    {before : List Bytes} (hbefore : ∀ i ∈ before, IsItem i) (after : Bytes) :
  ∃ i, SpellsBlock 0x03 message i
    ∧ Splits (before.flatten ++ (area ++ after)) (before ++ [i]) (0xFE :: after)
  := by
  obtain ⟨i, hi, rfl⟩ := exists_block_of_wrap? h
  use i, hi
  constructor
  · simp
  · intro j hj
    rcases List.mem_append.mp hj with hj | hj
    · apply hbefore j hj
    · obtain rfl := List.mem_singleton.mp hj
      apply IsItem.block (by decide) (by decide) hi
  · apply EndsItems.terminator

/-- A wrapped message is the only one in the area, whatever follows the area and whatever
items other than message blocks precede it. -/
theorem messages_around_wrap? {message area : Bytes} (h : wrap? message = some area)
    {before : List Bytes} (hbefore : ∀ i ∈ before, IsItem i ∧ isMessage i = false)
    (after : Bytes) :
  messages (before.flatten ++ (area ++ after)) = [message]
    ∧ isTerminated (before.flatten ++ (area ++ after)) = true
  := by
  obtain ⟨i, hi, hsplits⟩ := splits_around_wrap? h (fun j hj => (hbefore j hj).1) after
  constructor
  · have hmessages := forall₂_messages hsplits
    have hfilter : (before ++ [i]).filter isMessage = [i] := by
      have hi : isMessage i = true := (isMessage_iff hi).mpr rfl
      have hnone : before.filter isMessage = [] := by
        rw [List.filter_eq_nil_iff]
        intro j hj
        simp [(hbefore j hj).2]
      rw [List.filter_append, hnone, List.filter_cons_of_pos hi]
      rfl
    rw [hfilter, List.forall₂_cons_left_iff] at hmessages
    obtain ⟨value, rest, hvalue, hrest, hmessages⟩ := hmessages
    rw [hmessages, hvalue.value_eq hi, List.forall₂_nil_left_iff.mp hrest]
  · apply (remainder_of_splits hsplits).2.2.mpr
    exact ⟨after, rfl⟩

end Area

/-! ### Records -/

namespace Message

theorem decodedRecords_nil (language : Option Language) :
  decodedRecords language [] = [.empty]
  := rfl

theorem ofArea?_eq (language : Option Language) (s : Bytes) :
  ofArea? language s = ofRecords? ((Area.messages s).flatMap (decodedRecords language))
  := rfl

/-- The records in an area are those of its messages, one message after the other. -/
theorem areaRecords_eq (language : Option Language) (s : Bytes) :
  areaRecords language s = (Area.messages s).flatMap (decodedRecords language)
  := by
  rw [areaRecords, ofArea?_eq]
  cases (Area.messages s).flatMap (decodedRecords language) <;> rfl

/-- A record is not written to an area exactly if its message cannot be wrapped. -/
theorem encode_eq_messageTooLong_iff {options : Options} (htlv : options.container = .tlv)
    {r : Record} :
  options.encode r = .error .messageTooLong ↔ Area.wrap? (encode (.single r)) = none
  := by
  rw [Options.encode, htlv]
  cases Area.wrap? (encode (.single r)) <;> simp

/-- Decoding an area yields, in order, the records of the messages in its message blocks, of
which an empty one is one empty record and one that cannot be decoded has none, and fails
exactly if there are no records.  Wrapping fails exactly for messages of more than `0xFFFE`
bytes, and is then reported as such.  A wrapped message is the only one in the area,
whatever follows the area and whatever items other than message blocks precede it; the area
is terminated, and decoding it is decoding the message. -/
theorem ofArea?_wrap? (language : Option Language) :
  (∀ s items tail, Area.Splits s items tail →
    List.Forall₂ (fun i value => SpellsBlock 0x03 value i) (items.filter Area.isMessage)
        (Area.messages s)
      ∧ areaRecords language s = (Area.messages s).flatMap (decodedRecords language)
      ∧ (ofArea? language s = none
        ↔ (Area.messages s).flatMap (decodedRecords language) = []))
    ∧ decodedRecords language [] = [.empty]
    ∧ (∀ value, decodedRecords language value = [] ↔ decode? language value = none)
    ∧ (∀ message, Area.wrap? message = none ↔ 0xFFFE < message.length)
    ∧ (∀ options : Options, options.container = .tlv → ∀ r,
      options.encode r = .error .messageTooLong ↔ Area.wrap? (encode (.single r)) = none)
    ∧ ∀ message area, Area.wrap? message = some area →
      ∀ before : List Bytes, (∀ i ∈ before, IsItem i ∧ Area.isMessage i = false) → ∀ after,
        Area.messages (before.flatten ++ (area ++ after)) = [message]
          ∧ Area.isTerminated (before.flatten ++ (area ++ after)) = true
          ∧ ofArea? language (before.flatten ++ (area ++ after)) = decode? language message
  := by
  refine ⟨?_, decodedRecords_nil language, fun value => decodedRecords_eq_nil_iff,
    fun message => Area.wrap?_eq_none_iff, ?_, ?_⟩
  · intro s items tail h
    refine ⟨Area.forall₂_messages h, areaRecords_eq language s, ?_⟩
    rw [ofArea?_eq, ofRecords?_eq_none_iff]
  · intro options htlv r
    apply encode_eq_messageTooLong_iff htlv
  · intro message area h before hbefore after
    obtain ⟨hmessages, hterminated⟩ := Area.messages_around_wrap? h hbefore after
    refine ⟨hmessages, hterminated, ?_⟩
    rw [ofArea?_eq, hmessages, List.flatMap_singleton, ofRecords?_decodedRecords]

/-- A message of 255 terminator bytes between two items and a message block behind the
terminator. -/
theorem ofArea?_wrap?_terminators :
  let lock : Bytes := [0x01, 0x01, 0xFE]
  let message : Bytes := List.replicate 0xFF 0xFE
  let block : Bytes := [0x03, 0xFF, 0x00, 0xFF] ++ message
  let after : Bytes := [0x03, 0x00]
  let s : Bytes := [0x00] ++ lock ++ (block ++ [0xFE] ++ after)
  let options : Options := { container := .tlv, language := none }
  Area.wrap? message = some (block ++ [0xFE])
    ∧ (∀ i ∈ [[0x00], lock], IsItem i ∧ Area.isMessage i = false)
    ∧ Area.Splits s [[0x00], lock, block] (0xFE :: after)
    ∧ areaRecords none s = (Area.messages s).flatMap (decodedRecords none)
    ∧ options.encode .empty ≠ .error .messageTooLong
    ∧ Area.messages s = [message] ∧ Area.isTerminated s = true
    ∧ ofArea? none s = decode? none message
  := by
  intro lock message block after s options
  obtain ⟨hsplits, -, -, -, hencode, hwrap⟩ := ofArea?_wrap? none
  have harea : Area.wrap? message = some (block ++ [0xFE]) := by decide +kernel
  have hlock : IsItem lock := .block (by decide) (by decide) (.short 1 (by decide) rfl)
  have hblock : IsItem block := .block (by decide) (by decide) (.wide 0 0xFF List.length_replicate)
  have hbefore : ∀ i ∈ [[0x00], lock], IsItem i ∧ Area.isMessage i = false := by
    intro i hi
    simp only [List.mem_cons, List.not_mem_nil, or_false] at hi
    rcases hi with rfl | rfl
    · exact ⟨.null, rfl⟩
    · exact ⟨hlock, rfl⟩
  have hs : Area.Splits s [[0x00], lock, block] (0xFE :: after) := by
    constructor
    · simp [s]
    · intro i hi
      simp only [List.mem_cons, List.not_mem_nil, or_false] at hi
      rcases hi with rfl | rfl | rfl
      · apply IsItem.null
      · apply hlock
      · apply hblock
    · apply EndsItems.terminator
  obtain ⟨hmessages, hterminated, hdecode⟩ := hwrap message _ harea _ hbefore after
  refine ⟨harea, hbefore, hs, (hsplits _ _ _ hs).2.1, ?_, hmessages, hterminated, hdecode⟩
  rw [ne_eq, hencode options rfl]
  decide

end Message

end Ndef
