import Mathlib.Data.List.Forall2
import Mathlib.Tactic.Common
import Ndef.Proofs.Item

/-!
# Scanning an area

Taking blocks off the front of an area until there is none (`Area.Yields`) yields the
blocks among the items into which the area splits, in order, and leaves the tail without
its terminator.  A terminator ends the area exactly if the tail begins with one.  So what
stands inside a block or behind the terminator does not matter to the scan.
-/

namespace Ndef.Area

/-- `Yields s blocks rest`: asking for the next block of `s` again and again yields the
blocks, and leaves `rest` when for the first time there is none. -/
inductive Yields : Bytes → List Block → Bytes → Prop where
  | done {s rest : Bytes} (h : next s = (none, rest)) : Yields s [] rest
  | block {s s' rest : Bytes} {b : Block} {blocks : List Block} (h : next s = (some b, s'))
      (hrest : Yields s' blocks rest) : Yields s (b :: blocks) rest

/-! ### One step -/

variable {s t rest : Bytes}

theorem read_eq_some_iff {b : Block} :
  reader.read s = some (b, rest) ↔ front s = .block b rest
  := by
  cases hfront : front s <;> simp [reader, hfront]

theorem read_eq_none_iff :
  reader.read s = none ↔ ∀ b rest, front s ≠ .block b rest
  := by
  cases hfront : front s <;> simp [reader, hfront]

/-- The scanner passes over a null byte. -/
theorem front_of_null (h : items.read s = some (.null, rest)) :
  front s = front rest
  := by
  obtain ⟨rfl, -⟩ := (items_accepts s _ rest).mp h
  rfl

/-- The scanner stops at a block among the items. -/
theorem front_of_block {b : Block} (h : items.read s = some (.block b, rest)) :
  front s = .block b rest
  := by
  obtain ⟨rfl, hnull, hterminator, hfits⟩ := (items_accepts s _ rest).mp h
  rw [Item.bytes, Block.bytes_append, front, if_neg hnull, if_neg hterminator,
    ← Block.bytes_append, Block.read?_bytes_append hfits]

/-- The scanner stops at a tail: at a terminator, or because it is stuck. -/
theorem front_of_endsItems (h : EndsItems s) :
  (∃ rest, s = 0xFE :: rest ∧ front s = .terminator rest)
    ∨ (∀ rest, s ≠ 0xFE :: rest) ∧ front s = .stuck s
  := by
  cases h with
  | empty =>
    right
    exact ⟨by simp, rfl⟩
  | terminator rest =>
    left
    exact ⟨rest, rfl, rfl⟩
  | @cutShort tag s hnull hterminator h =>
    right
    constructor
    · rintro rest heq
      apply hterminator (List.cons.inj heq).1
    · have hnull : tag ≠ null := hnull
      have hterminator : tag ≠ Area.terminator := hterminator
      rw [front, if_neg hnull, if_neg hterminator, Block.read?_eq_none_iff.mpr h]

theorem next_of_block {b : Block} (h : front s = .block b rest) :
  next s = (some b, rest)
  := by
  rw [next, h]

/-- Without a block at the front there is no next block. -/
theorem next_fst_of_read_eq_none (h : reader.read s = none) :
  (next s).1 = none
  := by
  rw [read_eq_none_iff] at h
  rw [next]
  split
  · next heq => exact absurd heq (h _ _)
  · rfl
  · rfl

/-! ### The run -/

/-- Asking for the next block again and again yields the blocks and leaves the remainder. -/
theorem yields_blocks (s : Bytes) :
  Yields s (blocks s) (remainder s)
  := by
  induction s using reader.induction with
  | refused s hs =>
    rw [blocks, remainder, Reader.all_of_none hs]
    apply Yields.done
    exact Prod.ext (next_fst_of_read_eq_none hs) rfl
  | item s b rest hs ih =>
    rw [blocks, remainder, Reader.all_of_some hs]
    apply Yields.block _ ih
    apply next_of_block (read_eq_some_iff.mp hs)

/-- Areas with the same at their fronts have the same blocks, and the same behind them. -/
theorem blocks_of_front_eq (h : front s = front t) :
  blocks s = blocks t ∧ front (reader.all s).2 = front (reader.all t).2
  := by
  cases ht : reader.read t with
  | none =>
    have hs : reader.read s = none := by rwa [read_eq_none_iff, h, ← read_eq_none_iff]
    rw [blocks, blocks, Reader.all_of_none hs, Reader.all_of_none ht]
    exact ⟨rfl, h⟩
  | some br =>
    obtain ⟨b, rest⟩ := br
    have hs : reader.read s = some (b, rest) := by
      rwa [read_eq_some_iff, h, ← read_eq_some_iff]
    rw [blocks, blocks, Reader.all_of_some hs, Reader.all_of_some ht]
    exact ⟨rfl, rfl⟩

/-- The blocks are those among the items, and what the scanner finds behind the last block
is what it finds at the tail. -/
theorem blocks_eq (s : Bytes) :
  blocks s = (items.all s).1.filterMap Item.block?
    ∧ front (reader.all s).2 = front (items.all s).2
  := by
  -- The scanner passes over null bytes, so it is followed item by item and not block by block.
  induction s using items.induction with
  | refused s hs =>
    have hread : reader.read s = none := by
      rw [read_eq_none_iff]
      rcases front_of_endsItems (readItem?_eq_none_iff.mp hs) with ⟨_, -, hfront⟩ | ⟨-, hfront⟩
      · simp [hfront]
      · simp [hfront]
    rw [blocks, Reader.all_of_none hs, Reader.all_of_none hread]
    exact ⟨rfl, rfl⟩
  | item s item rest hs ih =>
    rw [Reader.all_of_some hs]
    cases item with
    | null =>
      obtain ⟨hblocks, hrest⟩ := blocks_of_front_eq (front_of_null hs)
      rw [hblocks, hrest]
      apply ih
    | block b =>
      have hread : reader.read s = some (b, rest) := read_eq_some_iff.mpr (front_of_block hs)
      rw [blocks, Reader.all_of_some hread]
      constructor
      · rw [List.filterMap_cons_some (show Item.block? (.block b) = some b from rfl), ← ih.1]
        rfl
      · apply ih.2

/-- The remainder is the tail without its terminator, and a terminator ends the area exactly
if the tail begins with one. -/
theorem remainder_of_splits {items : List Bytes} {tail : Bytes} (h : Splits s items tail) :
  (∀ rest, tail = 0xFE :: rest → remainder s = rest)
    ∧ ((∀ rest, tail ≠ 0xFE :: rest) → remainder s = tail)
    ∧ (isTerminated s = true ↔ ∃ rest, tail = 0xFE :: rest)
  := by
  obtain ⟨list, hall, -⟩ := splits_iff.mp h
  have hfront := (blocks_eq s).2
  rw [hall] at hfront
  rcases front_of_endsItems h.ends with ⟨rest, rfl, htail⟩ | ⟨hne, htail⟩
  · rw [htail] at hfront
    simp [remainder, next, isTerminated, hfront]
  · rw [htail] at hfront
    simp [remainder, next, isTerminated, hfront, hne]

/-- The blocks are spelled by the items other than null bytes. -/
theorem forall₂_spellsBlock {items : List Bytes} {tail : Bytes} (h : Splits s items tail) :
  List.Forall₂ (fun i b => SpellsBlock b.tag b.value i) (items.filter (· ≠ [0x00])) (blocks s)
  := by
  obtain ⟨list, hall, rfl⟩ := splits_iff.mp h
  obtain ⟨-, hvalid, -⟩ := items_accepts.all_eq_iff.mp hall
  rw [(blocks_eq s).1, hall]
  clear hall h
  induction list with
  | nil => exact .nil
  | cons item list ih =>
    have ih := ih fun item hitem => hvalid item (List.mem_cons_of_mem _ hitem)
    cases item with
    | null => apply ih
    | block b =>
      obtain ⟨hnull, -, hfits⟩ := hvalid (.block b) List.mem_cons_self
      have hne : b.bytes ≠ [0x00] := by
        intro heq
        apply hnull (List.cons.inj heq).1
      have hkept : ((Item.block b :: list).map Item.bytes).filter (· ≠ [0x00])
          = b.bytes :: (list.map Item.bytes).filter (· ≠ [0x00]) := by
        simp [Item.bytes, hne]
      rw [hkept]
      apply List.Forall₂.cons _ ih
      apply spellsBlock_iff.mpr
      exact ⟨b, rfl, rfl, hfits, rfl⟩

/-- Every area splits in exactly one way into items, which are null bytes and blocks, and a
tail, at which they end.  Asking for the next block again and again yields the tags and
values of the blocks among the items, in order, and leaves the tail without its terminator.
A terminator ends the area exactly if the tail begins with one. -/
theorem scan_splits (s : Bytes) :
  (∃! d : List Bytes × Bytes, Splits s d.1 d.2)
    ∧ Yields s (blocks s) (remainder s)
    ∧ ∀ items tail, Splits s items tail →
      List.Forall₂ (fun i b => SpellsBlock b.tag b.value i) (items.filter (· ≠ [0x00])) (blocks s)
      ∧ (∀ rest, tail = 0xFE :: rest → remainder s = rest)
      ∧ ((∀ rest, tail ≠ 0xFE :: rest) → remainder s = tail)
      ∧ (isTerminated s = true ↔ ∃ rest, tail = 0xFE :: rest)
  := by
  refine ⟨existsUnique_splits s, yields_blocks s, ?_⟩
  intro items tail h
  exact ⟨forall₂_spellsBlock h, remainder_of_splits h⟩

/-- A null byte, a block with a terminator in its value, a block with a length in two bytes,
and another block behind the terminator. -/
theorem scan_splits_trailing_block :
  let lock : Bytes := [0x01, 0x01, 0xFE]
  let message : Bytes := [0x03, 0xFF, 0x00, 0x01, 0x00]
  let s : Bytes := [0x00] ++ lock ++ message ++ [0xFE, 0x03, 0x00]
  Splits s [[0x00], lock, message] [0xFE, 0x03, 0x00]
    ∧ List.Forall₂ (fun i b => SpellsBlock b.tag b.value i) [lock, message] (blocks s)
    ∧ remainder s = [0x03, 0x00] ∧ isTerminated s = true
  := by
  intro lock message s
  have hlock : SpellsBlock 0x01 [0xFE] lock := .short 1 (by decide) rfl
  have hmessage : SpellsBlock 0x03 [0x00] message := .wide 0 1 rfl
  have hsplits : Splits s [[0x00], lock, message] [0xFE, 0x03, 0x00] := by
    constructor
    · rfl
    · intro i hi
      simp only [List.mem_cons, List.not_mem_nil, or_false] at hi
      rcases hi with rfl | rfl | rfl
      · apply IsItem.null
      · apply IsItem.block (by decide) (by decide) hlock
      · apply IsItem.block (by decide) (by decide) hmessage
    · apply EndsItems.terminator
  have hfilter : [[0x00], lock, message].filter (· ≠ [0x00]) = [lock, message] := by decide
  obtain ⟨hblocks, hremainder, -, hterminated⟩ := (scan_splits s).2.2 _ _ hsplits
  rw [hfilter] at hblocks
  exact ⟨hsplits, hblocks, hremainder _ rfl, hterminated.mpr ⟨_, rfl⟩⟩

end Ndef.Area
