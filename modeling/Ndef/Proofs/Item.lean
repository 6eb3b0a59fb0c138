import Mathlib.Tactic.Common
import Ndef.Proofs.Reading
import Ndef.Tlv.Area

/-!
# The items of an area

An area is made of items, which are null bytes and blocks, and a tail at which they end.
The grammar describes them byte by byte and without reading: `SpellsBlock` says which byte
strings are a block with a given tag and value, `IsItem` which are an item, and `EndsItems`
which can be a tail.  A reader of items takes exactly the items of this grammar off the
front of an area (`Area.items_accepts`), and fails exactly at a tail
(`Area.readItem?_eq_none_iff`).  So every area splits into items and a tail in exactly one
way (`Area.existsUnique_splits`).
-/

namespace Ndef

/-! ### The grammar -/

/-- `SpellsBlock tag value s`: the byte string `s` is a block with the given tag and value. -/
inductive SpellsBlock (tag : UInt8) (value : Bytes) : Bytes → Prop where
  /-- The length takes one byte other than `0xFF`. -/
  | short (n : UInt8) (hn : n ≠ 0xFF) (hlength : value.length = n.toNat) :
      SpellsBlock tag value (tag :: n :: value)
  /-- The length takes two bytes behind `0xFF`, the most significant first. -/
  | wide (a b : UInt8) (hlength : value.length = a.toNat * 0x100 + b.toNat) :
      SpellsBlock tag value (tag :: 0xFF :: a :: b :: value)

/-- `CutShort s`: the byte string `s` begins with the tag of a block, and the length or the
value of that block does not fit in what follows the tag. -/
inductive CutShort : Bytes → Prop where
  /-- Nothing follows the tag. -/
  | noLength (tag : UInt8) : CutShort [tag]
  /-- One of the two bytes behind `0xFF` is missing. -/
  | wideLength (tag : UInt8) (s : Bytes) (hshort : s.length < 2) : CutShort (tag :: 0xFF :: s)
  /-- Fewer bytes follow than a length in one byte announces. -/
  | value (tag n : UInt8) (s : Bytes) (hn : n ≠ 0xFF) (hshort : s.length < n.toNat) :
      CutShort (tag :: n :: s)
  /-- Fewer bytes follow than a length in two bytes announces. -/
  | wideValue (tag a b : UInt8) (s : Bytes) (hshort : s.length < a.toNat * 0x100 + b.toNat) :
      CutShort (tag :: 0xFF :: a :: b :: s)

/-- An item is a null byte, or a block whose tag is neither that byte nor the terminator. -/
inductive IsItem : Bytes → Prop where
  | null : IsItem [0x00]
  | block {tag : UInt8} {value s : Bytes} (hnull : tag ≠ 0x00) (hterminator : tag ≠ 0xFE)
      (h : SpellsBlock tag value s) : IsItem s

/-- The items of an area end where nothing is left, at a terminator, or at a block that is
cut short. -/
inductive EndsItems : Bytes → Prop where
  | empty : EndsItems []
  | terminator (s : Bytes) : EndsItems (0xFE :: s)
  | cutShort {tag : UInt8} {s : Bytes} (hnull : tag ≠ 0x00) (hterminator : tag ≠ 0xFE)
      (h : CutShort (tag :: s)) : EndsItems (tag :: s)

/-- `Area.Splits s items tail`: the area `s` is made of the items and of a tail at which
they end. -/
structure Area.Splits (s : Bytes) (items : List Bytes) (tail : Bytes) : Prop where
  concat : s = items.flatten ++ tail
  isItem : ∀ i ∈ items, IsItem i
  ends : EndsItems tail

/-! ### Blocks -/

namespace Block

theorem bytes_append (b : Block) (rest : Bytes) :
  b.bytes ++ rest = b.tag :: (b.lengthBytes ++ b.value ++ rest)
  := rfl

theorem bytes_short (tag : UInt8) (value : Bytes) :
  bytes ⟨tag, false, value⟩ = tag :: UInt8.ofNat value.length :: value
  := by
  simp [bytes, lengthBytes, Bytes.ofNat_one]

theorem bytes_wide (tag : UInt8) (value : Bytes) :
  bytes ⟨tag, true, value⟩ = tag :: 0xFF :: (Bytes.ofNat 2 value.length ++ value)
  := rfl

end Block

/-- The blocks are spelled by the bytes of the blocks that fit their length field. -/
theorem spellsBlock_iff {tag : UInt8} {value s : Bytes} :
  SpellsBlock tag value s
    ↔ ∃ b : Block, b.tag = tag ∧ b.value = value ∧ b.Fits ∧ b.bytes = s
  := by
  constructor
  · rintro (⟨n, hn, hlength⟩ | ⟨a, b, hlength⟩)
    · refine ⟨⟨tag, false, value⟩, rfl, rfl, ?_, ?_⟩
      · have hn' : n.toNat ≠ 0xFF := fun h => hn (UInt8.toNat_inj.mp h)
        have hlt := n.toNat_lt
        change value.length < 0xFF
        omega
      · rw [Block.bytes_short, hlength, UInt8.ofNat_toNat]
    · rw [← Bytes.toNat_two] at hlength
      refine ⟨⟨tag, true, value⟩, rfl, rfl, ?_, ?_⟩
      · change value.length < 0x10000
        rw [hlength]
        apply Bytes.toNat_lt [a, b]
      · have hbytes : Bytes.ofNat 2 (Bytes.toNat [a, b]) = [a, b] := Bytes.ofNat_toNat [a, b]
        rw [Block.bytes_wide, hlength, hbytes]
        rfl
  · rintro ⟨⟨tag, wide, value⟩, rfl, rfl, hfits, rfl⟩
    cases wide with
    | false =>
      have hlt : value.length < 0xFF := hfits
      have hbyte : (UInt8.ofNat value.length).toNat = value.length := by
        rw [UInt8.toNat_ofNat', Nat.mod_eq_of_lt (by omega)]
      rw [Block.bytes_short]
      apply SpellsBlock.short _ _ hbyte.symm
      intro h
      rw [h] at hbyte
      change 0xFF = value.length at hbyte
      omega
    | true =>
      obtain ⟨a, b, hlengthBytes⟩ : ∃ a b, Bytes.ofNat 2 value.length = [a, b] := ⟨_, _, rfl⟩
      rw [Block.bytes_wide, hlengthBytes]
      apply SpellsBlock.wide
      rw [← Bytes.toNat_two, ← hlengthBytes, Bytes.toNat_ofNat hfits]

/-- The value of a block is determined by its bytes. -/
theorem SpellsBlock.value_eq {tag : UInt8} {v w s : Bytes} (hv : SpellsBlock tag v s)
    (hw : SpellsBlock tag w s) :
  v = w
  := by
  obtain ⟨b, -, rfl, hb, rfl⟩ := spellsBlock_iff.mp hv
  obtain ⟨c, -, rfl, hc, hbytes⟩ := spellsBlock_iff.mp hw
  have hread := Block.read?_bytes_append hb []
  rw [← hbytes, Block.read?_bytes_append hc] at hread
  injection hread with hread
  injection hread with hread
  rw [hread]

namespace Block

variable {tag : UInt8} {s : Bytes}

theorem read?_short {n : UInt8} (hn : n ≠ 0xFF) :
  read? (tag :: n :: s)
    = (Bytes.split? n.toNat s).map fun (value, rest) => (⟨tag, false, value⟩, rest)
  := by
  have hn : n ≠ escape := hn
  simp only [read?, readLength?, if_neg hn, Option.bind_eq_bind, Option.bind_some]
  cases Bytes.split? n.toNat s <;> rfl

theorem read?_wide {a b : UInt8} :
  read? (tag :: 0xFF :: a :: b :: s)
    = (Bytes.split? (a.toNat * 0x100 + b.toNat) s).map
        fun (value, rest) => (⟨tag, true, value⟩, rest)
  := by
  have hsplit : Bytes.split? 2 (a :: b :: s) = some ([a, b], s) :=
    Bytes.split?_eq_some_iff.mpr ⟨rfl, rfl⟩
  have hescape : (0xFF : UInt8) = escape := rfl
  simp only [read?, readLength?, if_pos hescape, hsplit, Option.bind_eq_bind, Option.map_some,
    Option.bind_some, Bytes.toNat_two]
  cases Bytes.split? (a.toNat * 0x100 + b.toNat) s <;> rfl

/-- A block is read off what begins with its tag unless it is cut short. -/
theorem read?_eq_none_iff :
  read? (tag :: s) = none ↔ CutShort (tag :: s)
  := by
  match s with
  | [] => exact ⟨fun _ => .noLength tag, fun _ => rfl⟩
  | n :: s =>
    by_cases hn : n = 0xFF
    · subst hn
      match s with
      | [] => exact ⟨fun _ => .wideLength tag [] (by decide), fun _ => rfl⟩
      | [a] => exact ⟨fun _ => .wideLength tag [a] (by simp), fun _ => rfl⟩
      | a :: b :: s =>
        rw [read?_wide, Option.map_eq_none_iff, Bytes.split?_eq_none_iff]
        constructor
        · apply CutShort.wideValue
        · rintro (_ | ⟨_, _, hshort⟩ | ⟨_, _, _, hn⟩ | ⟨_, _, _, _, hshort⟩)
          · simp only [List.length_cons] at hshort
            omega
          · exact absurd rfl hn
          · apply hshort
    · rw [read?_short hn, Option.map_eq_none_iff, Bytes.split?_eq_none_iff]
      constructor
      · apply CutShort.value tag n s hn
      · rintro (_ | _ | ⟨_, _, _, _, hshort⟩ | _)
        · exact absurd rfl hn
        · apply hshort
        · exact absurd rfl hn

end Block

/-! ### Items -/

/-- An item of an area. -/
inductive Area.Item where
  | null
  | block (block : Block)

namespace Area

namespace Item

/-- The item as it stands in memory. -/
def bytes : Item → Bytes
  | null => [Area.null]
  | block b => b.bytes

/-- The block fits its length field and is not mistaken for a null byte or a terminator. -/
def Valid : Item → Prop
  | null => True
  | block b => b.tag ≠ Area.null ∧ b.tag ≠ terminator ∧ b.Fits

/-- The block, if the item is one. -/
def block? : Item → Option Block
  | null => none
  | block b => some b

end Item

/-- The items are the bytes of the valid items. -/
theorem isItem_iff {i : Bytes} :
  IsItem i ↔ ∃ item : Item, item.Valid ∧ item.bytes = i
  := by
  constructor
  · rintro (_ | ⟨hnull, hterminator, h⟩)
    · exact ⟨.null, trivial, rfl⟩
    · obtain ⟨b, rfl, rfl, hfits, rfl⟩ := spellsBlock_iff.mp h
      exact ⟨.block b, ⟨hnull, hterminator, hfits⟩, rfl⟩
  · rintro ⟨_ | b, hvalid, rfl⟩
    · apply IsItem.null
    · obtain ⟨hnull, hterminator, hfits⟩ := hvalid
      apply IsItem.block hnull hterminator
      apply spellsBlock_iff.mpr
      exact ⟨b, rfl, rfl, hfits, rfl⟩

/-- The item at the front of an area and the rest, unless the items end there. -/
def readItem? : Bytes → Option (Item × Bytes)
  | [] => none
  | x :: s =>
    if x = null then some (.null, s)
    else if x = terminator then none
    else (Block.read? (x :: s)).map fun (b, rest) => (.block b, rest)

/-- A valid item is read back from its bytes, whatever follows them. -/
theorem readItem?_bytes_append {item : Item} (h : item.Valid) (rest : Bytes) :
  readItem? (item.bytes ++ rest) = some (item, rest)
  := by
  cases item with
  | null => rfl
  | block b =>
    obtain ⟨hnull, hterminator, hfits⟩ := h
    rw [Item.bytes, Block.bytes_append, readItem?, if_neg hnull, if_neg hterminator,
      ← Block.bytes_append, Block.read?_bytes_append hfits]
    rfl

/-- What is read as an item stands in front of the rest, and is valid. -/
theorem eq_bytes_append_of_readItem? {s rest : Bytes} {item : Item}
    (h : readItem? s = some (item, rest)) :
  s = item.bytes ++ rest ∧ item.Valid
  := by
  fun_cases readItem? s with
  | case1 => cases h
  | case2 s =>
    cases h
    exact ⟨rfl, trivial⟩
  | case3 s hnull => cases h
  | case4 x s hnull hterminator =>
    rw [readItem?, if_neg hnull, if_neg hterminator, Option.map_eq_some_iff] at h
    obtain ⟨⟨b, rest'⟩, hread, heq⟩ := h
    cases heq
    obtain ⟨hs, hfits⟩ := Block.eq_bytes_append_of_read? hread
    -- The byte that was tested is the tag of the block.
    obtain ⟨rfl, -⟩ := List.cons.inj hs
    exact ⟨hs, hnull, hterminator, hfits⟩

/-- The reader of items. -/
def items : Reader UInt8 Item where
  read := readItem?
  shorter := by
    intro s item rest h
    rw [(eq_bytes_append_of_readItem? h).1]
    cases item with
    | null => simp [Item.bytes]
    | block b =>
      simp only [Item.bytes, Block.bytes, List.cons_append, List.length_cons, List.length_append]
      omega

/-- The reader of items accepts what writing valid items produces. -/
theorem items_accepts :
  items.Accepts Item.bytes Item.Valid
  := by
  intro s item rest
  constructor
  · apply eq_bytes_append_of_readItem?
  · rintro ⟨rfl, hvalid⟩
    apply readItem?_bytes_append hvalid

/-- No item is read exactly where the items end. -/
theorem readItem?_eq_none_iff {s : Bytes} :
  readItem? s = none ↔ EndsItems s
  := by
  fun_cases readItem? s with
  | case1 => exact ⟨fun _ => .empty, fun _ => rfl⟩
  | case2 s =>
    constructor
    · intro h
      cases h
    · rintro (_ | _ | ⟨hnull, -, -⟩)
      exact absurd rfl hnull
  | case3 s => exact ⟨fun _ => .terminator s, fun _ => rfl⟩
  | case4 x s hnull hterminator =>
    rw [Option.map_eq_none_iff, Block.read?_eq_none_iff]
    constructor
    · apply EndsItems.cutShort hnull hterminator
    · rintro (_ | _ | ⟨-, -, h⟩)
      · exact absurd rfl hterminator
      · apply h

/-- An area splits into the bytes of the items that are read off its front and what is
left then, and in no other way. -/
theorem splits_iff {s tail : Bytes} {parts : List Bytes} :
  Splits s parts tail ↔ ∃ list, items.all s = (list, tail) ∧ list.map Item.bytes = parts
  := by
  rw [items_accepts.exists_all_eq_iff]
  simp only [← isItem_iff]
  constructor
  · rintro ⟨hconcat, hparts, hends⟩
    exact ⟨hconcat, hparts, readItem?_eq_none_iff.mpr hends⟩
  · rintro ⟨hconcat, hparts, hstuck⟩
    exact ⟨hconcat, hparts, readItem?_eq_none_iff.mp hstuck⟩

/-- Every area splits into items and a tail in exactly one way. -/
theorem existsUnique_splits (s : Bytes) :
  ∃! d : List Bytes × Bytes, Splits s d.1 d.2
  := by
  simp only [splits_iff]
  apply Reader.existsUnique_all

end Area

end Ndef
