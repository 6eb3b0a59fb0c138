import Mathlib.Tactic.Common
import Ndef.Proofs.Reading
import Ndef.Unicode.Utf16

/-!
# Reading UTF-16 back

Code units are read back from their two bytes, and characters from their one or two code
units.  So bytes are UTF-16, in one byte order, exactly if they are what is written of a
text (`Utf16.decode?_eq_some_iff`).
-/

namespace Ndef

/-- The reader of code units accepts the two bytes of a code unit. -/
theorem ByteOrder.accepts (order : ByteOrder) :
  order.reader.Accepts order.bytes fun _ => True
  := by
  intro s u rest
  simp only [and_true]
  constructor
  · intro h
    match s with
    | a :: b :: s =>
      obtain ⟨rfl, rfl⟩ := Prod.mk.inj (Option.some.inj h)
      rw [order.bytes_unit]
      rfl
  · rintro rfl
    obtain ⟨a, b, hbytes, hunit⟩ := order.exists_bytes_eq u
    rw [hbytes, ← hunit]
    rfl

namespace Utf16

/-! ### Characters -/

/-- The number of a character is no surrogate, and at most `0x10FFFF`. -/
theorem toNat_cases (c : Char) :
  c.toNat < 0xD800 ∨ 0xE000 ≤ c.toNat ∧ c.toNat < 0x110000
  := c.valid

theorem toNat_ofNat {n : Nat} (h : n < 0xD800 ∨ 0xE000 ≤ n ∧ n < 0x110000) :
  (Char.ofNat n).toNat = n
  := by
  have hvalid : n.isValidChar := h
  rw [Char.ofNat, dif_pos hvalid]
  rfl

/-- A character below `0x10000` is the code unit with its number. -/
theorem unitsOfChar_eq_singleton_iff {c : Char} {u : UInt16} :
  unitsOfChar c = [u] ↔ c.toNat = u.toNat
  := by
  have hu : u.toNat < 0x10000 := u.toNat_lt
  rw [unitsOfChar]
  split
  · next hlt =>
    rw [List.cons.injEq, ← UInt16.toNat_inj, UInt16.toNat_ofNat', Nat.mod_eq_of_lt hlt]
    simp
  · next hge =>
    simp
    omega

/-- A surrogate pair is what is written of the character that it stands for. -/
theorem pair?_eq_some_iff {high low : UInt16} {c : Char} :
  pair? high low = some c ↔ unitsOfChar c = [high, low]
  := by
  have hhigh : high.toNat < 0x10000 := high.toNat_lt
  have hlow : low.toNat < 0x10000 := low.toNat_lt
  have hc := toNat_cases c
  rw [pair?, unitsOfChar]
  rw [Option.ite_none_right_eq_some]
  constructor
  · rintro ⟨hrange, hpair⟩
    have hn : c.toNat
        = 0x10000 + (high.toNat - 0xD800) * 0x400 + (low.toNat - 0xDC00) := by
      rw [← Option.some.inj hpair]
      apply toNat_ofNat
      omega
    rw [if_neg (by omega)]
    simp only [List.cons.injEq, and_true, ← UInt16.toNat_inj, UInt16.toNat_ofNat']
    omega
  · split
    · simp
    · next hge =>
      simp only [List.cons.injEq, and_true, ← UInt16.toNat_inj, UInt16.toNat_ofNat', Option.some.injEq]
      rintro ⟨hh, hl⟩
      refine ⟨by omega, ?_⟩
      apply Char.toNat_inj.mp
      rw [toNat_ofNat (by omega)]
      omega

/-- A character is written as one code unit or as two. -/
theorem exists_unitsOfChar_eq (c : Char) :
  (∃ u, unitsOfChar c = [u]) ∨ ∃ u v, unitsOfChar c = [u, v]
  := by
  rw [unitsOfChar]
  split
  · left
    exact ⟨_, rfl⟩
  · right
    exact ⟨_, _, rfl⟩

/-- The reader of characters accepts the code units of a character. -/
theorem accepts :
  reader.Accepts unitsOfChar fun _ => True
  := by
  intro s c rest
  simp only [and_true]
  constructor
  · intro h
    change readChar s = some (c, rest) at h
    unfold readChar at h
    split at h
    · cases h
    · next u s =>
      split at h
      · next hrange =>
        injection h with h
        injection h with hc hrest
        have hu : u.toNat < 0x10000 := u.toNat_lt
        have hunits : unitsOfChar c = [u] := by
          rw [unitsOfChar_eq_singleton_iff, ← hc]
          apply toNat_ofNat
          omega
        rw [hunits, hrest]
        rfl
      · split at h
        · cases h
        · next v s =>
          obtain ⟨c', hpair, h⟩ := Option.map_eq_some_iff.mp h
          injection h with hc hrest
          rw [hc] at hpair
          rw [pair?_eq_some_iff.mp hpair, hrest]
          rfl
  · rintro rfl
    change readChar (unitsOfChar c ++ rest) = some (c, rest)
    rcases exists_unitsOfChar_eq c with ⟨u, hunits⟩ | ⟨u, v, hunits⟩
    · have hu : c.toNat = u.toNat := unitsOfChar_eq_singleton_iff.mp hunits
      have hrange := toNat_cases c
      rw [hunits, List.singleton_append, readChar.eq_def]
      dsimp only
      rw [if_pos (by omega), ← hu, Char.ofNat_toNat]
    · have hpair : pair? u v = some c := pair?_eq_some_iff.mpr hunits
      have hrange := hpair
      rw [pair?, Option.ite_none_right_eq_some] at hrange
      have hsurrogate : ¬ (u.toNat < 0xD800 ∨ 0xE000 ≤ u.toNat) := by omega
      rw [hunits, List.cons_append, List.singleton_append, readChar, if_neg hsurrogate, hpair]
      rfl

/-! ### Texts -/

/-- Code units are those of a text exactly if the text is read off them. -/
theorem ofUnits?_eq_some_iff {u : List UInt16} {s : String} :
  ofUnits? u = some s ↔ u = units s
  := by
  have hwhole (chars : List Char) : reader.whole? u = some chars ↔ u = chars.flatMap unitsOfChar := by
    rw [accepts.whole?_eq_some_iff rfl]
    simp
  simp only [ofUnits?, Option.map_eq_some_iff, hwhole, units]
  constructor
  · rintro ⟨chars, rfl, rfl⟩
    rw [String.toList_ofList]
  · rintro rfl
    exact ⟨s.toList, rfl, String.ofList_toList⟩

/-- Decoding accepts exactly what encoding produces. -/
theorem decode?_eq_some_iff {order : ByteOrder} {b : Bytes} {s : String} :
  decode? order b = some s ↔ b = encode order s
  := by
  have hwhole (u : List UInt16) : order.reader.whole? b = some u ↔ b = u.flatMap order.bytes := by
    rw [order.accepts.whole?_eq_some_iff rfl]
    simp
  simp only [decode?, Option.bind_eq_some_iff, hwhole, ofUnits?_eq_some_iff, encode]
  constructor
  · rintro ⟨u, rfl, rfl⟩
    rfl
  · rintro rfl
    exact ⟨units s, rfl, rfl⟩

theorem decode?_encode (order : ByteOrder) (s : String) :
  decode? order (encode order s) = some s
  := decode?_eq_some_iff.mpr rfl

/-- A text takes two bytes for each of its code units. -/
theorem length_encode (order : ByteOrder) (s : String) :
  (encode order s).length = 2 * (units s).length
  := by
  rw [encode]
  induction units s with
  | nil => rfl
  | cons u rest ih =>
    obtain ⟨x, y, hbytes, -⟩ := order.exists_bytes_eq u
    rw [List.flatMap_cons, hbytes, List.length_append, ih, List.length_cons]
    simp only [List.length_cons, List.length_nil]
    omega

/-! ### The first character -/

/-- The first two bytes of a text are those of a character below `0x10000` exactly if the
text begins with it. -/
theorem take_encode_eq_iff {order : ByteOrder} {s : String} {c : Char} (hc : c.toNat < 0x10000) :
  (encode order s).take 2 = order.bytes (UInt16.ofNat c.toNat) ↔ s.toList.head? = some c
  := by
  have hunit : (UInt16.ofNat c.toNat).toNat = c.toNat := by
    rw [UInt16.toNat_ofNat', Nat.mod_eq_of_lt hc]
  have hchar : unitsOfChar c = [UInt16.ofNat c.toNat] := by
    rw [unitsOfChar_eq_singleton_iff, hunit]
  have htake (u : UInt16) (b : Bytes) : (order.bytes u ++ b).take 2 = order.bytes u := by
    obtain ⟨x, y, hbytes, -⟩ := order.exists_bytes_eq u
    rw [hbytes]
    rfl
  have hinjective {u v : UInt16} : order.bytes u = order.bytes v ↔ u = v := by
    constructor
    · apply order.accepts.write_injective trivial trivial
    · apply congrArg
  rw [encode, units]
  cases s.toList with
  | nil =>
    obtain ⟨x, y, hbytes, -⟩ := order.exists_bytes_eq (UInt16.ofNat c.toNat)
    simp [hbytes]
  | cons d rest =>
    rw [List.flatMap_cons, List.head?_cons, Option.some.injEq]
    rcases exists_unitsOfChar_eq d with ⟨u, hu⟩ | ⟨u, v, huv⟩
    · rw [hu, List.singleton_append, List.flatMap_cons, htake, hinjective]
      rw [← UInt16.toNat_inj, hunit, ← unitsOfChar_eq_singleton_iff.mp hu, Char.toNat_inj]
    · -- A surrogate is no character, and a character of two units is not `c`.
      have hrange := pair?_eq_some_iff.mpr huv
      rw [pair?, Option.ite_none_right_eq_some] at hrange
      rw [huv, List.cons_append, List.flatMap_cons, htake, hinjective]
      constructor
      · rintro rfl
        have hvalid := toNat_cases c
        omega
      · rintro rfl
        rw [hchar] at huv
        cases huv

end Utf16

end Ndef
