import Mathlib.Tactic.Common
import Ndef.Proofs.Scanning

/-!
# A cursor in an area

Each call for the next block moves a cursor forward (`Area.cursor`), and calls may go on after
one that returned nothing.  A call takes null bytes and a block, or null bytes and a terminator,
or null bytes only (`Area.next_cases`).  After a call of the last kind the cursor is stuck, and
there are at most as many calls of the other kinds as the area has bytes (`Area.cursor_run`).
-/

namespace Ndef

theorem SpellsBlock.length_pos {tag : UInt8} {value i : Bytes} (h : SpellsBlock tag value i) :
  0 < i.length
  := by
  cases h <;> simp

namespace Area

/-- What is left of an area after the given number of calls for the next block. -/
def cursor (s : Bytes) : Nat → Bytes
  | 0 => s
  | n + 1 => (next (cursor s n)).2

/-- The block that a call returns, if it returns one; the first call has the number zero. -/
def returned (s : Bytes) (n : Nat) : Option Block :=
  (next (cursor s n)).1

/-! ### What a call takes -/

/-- From `s` to `t`, null bytes are taken and then the bytes of the block: its tag, its length
and its value. -/
def TakesBlock (b : Block) (s t : Bytes) : Prop :=
  ∃ k i, SpellsBlock b.tag b.value i ∧ b.tag ≠ 0x00 ∧ b.tag ≠ 0xFE
    ∧ s = List.replicate k 0x00 ++ (i ++ t)

/-- From `s` to `t`, null bytes are taken and then a terminator. -/
def TakesTerminator (s t : Bytes) : Prop :=
  ∃ k, s = List.replicate k 0x00 ++ 0xFE :: t

/-- From `s` to `t`, null bytes are taken and nothing else. -/
def TakesNulls (s t : Bytes) : Prop :=
  ∃ k, s = List.replicate k 0x00 ++ t

variable {s t : Bytes}

theorem TakesBlock.length_lt {b : Block} (h : TakesBlock b s t) :
  t.length < s.length
  := by
  obtain ⟨k, i, hi, -, -, rfl⟩ := h
  have hpos := hi.length_pos
  simp only [List.length_append]
  omega

theorem TakesTerminator.length_lt (h : TakesTerminator s t) :
  t.length < s.length
  := by
  obtain ⟨k, rfl⟩ := h
  simp only [List.length_append, List.length_cons]
  omega

/-- A terminator is no null byte, so it is taken or it is not. -/
theorem TakesTerminator.not_takesNulls (h : TakesTerminator s t) :
  ¬ TakesNulls s t
  := by
  rintro ⟨l, hl⟩
  obtain ⟨k, rfl⟩ := h
  have hsplit : List.replicate k 0x00 ++ [0xFE] = List.replicate l (0x00 : UInt8) := by
    rw [← List.singleton_append, ← List.append_assoc] at hl
    apply List.append_cancel_right hl
  have hmem : (0xFE : UInt8) ∈ List.replicate l 0x00 := by
    rw [← hsplit]
    simp
  cases List.eq_of_mem_replicate hmem

/-! ### One call -/

/-- Null bytes stand in front of what does not begin with one. -/
theorem exists_nulls (s : Bytes) :
  ∃ k u, s = List.replicate k 0x00 ++ u ∧ ∀ rest, u ≠ 0x00 :: rest
  := by
  induction s with
  | nil => exact ⟨0, [], rfl, by simp⟩
  | cons x s ih =>
    by_cases hx : x = 0x00
    · obtain ⟨k, u, rfl, hu⟩ := ih
      use k + 1, u
      rw [hx]
      exact ⟨rfl, hu⟩
    · use 0, x :: s
      constructor
      · rfl
      · intro rest heq
        apply hx (List.cons.inj heq).1

/-- The scanner passes over null bytes. -/
theorem front_nulls (k : Nat) (u : Bytes) :
  front (List.replicate k 0x00 ++ u) = front u
  := by
  induction k with
  | zero => rfl
  | succ k ih =>
    rw [← ih]
    rfl

/-- A call takes null bytes and the block that it returns, or it returns nothing: then it takes
null bytes and a terminator, or only null bytes, and is stuck behind them. -/
theorem next_cases (s : Bytes) :
  (∃ b t, next s = (some b, t) ∧ TakesBlock b s t)
    ∨ (∃ t, next s = (none, t) ∧ TakesTerminator s t)
    ∨ ∃ t, next s = (none, t) ∧ TakesNulls s t ∧ next t = (none, t)
  := by
  obtain ⟨k, u, rfl, hu⟩ := exists_nulls s
  -- What the call comes to is decided by the item behind the null bytes.
  cases hread : items.read u with
  | some itemRest =>
    obtain ⟨item, t⟩ := itemRest
    obtain ⟨hbytes, hvalid⟩ := (items_accepts u item t).mp hread
    cases item with
    | null => exact absurd hbytes (hu t)
    | block b =>
      left
      obtain ⟨hnull, hterminator, hfits⟩ := hvalid
      refine ⟨b, t, ?_, k, b.bytes, ?_, hnull, hterminator, congrArg _ hbytes⟩
      · rw [next, front_nulls, front_of_block hread]
      · apply spellsBlock_iff.mpr
        exact ⟨b, rfl, rfl, hfits, rfl⟩
  | none =>
    right
    rcases front_of_endsItems (readItem?_eq_none_iff.mp hread) with ⟨t, rfl, hfront⟩ | ⟨-, hfront⟩
    · left
      refine ⟨t, ?_, k, rfl⟩
      rw [next, front_nulls, hfront]
    · right
      refine ⟨u, ?_, ⟨k, rfl⟩, ?_⟩
      · rw [next, front_nulls, hfront]
      · rw [next, hfront]

/-- A call that returns a block takes it. -/
theorem takesBlock_of_next {b : Block} (h : next s = (some b, t)) :
  TakesBlock b s t
  := by
  rcases next_cases s with ⟨b, t, heq, hb⟩ | ⟨t, heq, -⟩ | ⟨t, heq, -⟩
  · rw [heq] at h
    cases h
    exact hb
  · rw [heq] at h
    cases h
  · rw [heq] at h
    cases h

/-- A call that returns nothing takes a terminator, or gets stuck. -/
theorem takes_of_next_eq_none (h : next s = (none, t)) :
  TakesTerminator s t ∨ TakesNulls s t ∧ next t = (none, t)
  := by
  rcases next_cases s with ⟨b, t, heq, -⟩ | ⟨t, heq, ht⟩ | ⟨t, heq, ht⟩
  · rw [heq] at h
    cases h
  · rw [heq] at h
    cases h
    left
    exact ht
  · rw [heq] at h
    cases h
    right
    exact ht

/-- What a call leaves is the end of what it was given. -/
theorem next_snd_suffix (s : Bytes) :
  (next s).2 <:+ s
  := by
  rcases next_cases s with ⟨b, t, heq, k, i, -, -, -, hs⟩ | ⟨t, heq, k, hs⟩ | ⟨t, heq, ⟨k, hs⟩, -⟩
  · rw [heq, hs, ← List.append_assoc]
    apply List.suffix_append
  · rw [heq, hs, List.append_cons]
    apply List.suffix_append
  · rw [heq, hs]
    apply List.suffix_append

/-! ### Any number of calls -/

theorem next_cursor (s : Bytes) (n : Nat) :
  next (cursor s n) = (returned s n, cursor s (n + 1))
  := rfl

/-- The call with the number `n` returns a block or takes a terminator. -/
def Advances (s : Bytes) (n : Nat) : Prop :=
  returned s n ≠ none ∨ TakesTerminator (cursor s n) (cursor s (n + 1))

/-- A call that returns a block or takes a terminator leaves fewer bytes. -/
theorem Advances.length_lt {n : Nat} (h : Advances s n) :
  (cursor s (n + 1)).length < (cursor s n).length
  := by
  rcases h with hreturned | hterminator
  · obtain ⟨b, hb⟩ := Option.ne_none_iff_exists'.mp hreturned
    have htakes : TakesBlock b (cursor s n) (cursor s (n + 1)) := by
      apply takesBlock_of_next
      rw [next_cursor, hb]
    apply htakes.length_lt
  · apply hterminator.length_lt

/-- Further calls leave no more bytes. -/
theorem length_cursor_le {m n : Nat} (h : m ≤ n) :
  (cursor s n).length ≤ (cursor s m).length
  := by
  induction h with
  | refl => exact Nat.le_refl _
  | @step n _ ih =>
    have hsuffix := (next_snd_suffix (cursor s n)).length_le
    exact Nat.le_trans hsuffix ih

/-- A cursor that is stuck stays where it is. -/
theorem cursor_of_stuck {n : Nat} (h : next (cursor s n) = (none, cursor s n)) {m : Nat}
    (hm : n ≤ m) :
  cursor s m = cursor s n
  := by
  induction hm with
  | refl => rfl
  | step _ ih => rw [cursor, ih, h]

/-- Calls that return a block or take a terminator are no more than the bytes that are left
before the first of them. -/
theorem length_le_of_advances {calls : List Nat} {n : Nat} (hn : ∀ m ∈ calls, n ≤ m)
    (hcalls : calls.Pairwise (· < ·)) (hadvances : ∀ m ∈ calls, Advances s m) :
  calls.length ≤ (cursor s n).length
  := by
  induction calls generalizing n with
  | nil => exact Nat.zero_le _
  | cons m calls ih =>
    rw [List.forall_mem_cons] at hn hadvances
    rw [List.pairwise_cons] at hcalls
    have hrest : calls.length ≤ (cursor s (m + 1)).length := ih hcalls.1 hcalls.2 hadvances.2
    have hlt := hadvances.1.length_lt
    have hle : (cursor s m).length ≤ (cursor s n).length := length_cursor_le hn.1
    rw [List.length_cons]
    omega

/-- However often the next block of an area is asked for, what is left after a call is the end
of what was left before it.  A call that returns a block took null bytes and that block.  A call
that returns nothing took null bytes and a terminator, or else null bytes only; then no later
call returns a block or takes anything.  Calls that return a block or take a terminator leave
fewer bytes, so there are at most as many of them as the area has bytes. -/
theorem cursor_run (s : Bytes) :
  (∀ n, cursor s (n + 1) <:+ cursor s n)
    ∧ (∀ n b, returned s n = some b → TakesBlock b (cursor s n) (cursor s (n + 1)))
    ∧ (∀ n, returned s n = none →
      Xor (TakesTerminator (cursor s n) (cursor s (n + 1)))
        (TakesNulls (cursor s n) (cursor s (n + 1))))
    ∧ (∀ n, returned s n = none → TakesNulls (cursor s n) (cursor s (n + 1)) →
      ∀ m, n < m → returned s m = none ∧ cursor s (m + 1) = cursor s m)
    ∧ (∀ n, Advances s n → (cursor s (n + 1)).length < (cursor s n).length)
    ∧ ∀ calls : List Nat, calls.Pairwise (· < ·) → (∀ n ∈ calls, Advances s n) →
      calls.length ≤ s.length
  := by
  refine ⟨?_, ?_, ?_, ?_, ?_, ?_⟩
  · intro n
    apply next_snd_suffix
  · intro n b hb
    apply takesBlock_of_next
    rw [next_cursor, hb]
  · intro n hnone
    have hnext := next_cursor s n
    rw [hnone] at hnext
    rcases takes_of_next_eq_none hnext with hterminator | ⟨hnulls, -⟩
    · left
      exact ⟨hterminator, hterminator.not_takesNulls⟩
    · right
      exact ⟨hnulls, fun hterminator => hterminator.not_takesNulls hnulls⟩
  · intro n hnone hnulls m hm
    have hnext := next_cursor s n
    rw [hnone] at hnext
    have hstuck : next (cursor s (n + 1)) = (none, cursor s (n + 1)) := by
      rcases takes_of_next_eq_none hnext with hterminator | ⟨-, hstuck⟩
      · exact absurd hnulls hterminator.not_takesNulls
      · exact hstuck
    have hcursor : cursor s m = cursor s (n + 1) := cursor_of_stuck hstuck hm
    rw [returned, cursor, hcursor, hstuck]
    exact ⟨rfl, rfl⟩
  · intro n hadvances
    apply hadvances.length_lt
  · intro calls hcalls hadvances
    apply length_le_of_advances (n := 0) _ hcalls hadvances
    intro m _
    apply Nat.zero_le

/-- Two blocks, of which the second stands behind a terminator and null bytes, and then a block
whose value is cut short: the fourth call is stuck in front of it. -/
theorem cursor_run_past_terminator :
  let cut : Bytes := [0x03, 0x05, 0x01]
  let s : Bytes := [0x00, 0x03, 0x01, 0xFE, 0x00, 0xFE, 0x00, 0x01, 0x00, 0x00] ++ cut
  returned s 0 = some ⟨0x03, false, [0xFE]⟩
    ∧ TakesBlock ⟨0x03, false, [0xFE]⟩ (cursor s 0) (cursor s 1)
    ∧ returned s 1 = none
    ∧ Xor (TakesTerminator (cursor s 1) (cursor s 2)) (TakesNulls (cursor s 1) (cursor s 2))
    ∧ Advances s 1 ∧ (cursor s 2).length < (cursor s 1).length
    ∧ returned s 2 = some ⟨0x01, false, []⟩ ∧ cursor s 4 = cut
    ∧ (∀ m, 3 < m → returned s m = none ∧ cursor s (m + 1) = cursor s m)
    ∧ [0, 1, 2].length ≤ s.length
  := by
  intro cut s
  obtain ⟨-, hblock, hnone, hstuck, hshorter, hcalls⟩ := cursor_run s
  have hfirst : returned s 0 = some ⟨0x03, false, [0xFE]⟩ := by decide
  have hterminator : returned s 1 = none := by decide
  have hthird : returned s 2 = some ⟨0x01, false, []⟩ := by decide
  have hadvances : Advances s 1 := .inr ⟨1, by decide⟩
  refine ⟨hfirst, hblock 0 _ hfirst, hterminator, hnone 1 hterminator, hadvances,
    hshorter 1 hadvances, hthird, by decide, ?_, ?_⟩
  · apply hstuck 3 (by decide)
    exact ⟨1, by decide⟩
  · apply hcalls [0, 1, 2] (by decide)
    simp only [List.forall_mem_cons]
    exact ⟨.inl (by simp [hfirst]), hadvances, .inl (by simp [hthird]), List.forall_mem_nil _⟩

end Area

end Ndef
