/-!
# Byte strings

Byte strings are lists of bytes.  `Bytes.ofNat` writes a number in a fixed number
of bytes, the most significant first, and `Bytes.toNat` reads it back.
`Bytes.split?` cuts off a given number of bytes, and fails when there are fewer.
-/

namespace Ndef

/-- A byte string. -/
abbrev Bytes := List UInt8

namespace Bytes

/-- How many numbers can be written in `k` bytes. -/
def capacity : Nat → Nat
  | 0 => 1
  | k + 1 => 256 * capacity k

/-- The number that a byte string writes, most significant byte first. -/
def toNat : Bytes → Nat
  | [] => 0
  | x :: r => x.toNat * capacity r.length + toNat r

/-- The last `k` bytes of a number, most significant byte first. -/
def ofNat : Nat → Nat → Bytes
  | 0, _ => []
  | k + 1, n => UInt8.ofNat (n / capacity k) :: ofNat k n

/-- The first `n` bytes and the rest, if there are `n` bytes. -/
def split? (n : Nat) (b : Bytes) : Option (Bytes × Bytes) :=
  let front := b.take n
  if front.length = n then some (front, b.drop n) else none

/-- What holds of the bytes from `0x00` to `0xFF`, one by one, holds of every byte. -/
theorem forall_byte {P : UInt8 → Prop} (h : ∀ n < 0x100, P (UInt8.ofNat n)) (b : UInt8) :
  P b
  := by
  have hb := h b.toNat b.toNat_lt
  rwa [UInt8.ofNat_toNat] at hb

theorem capacity_pos (k : Nat) :
  0 < capacity k
  := by
  induction k with
  | zero => exact Nat.zero_lt_one
  | succ k ih =>
    rw [capacity]
    omega

@[simp] theorem length_ofNat (k n : Nat) :
  (ofNat k n).length = k
  := by
  induction k with
  | zero => rfl
  | succ k ih => simp [ofNat, ih]

theorem ofNat_one (n : Nat) :
  ofNat 1 n = [UInt8.ofNat n]
  := by
  rw [ofNat, ofNat, capacity, Nat.div_one]

/-- Writing keeps the number up to the bytes that do not fit. -/
theorem toNat_ofNat_mod (k n : Nat) :
  toNat (ofNat k n) = n % capacity k
  := by
  induction k with
  | zero => rw [ofNat, toNat, capacity, Nat.mod_one]
  | succ k ih =>
    rw [ofNat, toNat, ih, length_ofNat, UInt8.toNat_ofNat', capacity, Nat.mul_comm 256,
      Nat.mod_mul, Nat.mul_comm, Nat.add_comm]

/-- A number for which there is room is read back from its `k` bytes. -/
theorem toNat_ofNat {k n : Nat} (h : n < capacity k) :
  toNat (ofNat k n) = n
  := by
  rw [toNat_ofNat_mod, Nat.mod_eq_of_lt h]

theorem toNat_lt (b : Bytes) :
  toNat b < capacity b.length
  := by
  induction b with
  | nil => exact Nat.zero_lt_one
  | cons x r ih =>
    have hx : x.toNat + 1 ≤ 256 := x.toNat_lt
    have hmul := Nat.mul_le_mul_right (capacity r.length) hx
    rw [Nat.succ_mul] at hmul
    rw [toNat, List.length_cons, capacity]
    omega

theorem ofNat_mul_capacity_add (k n m : Nat) :
  ofNat k (m * capacity k + n) = ofNat k n
  := by
  induction k generalizing m with
  | zero => rfl
  | succ k ih =>
    have hsplit : m * capacity (k + 1) + n = m * 256 * capacity k + n := by
      rw [capacity, Nat.mul_assoc]
    rw [ofNat, ofNat, hsplit, ih, Nat.add_comm, Nat.add_mul_div_right _ _ (capacity_pos k)]
    congr 1
    apply UInt8.toNat_inj.mp
    rw [UInt8.toNat_ofNat', UInt8.toNat_ofNat']
    omega

/-- Bytes are recovered from their number and their count. -/
theorem ofNat_toNat (b : Bytes) :
  ofNat b.length (toNat b) = b
  := by
  induction b with
  | nil => rfl
  | cons x r ih =>
    rw [List.length_cons, ofNat, toNat, ofNat_mul_capacity_add, ih, Nat.add_comm,
      Nat.add_mul_div_right _ _ (capacity_pos r.length), Nat.div_eq_of_lt (toNat_lt r),
      Nat.zero_add, UInt8.ofNat_toNat]

theorem split?_eq_some_iff {n : Nat} {b front rest : Bytes} :
  split? n b = some (front, rest) ↔ b = front ++ rest ∧ front.length = n
  := by
  constructor
  · intro h
    simp only [split?] at h
    split at h
    · next hlen =>
      simp only [Option.some.injEq, Prod.mk.injEq] at h
      obtain ⟨rfl, rfl⟩ := h
      exact ⟨(List.take_append_drop n b).symm, hlen⟩
    · cases h
  · rintro ⟨rfl, rfl⟩
    simp [split?]

theorem split?_eq_none_iff {n : Nat} {b : Bytes} :
  split? n b = none ↔ b.length < n
  := by
  simp only [split?, List.length_take]
  split <;> simp <;> omega

theorem toNat_two (a b : UInt8) :
  toNat [a, b] = a.toNat * 0x100 + b.toNat
  := by
  simp [toNat, capacity]

end Bytes

end Ndef
