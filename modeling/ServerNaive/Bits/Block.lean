import Mathlib

/-! Blocks of numbers that share their leading bits, and the masks that test for them. -/
namespace BitBlock

/-- The numbers that agree with `base` but for their last `free` bits. -/
structure Block where
  base : Nat
  free : Nat
  aligned : 2 ^ free ∣ base

namespace Block

def Contains (b : Block) (n : Nat) : Prop := b.base ≤ n ∧ n < b.base + 2 ^ b.free

instance (b : Block) (n : Nat) : Decidable (b.Contains n) := inferInstanceAs (Decidable (_ ∧ _))

theorem contains_iff (b : Block) (n : Nat) : b.Contains n ↔ n / 2 ^ b.free = b.base / 2 ^ b.free := by
  have positive : 0 < 2 ^ b.free := Nat.two_pow_pos b.free
  obtain ⟨k, multiple⟩ := b.aligned
  rw [Contains, multiple, Nat.mul_div_cancel_left k positive]
  constructor
  · rintro ⟨low, high⟩
    refine Nat.div_eq_of_lt_le ?_ ?_
    · rw [Nat.mul_comm]
      exact low
    · rw [Nat.succ_mul, Nat.mul_comm]
      exact high
  · rintro rfl
    exact ⟨Nat.mul_div_le n _, Nat.lt_mul_div_succ n positive⟩

end Block

/-- A mask of leading bits clears the others. -/
theorem and_mask {w k x : Nat} (inside : k ≤ w) (small : x < 2 ^ w) : x &&& (2 ^ w - 2 ^ k) = x / 2 ^ k * 2 ^ k := by
  have mask : 2 ^ w - 2 ^ k = (2 ^ (w - k) - 1) <<< k := by
    rw [Nat.shiftLeft_eq, Nat.sub_mul, Nat.one_mul, ← Nat.pow_add, Nat.sub_add_cancel inside]
  have split : x / 2 ^ k * 2 ^ k = (x >>> k) <<< k := by
    rw [Nat.shiftLeft_eq, Nat.shiftRight_eq_div_pow]
  rw [mask, split]
  apply Nat.eq_of_testBit_eq
  intro i
  rw [Nat.testBit_and, Nat.testBit_shiftLeft, Nat.testBit_shiftLeft, Nat.testBit_shiftRight,
    Nat.testBit_two_pow_sub_one]
  by_cases low : i < k
  · simp [Nat.not_le.mpr low]
  · have high : k ≤ i := Nat.not_lt.mp low
    have whole : k + (i - k) = i := Nat.add_sub_cancel' high
    by_cases top : i < w
    · have within : i - k < w - k := by omega
      simp [high, whole, within]
    · have clear : x.testBit i = false :=
        Nat.testBit_lt_two_pow (small.trans_le (Nat.pow_le_pow_right Nat.two_pos (Nat.not_lt.mp top)))
      simp [whole, clear]

end BitBlock
