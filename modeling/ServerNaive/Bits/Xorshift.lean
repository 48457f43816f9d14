import Mathlib

/-! Generators that xor a word with a shifted copy of itself. Each such map is linear over single bits, so it
loses nothing as soon as no word but zero is its own shifted copy. -/
namespace Xorshift

variable {w : Nat}

def xorShl (k : Nat) (x : BitVec w) : BitVec w := x ^^^ x <<< k

def xorShr (k : Nat) (x : BitVec w) : BitVec w := x ^^^ x >>> k

/-- One step with the shifts `a`, `b` and `c`: left, right, left. -/
def step (a b c : Nat) (x : BitVec w) : BitVec w := xorShl c (xorShr b (xorShl a x))

/-- Two words with one image differ by a word that is its own copy. -/
theorem injective_of_additive {f : BitVec w → BitVec w} (additive : ∀ x y, f (x ^^^ y) = f x ^^^ f y)
    (unfixed : ∀ x, x = f x → x = 0#w) : Function.Injective fun x => x ^^^ f x := by
  intro x y same
  dsimp only at same
  have difference : (x ^^^ y) ^^^ f (x ^^^ y) = 0#w :=
    calc (x ^^^ y) ^^^ f (x ^^^ y) = (x ^^^ f x) ^^^ (y ^^^ f y) := by
          rw [additive]
          ac_rfl
      _ = 0#w := BitVec.xor_eq_zero_iff.mpr same
  have fixed := BitVec.xor_eq_zero_iff.mp difference
  exact BitVec.xor_eq_zero_iff.mp (unfixed _ fixed)

/-- Bit by bit from below: each bit is one that was seen to be zero, or shifted in. -/
theorem eq_zero_of_eq_shl {k : Nat} (moves : 0 < k) {x : BitVec w} (fixed : x = x <<< k) : x = 0#w := by
  have clear : ∀ i, x.getLsbD i = false := by
    intro i
    induction i using Nat.strong_induction_on with
    | _ i ih =>
        rw [fixed, BitVec.getLsbD_shiftLeft]
        by_cases low : i < k
        · simp [low]
        · simp [ih (i - k) (by omega)]
  apply BitVec.eq_of_getLsbD_eq
  intro i _
  rw [clear i, BitVec.getLsbD_zero]

/-- Bit by bit from above. -/
theorem eq_zero_of_eq_shr {k : Nat} (moves : 0 < k) {x : BitVec w} (fixed : x = x >>> k) : x = 0#w := by
  have clear : ∀ above i, w ≤ i + above → x.getLsbD i = false := by
    intro above
    induction above with
    | zero =>
        intro i outside
        exact BitVec.getLsbD_of_ge x i outside
    | succ above ih =>
        intro i within
        rw [fixed, BitVec.getLsbD_ushiftRight]
        exact ih (k + i) (by omega)
  apply BitVec.eq_of_getLsbD_eq
  intro i _
  rw [clear w i (Nat.le_add_left ..), BitVec.getLsbD_zero]

theorem xorShl_injective {k : Nat} (moves : 0 < k) : Function.Injective (xorShl k : BitVec w → BitVec w) :=
  injective_of_additive (fun x y => BitVec.shiftLeft_xor_distrib x y k) fun _ => eq_zero_of_eq_shl moves

theorem xorShr_injective {k : Nat} (moves : 0 < k) : Function.Injective (xorShr k : BitVec w → BitVec w) :=
  injective_of_additive (fun x y => BitVec.ushiftRight_xor_distrib x y k) fun _ => eq_zero_of_eq_shr moves

theorem step_injective {a b c : Nat} (first : 0 < a) (second : 0 < b) (third : 0 < c) :
    Function.Injective (step a b c : BitVec w → BitVec w) := by
  intro x y same
  apply xorShl_injective first
  apply xorShr_injective second
  exact xorShl_injective third same

end Xorshift
