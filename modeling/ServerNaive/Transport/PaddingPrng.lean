import ServerNaive.Bits.Xorshift
import ServerNaive.Transport.Padding

/-! Where the padding's random bytes come from: a word of the polling thread, seeded from the clock when it is
found to be zero. -/
namespace ServerNaive.ThreadRng
open AsyncIo

/-- The nanoseconds of the current second, unless the clock is before the epoch. -/
abbrev Clock := Option UInt32

/-- The word that an unseeded thread starts from. -/
def seed (clock : Clock) : UInt64 :=
  let nanos := (clock.getD 0x9e37).toUInt64
  let s := nanos ^^^ nanos <<< 17 ^^^ 0x9e3779b97f4a7c15
  if s = 0 then 0x9e3779b97f4a7c15 else s

def update (s : UInt64) : UInt64 :=
  let s := s ^^^ s <<< 13
  let s := s ^^^ s >>> 7
  s ^^^ s <<< 17

/-- The loop over a buffer of so many bytes. -/
def fill : Nat → UInt64 → UInt64 × Bytes
  | 0, s => (s, [])
  | n + 1, s => ((fill n (update s)).1, (update s).toUInt8 :: (fill n (update s)).2)

/-- `gen_random_bytes` on a thread whose word is `rng`. -/
def genRandomBytes (clock : Clock) (rng : UInt64) (n : Nat) : UInt64 × Bytes :=
  fill n (if rng = 0 then seed clock else rng)

/-- A call: the clock it would read, and the length of its buffer. -/
structure Draw where
  clock : Clock
  size : Nat

/-- The word after a number of calls. -/
def stored (rng : UInt64) (draws : List Draw) : UInt64 :=
  draws.foldl (fun rng draw => (genRandomBytes draw.clock rng draw.size).1) rng

/-- The bytes of a number of calls. -/
def drawn : UInt64 → List Draw → List Bytes
  | _, [] => []
  | rng, draw :: draws =>
      (genRandomBytes draw.clock rng draw.size).2 :: drawn (genRandomBytes draw.clock rng draw.size).1 draws

theorem toBitVec_update (s : UInt64) : (update s).toBitVec = Xorshift.step 13 7 17 s.toBitVec := by
  simp [update, Xorshift.step, Xorshift.xorShl, Xorshift.xorShr]

theorem update_injective : Function.Injective update := by
  intro s t same
  apply UInt64.toBitVec_inj.mp
  apply Xorshift.step_injective (a := 13) (b := 7) (c := 17) (by decide) (by decide) (by decide)
  rw [← toBitVec_update, ← toBitVec_update, same]

theorem update_eq_zero_iff (s : UInt64) : update s = 0 ↔ s = 0 := by
  have zero : update 0 = 0 := by decide
  constructor
  · intro sticks
    exact update_injective (sticks.trans zero.symm)
  · rintro rfl
    exact zero

theorem seed_ne_zero (clock : Clock) : seed clock ≠ 0 := by
  unfold seed
  dsimp only
  split_ifs with zero
  · decide
  · exact zero

theorem fill_ne_zero (n : Nat) {s : UInt64} (live : s ≠ 0) : (fill n s).1 ≠ 0 := by
  induction n generalizing s with
  | zero => exact live
  | succ n ih => exact ih fun sticks => live ((update_eq_zero_iff s).mp sticks)

/-- Every call leaves a word that no later call takes for unseeded. -/
theorem genRandomBytes_ne_zero (clock : Clock) (rng : UInt64) (n : Nat) : (genRandomBytes clock rng n).1 ≠ 0 := by
  apply fill_ne_zero
  split_ifs with unseeded
  · exact seed_ne_zero clock
  · exact unseeded

theorem stored_ne_zero {rng : UInt64} (live : rng ≠ 0) (draws : List Draw) : stored rng draws ≠ 0 := by
  induction draws generalizing rng with
  | nil => exact live
  | cons draw draws ih => exact ih (genRandomBytes_ne_zero draw.clock rng draw.size)

/-- The update loses no word and sticks at zero only, so that a thread's word is never zero once it has drawn,
whatever the clock reads and however many bytes each call asks for. -/
theorem rng_never_sticks :
    Function.Injective update ∧ (∀ s, update s = 0 ↔ s = 0) ∧
      ∀ draw draws, stored 0 (draw :: draws) ≠ 0 := by
  refine ⟨update_injective, update_eq_zero_iff, ?_⟩
  intro draw draws
  exact stored_ne_zero (genRandomBytes_ne_zero draw.clock 0 draw.size) draws

/-! A thread's bytes are one stream, fixed by the clock at its first call. This is what the transport is
given as its supply. -/

/-- The bytes of a seeded thread from here on. -/
def supply (s : UInt64) (i : Nat) : UInt8 := (update^[i + 1] s).toUInt8

theorem fill_eq (n : Nat) (s : UInt64) : fill n s = (update^[n] s, (List.range n).map (supply s)) := by
  induction n generalizing s with
  | zero => rfl
  | succ n ih =>
      have later : (fun i => supply (update s) i) = supply s ∘ Nat.succ := by
        funext i
        rfl
      rw [fill, ih, List.range_succ_eq_map, List.map_cons, List.map_map, ← later]
      rfl

/-- A call on a live thread is a draw from the supply, from where the thread stands. -/
theorem genRandomBytes_eq (clock : Clock) {s : UInt64} (live : s ≠ 0) (k n : Nat) :
    genRandomBytes clock (update^[k] s) n =
      (update^[k + n] s, (Rng.genRandomBytes ⟨supply s, k⟩ n).2) := by
  have still : update^[k] s ≠ 0 := by
    intro sticks
    apply live
    induction k with
    | zero => exact sticks
    | succ k ih =>
        rw [Function.iterate_succ_apply'] at sticks
        exact ih ((update_eq_zero_iff _).mp sticks)
  have further : supply (update^[k] s) = fun i => supply s (k + i) := by
    funext i
    rw [supply, supply, ← Function.iterate_add_apply, Nat.add_right_comm, Nat.add_comm i k]
  rw [genRandomBytes, if_neg still, fill_eq, ← Function.iterate_add_apply, Nat.add_comm n k, further]
  rfl

/-- Draws of so many bytes each from one supply. -/
def takes (g : Rng) : List Nat → List Bytes
  | [] => []
  | n :: sizes => (g.genRandomBytes n).2 :: takes (g.genRandomBytes n).1 sizes

theorem drawn_live {s : UInt64} (live : s ≠ 0) (k : Nat) (draws : List Draw) :
    drawn (update^[k] s) draws = takes ⟨supply s, k⟩ (draws.map Draw.size) := by
  induction draws generalizing k with
  | nil => rfl
  | cons draw draws ih =>
      rw [drawn, genRandomBytes_eq draw.clock live, ih]
      rfl

/-- Only the first call reads the clock. -/
theorem drawn_unseeded (draw : Draw) (draws : List Draw) :
    drawn 0 (draw :: draws) = takes ⟨supply (seed draw.clock), 0⟩ ((draw :: draws).map Draw.size) := by
  have live := seed_ne_zero draw.clock
  have first : genRandomBytes draw.clock 0 draw.size = genRandomBytes draw.clock (update^[0] (seed draw.clock)) draw.size := by
    rw [genRandomBytes, genRandomBytes, if_pos rfl, Function.iterate_zero_apply, if_neg live]
  rw [drawn, first]
  exact drawn_live live 0 (draw :: draws)

end ServerNaive.ThreadRng
