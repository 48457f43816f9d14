import Mathlib.Data.List.Basic

/-! One direction of an in-memory pipe of bounded capacity, over any data that moves in pieces. -/
namespace AsyncIo

/-- Data that moves in pieces: lists, or only their lengths. -/
class Chunk (γ : Type) where
  size : γ → Nat
  empty : γ
  unit : γ
  append : γ → γ → γ
  take : Nat → γ → γ
  drop : Nat → γ → γ
  size_empty : size empty = 0
  size_unit : size unit = 1
  size_append : ∀ a b, size (append a b) = size a + size b
  size_take : ∀ n a, size (take n a) = min n (size a)
  size_drop : ∀ n a, size (drop n a) = size a - n

namespace Chunk

attribute [simp] size_empty size_unit size_append size_take size_drop

instance {α : Type} [Inhabited α] : Chunk (List α) where
  size := List.length
  empty := []
  unit := [default]
  append := List.append
  take := List.take
  drop := List.drop
  size_empty := rfl
  size_unit := rfl
  size_append _ _ := List.length_append
  size_take _ _ := List.length_take
  size_drop _ _ := List.length_drop

instance : Chunk Nat where
  size n := n
  empty := 0
  unit := 1
  append := Nat.add
  take := min
  drop n a := a - n
  size_empty := rfl
  size_unit := rfl
  size_append _ _ := rfl
  size_take _ _ := rfl
  size_drop _ _ := rfl

/-- The size of a queue of pieces. -/
def total {γ : Type} [Chunk γ] (queue : List γ) : Nat :=
  queue.foldr (fun chunk n => size chunk + n) 0

section Total

variable {γ : Type} [Chunk γ]

@[simp] theorem total_nil : total ([] : List γ) = 0 := rfl

@[simp] theorem total_cons (chunk : γ) (queue : List γ) : total (chunk :: queue) = size chunk + total queue :=
  rfl

end Total

end Chunk

open Chunk

/-- What was written and not yet read. Either end closes it: a closed pipe takes no more, and
ends once it has been read. -/
structure Pipe (γ : Type) where
  data : γ
  closed : Bool
  deriving DecidableEq

namespace Pipe

variable {γ : Type}

def close (p : Pipe γ) : Pipe γ := { p with closed := true }

@[simp] theorem close_data (p : Pipe γ) : p.close.data = p.data := rfl

@[simp] theorem close_closed (p : Pipe γ) : p.close.closed = true := rfl

variable [Chunk γ]

def new : Pipe γ := ⟨empty, false⟩

def room (capacity : Nat) (p : Pipe γ) : Nat := capacity - size p.data

def write (p : Pipe γ) (chunk : γ) : Pipe γ := { p with data := append p.data chunk }

/-- The pipe after `n` were read. -/
def read (p : Pipe γ) (n : Nat) : Pipe γ := { p with data := drop n p.data }

@[simp] theorem size_write (p : Pipe γ) (chunk : γ) : size (p.write chunk).data = size p.data + size chunk :=
  size_append _ _

@[simp] theorem write_closed (p : Pipe γ) (chunk : γ) : (p.write chunk).closed = p.closed := rfl

@[simp] theorem size_read (p : Pipe γ) (n : Nat) : size (p.read n).data = size p.data - n := size_drop _ _

@[simp] theorem read_closed (p : Pipe γ) (n : Nat) : (p.read n).closed = p.closed := rfl

end Pipe

end AsyncIo
