import ServerNaive.Async.Stream

/-! The receiving end of a queue between tasks. -/
namespace AsyncIo

/-- A receiver of the messages `queue`, sent already or later, which makes its caller wait at will.
Once the sender is gone and the messages are taken it is closed for good. -/
class Receiver (C : Type) (α : outParam Type) where
  pollRecv : C → C × Poll (Option α)
  queue : C → List α
  Closed : C → Prop
  pending_queue : ∀ {c c'}, pollRecv c = (c', .pending) → queue c' = queue c
  some_queue : ∀ {c c' a}, pollRecv c = (c', .ready (some a)) → queue c = a :: queue c'
  none_queue : ∀ {c c'}, pollRecv c = (c', .ready none) → queue c = [] ∧ Closed c'
  closed_queue : ∀ {c}, Closed c → queue c = []
  closed_none : ∀ {c}, Closed c → (pollRecv c).2 = .ready none

namespace Receiver

variable {C α : Type} [Receiver C α]

/-- `c'` is `c` after some messages have been taken out of it. -/
def Takes (c c' : C) : Prop := Relation.ReflTransGen (fun c c' => ∃ a, pollRecv c = (c', .ready (some a))) c c'

/-- Messages are taken out of `c` until it makes its caller wait, as `last`. -/
def Waits (c last : C) : Prop := ∃ c', Takes c c' ∧ pollRecv c' = (last, .pending)

theorem Waits.after {c c' last : C} (taken : Takes c c') (h : Waits c' last) : Waits c last := by
  obtain ⟨c'', more, waits⟩ := h
  exact ⟨c'', taken.trans more, waits⟩

end Receiver

/-- A receiver whose answers are known: `none` makes its caller wait. -/
structure PacedReceiver (α : Type) where
  answers : List (Option α)
  dropped : Bool
  deriving DecidableEq

namespace PacedReceiver

variable {α : Type}

def pollRecv (c : PacedReceiver α) : PacedReceiver α × Poll (Option α) :=
  match c.answers with
  | none :: answers => ({ c with answers }, .pending)
  | some a :: answers => ({ c with answers }, .ready (some a))
  | [] => (c, if c.dropped then .ready none else .pending)

instance : Receiver (PacedReceiver α) α where
  pollRecv := pollRecv
  queue c := c.answers.filterMap id
  Closed c := c.answers = [] ∧ c.dropped = true
  pending_queue {c c'} h := by
    unfold pollRecv at h
    split at h
    · rename_i answers same
      cases h
      rw [same]
      rfl
    · cases h
    · split_ifs at h <;> cases h
      rfl
  some_queue {c c' a} h := by
    unfold pollRecv at h
    split at h
    · cases h
    · rename_i answers same
      cases h
      rw [same]
      rfl
    · split_ifs at h <;> cases h
  none_queue {c c'} h := by
    unfold pollRecv at h
    split at h
    · cases h
    · cases h
    · rename_i same
      split_ifs at h with gone
      · cases h
        exact ⟨by rw [same]; rfl, same, gone⟩
      · cases h
  closed_queue {c} closed := by
    rw [closed.1]
    rfl
  closed_none {c} closed := by
    unfold pollRecv
    rw [closed.1, closed.2]
    rfl

end PacedReceiver

end AsyncIo
