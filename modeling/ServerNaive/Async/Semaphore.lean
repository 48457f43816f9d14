import Mathlib

/-! A counting semaphore, and the account of its permits. -/
namespace AsyncIo

structure Semaphore where
  available : Nat
  deriving DecidableEq

namespace Semaphore

def new (permits : Nat) : Semaphore := ⟨permits⟩

/-- One permit, if there is one; otherwise the caller waits. -/
def acquire (s : Semaphore) : Option Semaphore :=
  match s.available with
  | 0 => none
  | left + 1 => some ⟨left⟩

/-- A permit is dropped. -/
def release (s : Semaphore) : Semaphore := ⟨s.available + 1⟩

/-- Of so many permits, `held` are out. -/
def Accounts (permits held : Nat) (s : Semaphore) : Prop := s.available + held = permits

variable {permits held : Nat} {s s' : Semaphore}

theorem accounts_new (permits : Nat) : (new permits).Accounts permits 0 := Nat.add_zero permits

theorem Accounts.acquire (accounts : s.Accounts permits held) (acquired : s.acquire = some s') :
    s'.Accounts permits (held + 1) := by
  obtain ⟨available⟩ := s
  cases available with
  | zero => cases acquired
  | succ left =>
      cases acquired
      exact (Nat.succ_add_eq_add_succ left held).symm.trans accounts

theorem Accounts.release (accounts : s.Accounts permits (held + 1)) : s.release.Accounts permits held :=
  (Nat.succ_add_eq_add_succ s.available held).trans accounts

/-- No more permits are out than there are. -/
theorem Accounts.held_le (accounts : s.Accounts permits held) : held ≤ permits :=
  accounts ▸ Nat.le_add_left held s.available

end Semaphore

end AsyncIo
