import Mathlib

/-! Loops whose body may leave early. A pass of the body either goes round again
with a new state or leaves with a state and a result. The fuel only bounds how
many passes are looked at: running out of it is reported as the state the next
pass would start from, never as a result. -/
namespace AsyncIo

/-- What one pass of a loop body does. -/
inductive Pass (σ ρ : Type) where
  | again (s : σ)
  | leave (s : σ) (r : ρ)
  deriving DecidableEq, Repr

variable {σ ρ : Type}

/-- `I` of the state that goes round again, or `Q` of the state and result that leave. -/
def Pass.Holds (I : σ → Prop) (Q : σ → ρ → Prop) : Pass σ ρ → Prop
  | .again s => I s
  | .leave s r => Q s r

@[simp] theorem Pass.holds_again (I : σ → Prop) (Q : σ → ρ → Prop) (s : σ) :
    (Pass.again s).Holds I Q ↔ I s := Iff.rfl

@[simp] theorem Pass.holds_leave (I : σ → Prop) (Q : σ → ρ → Prop) (s : σ) (r : ρ) :
    (Pass.leave s r).Holds I Q ↔ Q s r := Iff.rfl

theorem Pass.Holds.imp {I J : σ → Prop} {Q R : σ → ρ → Prop} {p : Pass σ ρ}
    (h : p.Holds I Q) (hI : ∀ s, I s → J s) (hQ : ∀ s r, Q s r → R s r) : p.Holds J R := by
  cases p with
  | again s => exact hI s h
  | leave s r => exact hQ s r h

theorem Pass.Holds.and {I J : σ → Prop} {Q R : σ → ρ → Prop} {p : Pass σ ρ}
    (h : p.Holds I Q) (k : p.Holds J R) :
    p.Holds (fun s => I s ∧ J s) (fun s r => Q s r ∧ R s r) := by
  cases p with
  | again s => exact ⟨h, k⟩
  | leave s r => exact ⟨h, k⟩

def loop (body : σ → Pass σ ρ) : Nat → σ → Pass σ ρ
  | 0, s => .again s
  | fuel + 1, s => match body s with
      | .again next => loop body fuel next
      | .leave last r => .leave last r

/-- An invariant of the body holds wherever the loop is stopped, and what each
leaving pass establishes holds of the result. -/
theorem loop_holds {body : σ → Pass σ ρ} {I : σ → Prop} {Q : σ → ρ → Prop}
    (step : ∀ s, I s → (body s).Holds I Q) (fuel : Nat) {s : σ} (start : I s) :
    (loop body fuel s).Holds I Q := by
  induction fuel generalizing s with
  | zero => exact start
  | succ fuel ih =>
      have one := step s start
      rw [loop]
      cases same : body s with
      | again next =>
          rw [same] at one
          exact ih one
      | leave last r =>
          rw [same] at one
          exact one

/-- A measure that falls on every pass that goes round again bounds the passes. -/
theorem loop_leaves {body : σ → Pass σ ρ} {I : σ → Prop} {Q : σ → ρ → Prop}
    (measure : σ → Nat)
    (step : ∀ s, I s → (body s).Holds (fun next => I next ∧ measure next < measure s) Q)
    {fuel : Nat} {s : σ} (start : I s) (enough : measure s < fuel) :
    ∃ last r, loop body fuel s = .leave last r ∧ Q last r := by
  induction fuel generalizing s with
  | zero => exact absurd enough (Nat.not_lt_zero _)
  | succ fuel ih =>
      have one := step s start
      rw [loop]
      cases same : body s with
      | again next =>
          rw [same] at one
          exact ih one.1 (by have := one.2; omega)
      | leave last r =>
          rw [same] at one
          exact ⟨last, r, rfl, one⟩

/-- The result of a loop that is known to leave within `fuel` passes; `stuck` stands for
the outcome that `runLoop_holds` excludes. -/
def runLoop (body : σ → Pass σ ρ) (fuel : Nat) (stuck : ρ) (s : σ) : σ × ρ :=
  match loop body fuel s with
  | .again last => (last, stuck)
  | .leave last r => (last, r)

theorem runLoop_holds {body : σ → Pass σ ρ} {I : σ → Prop} {Q : σ → ρ → Prop}
    (measure : σ → Nat)
    (step : ∀ s, I s → (body s).Holds (fun next => I next ∧ measure next < measure s) Q)
    {fuel : Nat} {s last : σ} {stuck r : ρ} (start : I s) (enough : measure s < fuel)
    (ran : runLoop body fuel stuck s = (last, r)) : Q last r := by
  obtain ⟨_, _, same, final⟩ := loop_leaves measure step start enough
  rw [runLoop, same] at ran
  cases ran
  exact final

/-- A loop that has left stays where it is, however long it is looked at. -/
theorem loop_of_le {body : σ → Pass σ ρ} {fuel more : Nat} (le : fuel ≤ more) {s last : σ} {r : ρ}
    (left : loop body fuel s = .leave last r) : loop body more s = .leave last r := by
  induction fuel generalizing s more with
  | zero => cases left
  | succ fuel ih =>
      obtain ⟨more, rfl⟩ := Nat.exists_eq_succ_of_ne_zero (Nat.ne_of_gt (Nat.lt_of_lt_of_le (Nat.succ_pos fuel) le))
      rw [loop] at left ⊢
      cases one : body s with
      | again next =>
          simp only [one] at left ⊢
          exact ih (Nat.le_of_succ_le_succ le) left
      | leave last r =>
          simp only [one] at left ⊢
          exact left

/-- With a measure that falls, the loop ends by itself, and with the result that the bounded one gives. -/
theorem loop_eq_runLoop {body : σ → Pass σ ρ} (measure : σ → Nat)
    (step : ∀ s, (body s).Holds (fun next => measure next < measure s) fun _ _ => True) {fuel more : Nat} {s : σ}
    (enough : measure s < fuel) (le : fuel ≤ more) (stuck : ρ) :
    loop body more s = .leave (runLoop body fuel stuck s).1 (runLoop body fuel stuck s).2 := by
  obtain ⟨last, r, left, -⟩ := loop_leaves (I := fun _ => True) (Q := fun _ _ => True) measure
    (fun s _ => (step s).imp (fun _ less => ⟨trivial, less⟩) fun _ _ done => done) trivial enough
  rw [loop_of_le le left, runLoop, left]

/-! Loops over states that one map relates. -/

section Map

variable {τ : Type}

def Pass.map (f : σ → τ) : Pass σ ρ → Pass τ ρ
  | .again s => .again (f s)
  | .leave s r => .leave (f s) r

theorem loop_map {body : σ → Pass σ ρ} {body' : τ → Pass τ ρ} {f : σ → τ}
    (commutes : ∀ s, body' (f s) = (body s).map f) (fuel : Nat) (s : σ) :
    loop body' fuel (f s) = (loop body fuel s).map f := by
  induction fuel generalizing s with
  | zero => rfl
  | succ fuel ih =>
      rw [loop, loop, commutes]
      cases body s with
      | again next => exact ih next
      | leave last r => rfl

theorem runLoop_map {body : σ → Pass σ ρ} {body' : τ → Pass τ ρ} {f : σ → τ}
    (commutes : ∀ s, body' (f s) = (body s).map f) (fuel : Nat) (stuck : ρ) (s : σ) :
    runLoop body' fuel stuck (f s) = (f (runLoop body fuel stuck s).1, (runLoop body fuel stuck s).2) := by
  rw [runLoop, runLoop, loop_map commutes]
  cases loop body fuel s with
  | again last => rfl
  | leave last r => rfl

end Map

end AsyncIo
