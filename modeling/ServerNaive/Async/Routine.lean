import ServerNaive.Async.Task

/-! Async blocks as they stand between two awaits. A block awaits answers and makes calls that do not
wait. Whoever polls it runs it on to its next await, so it can be dropped there and nowhere else. -/
namespace AsyncIo

/-- What a block may await, what comes back unless it fails, and the calls it makes. -/
structure Awaits where
  Ask : Type
  Answer : Ask → Type
  Call : Type

inductive Routine (S : Awaits) (α : Type) where
  | done (value : α)
  | failed (e : IoError)
  | call (c : S.Call) (next : Routine S α)
  | await (q : S.Ask) (next : IoResult (S.Answer q) → Routine S α)

/-- An answer to whatever is awaited. -/
def Oracle (S : Awaits) := (q : S.Ask) → IoResult (S.Answer q)

/-- The answers that were given, and the calls that were made. -/
structure Log (S : Awaits) where
  answers : List ((q : S.Ask) × IoResult (S.Answer q))
  calls : List S.Call

/-- The calls are those due for the answers, in their order. -/
def Log.Exact {S : Awaits} (due : (q : S.Ask) → IoResult (S.Answer q) → List S.Call) (log : Log S) : Prop :=
  log.calls = log.answers.flatMap fun answer => due answer.1 answer.2

namespace Routine

variable {S : Awaits} {α β σ : Type}

def bind : Routine S α → (α → Routine S β) → Routine S β
  | .done value, k => k value
  | .failed e, _ => .failed e
  | .call c next, k => .call c (next.bind k)
  | .await q next, k => .await q fun answer => (next answer).bind k

instance : Monad (Routine S) where
  pure := .done
  bind := bind

def ask (q : S.Ask) : Routine S (IoResult (S.Answer q)) := .await q .done

/-- An await whose error is handed on by `?`. -/
def attempt (q : S.Ask) : Routine S (S.Answer q) :=
  .await q fun
    | .ok value => .done value
    | .error e => .failed e

def tell (c : S.Call) : Routine S Unit := .call c (.done ())

/-- The calls up to the next await, and the block there. -/
def settle : Routine S α → List S.Call × Routine S α
  | .call c next => (c :: next.settle.1, next.settle.2)
  | r => ([], r)

/-- A poll in which the answer is there. -/
def resume (oracle : Oracle S) (log : Log S) : Routine S α → Log S × Routine S α
  | .await q next =>
      (⟨log.answers ++ [⟨q, oracle q⟩], log.calls ++ (next (oracle q)).settle.1⟩, (next (oracle q)).settle.2)
  | r => (log, r)

/-! Blocks that owe certain calls for each answer, and pay them before they wait again. -/

section Pays

/-- From here, with the calls `owed`, every answer is paid for at once; `Q` holds of the result and of
what is still owed with it. -/
def Pays (due : (q : S.Ask) → IoResult (S.Answer q) → List S.Call) (Q : α → List S.Call → Prop) :
    Routine S α → List S.Call → Prop
  | .done value, owed => Q value owed
  | .failed _, owed => owed = []
  | .call c next, owed => ∃ rest, owed = c :: rest ∧ next.Pays due Q rest
  | .await q next, owed => owed = [] ∧ ∀ answer, (next answer).Pays due Q (due q answer)

variable {due : (q : S.Ask) → IoResult (S.Answer q) → List S.Call} {Q : α → List S.Call → Prop}
  {owed : List S.Call}

theorem pays_bind {m : Routine S β} {k : β → Routine S α}
    (h : m.Pays due (fun value rest => (k value).Pays due Q rest) owed) : (m >>= k).Pays due Q owed := by
  change (m.bind k).Pays due Q owed
  induction m generalizing owed with
  | done value => exact h
  | failed e => exact h
  | call c next ih =>
      obtain ⟨rest, paid, later⟩ := h
      exact ⟨rest, paid, ih later⟩
  | await q next ih =>
      obtain ⟨paid, later⟩ := h
      exact ⟨paid, fun answer => ih answer (later answer)⟩

/-- An error that is handed on must be free. -/
theorem pays_attempt {q : S.Ask} {Q : S.Answer q → List S.Call → Prop} (free : ∀ e, due q (.error e) = [])
    (next : ∀ value, Q value (due q (.ok value))) : (attempt q).Pays due Q [] := by
  refine ⟨rfl, fun answer => ?_⟩
  cases answer with
  | ok value => exact next value
  | error e => exact free e

theorem pays_tell {c : S.Call} {Q : Unit → List S.Call → Prop} (next : Q () []) : (tell c).Pays due Q [c] :=
  ⟨[], rfl, next⟩

/-- A block that owes nothing where it stands, and ends owing nothing. -/
def Settled (due : (q : S.Ask) → IoResult (S.Answer q) → List S.Call) (r : Routine S α) : Prop :=
  r.Pays due (fun _ rest => rest = []) []

theorem settle_pays {r : Routine S α} (h : r.Pays due (fun _ rest => rest = []) owed) :
    r.settle.1 = owed ∧ r.settle.2.Settled due := by
  induction r generalizing owed with
  | done value => exact ⟨h.symm, rfl⟩
  | failed e => exact ⟨h.symm, rfl⟩
  | call c next ih =>
      obtain ⟨rest, rfl, later⟩ := h
      obtain ⟨paid, settled⟩ := ih later
      exact ⟨congrArg (c :: ·) paid, settled⟩
  | await q next ih => exact ⟨h.1.symm, rfl, h.2⟩

theorem resume_exact {r : Routine S α} {log : Log S} (oracle : Oracle S) (settled : r.Settled due)
    (exact_so_far : log.Exact due) : (r.resume oracle log).1.Exact due ∧ (r.resume oracle log).2.Settled due := by
  cases r with
  | done value => exact ⟨exact_so_far, settled⟩
  | failed e => exact ⟨exact_so_far, settled⟩
  | call c next =>
      obtain ⟨rest, absurd_list, -⟩ := settled
      cases absurd_list
  | await q next =>
      obtain ⟨paid, still⟩ := settle_pays (settled.2 (oracle q))
      refine ⟨?_, still⟩
      change log.calls ++ (next (oracle q)).settle.1 = (log.answers ++ [_]).flatMap _
      rw [paid, exact_so_far, List.flatMap_append, List.flatMap_singleton]

end Pays

/-! The task that a block becomes when tasks answer what it awaits. -/

section Interpret

variable (answer : (q : S.Ask) → Task σ IoError (S.Answer q)) (perform : S.Call → Task σ IoError Unit)

def interpret : Routine S α → Task σ IoError α
  | .done value => pure value
  | .failed e => Task.fail e
  | .call c next => do
      perform c
      next.interpret
  | .await q next => fun fuel s => match answer q fuel s with
      | .done value s fuel => (next (.ok value)).interpret fuel s
      | .failed e s fuel => (next (.error e)).interpret fuel s
      | .cut s => .cut s

theorem interpret_bind (m : Routine S β) (k : β → Routine S α) :
    (m >>= k).interpret answer perform =
      (m.interpret answer perform >>= fun value => (k value).interpret answer perform) := by
  change (m.bind k).interpret answer perform = Task.bind _ _
  induction m with
  | done value => rfl
  | failed e => rfl
  | call c next ih =>
      funext fuel s
      change Task.bind (perform c) (fun _ => (next.bind k).interpret answer perform) fuel s =
        Task.bind (Task.bind (perform c) fun _ => next.interpret answer perform) _ fuel s
      rw [ih]
      simp only [Task.bind]
      cases perform c fuel s <;> rfl
  | await q next ih =>
      funext fuel s
      simp only [bind, interpret, Task.bind, ih]
      cases answer q fuel s <;> rfl

theorem interpret_ask (q : S.Ask) : (ask q).interpret answer perform = (answer q).caught := by
  funext fuel s
  simp only [ask, interpret, Task.caught]
  cases answer q fuel s <;> rfl

theorem interpret_attempt (q : S.Ask) : (attempt q).interpret answer perform = answer q := by
  funext fuel s
  simp only [attempt, interpret]
  cases answer q fuel s <;> rfl

theorem interpret_tell (c : S.Call) : (tell c).interpret answer perform = perform c := by
  funext fuel s
  change Task.bind (perform c) (fun _ => pure ()) fuel s = perform c fuel s
  simp only [Task.bind]
  cases perform c fuel s <;> rfl

end Interpret

end Routine

end AsyncIo
