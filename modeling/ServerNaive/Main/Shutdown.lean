import ServerNaive.Handler.Service

/-! The end of the process: the task that waits for a signal, and `main` from its `select!` over the
server on. The handlers and the user sync keep running beside them. -/
namespace ServerNaive
open AsyncIo

/-- The spawned task that waits for SIGINT, SIGTERM or the token. -/
inductive Listener where
  | starting
  | listening
  | woken
  | returned
  | panicked
  deriving DecidableEq

/-- `main` after its `select!` over the server. `cancel_all` and `connections.len()` take one shard at a
time. `drained` says how the drain ended: with no connection left, or at its deadline. -/
inductive MainPhase where
  | serving
  | stopped
  | cancelling (shard cancelled : Nat)
  | counting (deadline shard remaining : Nat)
  | sleeping (deadline wake : Nat)
  | joining (drained : Bool)
  | unregistering (drained : Bool)
  | closing (drained : Bool)
  | ended (drained : Bool)
  deriving DecidableEq

/-- In milliseconds. -/
def drainTimeout : Nat := 5000

def drainInterval : Nat := 100

/-- The process, with the history that statements refer to: the registrations that had completed when
`cancel_all` began and when the connections were last gone through, the time at which the drain began and
the number of its sleeps. -/
structure Process (n : Nat) where
  service : Service n
  main : MainPhase
  listener : Listener
  cancelToken : Bool
  now : Nat
  due : List (Registration (Option (Fin n)))
  counted : List (Registration (Option (Fin n)))
  began : Nat
  sleeps : Nat

/-- One atomic step of the process. `fails` is a signal handler that could not be set up. -/
inductive ProcessEvent (n : Nat) where
  | service (e : Event n)
  | serverReturns
  | main
  | listen
  | signal
  | fails
  | tick

namespace ConnectionManager

/-- `len()` of one shard. -/
def shardLen (m : ConnectionManager) (shardOf : ConnectionId → Nat) (shard : Nat) : Nat :=
  (m.connections.keys.filter (shardOf · = shard)).card

end ConnectionManager

namespace Process

variable {n : Nat}

def new (users : Credential → Option UserId) : Process n where
  service := .new users
  main := .serving
  listener := .starting
  cancelToken := false
  now := 0
  due := []
  counted := []
  began := 0
  sleeps := 0

/-- The registrations that have completed. -/
def registrations (p : Process n) : List (Registration (Option (Fin n))) := p.service.system.registrations

def manager (p : Process n) : ConnectionManager := p.service.system.manager

variable (shards : Nat) (shardOf : ConnectionId → Nat)

def cancelShard (p : Process n) (shard : Nat) : Service n :=
  { p.service with
    system := { p.service.system with
      manager := p.manager.cancelShard shardOf shard
      swept := p.service.system.swept ∪ p.manager.shardTokens shardOf shard } }

/-- The next step of `main`. -/
def mainStep (p : Process n) : Option (Process n) :=
  match p.main with
  | .serving => if p.cancelToken then some { p with main := .stopped } else none
  | .stopped => some { p with
      main := .cancelling 0 0
      cancelToken := true
      due := p.registrations
      counted := p.registrations }
  | .cancelling shard cancelled =>
      if shard < shards then some { p with
        service := p.cancelShard shardOf shard
        main := .cancelling (shard + 1) (cancelled + p.manager.shardLen shardOf shard) }
      else if 0 < cancelled then some { p with
        main := .counting (p.now + drainTimeout) 0 0
        counted := p.registrations
        began := p.now }
      else some { p with main := .joining true }
  | .counting deadline shard remaining =>
      if shard < shards then some { p with
        main := .counting deadline (shard + 1) (remaining + p.manager.shardLen shardOf shard) }
      else if remaining = 0 then some { p with main := .joining true }
      else if deadline ≤ p.now then some { p with main := .joining false }
      else some { p with main := .sleeping deadline (p.now + drainInterval), sleeps := p.sleeps + 1 }
  | .sleeping deadline wake =>
      if wake ≤ p.now then some { p with main := .counting deadline 0 0, counted := p.registrations }
      else none
  -- `shutdown_handle.await`: a task that panicked leaves the node registered
  | .joining drained => match p.listener with
      | .returned => some { p with main := .unregistering drained }
      | .panicked => some { p with main := .ended drained }
      | _ => none
  | .unregistering drained => some { p with main := .closing drained }
  | .closing drained => some { p with main := .ended drained }
  | .ended _ => none

/-- The next step of the task that waits for a signal. -/
def listenStep (p : Process n) : Option (Process n) :=
  match p.listener with
  | .starting => some { p with listener := .listening }
  | .listening => if p.cancelToken then some { p with listener := .woken } else none
  | .woken => some { p with listener := .returned, cancelToken := true }
  | .returned => none
  | .panicked => none

def step (p : Process n) : ProcessEvent n → Option (Process n)
  | .service e => (p.service.step shards shardOf e).map fun service => { p with service }
  | .serverReturns => match p.main with
      | .serving => some { p with main := .stopped }
      | _ => none
  | .main => p.mainStep shards shardOf
  | .listen => p.listenStep
  | .signal => match p.listener with
      | .listening => some { p with listener := .woken }
      | _ => none
  | .fails => match p.listener with
      | .starting => some { p with listener := .panicked }
      | _ => none
  | .tick => some { p with now := p.now + 1 }

variable {shards : Nat} {shardOf : ConnectionId → Nat} {p p' : Process n}

/-- What an event does to the process. -/
inductive Stepped (shards : Nat) (shardOf : ConnectionId → Nat) (p : Process n) : Process n → Prop
  | service {e : Event n} {service : Service n} (taken : p.service.step shards shardOf e = some service) :
      Stepped shards shardOf p { p with service }
  | main {p' : Process n} (taken : p.mainStep shards shardOf = some p') : Stepped shards shardOf p p'
  | stops (serving : p.main = .serving) : Stepped shards shardOf p { p with main := .stopped }
  | aside {listener : Listener} {cancelToken : Bool} {now : Nat} (later : p.now ≤ now)
      (held : p.cancelToken = true → cancelToken = true) :
      Stepped shards shardOf p { p with listener, cancelToken, now }

theorem step_stepped {e : ProcessEvent n} (stepped : p.step shards shardOf e = some p') :
    Stepped shards shardOf p p' := by
  cases e with
  | service e =>
      obtain ⟨service, taken, rfl⟩ := Option.map_eq_some_iff.mp stepped
      exact .service taken
  | main => exact .main stepped
  | serverReturns =>
      simp only [Process.step] at stepped
      split at stepped <;> cases stepped
      rename_i serving
      exact .stops serving
  | signal | fails =>
      simp only [Process.step] at stepped
      split at stepped <;> cases stepped
      exact .aside le_rfl id
  | listen =>
      simp only [Process.step, listenStep] at stepped
      split at stepped
      · cases stepped
        exact .aside le_rfl id
      · split_ifs at stepped
        cases stepped
        exact .aside le_rfl id
      · cases stepped
        exact .aside le_rfl fun _ => rfl
      · cases stepped
      · cases stepped
  | tick =>
      cases stepped
      exact .aside (Nat.le_succ _) id

end Process

end ServerNaive
