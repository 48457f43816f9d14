import ServerNaive.Async.Semaphore
import ServerNaive.ConfigAuto
import ServerNaive.Handler.Holdings

/-! The two servers around the request handlers: which connections they accept, which streams they
serve, and how many tunnels `max_connections` lets them have at once. -/
namespace ServerNaive
open AsyncIo

/-- `run_h3_server_quiche` and `run_h2_server_pingora`. -/
inductive ServerBackend where
  | h3Quiche
  | h2Pingora
  deriving DecidableEq

/-- The limiter of connections. The server behind pingora has none: it logs the figure only. -/
def ServerBackend.connLimiter (maxConnections : Nat) : ServerBackend → Option Semaphore
  | .h3Quiche => if maxConnections > 0 then some (.new maxConnections) else none
  | .h2Pingora => none

/-- The accept loop waits for the listener, or for a permit for the connection it got from it. -/
inductive AcceptLoop where
  | listening
  | acquiring (k : Nat)
  | stopped
  deriving DecidableEq

/-- A server with its connections, numbered as they come. Each of the `running` ones has a task that
receives its events and holds its permit; `origin` says which of them a stream's handler was
spawned for. -/
structure Runner (n : Nat) where
  service : Service n
  limiter : Option Semaphore
  accept : AcceptLoop
  incoming : Nat
  running : Finset Nat
  origin : Fin n → Option Nat

inductive RunnerEvent (n : Nat) where
  | incoming
  | acceptError
  | listenerClosed
  | acquired
  /-- The headers of a new stream. -/
  | headers (k : Nat) (h : Fin n)
  /-- An error, a shutdown, or the end of the events. -/
  | closed (k : Nat)
  | serve (e : Event n)

/-- The handler that takes the step. -/
def Event.handler {n : Nat} : Event n → Option (Fin n)
  | .authenticate h _ | .route h _ | .respond h _ | .register h | .endRelay h | .advance h => some h
  | .replaceUsers _ _ | .kickNext | .syncAdvance | .syncVisit _ => none

namespace Runner

variable {n : Nat}

def start (backend : ServerBackend) (maxConnections : Nat) (users : Credential → Option UserId) : Runner n :=
  ⟨.new users, backend.connLimiter maxConnections, .listening, 0, ∅, fun _ => none⟩

/-- The task of a connection is spawned. -/
def spawn (r : Runner n) (k : Nat) (limiter : Option Semaphore) : Runner n :=
  { r with limiter, accept := .listening, running := insert k r.running }

def step (shards : Nat) (shardOf : ConnectionId → Nat) (r : Runner n) : RunnerEvent n → Option (Runner n)
  | .incoming => match r.accept with
      | .listening => some { r with accept := .acquiring r.incoming, incoming := r.incoming + 1 }
      | _ => none
  | .acceptError => match r.accept with
      | .listening => some r
      | _ => none
  | .listenerClosed => match r.accept with
      | .listening => some { r with accept := .stopped }
      | _ => none
  | .acquired => match r.accept, r.limiter with
      | .acquiring k, none => some (r.spawn k none)
      | .acquiring k, some limiter => limiter.acquire.map fun limiter => r.spawn k (some limiter)
      | _, _ => none
  | .headers k h =>
      if k ∈ r.running ∧ r.origin h = none then some { r with origin := Function.update r.origin h (some k) }
      else none
  | .closed k =>
      -- the permit is dropped with the task; the handlers of its streams are tasks of their own
      if k ∈ r.running then some { r with limiter := r.limiter.map .release, running := r.running.erase k }
      else none
  | .serve e =>
      if ∀ h ∈ e.handler, (r.origin h).isSome then (r.service.step shards shardOf e).map fun service => { r with service }
      else none

/-- A stream of the connection carries a tunnel. -/
def Carries (r : Runner n) (k : Nat) (h : Fin n) : Prop := r.origin h = some k ∧ (r.service.phase h).carries = true

instance (r : Runner n) (k : Nat) (h : Fin n) : Decidable (r.Carries k h) :=
  inferInstanceAs (Decidable (_ ∧ _))

end Runner

namespace RunnerEvent

variable {n : Nat}

def registers : RunnerEvent n → Option (Fin n)
  | .serve (.register h) => some h
  | _ => none

def closes : RunnerEvent n → Option Nat
  | .closed k => some k
  | _ => none

def opens : RunnerEvent n → Bool
  | .acquired => true
  | _ => false

end RunnerEvent

/-- Tunnels are no more than connections: a stream registers its tunnel only while its connection
runs and carries no other one, a connection ends only when it carries none, and where nothing else
counts connections there are never more than `m`. -/
structure Solitary {n : Nat} (backend : ServerBackend) (m : Nat) (r : Runner n) (e : RunnerEvent n) : Prop where
  alone : ∀ h ∈ e.registers, ∃ k ∈ r.running, r.origin h = some k ∧ ∀ h', ¬ r.Carries k h'
  empty : ∀ k ∈ e.closes, ∀ h, ¬ r.Carries k h
  counted : backend = .h2Pingora → e.opens = true → r.running.card < m

instance {n : Nat} (backend : ServerBackend) (m : Nat) (r : Runner n) (e : RunnerEvent n) :
    Decidable (Solitary backend m r e) :=
  decidable_of_iff ((∀ h ∈ e.registers, ∃ k ∈ r.running, r.origin h = some k ∧ ∀ h', ¬ r.Carries k h') ∧
      (∀ k ∈ e.closes, ∀ h, ¬ r.Carries k h) ∧ (backend = .h2Pingora → e.opens = true → r.running.card < m))
    ⟨fun ⟨alone, empty, counted⟩ => ⟨alone, empty, counted⟩, fun ⟨alone, empty, counted⟩ => ⟨alone, empty, counted⟩⟩

/-- How the connections of a server are counted, if they are. -/
def ServerBackend.Counts (m : Nat) (limiter : Option Semaphore) (running : Nat) : ServerBackend → Prop
  | .h3Quiche => ∃ semaphore, limiter = some semaphore ∧ semaphore.Accounts m running
  | .h2Pingora => limiter = none ∧ running ≤ m

theorem ServerBackend.Counts.running_le {backend : ServerBackend} {m running : Nat} {limiter : Option Semaphore}
    (counts : backend.Counts m limiter running) : running ≤ m := by
  cases backend with
  | h3Quiche =>
      obtain ⟨semaphore, -, accounts⟩ := counts
      exact accounts.held_le
  | h2Pingora => exact counts.2

namespace Runner

/-- What such runs keep. -/
structure Orderly {n : Nat} (backend : ServerBackend) (m : Nat) (r : Runner n) : Prop where
  tethered : Tethered r.service
  housed : r.service.Housed
  carried : ∀ h, (r.service.phase h).carries = true → ∃ k ∈ r.running, r.origin h = some k
  single : ∀ k h h', r.Carries k h → r.Carries k h' → h = h'
  numbered : ∀ k ∈ r.running, k < r.incoming ∧ r.accept ≠ .acquiring k
  awaited : ∀ k, r.accept = .acquiring k → k < r.incoming
  counted : backend.Counts m r.limiter r.running.card

namespace Orderly

variable {n : Nat} {shards : Nat} {shardOf : ConnectionId → Nat} {backend : ServerBackend} {m : Nat} {r r' : Runner n}

/-- The tunnels of an orderly server are at most its connections. -/
theorem count_le (orderly : r.Orderly backend m) : r.service.system.manager.connectionCount ≤ m := by
  have spread : (Finset.univ.filter fun h => (r.service.phase h).carries = true).card ≤ r.running.card := by
    refine Finset.card_le_card_of_injOn (fun h => (r.origin h).getD 0) ?_ ?_
    · intro h carries
      obtain ⟨k, running, from_⟩ := orderly.carried h (Finset.mem_filter.mp carries).2
      simp only [from_, Option.getD_some]
      exact running
    · intro h carries h' carries' same
      have its := (Finset.mem_filter.mp carries).2
      have others := (Finset.mem_filter.mp carries').2
      obtain ⟨k, -, from_⟩ := orderly.carried h its
      obtain ⟨k', -, from'⟩ := orderly.carried h' others
      simp only [from_, from', Option.getD_some] at same
      subst same
      exact orderly.single k h h' ⟨from_, its⟩ ⟨from', others⟩
  calc r.service.system.manager.connectionCount
      ≤ (Finset.univ.filter fun h => (r.service.phase h).carries = true).card :=
        orderly.housed.count_le orderly.tethered
    _ ≤ r.running.card := spread
    _ ≤ m := orderly.counted.running_le

theorem incoming (orderly : r.Orderly backend m) (stepped : r.step shards shardOf .incoming = some r') :
    r'.Orderly backend m := by
  simp only [step] at stepped
  split at stepped
  · cases stepped
    refine { orderly with numbered := ?_, awaited := ?_ }
    · intro k running
      have below := (orderly.numbered k running).1
      refine ⟨Nat.lt_succ_of_lt below, ?_⟩
      intro same
      cases same
      exact absurd below (lt_irrefl _)
    · intro k same
      cases same
      exact Nat.lt_succ_self _
  · cases stepped

/-- The accept loop has its permit, if it needs one. -/
theorem spawn (orderly : r.Orderly backend m) {k : Nat} (accept : r.accept = .acquiring k)
    {limiter : Option Semaphore} (counted : backend.Counts m limiter (r.running.card + 1)) :
    (r.spawn k limiter).Orderly backend m := by
  have absent : k ∉ r.running := fun running => (orderly.numbered k running).2 accept
  constructor
  case tethered => exact orderly.tethered
  case housed => exact orderly.housed
  case carried =>
    intro h carries
    obtain ⟨k', running, from_⟩ := orderly.carried h carries
    exact ⟨k', Finset.mem_insert_of_mem running, from_⟩
  case single => exact orderly.single
  case numbered =>
    intro k' running
    refine ⟨?_, nofun⟩
    rcases Finset.mem_insert.mp running with rfl | old
    · exact orderly.awaited k' accept
    · exact (orderly.numbered k' old).1
  case awaited => exact nofun
  case counted =>
    show backend.Counts m limiter (insert k r.running).card
    rw [Finset.card_insert_of_notMem absent]
    exact counted

theorem acquired (orderly : r.Orderly backend m)
    (free : backend = .h2Pingora → r.running.card < m) (stepped : r.step shards shardOf .acquired = some r') :
    r'.Orderly backend m := by
  have counted := orderly.counted
  simp only [step] at stepped
  split at stepped
  · rename_i k accept none
    cases stepped
    cases backend with
    | h3Quiche =>
        obtain ⟨semaphore, some, -⟩ := counted
        cases none.symm.trans some
    | h2Pingora => exact orderly.spawn accept ⟨rfl, free rfl⟩
  · rename_i k semaphore accept some
    obtain ⟨left, acquired, rfl⟩ := Option.map_eq_some_iff.mp stepped
    cases backend with
    | h3Quiche =>
        obtain ⟨semaphore', some', accounts⟩ := counted
        cases some.symm.trans some'
        exact orderly.spawn accept ⟨left, rfl, accounts.acquire acquired⟩
    | h2Pingora => cases some.symm.trans counted.1
  · cases stepped

theorem headers (orderly : r.Orderly backend m) {k : Nat} {h : Fin n}
    (stepped : r.step shards shardOf (.headers k h) = some r') : r'.Orderly backend m := by
  simp only [step] at stepped
  split_ifs at stepped with admitted
  cases stepped
  -- a handler that is not spawned yet carries nothing
  have other {h' : Fin n} (carries : (r.service.phase h').carries = true) : h' ≠ h := by
    rintro rfl
    obtain ⟨k', -, from_⟩ := orderly.carried h' carries
    cases admitted.2.symm.trans from_
  have kept {k' : Nat} {h' : Fin n}
      (carries : Carries { r with origin := Function.update r.origin h (some k) } k' h') : r.Carries k' h' := by
    obtain ⟨from_, its⟩ := carries
    refine ⟨?_, its⟩
    rw [← from_]
    exact (Function.update_of_ne (other its) ..).symm
  refine { orderly with carried := ?_, single := ?_ }
  · intro h' carries
    obtain ⟨k', running, from_⟩ := orderly.carried h' carries
    refine ⟨k', running, ?_⟩
    rw [← from_]
    exact Function.update_of_ne (other carries) ..
  · exact fun k' h₁ h₂ first second => orderly.single k' h₁ h₂ (kept first) (kept second)

theorem closed (orderly : r.Orderly backend m) {k : Nat} (empty : ∀ h, ¬ r.Carries k h)
    (stepped : r.step shards shardOf (.closed k) = some r') : r'.Orderly backend m := by
  simp only [step] at stepped
  split_ifs at stepped with running
  cases stepped
  refine { orderly with carried := ?_, numbered := ?_, counted := ?_ }
  · intro h carries
    obtain ⟨k', running', from_⟩ := orderly.carried h carries
    refine ⟨k', Finset.mem_erase.mpr ⟨?_, running'⟩, from_⟩
    rintro rfl
    exact empty h ⟨from_, carries⟩
  · exact fun k' left => orderly.numbered k' (Finset.mem_of_mem_erase left)
  · have counted := orderly.counted
    have lower := Finset.card_erase_add_one running
    cases backend with
    | h3Quiche =>
        obtain ⟨semaphore, some, accounts⟩ := counted
        refine ⟨semaphore.release, ?_, ?_⟩
        · show r.limiter.map Semaphore.release = _
          rw [some]
          rfl
        · exact Semaphore.Accounts.release (lower.symm ▸ accounts)
    | h2Pingora =>
        refine ⟨?_, ?_⟩
        · show r.limiter.map Semaphore.release = _
          rw [counted.1]
          rfl
        · exact (Finset.card_le_card (Finset.erase_subset ..)).trans counted.2

theorem serve (orderly : r.Orderly backend m) {e : Event n}
    (alone : ∀ h ∈ (RunnerEvent.serve e).registers, ∃ k ∈ r.running, r.origin h = some k ∧ ∀ h', ¬ r.Carries k h')
    (stepped : r.step shards shardOf (.serve e) = some r') : r'.Orderly backend m := by
  simp only [step] at stepped
  split_ifs at stepped
  obtain ⟨service, served, rfl⟩ := Option.map_eq_some_iff.mp stepped
  -- a handler that carries a tunnel now did so before, or has just begun to register it
  have carried {h : Fin n} (now : (service.phase h).carries = true) :
      (r.service.phase h).carries = true ∨ ∃ k ∈ r.running, r.origin h = some k ∧ ∀ h', ¬ r.Carries k h' := by
    rcases Service.carries_step served now with before | rfl
    · exact .inl before
    · exact .inr (alone h rfl)
  refine { orderly with tethered := ?_, housed := ?_, carried := ?_, single := ?_ }
  · exact orderly.tethered.step served
  · exact orderly.housed.step orderly.tethered served
  · intro h now
    rcases carried now with before | ⟨k, running, from_, -⟩
    · exact orderly.carried h before
    · exact ⟨k, running, from_⟩
  · rintro k h h' ⟨from_, now⟩ ⟨from', now'⟩
    rcases Service.carries_step served now with before | registers
    · rcases carried now' with before' | ⟨k', -, same, vacant⟩
      · exact orderly.single k h h' ⟨from_, before⟩ ⟨from', before'⟩
      · cases same.symm.trans from'
        exact absurd ⟨from_, before⟩ (vacant h)
    · rcases Service.carries_step served now' with before' | registers'
      · subst registers
        obtain ⟨k', -, same, vacant⟩ := alone h rfl
        cases same.symm.trans from_
        exact absurd ⟨from', before'⟩ (vacant h')
      · cases registers.symm.trans registers'
        rfl

theorem step (orderly : r.Orderly backend m) {e : RunnerEvent n} (solitary : Solitary backend m r e)
    (stepped : r.step shards shardOf e = some r') : r'.Orderly backend m := by
  cases e with
  | incoming => exact orderly.incoming stepped
  | acceptError =>
      simp only [Runner.step] at stepped
      split at stepped
      · cases stepped
        exact orderly
      · cases stepped
  | listenerClosed =>
      simp only [Runner.step] at stepped
      split at stepped
      · cases stepped
        exact { orderly with numbered := fun k running => ⟨(orderly.numbered k running).1, nofun⟩, awaited := nofun }
      · cases stepped
  | acquired => exact orderly.acquired (fun h2 => solitary.counted h2 rfl) stepped
  | headers k h => exact orderly.headers stepped
  | closed k => exact orderly.closed (solitary.empty k rfl) stepped
  | serve e => exact orderly.serve solitary.alone stepped

end Orderly

theorem orderly_start {n : Nat} {m : Nat} (positive : 0 < m) (backend : ServerBackend)
    (users : Credential → Option UserId) : (start backend m users : Runner n).Orderly backend m where
  tethered := tethered_new users
  housed := Service.housed_new users
  carried _ carries := absurd carries Bool.false_ne_true
  single _ _ _ first _ := absurd first.2 Bool.false_ne_true
  numbered _ running := absurd running (Finset.notMem_empty _)
  awaited _ same := by cases same
  counted := by
    cases backend with
    | h3Quiche => exact ⟨.new m, if_pos positive, Semaphore.accounts_new m⟩
    | h2Pingora => exact ⟨rfl, Nat.zero_le m⟩

/-- A whole run of such steps. -/
theorem orderly_run {n shards : Nat} {shardOf : ConnectionId → Nat} {backend : ServerBackend} {m : Nat}
    (positive : 0 < m) {users : Credential → Option UserId} {schedule : List (RunnerEvent n)} {r : Runner n}
    (ran : follow (step shards shardOf) (start backend m users) schedule = some r)
    (solitary : Along (step shards shardOf) (Solitary backend m) (start backend m users) schedule) :
    r.Orderly backend m :=
  follow_along (I := fun r => r.Orderly backend m) (fun orderly alone stepped => orderly.step alone stepped)
    (orderly_start positive backend users) solitary ran

end Runner

/-- In every run in which each connection carries one tunnel at a time and outlives it, and in which
pingora is given no more than `m` connections, no more than `m` tunnels are registered. -/
theorem tunnels_bounded {n shards : Nat} {shardOf : ConnectionId → Nat} {backend : ServerBackend} {m : Nat}
    (positive : 0 < m) {users : Credential → Option UserId} {schedule : List (RunnerEvent n)} {r : Runner n}
    (ran : follow (Runner.step shards shardOf) (.start backend m users) schedule = some r)
    (solitary : Along (Runner.step shards shardOf) (Solitary backend m) (.start backend m users) schedule) :
    r.service.system.manager.connectionCount ≤ m :=
  (Runner.orderly_run positive ran solitary).count_le

/-- The tunnels of such a run then fit into the budget that the automatic figure comes from. -/
theorem sessions_fit_budget {n shards : Nat} {shardOf : ConnectionId → Nat} {backend : ServerBackend}
    {cpus totalMemKb nofileSoft : Nat} (memory : 0 < (computeAuto cpus totalMemKb nofileSoft).memCap)
    (descriptors : 0 < (computeAuto cpus totalMemKb nofileSoft).fdCap) {users : Credential → Option UserId}
    {schedule : List (RunnerEvent n)} {r : Runner n}
    (ran : follow (Runner.step shards shardOf)
      (.start backend (computeAuto cpus totalMemKb nofileSoft).value users) schedule = some r)
    (solitary : Along (Runner.step shards shardOf) (Solitary backend (computeAuto cpus totalMemKb nofileSoft).value)
      (.start backend (computeAuto cpus totalMemKb nofileSoft).value users) schedule) :
    FitsBudget totalMemKb nofileSoft r.service.system.manager.connectionCount := by
  have orderly := Runner.orderly_run (computeAuto_pos cpus totalMemKb nofileSoft) ran solitary
  exact (computeAuto_fits memory descriptors).mono orderly.count_le

/-- Where a run of one server with at most one connection ends, if it is one. -/
def runLimited (backend : ServerBackend) (schedule : List (RunnerEvent 2)) : Option (Runner 2) :=
  follow (Runner.step 1 fun _ => 0) (.start backend 1 fun _ => some 7) schedule

/-- The steps of a handler from its authentication to its tunnel. -/
def opensTunnel (h : Fin 2) : List (RunnerEvent 2) :=
  [.serve (.authenticate h "key"), .serve (.route h true), .serve (.respond h true), .serve (.register h),
    .serve (.advance h), .serve (.advance h), .serve (.advance h)]

/-- One connection with the tunnel of `a`, and when both are gone, the next with that of `b`. -/
def oneByOne (a b : Fin 2) : List (RunnerEvent 2) :=
  [.incoming, .acquired, .headers 0 a] ++ opensTunnel a ++
    [.serve (.endRelay a), .serve (.advance a), .serve (.advance a), .closed 0, .incoming, .acquired, .headers 1 b] ++
    opensTunnel b

theorem oneByOne_runs : (runLimited .h3Quiche (oneByOne 0 1)).isSome = true := by decide +kernel

theorem tunnels_bounded_oneByOne :
    ∃ r, runLimited .h3Quiche (oneByOne 0 1) = some r ∧
      Along (Runner.step 1 fun _ => 0) (Solitary .h3Quiche 1) (.start .h3Quiche 1 fun _ => some 7) (oneByOne 0 1) ∧
      r.service.phase 1 = .relaying "key" 7 2 1 ∧ r.service.system.manager.connectionCount ≤ 1 := by
  have ran := (Option.some_get oneByOne_runs).symm
  have solitary : Along (Runner.step 1 fun _ => 0) (Solitary .h3Quiche 1) (.start .h3Quiche 1 fun _ => some 7)
      (oneByOne 0 1) := by decide +kernel
  have phase : ((runLimited .h3Quiche (oneByOne 0 1)).get oneByOne_runs).service.phase 1 =
      .relaying "key" 7 2 1 := by decide +kernel
  have bounded := tunnels_bounded Nat.one_pos ran solitary
  exact ⟨_, ran, solitary, phase, bounded⟩

/-- Two tunnels are registered where `max_connections` is one: two streams of one connection, a stream
that outlives its connection and one of the next, and any two connections of the server behind
pingora. -/
theorem max_connections_exceeded :
    (runLimited .h3Quiche ([.incoming, .acquired, .headers 0 0, .headers 0 1] ++ opensTunnel 0 ++ opensTunnel 1)).map
        (·.service.system.manager.connectionCount) = some 2 ∧
      (runLimited .h3Quiche ([.incoming, .acquired, .headers 0 0] ++ opensTunnel 0 ++
          [.closed 0, .incoming, .acquired, .headers 1 1] ++ opensTunnel 1)).map
        (·.service.system.manager.connectionCount) = some 2 ∧
      (runLimited .h2Pingora ([.incoming, .acquired, .headers 0 0] ++ opensTunnel 0 ++
          [.incoming, .acquired, .headers 1 1] ++ opensTunnel 1)).map
        (·.service.system.manager.connectionCount) = some 2 := by
  refine ⟨?_, ?_, ?_⟩ <;> decide +kernel

end ServerNaive
