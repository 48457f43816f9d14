import ServerNaive.Async.Schedule

/-! The connection manager, and any number of tasks that call it. Each call of a map is
one atomic step, and between two of them any other task may take its own. -/
namespace ServerNaive
open AsyncIo

abbrev ConnectionId := Nat

abbrev UserId := Int

/-- A cancellation token; its clones are the same token. -/
abbrev CancelToken := Nat

structure ActiveConnection where
  userId : UserId
  cancelToken : CancelToken
  deriving DecidableEq

/-- The shared maps, the tokens made so far and those that were cancelled. -/
structure ConnectionManager where
  nextConnId : Nat
  connections : Finmap fun _ : ConnectionId => ActiveConnection
  userConnections : Finmap fun _ : UserId => Finset ConnectionId
  tokens : Nat
  cancelled : Finset CancelToken

namespace ConnectionManager

def new : ConnectionManager := ⟨1, ∅, ∅, 0, ∅⟩

/-- The connections of a user as the second map has them. -/
def index (m : ConnectionManager) (u : UserId) : Finset ConnectionId :=
  (m.userConnections.lookup u).getD ∅

/-- `connections.len()`. -/
def connectionCount (m : ConnectionManager) : Nat := m.connections.keys.card

theorem index_insert (m : ConnectionManager) (u v : UserId) (ids : Finset ConnectionId) :
    index { m with userConnections := m.userConnections.insert u ids } v =
      if v = u then ids else m.index v := by
  split_ifs with same
  · subst same
    simp only [index, Finmap.lookup_insert, Option.getD_some]
  · simp only [index, Finmap.lookup_insert_of_ne _ same]

/-! The atomic steps of `register`. -/

/-- `next_conn_id.fetch_add(1)` and a new token. -/
def allot (m : ConnectionManager) : ConnectionManager :=
  { m with nextConnId := (m.nextConnId + 1) % 2 ^ 64, tokens := m.tokens + 1 }

def insertConnection (m : ConnectionManager) (c : ConnectionId) (conn : ActiveConnection) :
    ConnectionManager :=
  { m with connections := m.connections.insert c conn }

/-- `entry(user_id).or_default().insert(conn_id)`. -/
def indexConnection (m : ConnectionManager) (u : UserId) (c : ConnectionId) : ConnectionManager :=
  { m with userConnections := m.userConnections.insert u (insert c (m.index u)) }

/-! The atomic steps of `unregister`. -/

def removeConnection (m : ConnectionManager) (c : ConnectionId) : ConnectionManager :=
  { m with connections := m.connections.erase c }

/-- `remove_if_mut`: takes the connection out and drops a set that became empty. -/
def unindexConnection (m : ConnectionManager) (u : UserId) (c : ConnectionId) : ConnectionManager :=
  match m.userConnections.lookup u with
  | none => m
  | some ids =>
      if ids.erase c = ∅ then { m with userConnections := m.userConnections.erase u }
      else { m with userConnections := m.userConnections.insert u (ids.erase c) }

def cancel (m : ConnectionManager) (token : CancelToken) : ConnectionManager :=
  { m with cancelled := insert token m.cancelled }

/-- The tokens of the connections that lie in one shard of the map. -/
def shardTokens (m : ConnectionManager) (shardOf : ConnectionId → Nat) (shard : Nat) : Finset CancelToken :=
  (m.connections.keys.filter (shardOf · = shard)).biUnion fun c =>
    ((m.connections.lookup c).map ActiveConnection.cancelToken).toFinset

def cancelShard (m : ConnectionManager) (shardOf : ConnectionId → Nat) (shard : Nat) : ConnectionManager :=
  { m with cancelled := m.cancelled ∪ m.shardTokens shardOf shard }

end ConnectionManager

/-- A completed `register`: the task it returned to and what it returned. -/
structure Registration (τ : Type) where
  task : τ
  connId : ConnectionId
  userId : UserId
  cancelToken : CancelToken
  deriving DecidableEq

def Registration.connection {τ : Type} (r : Registration τ) : ConnectionId × ActiveConnection :=
  (r.connId, ⟨r.userId, r.cancelToken⟩)

/-- Where a task is in the operation it runs. A kick also remembers which registrations it
owed a cancellation when it began, and which connections it has cancelled. -/
inductive Op (τ : Type) where
  | idle
  | registering (u : UserId)
  | allotted (u : UserId) (c : ConnectionId) (token : CancelToken)
  | inserted (u : UserId) (c : ConnectionId) (token : CancelToken)
  | unregistering (c : ConnectionId)
  | removed (u : UserId) (c : ConnectionId)
  | kicking (u : UserId) (owed : List (Registration τ))
  | visiting (u : UserId) (todo : Finset ConnectionId) (kicked : Nat) (owed : List (Registration τ))
      (hit : List (ConnectionId × ActiveConnection))
  | cancelling (shard : Nat) (cancelled : Nat)
  deriving DecidableEq

/-- A kick that walks the set of a user holds the guard of its entry. -/
def Op.guards {τ : Type} (u : UserId) : Op τ → Bool
  | .visiting v _ _ _ _ => v == u
  | _ => false

/-- A kick that has returned: the registrations it still owed at its end, the connections it
cancelled and the number it returned. -/
structure KickRecord (τ : Type) where
  userId : UserId
  due : List (Registration τ)
  hit : List (ConnectionId × ActiveConnection)
  returned : Nat

/-- The manager under its tasks, with the history that statements refer to: the ids that were
handed out, the registrations that completed, the ids whose `unregister` began and completed,
the kicks that returned and the tokens that `cancel_all` has come by. -/
structure System (τ : Type) where
  manager : ConnectionManager
  ops : τ → Op τ
  issued : List ConnectionId
  registrations : List (Registration τ)
  leaving : List ConnectionId
  unregistered : List ConnectionId
  kicks : List (KickRecord τ)
  swept : Finset CancelToken

/-- What a task may call when it is idle. -/
inductive ManagerCall where
  | register (u : UserId)
  | unregister (c : ConnectionId)
  | kickUser (u : UserId)
  | cancelAll
  deriving DecidableEq

/-- One atomic step of a task: a call, the next step of its operation, or the visit of one
connection of a set, whose order is the set's own. -/
inductive Action where
  | call (op : ManagerCall)
  | advance
  | visit (c : ConnectionId)
  deriving DecidableEq

namespace System

variable {τ : Type}

def new : System τ := ⟨.new, fun _ => .idle, [], [], [], [], [], ∅⟩

variable [DecidableEq τ]

def become (s : System τ) (t : τ) (op : Op τ) : System τ := { s with ops := Function.update s.ops t op }

/-- The registrations of a user that completed and whose `unregister` has not begun. -/
def owed (s : System τ) (u : UserId) : List (Registration τ) :=
  s.registrations.filter fun r => r.userId = u ∧ r.connId ∉ s.leaving

/-- A task may unregister what it was given. -/
def begin (s : System τ) (t : τ) : ManagerCall → Option (System τ)
  | .register u => some (s.become t (.registering u))
  | .unregister c =>
      if ∃ r ∈ s.registrations, r.task = t ∧ r.connId = c then
        some { s.become t (.unregistering c) with leaving := s.leaving ++ [c] }
      else none
  | .kickUser u => some (s.become t (.kicking u (s.owed u)))
  | .cancelAll => some (s.become t (.cancelling 0 0))

/-- The end of a kick. -/
def returnKick (s : System τ) (t : τ) (u : UserId) (kicked : Nat) (owed : List (Registration τ))
    (hit : List (ConnectionId × ActiveConnection)) : System τ :=
  { s.become t .idle with
    kicks := s.kicks ++ [⟨u, owed.filter (·.connId ∉ s.leaving), hit, kicked⟩] }

variable [Fintype τ]

/-- The next step of an operation; writers of a user's entry wait for its guards. -/
def advance (shards : Nat) (shardOf : ConnectionId → Nat) (s : System τ) (t : τ) : Option (System τ) :=
  match s.ops t with
  | .idle => none
  | .registering u =>
      some { s.become t (.allotted u s.manager.nextConnId s.manager.tokens) with
        manager := s.manager.allot, issued := s.issued ++ [s.manager.nextConnId] }
  | .allotted u c token =>
      some { s.become t (.inserted u c token) with manager := s.manager.insertConnection c ⟨u, token⟩ }
  | .inserted u c token =>
      if ∃ t', (s.ops t').guards u then none
      else some { s.become t .idle with
        manager := s.manager.indexConnection u c
        registrations := s.registrations ++ [⟨t, c, u, token⟩] }
  | .unregistering c => match s.manager.connections.lookup c with
      | none => some { s.become t .idle with unregistered := s.unregistered ++ [c] }
      | some conn =>
          some { s.become t (.removed conn.userId c) with manager := s.manager.removeConnection c }
  | .removed u c =>
      if ∃ t', (s.ops t').guards u then none
      else some { s.become t .idle with
        manager := s.manager.unindexConnection u c, unregistered := s.unregistered ++ [c] }
  | .kicking u owed => match s.manager.userConnections.lookup u with
      | none => some (s.returnKick t u 0 owed [])
      | some ids => some (s.become t (.visiting u ids 0 owed []))
  | .visiting u todo kicked owed hit => if todo = ∅ then some (s.returnKick t u kicked owed hit) else none
  | .cancelling shard cancelled =>
      if shard < shards then
        some { s.become t (.cancelling (shard + 1)
            (cancelled + (s.manager.connections.keys.filter (shardOf · = shard)).card)) with
          manager := s.manager.cancelShard shardOf shard
          swept := s.swept ∪ s.manager.shardTokens shardOf shard }
      else some (s.become t .idle)

/-- A kick looks one connection up and cancels its token. -/
def visit (s : System τ) (t : τ) (c : ConnectionId) : Option (System τ) :=
  match s.ops t with
  | .visiting u todo kicked owed hit =>
      if c ∈ todo then
        match s.manager.connections.lookup c with
        | none => some (s.become t (.visiting u (todo.erase c) kicked owed hit))
        | some conn =>
            some { s.become t (.visiting u (todo.erase c) (kicked + 1) owed (hit ++ [(c, conn)])) with
              manager := s.manager.cancel conn.cancelToken }
      else none
  | _ => none

def step (shards : Nat) (shardOf : ConnectionId → Nat) (s : System τ) : τ × Action → Option (System τ)
  | (t, .call op) => match s.ops t with
      | .idle => s.begin t op
      | _ => none
  | (t, .advance) => s.advance shards shardOf t
  | (t, .visit c) => s.visit t c

end System

end ServerNaive
