import ServerNaive.Core.Connection

/-! Request handlers against the user sync. A handler authenticates against the user map,
awaits its route and its response, and only then registers its tunnel; the sync replaces
the map and kicks the users whose credential it revoked. -/
namespace ServerNaive
open AsyncIo

abbrev Credential := String

/-- Where a handler is, with the credential it authenticated and the user it got for it. -/
inductive Phase where
  | start
  | authenticated (cred : Credential) (u : UserId)
  | routed (cred : Credential) (u : UserId)
  | answered (cred : Credential) (u : UserId)
  | registering (cred : Credential) (u : UserId)
  | relaying (cred : Credential) (u : UserId) (c : ConnectionId) (token : CancelToken)
  | unregistering (cred : Credential) (u : UserId) (c : ConnectionId)
  | ended
  deriving DecidableEq

namespace Phase

def credential : Phase → Option (Credential × UserId)
  | .start => none
  | .authenticated cred u => some (cred, u)
  | .routed cred u => some (cred, u)
  | .answered cred u => some (cred, u)
  | .registering cred u => some (cred, u)
  | .relaying cred u _ _ => some (cred, u)
  | .unregistering cred u _ => some (cred, u)
  | .ended => none

/-- The connection of a handler whose registration has completed. -/
def connId : Phase → Option ConnectionId
  | .relaying _ _ c _ => some c
  | .unregistering _ _ c => some c
  | _ => none

/-- Authenticated, and the registration has not completed: it can still register a tunnel. -/
def Pending : Phase → Prop
  | .authenticated _ _ => True
  | .routed _ _ => True
  | .answered _ _ => True
  | .registering _ _ => True
  | _ => False

instance : DecidablePred Pending
  | .authenticated _ _ | .routed _ _ | .answered _ _ | .registering _ _ => .isTrue trivial
  | .start | .relaying _ _ _ _ | .unregistering _ _ _ | .ended => .isFalse id

/-- In the middle of a call of the manager. -/
def Calling : Phase → Prop
  | .registering _ _ => True
  | .unregistering _ _ _ => True
  | _ => False

end Phase

/-- What a sync hands to its callback. -/
structure UserDiff where
  removedIds : List UserId
  uuidChangedIds : List UserId

def UserDiff.kickIds (diff : UserDiff) : List UserId := diff.removedIds ++ diff.uuidChangedIds

/-- The handlers and the sync task, which is `none` among the tasks of the manager. Of the
history it keeps which credentials are revoked and had their user's kick return since. -/
structure Service (n : Nat) where
  system : System (Option (Fin n))
  users : Credential → Option UserId
  phase : Fin n → Phase
  kickIds : List UserId
  revoked : Credential → UserId → Bool

/-- One atomic step of a handler or of the sync. `allowed` is false for a rejected route, `sent`
for a response that could not be written. -/
inductive Event (n : Nat) where
  | authenticate (h : Fin n) (cred : Credential)
  | route (h : Fin n) (allowed : Bool)
  | respond (h : Fin n) (sent : Bool)
  | register (h : Fin n)
  | endRelay (h : Fin n)
  | advance (h : Fin n)
  | replaceUsers (users : Credential → Option UserId) (diff : UserDiff)
  | kickNext
  | syncAdvance
  | syncVisit (c : ConnectionId)

namespace Service

variable {n : Nat}

def new (users : Credential → Option UserId) : Service n := ⟨.new, users, fun _ => .start, [], fun _ _ => false⟩

def setPhase (s : Service n) (h : Fin n) (p : Phase) : Service n :=
  { s with phase := Function.update s.phase h p }

/-- Where an atomic step of the manager leaves the handler that took it. -/
def advanced (s : Service n) (h : Fin n) (system : System (Option (Fin n))) : Phase :=
  match s.phase h, s.system.ops (some h), system.ops (some h) with
  | .registering cred u, .inserted _ c token, _ => .relaying cred u c token
  | .unregistering _ _ _, _, .idle => .ended
  | p, _, _ => p

/-- Where an atomic step of the manager leaves the sync: a kick that returned makes way for
the next. -/
def synced (s : Service n) (system : System (Option (Fin n))) : Service n :=
  match system.ops none, s.kickIds with
  | .idle, u :: ids =>
      { s with
        system
        kickIds := ids
        revoked := fun cred v => s.revoked cred v || (v = u ∧ s.users cred ≠ some v) }
  | _, _ => { s with system }

variable (shards : Nat) (shardOf : ConnectionId → Nat)

def step (s : Service n) : Event n → Option (Service n)
  | .authenticate h cred => match s.phase h, s.users cred with
      | .start, some u => some (s.setPhase h (.authenticated cred u))
      | .start, none => some (s.setPhase h .ended)
      | _, _ => none
  | .route h allowed => match s.phase h with
      | .authenticated cred u => some (s.setPhase h (if allowed then .routed cred u else .ended))
      | _ => none
  | .respond h sent => match s.phase h with
      | .routed cred u => some (s.setPhase h (if sent then .answered cred u else .ended))
      | _ => none
  | .register h => match s.phase h with
      | .answered cred u => (s.system.step shards shardOf (some h, .call (.register u))).map fun system =>
          { s.setPhase h (.registering cred u) with system }
      | _ => none
  | .endRelay h => match s.phase h with
      | .relaying cred u c _ => (s.system.step shards shardOf (some h, .call (.unregister c))).map fun system =>
          { s.setPhase h (.unregistering cred u c) with system }
      | _ => none
  | .advance h => (s.system.step shards shardOf (some h, .advance)).map fun system =>
      { s.setPhase h (s.advanced h system) with system }
  | .replaceUsers users diff => match s.kickIds with
      | [] => some { s with
          users
          kickIds := diff.kickIds
          revoked := fun cred u => s.revoked cred u ∧ users cred ≠ some u }
      | _ => none
  | .kickNext => match s.kickIds with
      | u :: _ => (s.system.step shards shardOf (none, .call (.kickUser u))).map fun system => { s with system }
      | [] => none
  | .syncAdvance => (s.system.step shards shardOf (none, .advance)).map s.synced
  | .syncVisit c => (s.system.step shards shardOf (none, .visit c)).map s.synced

end Service

end ServerNaive
