import ServerNaive.Core.ConnectionKick
import ServerNaive.Handler.Service

/-! Handlers and the sync inside their calls of the manager: which operation each of them runs in
which phase, and what one step of a call does. -/
namespace ServerNaive
open AsyncIo

/-- A handler and the operation it runs in the manager. -/
inductive Linked {n : Nat} (h : Fin n) (registrations : List (Registration (Option (Fin n)))) :
    Phase → Op (Option (Fin n)) → Prop
  | start : Linked h registrations .start .idle
  | authenticated (cred : Credential) (u : UserId) : Linked h registrations (.authenticated cred u) .idle
  | routed (cred : Credential) (u : UserId) : Linked h registrations (.routed cred u) .idle
  | answered (cred : Credential) (u : UserId) : Linked h registrations (.answered cred u) .idle
  | registering (cred : Credential) (u : UserId) : Linked h registrations (.registering cred u) (.registering u)
  | allotted (cred : Credential) (u : UserId) (c : ConnectionId) (token : CancelToken) :
      Linked h registrations (.registering cred u) (.allotted u c token)
  | inserted (cred : Credential) (u : UserId) (c : ConnectionId) (token : CancelToken) :
      Linked h registrations (.registering cred u) (.inserted u c token)
  | relaying (cred : Credential) {u : UserId} {c : ConnectionId} {token : CancelToken}
      (member : ⟨some h, c, u, token⟩ ∈ registrations) :
      Linked h registrations (.relaying cred u c token) .idle
  | unregistering (cred : Credential) {u : UserId} {c : ConnectionId} {token : CancelToken}
      (member : ⟨some h, c, u, token⟩ ∈ registrations) :
      Linked h registrations (.unregistering cred u c) (.unregistering c)
  | removed (cred : Credential) {u : UserId} {c : ConnectionId} {token : CancelToken} (v : UserId)
      (member : ⟨some h, c, u, token⟩ ∈ registrations) :
      Linked h registrations (.unregistering cred u c) (.removed v c)
  | ended : Linked h registrations .ended .idle

/-- The sync and the operation it runs: it kicks the first of the ids that are left. -/
inductive Syncs {τ : Type} : Op τ → List UserId → Prop
  | idle (ids : List UserId) : Syncs .idle ids
  | kicking (u : UserId) (owed : List (Registration τ)) (ids : List UserId) :
      Syncs (.kicking u owed) (u :: ids)
  | visiting (u : UserId) (todo : Finset ConnectionId) (kicked : Nat) (owed : List (Registration τ))
      (hit : List (ConnectionId × ActiveConnection)) (ids : List UserId) :
      Syncs (.visiting u todo kicked owed hit) (u :: ids)

/-- Every handler runs the operation of its phase, and so does the sync. -/
structure Tethered {n : Nat} (s : Service n) : Prop where
  linked : ∀ h, Linked h s.system.registrations (s.phase h) (s.system.ops (some h))
  syncs : Syncs (s.system.ops none) s.kickIds

/-- One atomic step of a call that a handler is in, with the phase it leaves the handler in. -/
inductive CallStep {n : Nat} (s : Service n) (h : Fin n) : Phase → System (Option (Fin n)) → Prop
  | allots {cred : Credential} {u : UserId} (phase : s.phase h = .registering cred u)
      (op : s.system.ops (some h) = .registering u) :
      CallStep s h (.registering cred u)
        { s.system.become (some h) (.allotted u s.system.manager.nextConnId s.system.manager.tokens) with
          manager := s.system.manager.allot, issued := s.system.issued ++ [s.system.manager.nextConnId] }
  | inserts {cred : Credential} {u : UserId} {c : ConnectionId} {token : CancelToken}
      (phase : s.phase h = .registering cred u) (op : s.system.ops (some h) = .allotted u c token) :
      CallStep s h (.registering cred u)
        { s.system.become (some h) (.inserted u c token) with
          manager := s.system.manager.insertConnection c ⟨u, token⟩ }
  | indexes {cred : Credential} {u : UserId} {c : ConnectionId} {token : CancelToken}
      (phase : s.phase h = .registering cred u) (op : s.system.ops (some h) = .inserted u c token) :
      CallStep s h (.relaying cred u c token)
        { s.system.become (some h) .idle with
          manager := s.system.manager.indexConnection u c
          registrations := s.system.registrations ++ [⟨some h, c, u, token⟩] }
  | misses {cred : Credential} {u : UserId} {c : ConnectionId} (phase : s.phase h = .unregistering cred u c)
      (op : s.system.ops (some h) = .unregistering c)
      (missing : s.system.manager.connections.lookup c = none) :
      CallStep s h .ended { s.system.become (some h) .idle with unregistered := s.system.unregistered ++ [c] }
  | removes {cred : Credential} {u : UserId} {c : ConnectionId} {conn : ActiveConnection}
      (phase : s.phase h = .unregistering cred u c) (op : s.system.ops (some h) = .unregistering c)
      (found : s.system.manager.connections.lookup c = some conn) :
      CallStep s h (.unregistering cred u c)
        { s.system.become (some h) (.removed conn.userId c) with manager := s.system.manager.removeConnection c }
  | unindexes {cred : Credential} {u v : UserId} {c : ConnectionId}
      (phase : s.phase h = .unregistering cred u c) (op : s.system.ops (some h) = .removed v c) :
      CallStep s h .ended
        { s.system.become (some h) .idle with
          manager := s.system.manager.unindexConnection v c, unregistered := s.system.unregistered ++ [c] }

/-- One atomic step of the kick that the sync is in, with the ids that are left. -/
inductive SyncStep {n : Nat} (s : Service n) : System (Option (Fin n)) → Prop
  | misses {u : UserId} {owed : List (Registration (Option (Fin n)))} {ids : List UserId}
      (head : s.kickIds = u :: ids) (op : s.system.ops none = .kicking u owed)
      (missing : s.system.manager.userConnections.lookup u = none) :
      SyncStep s (s.system.returnKick none u 0 owed [])
  | finds {u : UserId} {owed : List (Registration (Option (Fin n)))} {ids : List UserId}
      {all : Finset ConnectionId} (head : s.kickIds = u :: ids) (op : s.system.ops none = .kicking u owed)
      (found : s.system.manager.userConnections.lookup u = some all) :
      SyncStep s (s.system.become none (.visiting u all 0 owed []))
  | skips {u : UserId} {todo : Finset ConnectionId} {kicked : Nat}
      {owed : List (Registration (Option (Fin n)))} {hit : List (ConnectionId × ActiveConnection)}
      {ids : List UserId} {c : ConnectionId} (head : s.kickIds = u :: ids)
      (op : s.system.ops none = .visiting u todo kicked owed hit)
      (missing : s.system.manager.connections.lookup c = none) :
      SyncStep s (s.system.become none (.visiting u (todo.erase c) kicked owed hit))
  | cancels {u : UserId} {todo : Finset ConnectionId} {kicked : Nat}
      {owed : List (Registration (Option (Fin n)))} {hit : List (ConnectionId × ActiveConnection)}
      {ids : List UserId} {c : ConnectionId} {conn : ActiveConnection} (head : s.kickIds = u :: ids)
      (op : s.system.ops none = .visiting u todo kicked owed hit)
      (found : s.system.manager.connections.lookup c = some conn) :
      SyncStep s { s.system.become none (.visiting u (todo.erase c) (kicked + 1) owed (hit ++ [(c, conn)])) with
        manager := s.system.manager.cancel conn.cancelToken }
  | returns {u : UserId} {kicked : Nat} {owed : List (Registration (Option (Fin n)))}
      {hit : List (ConnectionId × ActiveConnection)} {ids : List UserId} (head : s.kickIds = u :: ids)
      (op : s.system.ops none = .visiting u ∅ kicked owed hit) :
      SyncStep s (s.system.returnKick none u kicked owed hit)

section Handlers

variable {n : Nat} {shards : Nat} {shardOf : ConnectionId → Nat} {s s' : Service n}

theorem Linked.mono {h : Fin n} {before after : List (Registration (Option (Fin n)))} {p : Phase}
    {op : Op (Option (Fin n))} (linked : Linked h before p op) (more : before ⊆ after) :
    Linked h after p op := by
  cases linked with
  | start => exact .start
  | authenticated cred u => exact .authenticated cred u
  | routed cred u => exact .routed cred u
  | answered cred u => exact .answered cred u
  | registering cred u => exact .registering cred u
  | allotted cred u c token => exact .allotted cred u c token
  | inserted cred u c token => exact .inserted cred u c token
  | relaying cred member => exact .relaying cred (more member)
  | unregistering cred member => exact .unregistering cred (more member)
  | removed cred v member => exact .removed cred v (more member)
  | ended => exact .ended

/-- The connection of a handler is one it registered, for the user it authenticated. -/
theorem Linked.registered {h : Fin n} {registrations : List (Registration (Option (Fin n)))} {p : Phase}
    {op : Op (Option (Fin n))} (linked : Linked h registrations p op) {c : ConnectionId} (mine : p.connId = some c) :
    ∃ r ∈ registrations, r.connId = c ∧ ∀ cred u, p.credential = some (cred, u) → r.userId = u := by
  cases linked with
  | relaying cred member | unregistering cred member | removed cred v member =>
      cases mine
      refine ⟨_, member, rfl, ?_⟩
      intro cred u same
      cases same
      rfl
  | start | authenticated | routed | answered | registering | allotted | inserted | ended => cases mine

theorem Linked.idle {h : Fin n} {registrations : List (Registration (Option (Fin n)))} {p : Phase}
    {op : Op (Option (Fin n))} (linked : Linked h registrations p op) (free : ¬ p.Calling) : op = .idle := by
  cases linked with
  | start | authenticated | routed | answered | relaying | ended => rfl
  | registering | allotted | inserted | unregistering | removed => exact absurd trivial free

theorem Linked.advances {h : Fin n} (linked : Linked h s.system.registrations (s.phase h) (s.system.ops (some h)))
    {system : System (Option (Fin n))} (called : s.system.step shards shardOf (some h, .advance) = some system) :
    CallStep s h (s.advanced h system) system := by
  simp only [System.step, System.advance] at called
  generalize phase : s.phase h = p, operation : s.system.ops (some h) = op at linked
  simp only [Service.advanced, phase, operation]
  rw [operation] at called
  cases linked with
  | start | authenticated | routed | answered | relaying | ended => cases called
  | registering cred u =>
      cases called
      exact .allots phase operation
  | allotted cred u c token =>
      cases called
      exact .inserts phase operation
  | inserted cred u c token =>
      simp only at called
      split_ifs at called
      cases called
      exact .indexes phase operation
  | @unregistering cred u c token member =>
      simp only at called
      split at called
      · rename_i missing
        cases called
        have idle := become_self s.system (some h) .idle
        simp only [idle]
        exact .misses phase operation missing
      · rename_i conn found
        cases called
        have removed := become_self s.system (some h) (.removed conn.userId c)
        simp only [removed]
        exact .removes phase operation found
  | removed cred v member =>
      simp only at called
      split_ifs at called
      cases called
      have idle := become_self s.system (some h) .idle
      simp only [idle]
      exact .unindexes phase operation

/-- Each step of a call leaves its handler inside the call or past it. -/
theorem CallStep.linked {h : Fin n} {p : Phase} {system : System (Option (Fin n))} (taken : CallStep s h p system)
    (linked : Linked h s.system.registrations (s.phase h) (s.system.ops (some h))) :
    Linked h system.registrations p (system.ops (some h)) := by
  cases taken with
  | @allots cred u phase op =>
      show Linked h _ _ ((s.system.become (some h) (.allotted u _ _)).ops (some h))
      rw [become_self]
      exact .allotted cred u _ _
  | @inserts cred u c token phase op =>
      show Linked h _ _ ((s.system.become (some h) (.inserted u c token)).ops (some h))
      rw [become_self]
      exact .inserted cred u c token
  | @indexes cred u c token phase op =>
      show Linked h _ _ ((s.system.become (some h) .idle).ops (some h))
      rw [become_self]
      exact .relaying cred (List.mem_append_right _ (List.mem_singleton_self _))
  | misses phase op missing | unindexes phase op =>
      show Linked h _ _ ((s.system.become (some h) .idle).ops (some h))
      rw [become_self]
      exact .ended
  | @removes cred u c conn phase op found =>
      show Linked h _ _ ((s.system.become (some h) (.removed conn.userId c)).ops (some h))
      rw [become_self]
      rw [phase, op] at linked
      cases linked with
      | unregistering _ member => exact .removed cred _ member

end Handlers

section Sync

variable {n : Nat} {shards : Nat} {shardOf : ConnectionId → Nat} {s : Service n}

theorem Syncs.advances (syncs : Syncs (s.system.ops none) s.kickIds) {system : System (Option (Fin n))}
    (called : s.system.step shards shardOf (none, .advance) = some system) : SyncStep s system := by
  simp only [System.step, System.advance] at called
  generalize operation : s.system.ops none = op, head : s.kickIds = ids at syncs
  rw [operation] at called
  cases syncs with
  | idle => cases called
  | kicking u owed ids =>
      simp only at called
      split at called
      · rename_i missing
        cases called
        exact .misses head operation missing
      · rename_i all found
        cases called
        exact .finds head operation found
  | visiting u todo kicked owed hit ids =>
      simp only at called
      split_ifs at called with walked
      subst walked
      cases called
      exact .returns head operation

theorem Syncs.visits (syncs : Syncs (s.system.ops none) s.kickIds) {c : ConnectionId}
    {system : System (Option (Fin n))}
    (called : s.system.step shards shardOf (none, .visit c) = some system) : SyncStep s system := by
  simp only [System.step, System.visit] at called
  generalize operation : s.system.ops none = op, head : s.kickIds = ids at syncs
  rw [operation] at called
  cases syncs with
  | idle | kicking => cases called
  | visiting u todo kicked owed hit ids =>
      simp only at called
      split_ifs at called
      split at called
      · rename_i missing
        cases called
        exact .skips head operation missing
      · rename_i conn found
        cases called
        exact .cancels head operation found

theorem synced_system (s : Service n) (system : System (Option (Fin n))) : (s.synced system).system = system := by
  unfold Service.synced
  split <;> rfl

theorem synced_phase (s : Service n) (system : System (Option (Fin n))) : (s.synced system).phase = s.phase := by
  unfold Service.synced
  split <;> rfl

theorem synced_busy {system : System (Option (Fin n))} (busy : system.ops none ≠ .idle) :
    s.synced system = { s with system } := by
  unfold Service.synced
  split
  · rename_i idle _
    exact absurd idle busy
  · rfl

/-- Whether the kick goes on or has returned, the sync runs the operation it should. -/
theorem SyncStep.syncs {system : System (Option (Fin n))} (taken : SyncStep s system) :
    Syncs (system.ops none) (s.synced system).kickIds := by
  have walks {u : UserId} {todo : Finset ConnectionId} {kicked : Nat} {ids : List UserId}
      {owed : List (Registration (Option (Fin n)))} {hit : List (ConnectionId × ActiveConnection)}
      (head : s.kickIds = u :: ids) (op : system.ops none = .visiting u todo kicked owed hit) :
      Syncs (system.ops none) (s.synced system).kickIds := by
    have busy : system.ops none ≠ .idle := by
      intro idle
      cases op.symm.trans idle
    rw [synced_busy busy, op]
    show Syncs _ s.kickIds
    rw [head]
    exact .visiting ..
  cases taken with
  | misses | returns =>
      rw [returnKick_ops]
      exact .idle _
  | finds head | skips head | cancels head => exact walks head (become_self s.system none _)

end Sync

namespace Tethered

variable {n : Nat} {shards : Nat} {shardOf : ConnectionId → Nat} {s s' : Service n}

theorem idle (tethered : Tethered s) {h : Fin n} {p : Phase} (phase : s.phase h = p) (free : ¬ p.Calling) :
    s.system.ops (some h) = .idle := by
  subst phase
  exact (tethered.linked h).idle free

/-- A handler moves on, with or without a step of the manager. -/
theorem handler (tethered : Tethered s) {system : System (Option (Fin n))} {h : Fin n} {p : Phase}
    (frame : Frame s.system system (some h)) (linked : Linked h system.registrations p (system.ops (some h))) :
    Tethered { s.setPhase h p with system } := by
  constructor
  case linked =>
    intro h'
    show Linked h' system.registrations (Function.update s.phase h p h') _
    by_cases mine : h' = h
    · subst mine
      rw [Function.update_self]
      exact linked
    · rw [Function.update_of_ne mine, frame.ops _ fun same => mine (Option.some.inj same)]
      exact (tethered.linked h').mono frame.registrations
  case syncs =>
    show Syncs (system.ops none) s.kickIds
    rw [frame.ops none nofun]
    exact tethered.syncs

/-- A handler moves on between its calls of the manager. -/
theorem setPhase (tethered : Tethered s) {h : Fin n} {p q : Phase} (phase : s.phase h = q) (free : ¬ q.Calling)
    (linked : Linked h s.system.registrations p .idle) : Tethered (s.setPhase h p) := by
  refine tethered.handler (.refl ..) ?_
  rw [tethered.idle phase free]
  exact linked

/-- A step of the sync. -/
theorem sync (tethered : Tethered s) {system : System (Option (Fin n))} (frame : Frame s.system system none)
    (users : Credential → Option UserId) (revoked : Credential → UserId → Bool) {kickIds : List UserId}
    (syncs : Syncs (system.ops none) kickIds) :
    Tethered ⟨system, users, s.phase, kickIds, revoked⟩ := by
  refine ⟨fun h => ?_, syncs⟩
  show Linked h system.registrations (s.phase h) (system.ops (some h))
  rw [frame.ops (some h) nofun]
  exact (tethered.linked h).mono frame.registrations

theorem register (tethered : Tethered s) {h : Fin n}
    (stepped : s.step shards shardOf (.register h) = some s') : Tethered s' := by
  simp only [Service.step] at stepped
  split at stepped
  · rename_i cred u phase
    obtain ⟨system, called, rfl⟩ := Option.map_eq_some_iff.mp stepped
    refine tethered.handler (step_frame called).1 ?_
    simp only [System.step, tethered.idle phase id, System.begin, Option.some.injEq] at called
    rw [← called, become_self]
    exact .registering cred u
  · cases stepped

theorem endRelay (tethered : Tethered s) {h : Fin n}
    (stepped : s.step shards shardOf (.endRelay h) = some s') : Tethered s' := by
  simp only [Service.step] at stepped
  split at stepped
  · rename_i cred u c token phase
    obtain ⟨system, called, rfl⟩ := Option.map_eq_some_iff.mp stepped
    refine tethered.handler (step_frame called).1 ?_
    have idle := tethered.idle phase id
    have linked := tethered.linked h
    rw [phase, idle] at linked
    cases linked with
    | relaying _ member =>
        simp only [System.step, idle, System.begin] at called
        split_ifs at called
        cases called
        show Linked h _ _ ((s.system.become (some h) (.unregistering c)).ops (some h))
        rw [become_self]
        exact .unregistering cred member
  · cases stepped

theorem kickNext (tethered : Tethered s) (stepped : s.step shards shardOf .kickNext = some s') : Tethered s' := by
  simp only [Service.step] at stepped
  split at stepped
  · rename_i u ids head
    obtain ⟨system, called, rfl⟩ := Option.map_eq_some_iff.mp stepped
    refine tethered.sync (step_frame called).1 _ _ ?_
    simp only [System.step] at called
    split at called
    · cases called
      show Syncs ((s.system.become none _).ops none) s.kickIds
      rw [become_self, head]
      exact .kicking ..
    · cases called
  · cases stepped

theorem replaceUsers (tethered : Tethered s) {users : Credential → Option UserId} {diff : UserDiff}
    (stepped : s.step shards shardOf (.replaceUsers users diff) = some s') : Tethered s' := by
  simp only [Service.step] at stepped
  split at stepped
  · rename_i done
    cases stepped
    refine tethered.sync (.refl ..) _ _ ?_
    have syncs := tethered.syncs
    rw [done] at syncs
    generalize s.system.ops none = op at syncs
    cases syncs
    exact .idle _
  · cases stepped

theorem synced (tethered : Tethered s) {system : System (Option (Fin n))} {action : Action}
    (called : s.system.step shards shardOf (none, action) = some system) (taken : SyncStep s system) :
    Tethered (s.synced system) := by
  have moved := tethered.sync (step_frame called).1 s.users s.revoked taken.syncs
  refine ⟨fun h => ?_, ?_⟩
  · rw [synced_system, synced_phase]
    exact moved.linked h
  · rw [synced_system]
    exact moved.syncs

theorem step (tethered : Tethered s) {e : Event n} (stepped : s.step shards shardOf e = some s') :
    Tethered s' := by
  cases e with
  | authenticate h cred =>
      simp only [Service.step] at stepped
      split at stepped
      · rename_i u phase known
        cases stepped
        exact tethered.setPhase phase id (.authenticated cred u)
      · rename_i phase unknown
        cases stepped
        exact tethered.setPhase phase id .ended
      · cases stepped
  | route h allowed =>
      simp only [Service.step] at stepped
      split at stepped
      · rename_i cred u phase
        cases stepped
        refine tethered.setPhase phase id ?_
        cases allowed
        · exact .ended
        · exact .routed cred u
      · cases stepped
  | respond h sent =>
      simp only [Service.step] at stepped
      split at stepped
      · rename_i cred u phase
        cases stepped
        refine tethered.setPhase phase id ?_
        cases sent
        · exact .ended
        · exact .answered cred u
      · cases stepped
  | register h => exact tethered.register stepped
  | endRelay h => exact tethered.endRelay stepped
  | advance h =>
      obtain ⟨system, called, rfl⟩ := Option.map_eq_some_iff.mp stepped
      have linked := tethered.linked h
      exact tethered.handler (step_frame called).1 ((linked.advances called).linked linked)
  | replaceUsers users diff => exact tethered.replaceUsers stepped
  | kickNext => exact tethered.kickNext stepped
  | syncAdvance =>
      obtain ⟨system, called, rfl⟩ := Option.map_eq_some_iff.mp stepped
      exact tethered.synced called (tethered.syncs.advances called)
  | syncVisit c =>
      obtain ⟨system, called, rfl⟩ := Option.map_eq_some_iff.mp stepped
      exact tethered.synced called (tethered.syncs.visits called)

end Tethered

theorem tethered_new {n : Nat} (users : Credential → Option UserId) : Tethered (Service.new users : Service n) :=
  ⟨fun _ => .start, .idle []⟩

end ServerNaive
