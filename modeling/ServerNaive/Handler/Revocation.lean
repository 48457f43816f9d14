import ServerNaive.Handler.Calls

/-! What a kick enforces. A handler that has authenticated but not registered is invisible to
the manager, so a kick that looks its user up at that moment passes it by; where no such
handler exists, nothing that used the revoked credential outlives the kick. -/
namespace ServerNaive
open AsyncIo

/-- Every handler that authenticated `cred` as `u` is past its registration, and its connection
is cancelled, gone from the manager or still to be visited. -/
def Spent {n : Nat} (phase : Fin n → Phase) (m : ConnectionManager) (cred : Credential) (u : UserId)
    (todo : Finset ConnectionId) : Prop :=
  ∀ h, (phase h).credential = some (cred, u) → ¬ (phase h).Pending ∧
    ∀ c, (phase h).connId = some c → ∀ conn, m.connections.lookup c = some conn →
      c ∈ todo ∨ conn.cancelToken ∈ m.cancelled

/-- After the kick for a revoked credential has returned, nothing that used it is left. -/
def Enforced {n : Nat} (s : Service n) : Prop :=
  ∀ cred u, s.revoked cred u = true → Spent s.phase s.system.manager cred u ∅

/-- The user whose set the sync is about to look up. -/
def Service.lookedUp {n : Nat} (s : Service n) : Event n → Option UserId
  | .syncAdvance => match s.system.ops none with
      | .kicking u _ => some u
      | _ => none
  | _ => none

/-- When the sync looks a user up, no handler with a revoked credential of that user is between
its authentication and the end of its registration. -/
def LooksUpQuietly {n : Nat} (s : Service n) (e : Event n) : Prop :=
  ∀ u ∈ s.lookedUp e, ∀ h, ∀ x ∈ (s.phase h).credential,
    x.2 = u → s.users x.1 ≠ some u → ¬ (s.phase h).Pending

instance {n : Nat} (s : Service n) (e : Event n) : Decidable (LooksUpQuietly s e) :=
  inferInstanceAs (Decidable (∀ u ∈ s.lookedUp e, ∀ h, ∀ x ∈ (s.phase h).credential,
    x.2 = u → s.users x.1 ≠ some u → ¬ (s.phase h).Pending))

/-- What a handler that moves on may become: with a credential it did not have before, only one
that is valid now; and once registered it keeps its connection. -/
def Moves (users : Credential → Option UserId) (p p' : Phase) : Prop :=
  ∀ cred u, p'.credential = some (cred, u) → users cred = some u ∨
    p.credential = some (cred, u) ∧ (p.Pending ∨ ¬ p'.Pending ∧ p'.connId = p.connId)

/-- What every run of quiet lookups keeps. While the sync walks a user's set, the handlers with
a revoked credential of that user are spent but for the connections it has not visited. -/
structure Lawful {n : Nat} (s : Service n) : Prop where
  coherent : ∃ place, Coherent s.system place
  linked : ∀ h, Linked h s.system.registrations (s.phase h) (s.system.ops (some h))
  syncs : Syncs (s.system.ops none) s.kickIds
  invalid : ∀ cred u, s.revoked cred u = true → s.users cred ≠ some u
  enforced : Enforced s
  walking : ∀ u todo kicked owed hit, s.system.ops none = .visiting u todo kicked owed hit →
    ∀ cred, s.users cred ≠ some u → Spent s.phase s.system.manager cred u todo

section Handlers

variable {n : Nat} {shards : Nat} {shardOf : ConnectionId → Nat} {s s' : Service n}

theorem moves_ended (users : Credential → Option UserId) (p : Phase) : Moves users p .ended := by
  intro cred u same
  cases same

/-- A handler that moves on leaves a revoked credential spent. -/
theorem Spent.move {phase : Fin n → Phase} {m : ConnectionManager} {cred : Credential} {u : UserId}
    {todo : Finset ConnectionId} (spent : Spent phase m cred u todo) {users : Credential → Option UserId}
    (invalid : users cred ≠ some u) {h : Fin n} {p : Phase} (moves : Moves users (phase h) p) :
    Spent (Function.update phase h p) m cred u todo := by
  intro h' same
  by_cases mine : h' = h
  · subst mine
    rw [Function.update_self] at same ⊢
    obtain ⟨old, kept⟩ := (moves cred u same).resolve_left invalid
    obtain ⟨past, covered⟩ := spent h' old
    obtain ⟨unpending, conn⟩ := kept.resolve_left past
    exact ⟨unpending, fun c its => covered c (conn ▸ its)⟩
  · rw [Function.update_of_ne mine] at same ⊢
    exact spent h' same

/-- A step of the manager keeps what is spent: it brings no registered connection back. -/
theorem Spent.manager {phase : Fin n → Phase} {m m' : ConnectionManager} {cred : Credential} {u : UserId}
    {todo : Finset ConnectionId} (spent : Spent phase m cred u todo) (more : m.cancelled ⊆ m'.cancelled)
    (kept : ∀ h c conn, (phase h).connId = some c → m'.connections.lookup c = some conn →
      m.connections.lookup c = some conn) : Spent phase m' cred u todo := by
  intro h same
  obtain ⟨past, covered⟩ := spent h same
  refine ⟨past, fun c mine conn found => ?_⟩
  exact (covered c mine conn (kept h c conn mine found)).imp_right (more ·)

theorem Lawful.tethered (lawful : Lawful s) : Tethered s := ⟨lawful.linked, lawful.syncs⟩

theorem Lawful.spent (lawful : Lawful s) {system : System (Option (Fin n))} {t : Option (Fin n)}
    (frame : Frame s.system system t)
    (kept : ∀ r ∈ s.system.registrations, ∀ conn, system.manager.connections.lookup r.connId = some conn →
      s.system.manager.connections.lookup r.connId = some conn)
    {cred : Credential} {u : UserId} {todo : Finset ConnectionId}
    (spent : Spent s.phase s.system.manager cred u todo) : Spent s.phase system.manager cred u todo := by
  refine spent.manager frame.cancelled fun h c conn mine found => ?_
  obtain ⟨r, member, rfl, -⟩ := (lawful.linked h).registered mine
  exact kept r member conn found

/-- A handler moves on, with or without a step of the manager. -/
theorem Lawful.handler (lawful : Lawful s) {system : System (Option (Fin n))} {h : Fin n} {p : Phase}
    (coherent : ∃ place, Coherent system place) (frame : Frame s.system system (some h))
    (kept : ∀ r ∈ s.system.registrations, ∀ conn, system.manager.connections.lookup r.connId = some conn →
      s.system.manager.connections.lookup r.connId = some conn)
    (tethered : Tethered { s.setPhase h p with system })
    (moves : Moves s.users (s.phase h) p) : Lawful { s.setPhase h p with system } := by
  have sync : system.ops none = s.system.ops none := frame.ops none nofun
  constructor
  case coherent => exact coherent
  case linked => exact tethered.linked
  case syncs => exact tethered.syncs
  case invalid => exact lawful.invalid
  case enforced => exact fun cred u gone =>
      (lawful.spent frame kept (lawful.enforced cred u gone)).move (lawful.invalid cred u gone) moves
  case walking =>
    intro u todo kicked owed hit op cred invalid
    have walked := lawful.walking u todo kicked owed hit (sync.symm.trans op) cred invalid
    exact (lawful.spent frame kept walked).move invalid moves

/-- A handler moves on between its calls of the manager. -/
theorem Lawful.setPhase (lawful : Lawful s) {h : Fin n} {p : Phase} (tethered : Tethered (s.setPhase h p))
    (moves : Moves s.users (s.phase h) p) : Lawful (s.setPhase h p) :=
  lawful.handler lawful.coherent (.refl ..) (fun _ _ _ => id) tethered moves

/-- A handler moves on with a step of the manager. -/
theorem Lawful.manager (lawful : Lawful s) {system : System (Option (Fin n))} {h : Fin n} {p : Phase}
    {action : Action} (stepped : s.system.step shards shardOf (some h, action) = some system)
    (few : system.issued.length < 2 ^ 64) (tethered : Tethered { s.setPhase h p with system })
    (moves : Moves s.users (s.phase h) p) : Lawful { s.setPhase h p with system } := by
  obtain ⟨place, coherent⟩ := lawful.coherent
  refine lawful.handler (coherent.step stepped few) (step_frame stepped).1 ?_ tethered moves
  exact fun r member conn found => coherent.lookup_kept stepped member found

theorem Lawful.authenticate (lawful : Lawful s) {h : Fin n} {cred : Credential}
    (stepped : s.step shards shardOf (.authenticate h cred) = some s') (tethered : Tethered s') : Lawful s' := by
  simp only [Service.step] at stepped
  split at stepped
  · rename_i u phase known
    cases stepped
    refine lawful.setPhase tethered ?_
    intro cred' u' same
    cases same
    exact .inl known
  · cases stepped
    exact lawful.setPhase tethered (moves_ended _ _)
  · cases stepped

/-- A handler comes back from an await before its registration. -/
theorem moves_awaited (users : Credential → Option UserId) (p p' : Phase) (pending : p.Pending)
    (same : p'.credential = p.credential) (went : Bool) : Moves users p (if went then p' else .ended) := by
  cases went with
  | false => exact moves_ended _ _
  | true => exact fun cred u its => .inr ⟨same ▸ its, .inl pending⟩

theorem Lawful.route (lawful : Lawful s) {h : Fin n} {allowed : Bool}
    (stepped : s.step shards shardOf (.route h allowed) = some s') (tethered : Tethered s') : Lawful s' := by
  simp only [Service.step] at stepped
  split at stepped
  · rename_i cred u phase
    cases stepped
    refine lawful.setPhase tethered ?_
    rw [phase]
    exact moves_awaited s.users (.authenticated cred u) (.routed cred u) trivial rfl allowed
  · cases stepped

theorem Lawful.respond (lawful : Lawful s) {h : Fin n} {sent : Bool}
    (stepped : s.step shards shardOf (.respond h sent) = some s') (tethered : Tethered s') : Lawful s' := by
  simp only [Service.step] at stepped
  split at stepped
  · rename_i cred u phase
    cases stepped
    refine lawful.setPhase tethered ?_
    rw [phase]
    exact moves_awaited s.users (.routed cred u) (.answered cred u) trivial rfl sent
  · cases stepped

theorem Lawful.register (lawful : Lawful s) {h : Fin n}
    (stepped : s.step shards shardOf (.register h) = some s') (tethered : Tethered s')
    (few : s'.system.issued.length < 2 ^ 64) : Lawful s' := by
  simp only [Service.step] at stepped
  split at stepped
  · rename_i cred u phase
    obtain ⟨system, called, rfl⟩ := Option.map_eq_some_iff.mp stepped
    refine lawful.manager called few tethered ?_
    rw [phase]
    exact fun cred' u' same => .inr ⟨same, .inl trivial⟩
  · cases stepped

theorem Lawful.endRelay (lawful : Lawful s) {h : Fin n}
    (stepped : s.step shards shardOf (.endRelay h) = some s') (tethered : Tethered s')
    (few : s'.system.issued.length < 2 ^ 64) : Lawful s' := by
  simp only [Service.step] at stepped
  split at stepped
  · rename_i cred u c token phase
    obtain ⟨system, called, rfl⟩ := Option.map_eq_some_iff.mp stepped
    refine lawful.manager called few tethered ?_
    rw [phase]
    exact fun cred' u' same => .inr ⟨same, .inr ⟨id, rfl⟩⟩
  · cases stepped

/-- A step of a call gives its handler no credential, and keeps the connection it has. -/
theorem CallStep.moves {h : Fin n} {p : Phase} {system : System (Option (Fin n))} (taken : CallStep s h p system) :
    Moves s.users (s.phase h) p := by
  cases taken with
  | allots phase | inserts phase | indexes phase =>
      rw [phase]
      exact fun cred' u' same => .inr ⟨same, .inl trivial⟩
  | misses | unindexes => exact moves_ended _ _
  | removes phase =>
      rw [phase]
      exact fun cred' u' same => .inr ⟨same, .inr ⟨id, rfl⟩⟩

theorem Lawful.advance (lawful : Lawful s) {h : Fin n}
    (stepped : s.step shards shardOf (.advance h) = some s') (tethered : Tethered s')
    (few : s'.system.issued.length < 2 ^ 64) : Lawful s' := by
  obtain ⟨system, called, rfl⟩ := Option.map_eq_some_iff.mp stepped
  exact lawful.manager called few tethered ((lawful.linked h).advances called).moves

end Handlers

section Sync

variable {n : Nat} {shards : Nat} {shardOf : ConnectionId → Nat} {s s' : Service n}

/-- When no handler with the credential is pending, its connections are in the set of the user. -/
theorem Lawful.spent_index (lawful : Lawful s) {cred : Credential} {u : UserId}
    (past : ∀ h, (s.phase h).credential = some (cred, u) → ¬ (s.phase h).Pending) :
    Spent s.phase s.system.manager cred u (s.system.manager.index u) := by
  intro h same
  refine ⟨past h same, fun c mine conn found => .inl ?_⟩
  obtain ⟨r, member, rfl, its⟩ := (lawful.linked h).registered mine
  obtain ⟨place, coherent⟩ := lawful.coherent
  rw [← its cred u same]
  exact coherent.registered_index member found

/-- A visit takes its connection off the list, cancelled or gone. -/
theorem Spent.visit {phase : Fin n → Phase} {m m' : ConnectionManager} {cred : Credential} {u : UserId}
    {todo : Finset ConnectionId} (spent : Spent phase m cred u todo) {c : ConnectionId}
    (same : m'.connections = m.connections) (more : m.cancelled ⊆ m'.cancelled)
    (hit : ∀ conn, m.connections.lookup c = some conn → conn.cancelToken ∈ m'.cancelled) :
    Spent phase m' cred u (todo.erase c) := by
  intro h its
  obtain ⟨past, covered⟩ := spent h its
  refine ⟨past, fun d mine conn found => ?_⟩
  rw [same] at found
  by_cases visited : d = c
  · subst visited
    exact .inr (hit conn found)
  · rcases covered d mine conn found with ahead | cancelled
    · exact .inl (Finset.mem_erase.mpr ⟨visited, ahead⟩)
    · exact .inr (more cancelled)

/-- A step of the sync that does not end a kick. -/
theorem Lawful.sync (lawful : Lawful s) {system : System (Option (Fin n))} {action : Action}
    (stepped : s.system.step shards shardOf (none, action) = some system) (few : system.issued.length < 2 ^ 64)
    (tethered : Tethered { s with system })
    (walking : ∀ u todo kicked owed hit, system.ops none = .visiting u todo kicked owed hit →
      ∀ cred, s.users cred ≠ some u → Spent s.phase system.manager cred u todo) :
    Lawful { s with system } := by
  obtain ⟨place, coherent⟩ := lawful.coherent
  have frame := (step_frame stepped).1
  constructor
  case coherent => exact coherent.step stepped few
  case linked => exact tethered.linked
  case syncs => exact tethered.syncs
  case invalid => exact lawful.invalid
  case enforced =>
    intro cred u gone
    exact lawful.spent frame (fun r member conn found => coherent.lookup_kept stepped member found)
      (lawful.enforced cred u gone)
  case walking => exact walking

/-- The end of a kick: what it did not leave is revoked for good. -/
theorem Lawful.returned (lawful : Lawful s) {system : System (Option (Fin n))} {action : Action} {u : UserId}
    {ids : List UserId} (stepped : s.system.step shards shardOf (none, action) = some system)
    (few : system.issued.length < 2 ^ 64) (head : s.kickIds = u :: ids) (idle : system.ops none = .idle)
    (spent : ∀ cred, s.users cred ≠ some u → Spent s.phase system.manager cred u ∅) :
    Lawful (s.synced system) := by
  have quiet : Lawful { s with system } := by
    refine lawful.sync stepped few (lawful.tethered.sync (step_frame stepped).1 _ _ ?_) ?_
    · rw [idle]
      exact .idle _
    · intro v todo kicked owed hit op
      cases idle.symm.trans op
  simp only [Service.synced, idle, head]
  refine { quiet with syncs := ?_, invalid := ?_, enforced := ?_ }
  · show Syncs (system.ops none) ids
    rw [idle]
    exact .idle _
  · intro cred v gone
    rcases Bool.or_eq_true_iff.mp gone with old | new
    · exact lawful.invalid cred v old
    · exact (of_decide_eq_true new).2
  · intro cred v gone
    rcases Bool.or_eq_true_iff.mp gone with old | new
    · exact quiet.enforced cred v old
    · obtain ⟨rfl, invalid⟩ := of_decide_eq_true new
      exact spent cred invalid

theorem Lawful.replaceUsers (lawful : Lawful s) {users : Credential → Option UserId} {diff : UserDiff}
    (stepped : s.step shards shardOf (.replaceUsers users diff) = some s') (tethered : Tethered s') :
    Lawful s' := by
  simp only [Service.step] at stepped
  split at stepped
  · rename_i done
    cases stepped
    refine { lawful with syncs := tethered.syncs, invalid := ?_, enforced := ?_, walking := ?_ }
    · exact fun cred u gone => (of_decide_eq_true gone).2
    · exact fun cred u gone => lawful.enforced cred u (of_decide_eq_true gone).1
    · intro u todo kicked owed hit op
      -- a sync with no id left is idle
      have syncs := lawful.syncs
      rw [done, show s.system.ops none = _ from op] at syncs
      cases syncs
  · cases stepped

theorem Lawful.kickNext (lawful : Lawful s) (stepped : s.step shards shardOf .kickNext = some s')
    (tethered : Tethered s') (few : s'.system.issued.length < 2 ^ 64) : Lawful s' := by
  simp only [Service.step] at stepped
  split at stepped
  · rename_i u ids head
    obtain ⟨system, called, rfl⟩ := Option.map_eq_some_iff.mp stepped
    have kicking : system.ops none = .kicking u (s.system.owed u) := by
      simp only [System.step] at called
      split at called
      · cases called
        exact become_self s.system none _
      · cases called
    refine lawful.sync called few tethered ?_
    intro v todo kicked owed hit op
    cases kicking.symm.trans op
  · cases stepped

/-- A kick takes a step, and it was quiet if it looks its user up now. -/
theorem Lawful.synced (lawful : Lawful s) {system : System (Option (Fin n))} {action : Action}
    (called : s.system.step shards shardOf (none, action) = some system) (taken : SyncStep s system)
    (quiet : ∀ u owed, s.system.ops none = .kicking u owed → ∀ h cred,
      (s.phase h).credential = some (cred, u) → s.users cred ≠ some u → ¬ (s.phase h).Pending)
    (few : system.issued.length < 2 ^ 64) : Lawful (s.synced system) := by
  have indexed {u : UserId} {owed : List (Registration (Option (Fin n)))}
      (op : s.system.ops none = .kicking u owed) (cred : Credential) (invalid : s.users cred ≠ some u) :
      Spent s.phase s.system.manager cred u (s.system.manager.index u) :=
    lawful.spent_index fun h same => quiet u owed op h cred same invalid
  -- the kick goes on, with what is left of the set
  have walks {u : UserId} {todo : Finset ConnectionId} {kicked : Nat}
      {owed : List (Registration (Option (Fin n)))} {hit : List (ConnectionId × ActiveConnection)}
      (op : system.ops none = .visiting u todo kicked owed hit)
      (spent : ∀ cred, s.users cred ≠ some u → Spent s.phase system.manager cred u todo) :
      Lawful (s.synced system) := by
    have busy : system.ops none ≠ .idle := by
      intro idle
      cases op.symm.trans idle
    have tethered := lawful.tethered.synced called taken
    rw [synced_busy busy] at tethered ⊢
    refine lawful.sync called few tethered ?_
    intro v todo' kicked' owed' hit' op' cred invalid
    cases op.symm.trans op'
    exact spent cred invalid
  cases taken with
  | @misses u owed ids head op missing =>
      have empty : s.system.manager.index u = ∅ := by rw [ConnectionManager.index, missing]; rfl
      exact lawful.returned called few head (returnKick_ops ..) fun cred invalid => empty ▸ indexed op cred invalid
  | @finds u owed ids all head op found =>
      refine walks (become_self ..) fun cred invalid => ?_
      have spent := indexed op cred invalid
      rwa [ConnectionManager.index, found] at spent
  | @skips u todo kicked owed hit ids c head op missing =>
      refine walks (become_self ..) fun cred invalid => ?_
      refine (lawful.walking u todo kicked owed hit op cred invalid).visit rfl (Finset.Subset.refl _) ?_
      intro conn found
      cases missing.symm.trans found
  | @cancels u todo kicked owed hit ids c conn head op found =>
      refine walks (become_self s.system none _) fun cred invalid => ?_
      refine (lawful.walking u todo kicked owed hit op cred invalid).visit rfl (Finset.subset_insert ..) ?_
      intro conn' found'
      cases found.symm.trans found'
      exact Finset.mem_insert_self ..
  | @returns u kicked owed hit ids head op =>
      exact lawful.returned called few head (returnKick_ops ..) (lawful.walking u ∅ kicked owed hit op)

theorem Lawful.syncAdvance (lawful : Lawful s) (quiet : LooksUpQuietly s .syncAdvance)
    (stepped : s.step shards shardOf .syncAdvance = some s') (few : s'.system.issued.length < 2 ^ 64) :
    Lawful s' := by
  obtain ⟨system, called, rfl⟩ := Option.map_eq_some_iff.mp stepped
  rw [synced_system] at few
  refine lawful.synced called (lawful.syncs.advances called) ?_ few
  intro u owed op h cred same invalid
  have looked : u ∈ s.lookedUp .syncAdvance := by simp only [Service.lookedUp, op, Option.mem_def]
  exact quiet u looked h (cred, u) same rfl invalid

theorem Lawful.syncVisit (lawful : Lawful s) {c : ConnectionId}
    (stepped : s.step shards shardOf (.syncVisit c) = some s') (few : s'.system.issued.length < 2 ^ 64) :
    Lawful s' := by
  obtain ⟨system, called, rfl⟩ := Option.map_eq_some_iff.mp stepped
  rw [synced_system] at few
  refine lawful.synced called (lawful.syncs.visits called) ?_ few
  intro u owed op
  -- a kick that has not looked its user up visits nothing
  simp only [System.step, System.visit, op] at called
  cases called

end Sync

section Run

variable {n : Nat} {shards : Nat} {shardOf : ConnectionId → Nat} {s s' : Service n}

theorem lawful_new (users : Credential → Option UserId) : Lawful (Service.new users : Service n) where
  coherent := ⟨_, coherent_new⟩
  linked _ := .start
  syncs := .idle []
  invalid _ _ gone := absurd gone Bool.false_ne_true
  enforced _ _ gone := absurd gone Bool.false_ne_true
  walking _ _ _ _ _ op := by cases op

/-- A step takes at most one step of the manager. -/
theorem step_issued {e : Event n} (stepped : s.step shards shardOf e = some s') :
    s.system.issued.length ≤ s'.system.issued.length := by
  have called : ∀ {t : Option (Fin n)} {action : Action} {next : System (Option (Fin n)) → Service n},
      (∀ system, (next system).system = system) →
      (s.system.step shards shardOf (t, action)).map next = some s' →
      s.system.issued.length ≤ s'.system.issued.length := by
    intro t action next same mapped
    obtain ⟨system, taken, rfl⟩ := Option.map_eq_some_iff.mp mapped
    rw [same]
    exact (step_frame taken).1.issued
  cases e with
  | authenticate h cred | route h allowed | respond h sent | replaceUsers users diff =>
      simp only [Service.step] at stepped
      split at stepped <;> cases stepped <;> exact le_rfl
  | register h | endRelay h | kickNext =>
      simp only [Service.step] at stepped
      split at stepped
      · exact called (fun _ => rfl) stepped
      · cases stepped
  | advance h => exact called (fun _ => rfl) stepped
  | syncAdvance => exact called (synced_system s) stepped
  | syncVisit c => exact called (synced_system s) stepped

theorem Lawful.step (lawful : Lawful s) {e : Event n} (quiet : LooksUpQuietly s e)
    (stepped : s.step shards shardOf e = some s') (few : s'.system.issued.length < 2 ^ 64) : Lawful s' := by
  have tethered := lawful.tethered.step stepped
  cases e with
  | authenticate h cred => exact lawful.authenticate stepped tethered
  | route h allowed => exact lawful.route stepped tethered
  | respond h sent => exact lawful.respond stepped tethered
  | register h => exact lawful.register stepped tethered few
  | endRelay h => exact lawful.endRelay stepped tethered few
  | advance h => exact lawful.advance stepped tethered few
  | replaceUsers users diff => exact lawful.replaceUsers stepped tethered
  | kickNext => exact lawful.kickNext stepped tethered few
  | syncAdvance => exact lawful.syncAdvance quiet stepped few
  | syncVisit c => exact lawful.syncVisit stepped few

/-- In every run whose lookups are quiet, a kick that has returned left nothing of the revoked
credential behind, and nothing of it comes later. -/
theorem revocation_enforced {users : Credential → Option UserId} {schedule : List (Event n)}
    (ran : follow (Service.step shards shardOf) (.new users) schedule = some s)
    (quiet : Along (Service.step shards shardOf) LooksUpQuietly (.new users) schedule)
    (few : s.system.issued.length < 2 ^ 64) : Enforced s := by
  have keep : ∀ {s : Service n} {e : Event n} {s' : Service n},
      (s.system.issued.length < 2 ^ 64 → Lawful s) → LooksUpQuietly s e → s.step shards shardOf e = some s' →
      s'.system.issued.length < 2 ^ 64 → Lawful s' := by
    intro s e s' lawful quiet stepped few
    exact (lawful ((step_issued stepped).trans_lt few)).step quiet stepped few
  exact (follow_along (I := fun s => s.system.issued.length < 2 ^ 64 → Lawful s) keep
    (fun _ => lawful_new users) quiet ran few).enforced

end Run

/-- One user with one credential. -/
def oneUser (known : Credential) : Credential → Option UserId := fun cred => if cred = known then some 7 else none

/-- The steps of a handler from its authentication to its tunnel. -/
def opens {n : Nat} (h : Fin n) (cred : Credential) : List (Event n) :=
  [.authenticate h cred, .route h true, .respond h true, .register h, .advance h, .advance h, .advance h]

/-- A tunnel is open when its credential is replaced, and another is opened with the new one. -/
def replacedWhileOpen : List (Event 2) :=
  opens 0 "old" ++ [.replaceUsers (oneUser "new") ⟨[], [7]⟩, .kickNext, .syncAdvance, .syncVisit 1, .syncAdvance] ++
    opens 1 "new"

theorem replacedWhileOpen_runs :
    (follow (Service.step 1 fun _ => 0) (.new (oneUser "old")) replacedWhileOpen).isSome = true := by
  decide +kernel

theorem revocation_enforced_while_open :
    ∃ s, follow (Service.step 1 fun _ => 0) (.new (oneUser "old")) replacedWhileOpen = some s ∧
      Along (Service.step 1 fun _ => 0) LooksUpQuietly (.new (oneUser "old")) replacedWhileOpen ∧
      s.system.issued.length < 2 ^ 64 ∧ s.revoked "old" 7 = true ∧ s.phase 0 = .relaying "old" 7 1 0 ∧
      s.phase 1 = .relaying "new" 7 2 1 ∧ s.system.manager.cancelled = {0} ∧ Enforced s := by
  have ran := (Option.some_get replacedWhileOpen_runs).symm
  have quiet : Along (Service.step 1 fun _ => 0) LooksUpQuietly (.new (oneUser "old")) replacedWhileOpen := by
    decide +kernel
  have few : (Option.get _ replacedWhileOpen_runs).system.issued.length < 2 ^ 64 := by decide +kernel
  exact ⟨_, ran, quiet, few, by decide +kernel, by decide +kernel, by decide +kernel, by decide +kernel,
    revocation_enforced ran quiet few⟩

/-- A handler has authenticated and awaits its route while its user is removed and kicked. -/
def removedWhileRouting : List (Event 1) :=
  [.authenticate 0 "old", .replaceUsers (fun _ => none) ⟨[7], []⟩, .kickNext, .syncAdvance, .route 0 true,
    .respond 0 true, .register 0, .advance 0, .advance 0, .advance 0]

theorem removedWhileRouting_runs :
    (follow (Service.step 1 fun _ => 0) (.new (oneUser "old")) removedWhileRouting).isSome = true := by
  decide +kernel

/-- It then registers a tunnel that nothing cancels. -/
theorem removed_user_registers :
    ∃ s, follow (Service.step 1 fun _ => 0) (.new (oneUser "old")) removedWhileRouting = some s ∧
      s.revoked "old" 7 = true ∧ s.phase 0 = .relaying "old" 7 1 0 ∧
      s.system.manager.connections.lookup 1 = some ⟨7, 0⟩ ∧ 0 ∉ s.system.manager.cancelled ∧ ¬ Enforced s := by
  have gone : (Option.get _ removedWhileRouting_runs).revoked "old" 7 = true := by decide +kernel
  have tunnel : (Option.get _ removedWhileRouting_runs).phase 0 = .relaying "old" 7 1 0 := by decide +kernel
  have found : (Option.get _ removedWhileRouting_runs).system.manager.connections.lookup 1 = some ⟨7, 0⟩ := by
    decide +kernel
  have uncancelled : 0 ∉ (Option.get _ removedWhileRouting_runs).system.manager.cancelled := by decide +kernel
  refine ⟨_, (Option.some_get removedWhileRouting_runs).symm, gone, tunnel, found, uncancelled, ?_⟩
  intro enforced
  obtain ⟨-, covered⟩ := enforced "old" 7 gone 0 (by rw [tunnel]; rfl)
  rcases covered 1 (by rw [tunnel]; rfl) _ found with ahead | cancelled
  · exact Finset.notMem_empty _ ahead
  · exact uncancelled cancelled

end ServerNaive
