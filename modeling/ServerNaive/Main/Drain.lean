import ServerNaive.Handler.Calls
import ServerNaive.Main.Shutdown

/-! What the end of the process waits for. `cancel_all` and the counts go through the map shard by shard
while connections come and go, so neither sees the map at one moment. Each still settles what it is asked
for the connections that were there when it began, since none of them comes back. -/
namespace ServerNaive
open AsyncIo

namespace ConnectionManager

theorem lookup_of_shardLen {m : ConnectionManager} {shardOf : ConnectionId → Nat} {c : ConnectionId}
    (empty : m.shardLen shardOf (shardOf c) = 0) : m.connections.lookup c = none := by
  by_contra found
  have member : c ∈ m.connections.keys.filter (shardOf · = shardOf c) :=
    Finset.mem_filter.mpr ⟨Finmap.mem_keys.mpr (Finmap.mem_iff.mpr (Option.ne_none_iff_exists'.mp found)), rfl⟩
  rw [Finset.card_eq_zero.mp empty] at member
  exact absurd member (Finset.notMem_empty c)

theorem mem_cancelShard {m : ConnectionManager} {shardOf : ConnectionId → Nat} {c : ConnectionId}
    {conn : ActiveConnection} (found : m.connections.lookup c = some conn) :
    conn.cancelToken ∈ (m.cancelShard shardOf (shardOf c)).cancelled := by
  refine Finset.mem_union_right _ (Finset.mem_biUnion.mpr ⟨c, ?_, ?_⟩)
  · exact Finset.mem_filter.mpr ⟨Finmap.mem_keys.mpr (Finmap.mem_iff.mpr ⟨conn, found⟩), rfl⟩
  · rw [found]
    exact Finset.mem_singleton_self _

end ConnectionManager

section Manager

variable {τ : Type} [DecidableEq τ] [Fintype τ] {shards : Nat} {shardOf : ConnectionId → Nat} {s s' : System τ}

/-- A connection leaves the first map by an `unregister` only. -/
theorem Coherent.lookup_stays {place : ConnectionId → Place τ} (coherent : Coherent s place) {t : τ} {action : Action}
    (stepped : s.step shards shardOf (t, action) = some s') {c : ConnectionId} {conn : ActiveConnection}
    (found : s.manager.connections.lookup c = some conn) :
    s'.manager.connections.lookup c = some conn ∨ s.ops t = .unregistering c := by
  cases action with
  | call op =>
      simp only [System.step] at stepped
      split at stepped
      · cases op with
        | register u | kickUser u | cancelAll =>
            cases stepped
            exact .inl found
        | unregister d =>
            simp only [System.begin] at stepped
            split_ifs at stepped
            cases stepped
            exact .inl found
      · cases stepped
  | visit d =>
      simp only [System.step, System.visit] at stepped
      split at stepped
      · split_ifs at stepped
        split at stepped <;> cases stepped <;> exact .inl found
      · cases stepped
  | advance =>
      simp only [System.step, System.advance] at stepped
      split at stepped
      · cases stepped
      · cases stepped
        exact .inl found
      · rename_i u d token op
        cases stepped
        -- an id that is only allotted is not in the map
        have held := Place.eq_allotted ((coherent.tied t d _).mp (congrArg Op.stage op))
        have other : c ≠ d := by
          rintro rfl
          have mapped := coherent.connections c
          rw [held, found] at mapped
          cases mapped
        exact .inl ((Finmap.lookup_insert_of_ne _ other).trans found)
      · split_ifs at stepped
        cases stepped
        exact .inl found
      · rename_i d op
        split at stepped
        · cases stepped
          exact .inl found
        · cases stepped
          by_cases same : c = d
          · exact .inr (same ▸ op)
          · exact .inl ((Finmap.lookup_erase_ne same).trans found)
      · rename_i u d op
        split_ifs at stepped
        cases stepped
        obtain ⟨unmapped, -, -, -⟩ := s.manager.unindexConnection_frame u d
        exact .inl ((congrArg (Finmap.lookup c) unmapped).trans found)
      · split at stepped <;> cases stepped <;> exact .inl found
      · split_ifs at stepped
        cases stepped
        exact .inl found
      · split_ifs at stepped <;> cases stepped <;> exact .inl found

end Manager

namespace Service

variable {n : Nat} {shards : Nat} {shardOf : ConnectionId → Nat} {s s' : Service n}

/-- An event of the service leaves the manager alone or is a step of one of its tasks. -/
theorem step_system {e : Event n} (stepped : s.step shards shardOf e = some s') :
    s'.system = s.system ∨ ∃ t action, s.system.step shards shardOf (t, action) = some s'.system := by
  cases e with
  | authenticate h cred =>
      simp only [step] at stepped
      split at stepped <;> cases stepped <;> exact .inl rfl
  | route h allowed | respond h allowed =>
      simp only [step] at stepped
      split at stepped <;> cases stepped
      exact .inl rfl
  | replaceUsers users diff =>
      simp only [step] at stepped
      split at stepped <;> cases stepped
      exact .inl rfl
  | register h | endRelay h =>
      simp only [step] at stepped
      split at stepped
      · obtain ⟨system, called, rfl⟩ := Option.map_eq_some_iff.mp stepped
        exact .inr ⟨_, _, called⟩
      · cases stepped
  | kickNext =>
      simp only [step] at stepped
      split at stepped
      · obtain ⟨system, called, rfl⟩ := Option.map_eq_some_iff.mp stepped
        exact .inr ⟨_, _, called⟩
      · cases stepped
  | advance h =>
      obtain ⟨system, called, rfl⟩ := Option.map_eq_some_iff.mp stepped
      exact .inr ⟨_, _, called⟩
  | syncAdvance | syncVisit c =>
      obtain ⟨system, called, rfl⟩ := Option.map_eq_some_iff.mp stepped
      rw [synced_system]
      exact .inr ⟨_, _, called⟩

/-- A handler that relays has its connection in the map. -/
def Live (s : Service n) : Prop :=
  ∀ h cred u c token, s.phase h = .relaying cred u c token →
    s.system.manager.connections.lookup c = some ⟨u, token⟩

/-- A step of the manager leaves the connections of the handlers that relay in the map. -/
theorem Live.system (live : Live s) {place : ConnectionId → Place (Option (Fin n))} (coherent : Coherent s.system place)
    (tethered : Tethered s) {t : Option (Fin n)} {action : Action} {system : System (Option (Fin n))}
    (called : s.system.step shards shardOf (t, action) = some system) {h : Fin n} {cred : Credential} {u : UserId}
    {c : ConnectionId} {token : CancelToken} (phase : s.phase h = .relaying cred u c token) :
    system.manager.connections.lookup c = some ⟨u, token⟩ := by
  rcases coherent.lookup_stays called (live h cred u c token phase) with stays | leaves
  · exact stays
  · -- only its own handler unregisters it, and that one is idle
    obtain ⟨-, r, member, mine, same⟩ := coherent.asked t c leaves
    have linked := tethered.linked h
    have idle := tethered.idle phase id
    rw [phase, idle] at linked
    cases linked with
    | relaying _ its =>
        have twins := List.inj_on_of_nodup_map coherent.single member its same
        subst twins
        rw [← mine, idle] at leaves
        cases leaves

/-- A handler moves on, with or without a step of the manager. -/
theorem Live.handler {system : System (Option (Fin n))} {h : Fin n} {p : Phase}
    (others : ∀ h' cred u c token, s.phase h' = .relaying cred u c token →
      system.manager.connections.lookup c = some ⟨u, token⟩)
    (mine : ∀ cred u c token, p = .relaying cred u c token →
      system.manager.connections.lookup c = some ⟨u, token⟩) :
    Live { s.setPhase h p with system } := by
  intro h' cred u c token phase
  change Function.update s.phase h p h' = _ at phase
  by_cases same : h' = h
  · subst same
    rw [Function.update_self] at phase
    exact mine cred u c token phase
  · rw [Function.update_of_ne same] at phase
    exact others h' cred u c token phase

theorem Live.step (live : Live s) {place : ConnectionId → Place (Option (Fin n))} (coherent : Coherent s.system place)
    (tethered : Tethered s) {e : Event n} (stepped : s.step shards shardOf e = some s') : Live s' := by
  have system {t : Option (Fin n)} {action : Action} {system : System (Option (Fin n))}
      (called : s.system.step shards shardOf (t, action) = some system) (h : Fin n) (cred : Credential) (u : UserId)
      (c : ConnectionId) (token : CancelToken) (phase : s.phase h = .relaying cred u c token) :
      system.manager.connections.lookup c = some ⟨u, token⟩ :=
    live.system coherent tethered called phase
  cases e with
  | authenticate h cred =>
      simp only [Service.step] at stepped
      split at stepped <;> cases stepped <;> exact Live.handler live fun _ _ _ _ other => by cases other
  | route h went | respond h went =>
      simp only [Service.step] at stepped
      split at stepped <;> cases stepped
      refine Live.handler live fun _ _ _ _ other => ?_
      cases went <;> cases other
  | replaceUsers users diff =>
      simp only [Service.step] at stepped
      split at stepped <;> cases stepped
      exact live
  | register h | endRelay h =>
      simp only [Service.step] at stepped
      split at stepped
      · obtain ⟨next, called, rfl⟩ := Option.map_eq_some_iff.mp stepped
        exact Live.handler (system called) fun _ _ _ _ other => by cases other
      · cases stepped
  | kickNext =>
      simp only [Service.step] at stepped
      split at stepped
      · obtain ⟨next, called, rfl⟩ := Option.map_eq_some_iff.mp stepped
        exact system called
      · cases stepped
  | advance h =>
      obtain ⟨next, called, rfl⟩ := Option.map_eq_some_iff.mp stepped
      refine Live.handler (system called) ?_
      have taken := (tethered.linked h).advances called
      generalize s.advanced h next = p at taken
      intro cred u c token same
      subst same
      cases taken with
      | indexes phase op =>
          have held := Place.eq_inserted ((coherent.tied (some h) c _).mp (congrArg Op.stage op))
          exact (coherent.connections c).trans (congrArg Place.connection held)
  | syncAdvance | syncVisit c =>
      obtain ⟨next, called, rfl⟩ := Option.map_eq_some_iff.mp stepped
      intro h cred u c token phase
      rw [synced_phase] at phase
      rw [synced_system]
      exact system called h cred u c token phase

end Service

/-- The tokens of these registrations are cancelled in the first `k` shards, as far as they are still in
the map. -/
def Covered {τ : Type} (shardOf : ConnectionId → Nat) (m : ConnectionManager) (rs : List (Registration τ)) (k : Nat) :
    Prop :=
  ∀ r ∈ rs, shardOf r.connId < k → ∀ conn, m.connections.lookup r.connId = some conn → conn.cancelToken ∈ m.cancelled

/-- None of these registrations is left in the first `k` shards. -/
def Emptied {τ : Type} (shardOf : ConnectionId → Nat) (m : ConnectionManager) (rs : List (Registration τ)) (k : Nat) :
    Prop :=
  ∀ r ∈ rs, shardOf r.connId < k → m.connections.lookup r.connId = none

section Walk

variable {τ : Type} {shardOf : ConnectionId → Nat} {m m' : ConnectionManager} {rs : List (Registration τ)} {k : Nat}

theorem Covered.grows (covered : Covered shardOf m rs k) (more : m.cancelled ⊆ m'.cancelled)
    (kept : ∀ r ∈ rs, ∀ conn, m'.connections.lookup r.connId = some conn →
      m.connections.lookup r.connId = some conn) : Covered shardOf m' rs k :=
  fun r member below conn found => more (covered r member below conn (kept r member conn found))

theorem Emptied.grows (emptied : Emptied shardOf m rs k)
    (kept : ∀ r ∈ rs, ∀ conn, m'.connections.lookup r.connId = some conn →
      m.connections.lookup r.connId = some conn) : Emptied shardOf m' rs k := by
  intro r member below
  by_contra found
  obtain ⟨conn, found⟩ := Option.ne_none_iff_exists'.mp found
  cases (emptied r member below).symm.trans (kept r member conn found)

theorem covered_zero : Covered shardOf m rs 0 := fun _ _ below => absurd below (Nat.not_lt_zero _)

theorem emptied_zero : Emptied shardOf m rs 0 := fun _ _ below => absurd below (Nat.not_lt_zero _)

/-- One more shard is cancelled. -/
theorem Covered.shard (covered : Covered shardOf m rs k) :
    Covered shardOf (m.cancelShard shardOf k) rs (k + 1) := by
  intro r member below conn found
  rcases Nat.lt_succ_iff_lt_or_eq.mp below with before | same
  · exact Finset.mem_union_left _ (covered r member before conn found)
  · rw [← same]
    exact ConnectionManager.mem_cancelShard found

/-- One more shard was found empty. -/
theorem Emptied.shard (emptied : Emptied shardOf m rs k) (empty : m.shardLen shardOf k = 0) :
    Emptied shardOf m rs (k + 1) := by
  intro r member below
  rcases Nat.lt_succ_iff_lt_or_eq.mp below with before | same
  · exact emptied r member before
  · exact ConnectionManager.lookup_of_shardLen (same ▸ empty)

end Walk

namespace MainPhase

/-- How many shards `cancel_all` has been through. -/
def cancelledTo (shards : Nat) : MainPhase → Nat
  | .serving => 0
  | .stopped => 0
  | .cancelling shard _ => shard
  | _ => shards

/-- How the drain ended. -/
def drained : MainPhase → Option Bool
  | .joining drained => some drained
  | .unregistering drained => some drained
  | .closing drained => some drained
  | .ended drained => some drained
  | _ => none

/-- How many shards were found empty in a row since the connections were last gone through. -/
def emptiedTo (shards : Nat) : MainPhase → Nat
  | .cancelling shard cancelled => if cancelled = 0 then shard else 0
  | .counting _ shard remaining => if remaining = 0 then shard else 0
  | main => if main.drained = some true then shards else 0

/-- `cancel_all` has returned. -/
def cancelledAll : MainPhase → Bool
  | .serving => false
  | .stopped => false
  | .cancelling _ _ => false
  | _ => true

theorem cancelledTo_of_cancelledAll {shards : Nat} {main : MainPhase} (all : main.cancelledAll = true) :
    main.cancelledTo shards = shards := by
  cases main with
  | serving | stopped | cancelling => cases all
  | counting | sleeping | joining | unregistering | closing | ended => rfl

theorem emptiedTo_of_drained {shards : Nat} {main : MainPhase} (empty : main.drained = some true) :
    main.emptiedTo shards = shards := by
  cases main with
  | serving | stopped | cancelling | counting | sleeping => cases empty
  | joining | unregistering | closing | ended => exact if_pos empty

end MainPhase

namespace Process

variable {n : Nat} {shards : Nat} {shardOf : ConnectionId → Nat} {p p' : Process n}

/-- What holds of the process at every moment, as long as the ids have not run out. -/
structure Ordered (shards : Nat) (shardOf : ConnectionId → Nat) (p : Process n) : Prop where
  coherent : ∃ place, Coherent p.service.system place
  tethered : Tethered p.service
  live : p.service.Live
  due : p.due ⊆ p.counted
  counted : p.counted ⊆ p.registrations
  covered : Covered shardOf p.manager p.due (p.main.cancelledTo shards)
  emptied : Emptied shardOf p.manager p.counted (p.main.emptiedTo shards)

theorem ordered_new (users : Credential → Option UserId) : Ordered shards shardOf (new users : Process n) where
  coherent := ⟨_, coherent_new⟩
  tethered := ⟨fun _ => .start, .idle []⟩
  live _ _ _ _ _ phase := by cases phase
  due := List.Subset.refl _
  counted := List.Subset.refl _
  covered := covered_zero
  emptied := emptied_zero

/-- The service moves on. No connection comes back into a shard that was gone through. -/
theorem Ordered.service (h : Ordered shards shardOf p) {e : Event n} {service : Service n}
    (stepped : p.service.step shards shardOf e = some service) (few : service.system.issued.length < 2 ^ 64) :
    Ordered shards shardOf { p with service } := by
  obtain ⟨place, coherent⟩ := h.coherent
  have live := h.live.step coherent h.tethered stepped
  have tethered := h.tethered.step stepped
  obtain ⟨coherent', registrations, cancelled, kept⟩ : (∃ place, Coherent service.system place) ∧
      p.registrations ⊆ service.system.registrations ∧ p.manager.cancelled ⊆ service.system.manager.cancelled ∧
      ∀ r ∈ p.registrations, ∀ conn, service.system.manager.connections.lookup r.connId = some conn →
        p.manager.connections.lookup r.connId = some conn := by
    rcases Service.step_system stepped with same | ⟨t, action, called⟩
    · rw [same]
      exact ⟨⟨place, coherent⟩, List.Subset.refl _, Finset.Subset.refl _, fun _ _ _ found => found⟩
    · have frame := (step_frame called).1
      exact ⟨coherent.step called few, frame.registrations, frame.cancelled,
        fun r member conn found => coherent.lookup_kept called member found⟩
  exact ⟨coherent', tethered, live, h.due, fun r member => registrations (h.counted member),
    h.covered.grows cancelled fun r member => kept r (h.counted (h.due member)),
    h.emptied.grows fun r member => kept r (h.counted member)⟩

/-- `main` moves on to where its walks found no more than before. -/
theorem Ordered.phase (h : Ordered shards shardOf p) {main : MainPhase} {cancelToken : Bool} {now : Nat}
    {listener : Listener} {sleeps : Nat} (cancelled : main.cancelledTo shards ≤ p.main.cancelledTo shards)
    (emptied : main.emptiedTo shards ≤ p.main.emptiedTo shards) :
    Ordered shards shardOf { p with main, cancelToken, now, listener, sleeps } :=
  ⟨h.coherent, h.tethered, h.live, h.due, h.counted,
    fun r member below => h.covered r member (below.trans_le cancelled),
    fun r member below => h.emptied r member (below.trans_le emptied)⟩

/-- The connections are gone through anew. -/
theorem Ordered.anew (h : Ordered shards shardOf p) {main : MainPhase} {began : Nat}
    (cancelled : main.cancelledTo shards ≤ p.main.cancelledTo shards) (unseen : main.emptiedTo shards = 0) :
    Ordered shards shardOf { p with main, counted := p.registrations, began } :=
  ⟨h.coherent, h.tethered, h.live, fun _ member => h.counted (h.due member), List.Subset.refl _,
    fun r member below => h.covered r member (below.trans_le cancelled),
    fun _ _ below => absurd (below.trans_eq unseen) (Nat.not_lt_zero _)⟩

theorem Ordered.cancelShard (h : Ordered shards shardOf p) {shard cancelled : Nat}
    (main : p.main = .cancelling shard cancelled) :
    Ordered shards shardOf { p with
      service := p.cancelShard shardOf shard
      main := .cancelling (shard + 1) (cancelled + p.manager.shardLen shardOf shard) } := by
  obtain ⟨place, coherent⟩ := h.coherent
  have covered := h.covered
  have emptied := h.emptied
  rw [main] at covered emptied
  refine ⟨⟨place, { coherent with }⟩, ⟨h.tethered.linked, h.tethered.syncs⟩, h.live, h.due, h.counted,
    covered.shard, ?_⟩
  simp only [MainPhase.emptiedTo] at emptied ⊢
  split_ifs with none_left
  · rw [if_pos (by omega)] at emptied
    exact emptied.shard (by omega)
  · exact emptied_zero

theorem Ordered.countShard (h : Ordered shards shardOf p) {deadline shard remaining : Nat}
    (main : p.main = .counting deadline shard remaining) :
    Ordered shards shardOf { p with
      main := .counting deadline (shard + 1) (remaining + p.manager.shardLen shardOf shard) } := by
  have covered := h.covered
  have emptied := h.emptied
  rw [main] at covered emptied
  refine ⟨h.coherent, h.tethered, h.live, h.due, h.counted, covered, ?_⟩
  simp only [MainPhase.emptiedTo] at emptied ⊢
  split_ifs with none_left
  · rw [if_pos (by omega)] at emptied
    exact emptied.shard (by omega)
  · exact emptied_zero

theorem Ordered.mainStep (h : Ordered shards shardOf p) (stepped : p.mainStep shards shardOf = some p') :
    Ordered shards shardOf p' := by
  unfold Process.mainStep at stepped
  split at stepped
  · rename_i main
    split_ifs at stepped
    cases stepped
    exact h.phase (Nat.zero_le _) (Nat.zero_le _)
  · cases stepped
    exact ⟨h.coherent, h.tethered, h.live, List.Subset.refl _, List.Subset.refl _, covered_zero, emptied_zero⟩
  · rename_i shard cancelled main
    split_ifs at stepped with below some_cancelled
    · cases stepped
      exact h.cancelShard main
    · cases stepped
      refine h.anew ?_ rfl
      rw [main]
      exact Nat.le_of_not_lt below
    · cases stepped
      have none_cancelled : cancelled = 0 := Nat.eq_zero_of_not_pos some_cancelled
      refine h.phase ?_ ?_
      all_goals
        rw [main]
        simp only [MainPhase.cancelledTo, MainPhase.emptiedTo, MainPhase.drained, if_pos none_cancelled]
        exact Nat.le_of_not_lt below
  · rename_i deadline shard remaining main
    split_ifs at stepped with below none_left late
    · cases stepped
      exact h.countShard main
    · cases stepped
      refine h.phase ?_ ?_
      all_goals rw [main]
      · exact le_rfl
      · simp only [MainPhase.emptiedTo, MainPhase.drained, if_pos none_left]
        exact Nat.le_of_not_lt below
    · cases stepped
      refine h.phase ?_ (Nat.zero_le _)
      rw [main]
      exact le_rfl
    · cases stepped
      refine h.phase ?_ (Nat.zero_le _)
      rw [main]
      exact le_rfl
  · rename_i deadline wake main
    split_ifs at stepped
    cases stepped
    refine h.anew ?_ rfl
    rw [main]
    exact le_rfl
  · rename_i drained main
    split at stepped
    · cases stepped
      refine h.phase ?_ ?_
      all_goals
        rw [main]
        exact le_rfl
    · cases stepped
      refine h.phase ?_ ?_
      all_goals
        rw [main]
        exact le_rfl
    · cases stepped
  · rename_i drained main
    cases stepped
    refine h.phase ?_ ?_
    all_goals
      rw [main]
      exact le_rfl
  · rename_i drained main
    cases stepped
    refine h.phase ?_ ?_
    all_goals
      rw [main]
      exact le_rfl
  · cases stepped

theorem Ordered.step (h : Ordered shards shardOf p) (stepped : Stepped shards shardOf p p')
    (few : p'.service.system.issued.length < 2 ^ 64) : Ordered shards shardOf p' := by
  cases stepped with
  | service taken => exact h.service taken few
  | main taken => exact h.mainStep taken
  | stops _ => exact h.phase (Nat.zero_le _) (Nat.zero_le _)
  | aside => exact h.phase le_rfl le_rfl

theorem mainStep_issued (stepped : p.mainStep shards shardOf = some p') :
    p'.service.system.issued = p.service.system.issued := by
  unfold Process.mainStep at stepped
  split at stepped
  case h_1 | h_3 | h_4 | h_5 =>
    split_ifs at stepped
    all_goals
      cases stepped
      rfl
  case h_6 =>
    split at stepped
    all_goals
      cases stepped
      try rfl
  case h_2 | h_7 | h_8 =>
    cases stepped
    rfl
  case h_9 => cases stepped

/-- Ids are handed out and never taken back. -/
theorem Stepped.issued (stepped : Stepped shards shardOf p p') :
    p.service.system.issued.length ≤ p'.service.system.issued.length := by
  cases stepped with
  | service taken =>
      rcases Service.step_system taken with same | ⟨t, action, called⟩
      · exact (congrArg (List.length ∘ System.issued) same).ge
      · exact (step_frame called).1.issued
  | main taken => exact (congrArg List.length (mainStep_issued taken)).ge
  | stops => exact le_rfl
  | aside => exact le_rfl

/-- What holds of every state that a schedule leads to, while ids last. -/
def Sound (shards : Nat) (shardOf : ConnectionId → Nat) (p : Process n) : Prop :=
  p.service.system.issued.length < 2 ^ 64 → Ordered shards shardOf p

theorem Sound.step (sound : Sound shards shardOf p) {e : ProcessEvent n}
    (stepped : p.step shards shardOf e = some p') : Sound shards shardOf p' := by
  intro few
  have taken := step_stepped stepped
  exact (sound (taken.issued.trans_lt few)).step taken few

/-- Whatever handlers, kicks and signals do meanwhile: once `cancel_all` has returned, a handler that had
registered before it began and still relays has its token cancelled; and when the drain has ended without
its timeout, no handler that had registered before the last count began is still relaying. -/
theorem shutdown_drains (inside : ∀ c, shardOf c < shards) {users : Credential → Option UserId}
    {schedule : List (ProcessEvent n)} (ran : follow (step shards shardOf) (new users) schedule = some p)
    (few : p.service.system.issued.length < 2 ^ 64) {h : Fin n} {cred : Credential} {u : UserId} {c : ConnectionId}
    {token : CancelToken} (relays : p.service.phase h = .relaying cred u c token) :
    (p.main.cancelledAll = true → ⟨some h, c, u, token⟩ ∈ p.due → token ∈ p.manager.cancelled) ∧
      (p.main.drained = some true → ⟨some h, c, u, token⟩ ∉ p.counted) ∧ p.due ⊆ p.counted := by
  have ordered : Ordered shards shardOf p :=
    follow_invariant (I := Sound shards shardOf) (fun sound stepped => sound.step stepped) (fun _ => ordered_new users)
      ran few
  have found := ordered.live h cred u c token relays
  refine ⟨fun all member => ?_, fun drained member => ?_, ordered.due⟩
  · refine ordered.covered _ member ?_ _ found
    rw [MainPhase.cancelledTo_of_cancelledAll all]
    exact inside c
  · have gone := ordered.emptied _ member
    rw [MainPhase.emptiedTo_of_drained drained] at gone
    cases found.symm.trans (gone (inside c))

/-- A handler comes as far as its relay. -/
def entersRelay (h : Fin n) : List (ProcessEvent n) :=
  [.service (.authenticate h "a"), .service (.route h true), .service (.respond h true), .service (.register h),
    .service (.advance h), .service (.advance h), .service (.advance h)]

/-- One handler is cancelled and leaves in time. The other registers while the last count is under way,
in a shard that was counted already. -/
def lateHandler (first second : Fin n) : List (ProcessEvent n) :=
  entersRelay first ++ [.serverReturns, .main, .main, .main, .main, .service (.endRelay first),
    .service (.advance first), .service (.advance first), .main] ++ entersRelay second ++ [.main, .main]

/-- Ids alternate between two shards. -/
def parity (c : ConnectionId) : Nat := c % 2

theorem lateHandler_runs :
    (follow (step 2 parity) (new fun _ => some 7) (lateHandler (0 : Fin 2) 1)).isSome = true := by
  decide +kernel

theorem shutdown_drains_lateHandler :
    ∃ p, follow (step 2 parity) (new fun _ => some 7) (lateHandler (0 : Fin 2) 1) = some p ∧ p.main.drained = some true ∧
      p.service.phase 1 = .relaying "a" 7 2 1 ∧ p.due ⊆ p.counted ∧ ⟨some 1, 2, 7, 1⟩ ∉ p.counted := by
  have ran := (Option.some_get lateHandler_runs).symm
  have few : (Option.get _ lateHandler_runs).service.system.issued.length < 2 ^ 64 := by decide +kernel
  have relays : (Option.get _ lateHandler_runs).service.phase 1 = .relaying "a" 7 2 1 := by decide +kernel
  have drained : (Option.get _ lateHandler_runs).main.drained = some true := by decide +kernel
  obtain ⟨-, gone, due⟩ := shutdown_drains (fun c => Nat.mod_lt c Nat.two_pos) ran few relays
  exact ⟨_, ran, drained, relays, due, gone drained⟩

end Process

end ServerNaive
