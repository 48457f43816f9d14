import ServerNaive.Handler.Calls

/-! The entries of the manager and the handlers that made them: each entry is held by a handler
whose tunnel is being registered, is open or is being unregistered. -/
namespace ServerNaive
open AsyncIo

/-- A handler is somewhere between the call of `register` and the end of `unregister`. -/
def Phase.carries : Phase → Bool
  | .registering _ _ => true
  | .relaying _ _ _ _ => true
  | .unregistering _ _ _ => true
  | _ => false

/-- The entry of the manager that a handler has made and not yet removed. -/
def heldIn {τ : Type} : Op τ → Phase → Option ConnectionId
  | .inserted _ c _, _ => some c
  | .removed _ _, _ => none
  | _, p => p.connId

/-- A kick leaves the map of connections alone. -/
theorem SyncStep.connections {n : Nat} {s : Service n} {system : System (Option (Fin n))} (taken : SyncStep s system) :
    system.manager.connections = s.system.manager.connections := by
  cases taken <;> rfl

namespace Service

variable {n : Nat} {shards : Nat} {shardOf : ConnectionId → Nat} {s s' : Service n}

def holds (s : Service n) (h : Fin n) : Option ConnectionId := heldIn (s.system.ops (some h)) (s.phase h)

/-- Every entry of the manager is held by a handler. -/
def Housed (s : Service n) : Prop := ∀ c ∈ s.system.manager.connections, ∃ h, s.holds h = some c

theorem holds_carries (tethered : Tethered s) {h : Fin n} {c : ConnectionId} (held : s.holds h = some c) :
    (s.phase h).carries = true := by
  have linked := tethered.linked h
  unfold holds at held
  generalize s.phase h = p, s.system.ops (some h) = op at linked held
  cases linked with
  | start | authenticated | routed | answered | registering | allotted | removed | ended => cases held
  | inserted | relaying | unregistering => rfl

/-- As many entries as handlers that carry a tunnel, at most. -/
theorem Housed.count_le (housed : s.Housed) (tethered : Tethered s) :
    s.system.manager.connectionCount ≤ (Finset.univ.filter fun h => (s.phase h).carries = true).card := by
  have covered : s.system.manager.connections.keys ⊆
      (Finset.univ.filter fun h => (s.phase h).carries = true).image fun h => (s.holds h).getD 0 := by
    intro c entry
    obtain ⟨h, held⟩ := housed c (Finmap.mem_keys.mp entry)
    refine Finset.mem_image.mpr ⟨h, Finset.mem_filter.mpr ⟨Finset.mem_univ h, holds_carries tethered held⟩, ?_⟩
    rw [held, Option.getD_some]
  exact (Finset.card_le_card covered).trans Finset.card_image_le

/-- A handler moves on: what is in the map is held by it now, or was held by another. -/
theorem Housed.handler (housed : s.Housed) {system : System (Option (Fin n))} {h : Fin n} {p : Phase}
    (frame : Frame s.system system (some h))
    (kept : ∀ c ∈ system.manager.connections, heldIn (system.ops (some h)) p = some c ∨
      c ∈ s.system.manager.connections ∧ s.holds h ≠ some c) :
    Housed { s.setPhase h p with system } := by
  intro c entry
  rcases kept c entry with mine | ⟨old, foreign⟩
  · refine ⟨h, ?_⟩
    show heldIn (system.ops (some h)) (Function.update s.phase h p h) = some c
    rw [Function.update_self]
    exact mine
  · obtain ⟨h', held⟩ := housed c old
    have other : h' ≠ h := by
      rintro rfl
      exact foreign held
    refine ⟨h', ?_⟩
    show heldIn (system.ops (some h')) (Function.update s.phase h p h') = some c
    rw [Function.update_of_ne other, frame.ops _ fun same => other (Option.some.inj same)]
    exact held

/-- A handler moves on without a change of the map or of what it holds. -/
theorem Housed.stays (housed : s.Housed) {system : System (Option (Fin n))} {h : Fin n} {p : Phase}
    (frame : Frame s.system system (some h)) (same : system.manager.connections = s.system.manager.connections)
    (still : heldIn (system.ops (some h)) p = s.holds h) : Housed { s.setPhase h p with system } := by
  refine housed.handler frame fun c entry => ?_
  rw [same] at entry
  rw [still]
  by_cases mine : s.holds h = some c
  · exact .inl mine
  · exact .inr ⟨entry, mine⟩

theorem Housed.setPhase (housed : s.Housed) (tethered : Tethered s) {h : Fin n} {p q : Phase}
    (phase : s.phase h = q) (free : ¬ q.Calling) (unchanged : p.connId = q.connId) :
    Housed (s.setPhase h p) := by
  refine housed.stays (.refl ..) rfl ?_
  unfold holds
  rw [tethered.idle phase free, phase]
  exact unchanged

/-- A call puts its entry into the map, and takes it out. -/
theorem Housed.call (housed : s.Housed) {system : System (Option (Fin n))} {h : Fin n} {p : Phase}
    (taken : CallStep s h p system) (frame : Frame s.system system (some h)) :
    Housed { s.setPhase h p with system } := by
  have before {op : Op (Option (Fin n))} {q : Phase} (phase : s.phase h = q) (running : s.system.ops (some h) = op) :
      s.holds h = heldIn op q := by
    unfold holds
    rw [phase, running]
  have after (op : Op (Option (Fin n))) : heldIn ((s.system.become (some h) op).ops (some h)) p = heldIn op p := by
    rw [become_self]
  cases taken with
  | @allots cred u phase op => exact housed.stays frame rfl ((after _).trans (before phase op).symm)
  | @inserts cred u c token phase op =>
      refine housed.handler frame fun d entry => ?_
      rcases Finmap.mem_insert.mp entry with rfl | old
      · exact .inl (after _)
      · refine .inr ⟨old, ?_⟩
        rw [before phase op]
        intro mine
        cases mine
  | @indexes cred u c token phase op => exact housed.stays frame rfl ((after _).trans (before phase op).symm)
  | @misses cred u c phase op missing =>
      refine housed.handler frame fun d entry => .inr ⟨entry, ?_⟩
      rw [before phase op]
      rintro ⟨⟩
      exact Finmap.lookup_eq_none.mp missing entry
  | @removes cred u c conn phase op found =>
      refine housed.handler frame fun d entry => ?_
      obtain ⟨other, old⟩ := Finmap.mem_erase.mp entry
      refine .inr ⟨old, ?_⟩
      rw [before phase op]
      exact fun same => other (Option.some.inj same).symm
  | @unindexes cred u v c phase op =>
      exact housed.stays frame (s.system.manager.unindexConnection_frame v c).1
        ((after _).trans (before phase op).symm)

/-- The sync holds no entry. -/
theorem Housed.sync (housed : s.Housed) (next : Service n) (phase : next.phase = s.phase)
    (frame : Frame s.system next.system none)
    (same : next.system.manager.connections = s.system.manager.connections) : next.Housed := by
  intro c entry
  rw [same] at entry
  obtain ⟨h, held⟩ := housed c entry
  refine ⟨h, ?_⟩
  unfold holds
  rw [frame.ops (some h) nofun, phase]
  exact held

theorem Housed.synced (housed : s.Housed) {system : System (Option (Fin n))} {action : Action}
    (called : s.system.step shards shardOf (none, action) = some system) (taken : SyncStep s system) :
    (s.synced system).Housed := by
  refine housed.sync _ (synced_phase s system) ?_ ?_
  · rw [synced_system]
    exact (step_frame called).1
  · rw [synced_system]
    exact taken.connections

theorem Housed.step (housed : s.Housed) (tethered : Tethered s) {e : Event n}
    (stepped : s.step shards shardOf e = some s') : s'.Housed := by
  cases e with
  | authenticate h cred =>
      simp only [Service.step] at stepped
      split at stepped
      · rename_i phase known
        cases stepped
        exact housed.setPhase tethered phase id rfl
      · rename_i phase unknown
        cases stepped
        exact housed.setPhase tethered phase id rfl
      · cases stepped
  | route h went | respond h went =>
      simp only [Service.step] at stepped
      split at stepped
      · rename_i phase
        cases stepped
        refine housed.setPhase tethered phase id ?_
        cases went <;> rfl
      · cases stepped
  | register h =>
      simp only [Service.step] at stepped
      split at stepped
      · rename_i cred u phase
        obtain ⟨system, called, rfl⟩ := Option.map_eq_some_iff.mp stepped
        have frame := (step_frame called).1
        have idle := tethered.idle phase id
        simp only [System.step, idle, System.begin, Option.some.injEq] at called
        subst called
        refine housed.stays frame rfl ?_
        unfold holds
        rw [become_self, idle, phase]
        rfl
      · cases stepped
  | endRelay h =>
      simp only [Service.step] at stepped
      split at stepped
      · rename_i cred u c token phase
        obtain ⟨system, called, rfl⟩ := Option.map_eq_some_iff.mp stepped
        have frame := (step_frame called).1
        have idle := tethered.idle phase id
        simp only [System.step, idle, System.begin] at called
        split_ifs at called
        cases called
        refine housed.stays frame rfl ?_
        show heldIn ((s.system.become (some h) (.unregistering c)).ops (some h)) _ = _
        unfold holds
        rw [become_self, idle, phase]
        rfl
      · cases stepped
  | advance h =>
      obtain ⟨system, called, rfl⟩ := Option.map_eq_some_iff.mp stepped
      exact housed.call ((tethered.linked h).advances called) (step_frame called).1
  | replaceUsers users diff =>
      simp only [Service.step] at stepped
      split at stepped
      · cases stepped
        exact housed.sync _ rfl (.refl ..) rfl
      · cases stepped
  | kickNext =>
      simp only [Service.step] at stepped
      split at stepped
      · obtain ⟨system, called, rfl⟩ := Option.map_eq_some_iff.mp stepped
        refine housed.sync _ rfl (step_frame called).1 ?_
        simp only [System.step] at called
        split at called
        · cases called
          rfl
        · cases called
      · cases stepped
  | syncAdvance =>
      obtain ⟨system, called, rfl⟩ := Option.map_eq_some_iff.mp stepped
      exact housed.synced called (tethered.syncs.advances called)
  | syncVisit c =>
      obtain ⟨system, called, rfl⟩ := Option.map_eq_some_iff.mp stepped
      exact housed.synced called (tethered.syncs.visits called)

theorem housed_new (users : Credential → Option UserId) : (Service.new users : Service n).Housed :=
  fun _ entry => absurd entry Finmap.notMem_empty

theorem advanced_carries {h : Fin n} {system : System (Option (Fin n))}
    (now : (s.advanced h system).carries = true) : (s.phase h).carries = true := by
  unfold Service.advanced at now
  split at now
  · rename_i phase _
    rw [phase]
    rfl
  · cases now
  · exact now

/-- Only `register` makes a handler carry a tunnel. -/
theorem carries_step {e : Event n} (stepped : s.step shards shardOf e = some s') {h : Fin n}
    (now : (s'.phase h).carries = true) : (s.phase h).carries = true ∨ e = .register h := by
  have moved {h' : Fin n} {p : Phase} (now : (Function.update s.phase h' p h).carries = true)
      (its : p.carries = true → (s.phase h').carries = true ∨ e = .register h') :
      (s.phase h).carries = true ∨ e = .register h := by
    by_cases mine : h = h'
    · subst mine
      rw [Function.update_self] at now
      exact its now
    · rw [Function.update_of_ne mine] at now
      exact .inl now
  cases e with
  | authenticate h' cred =>
      simp only [Service.step] at stepped
      split at stepped
      · cases stepped
        exact moved now fun carries => by cases carries
      · cases stepped
        exact moved now fun carries => by cases carries
      · cases stepped
  | route h' went | respond h' went =>
      simp only [Service.step] at stepped
      split at stepped
      · cases stepped
        refine moved now fun carries => ?_
        cases went <;> cases carries
      · cases stepped
  | register h' =>
      simp only [Service.step] at stepped
      split at stepped
      · obtain ⟨system, -, rfl⟩ := Option.map_eq_some_iff.mp stepped
        exact moved now fun _ => .inr rfl
      · cases stepped
  | endRelay h' =>
      simp only [Service.step] at stepped
      split at stepped
      · rename_i phase
        obtain ⟨system, -, rfl⟩ := Option.map_eq_some_iff.mp stepped
        refine moved now fun _ => .inl ?_
        rw [phase]
        rfl
      · cases stepped
  | advance h' =>
      obtain ⟨system, -, rfl⟩ := Option.map_eq_some_iff.mp stepped
      exact moved now fun carries => .inl (advanced_carries carries)
  | replaceUsers users diff =>
      simp only [Service.step] at stepped
      split at stepped
      · cases stepped
        exact .inl now
      · cases stepped
  | kickNext =>
      simp only [Service.step] at stepped
      split at stepped
      · obtain ⟨system, -, rfl⟩ := Option.map_eq_some_iff.mp stepped
        exact .inl now
      · cases stepped
  | syncAdvance | syncVisit c =>
      obtain ⟨system, -, rfl⟩ := Option.map_eq_some_iff.mp stepped
      rw [synced_phase] at now
      exact .inl now

end Service

end ServerNaive
