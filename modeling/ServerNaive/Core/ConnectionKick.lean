import ServerNaive.Core.ConnectionIndex

/-! Kicks against the index. A kick holds the guard of its user's entry while it walks it,
so the set does not change under it, and every connection it owes is still in the first map
when it looks it up. -/
namespace ServerNaive
open AsyncIo

def Op.Kicking {τ : Type} : Op τ → Prop
  | .kicking _ _ => True
  | .visiting _ _ _ _ _ => True
  | _ => False

/-- The task runs `cancel_all`. -/
def Op.Sweeping {τ : Type} : Op τ → Prop
  | .cancelling _ _ => True
  | _ => False

section Steps

variable {τ : Type} [DecidableEq τ]

/-- A step of `t` as the other tasks see it. -/
structure Frame (s s' : System τ) (t : τ) : Prop where
  ops : ∀ t', t' ≠ t → s'.ops t' = s.ops t'
  cancelled : s.manager.cancelled ⊆ s'.manager.cancelled
  registrations : s.registrations ⊆ s'.registrations
  leaving : s.leaving ⊆ s'.leaving
  issued : s.issued.length ≤ s'.issued.length
  index : ∀ u t', (s.ops t').guards u = true → s'.manager.index u = s.manager.index u

/-- A step of `t` that is none of a kick cancels what it sweeps, and sweeps in a `cancel_all` that was
called. -/
structure Sweeps (s s' : System τ) (t : τ) (action : Action) (tokens : Finset CancelToken) : Prop where
  cancelled : s'.manager.cancelled = s.manager.cancelled ∪ tokens
  swept : s'.swept = s.swept ∪ tokens
  before : tokens = ∅ ∨ (s.ops t).Sweeping
  after : (s'.ops t).Sweeping → (s.ops t).Sweeping ∨ action = .call .cancelAll

/-- A step of `t` as its kicks see it. -/
inductive KickStep (s s' : System τ) (t : τ) (action : Action) : Prop
  | quiet {tokens : Finset CancelToken} (kicks : s'.kicks = s.kicks) (before : ¬ (s.ops t).Kicking)
      (after : ¬ (s'.ops t).Kicking) (sweeps : Sweeps s s' t action tokens)
  | begins (u : UserId) (idle : s.ops t = .idle) (same : s' = s.become t (.kicking u (s.owed u)))
  | finds {u : UserId} {owed : List (Registration τ)} {ids : Finset ConnectionId}
      (op : s.ops t = .kicking u owed) (found : s.manager.userConnections.lookup u = some ids)
      (same : s' = s.become t (.visiting u ids 0 owed []))
  | misses {u : UserId} {owed : List (Registration τ)} (op : s.ops t = .kicking u owed)
      (missing : s.manager.userConnections.lookup u = none) (same : s' = s.returnKick t u 0 owed [])
  | skips {u : UserId} {todo : Finset ConnectionId} {kicked : Nat} {owed : List (Registration τ)}
      {hit : List (ConnectionId × ActiveConnection)} {c : ConnectionId}
      (op : s.ops t = .visiting u todo kicked owed hit) (member : c ∈ todo)
      (missing : s.manager.connections.lookup c = none)
      (same : s' = s.become t (.visiting u (todo.erase c) kicked owed hit))
  | cancels {u : UserId} {todo : Finset ConnectionId} {kicked : Nat} {owed : List (Registration τ)}
      {hit : List (ConnectionId × ActiveConnection)} {c : ConnectionId} {conn : ActiveConnection}
      (op : s.ops t = .visiting u todo kicked owed hit) (member : c ∈ todo)
      (found : s.manager.connections.lookup c = some conn)
      (same : s' = { s.become t (.visiting u (todo.erase c) (kicked + 1) owed (hit ++ [(c, conn)])) with
        manager := s.manager.cancel conn.cancelToken })
  | returns {u : UserId} {kicked : Nat} {owed : List (Registration τ)}
      {hit : List (ConnectionId × ActiveConnection)} (op : s.ops t = .visiting u ∅ kicked owed hit)
      (same : s' = s.returnKick t u kicked owed hit)

theorem become_self (s : System τ) (t : τ) (op : Op τ) : (s.become t op).ops t = op :=
  Function.update_self ..

omit [DecidableEq τ] in
theorem Frame.refl (s : System τ) (t : τ) : Frame s s t where
  ops _ _ := rfl
  cancelled := Finset.Subset.refl _
  registrations := List.Subset.refl _
  leaving := List.Subset.refl _
  issued := le_rfl
  index _ _ _ := rfl

theorem frame_become (s : System τ) (t : τ) (op : Op τ) : Frame s (s.become t op) t where
  ops _ other := Function.update_of_ne other ..
  cancelled := Finset.Subset.refl _
  registrations := List.Subset.refl _
  leaving := List.Subset.refl _
  issued := le_rfl
  index _ _ _ := rfl

/-- A step that goes on to an operation that is no kick, and cancels nothing. -/
theorem KickStep.calm {s s' : System τ} {t : τ} {action : Action} {op : Op τ} (before : ¬ (s.ops t).Kicking)
    (ops : s'.ops = (s.become t op).ops) (kicks : s'.kicks = s.kicks)
    (cancelled : s'.manager.cancelled = s.manager.cancelled) (swept : s'.swept = s.swept) (after : ¬ op.Kicking)
    (called : op.Sweeping → (s.ops t).Sweeping ∨ action = .call .cancelAll) : KickStep s s' t action := by
  have now : s'.ops t = op := by rw [ops, become_self]
  have sweeps : Sweeps s s' t action ∅ := by
    refine ⟨?_, ?_, .inl rfl, now ▸ called⟩
    · rw [cancelled, Finset.union_empty]
    · rw [swept, Finset.union_empty]
  exact .quiet kicks before (now ▸ after) sweeps

theorem begin_frame {s s' : System τ} {t : τ} {call : ManagerCall} (idle : s.ops t = .idle)
    (began : s.begin t call = some s') : Frame s s' t ∧ KickStep s s' t (.call call) := by
  have before : ¬ (s.ops t).Kicking := idle ▸ id
  cases call with
  | register u =>
      cases began
      exact ⟨frame_become s t _, .calm before rfl rfl rfl rfl id False.elim⟩
  | unregister c =>
      simp only [System.begin] at began
      split_ifs at began
      cases began
      exact ⟨{ frame_become s t (.unregistering c) with leaving := List.subset_append_left .. },
        .calm before rfl rfl rfl rfl id False.elim⟩
  | kickUser u =>
      cases began
      exact ⟨frame_become s t _, .begins u idle rfl⟩
  | cancelAll =>
      cases began
      exact ⟨frame_become s t _, .calm before rfl rfl rfl rfl id fun _ => .inr rfl⟩

theorem visit_frame {s s' : System τ} {t : τ} {c : ConnectionId} (visited : s.visit t c = some s') :
    Frame s s' t ∧ KickStep s s' t (.visit c) := by
  unfold System.visit at visited
  split at visited
  · rename_i u todo kicked owed hit op
    split_ifs at visited with member
    split at visited
    · rename_i missing
      cases visited
      exact ⟨frame_become s t _, .skips op member missing rfl⟩
    · rename_i conn found
      cases visited
      refine ⟨?_, .cancels op member found rfl⟩
      exact { frame_become s t (.visiting u (todo.erase c) (kicked + 1) owed (hit ++ [(c, conn)])) with
        cancelled := Finset.subset_insert ..
        index := fun _ _ _ => rfl }
  · cases visited

variable [Fintype τ] {shards : Nat} {shardOf : ConnectionId → Nat}

theorem advance_frame {s s' : System τ} {t : τ} (advanced : s.advance shards shardOf t = some s') :
    Frame s s' t ∧ KickStep s s' t .advance := by
  unfold System.advance at advanced
  split at advanced
  · cases advanced
  · rename_i u op
    cases advanced
    refine ⟨{ frame_become s t (.allotted u s.manager.nextConnId s.manager.tokens) with
      issued := ?_, index := fun _ _ _ => rfl }, .calm (op ▸ id) rfl rfl rfl rfl id False.elim⟩
    exact List.length_append ▸ Nat.le_add_right ..
  · rename_i u c token op
    cases advanced
    exact ⟨{ frame_become s t (.inserted u c token) with index := fun _ _ _ => rfl },
      .calm (op ▸ id) rfl rfl rfl rfl id False.elim⟩
  · rename_i u c token op
    split_ifs at advanced with guarded
    cases advanced
    refine ⟨{ frame_become s t .idle with
      registrations := List.subset_append_left .., index := fun v t' guards => ?_ },
      .calm (op ▸ id) rfl rfl rfl rfl id False.elim⟩
    refine (s.manager.index_insert u v _).trans (if_neg ?_)
    rintro rfl
    exact guarded ⟨t', guards⟩
  · rename_i c op
    split at advanced
    · cases advanced
      exact ⟨{ frame_become s t .idle with }, .calm (op ▸ id) rfl rfl rfl rfl id False.elim⟩
    · rename_i conn found
      cases advanced
      exact ⟨{ frame_become s t (.removed conn.userId c) with index := fun _ _ _ => rfl },
        .calm (op ▸ id) rfl rfl rfl rfl id False.elim⟩
  · rename_i u c op
    split_ifs at advanced with guarded
    cases advanced
    obtain ⟨-, -, -, uncancelled⟩ := s.manager.unindexConnection_frame u c
    refine ⟨{ frame_become s t .idle with
      cancelled := uncancelled.ge, index := fun v t' guards => ?_ },
      .calm (op ▸ id) rfl rfl uncancelled rfl id False.elim⟩
    refine (s.manager.index_unindexConnection u v c).trans (if_neg ?_)
    rintro rfl
    exact guarded ⟨t', guards⟩
  · rename_i u owed op
    split at advanced
    · rename_i missing
      cases advanced
      exact ⟨{ frame_become s t .idle with }, .misses op missing rfl⟩
    · rename_i ids found
      cases advanced
      exact ⟨frame_become s t _, .finds op found rfl⟩
  · rename_i u todo kicked owed hit op
    split_ifs at advanced with walked
    subst walked
    cases advanced
    exact ⟨{ frame_become s t .idle with }, .returns op rfl⟩
  · rename_i shard cancelled op
    have sweeping : (s.ops t).Sweeping := by
      rw [op]
      trivial
    split_ifs at advanced
    · cases advanced
      refine ⟨{ frame_become s t (.cancelling (shard + 1)
          (cancelled + (s.manager.connections.keys.filter (shardOf · = shard)).card)) with
        cancelled := Finset.subset_union_left, index := fun _ _ _ => rfl }, ?_⟩
      refine .quiet rfl (op ▸ id) ?_ ⟨rfl, rfl, .inr sweeping, fun _ => .inl sweeping⟩
      show ¬ ((s.become t _).ops t).Kicking
      rw [become_self]
      exact id
    · cases advanced
      exact ⟨frame_become s t _, .calm (op ▸ id) rfl rfl rfl rfl id False.elim⟩

theorem step_frame {s s' : System τ} {t : τ} {action : Action}
    (stepped : s.step shards shardOf (t, action) = some s') : Frame s s' t ∧ KickStep s s' t action := by
  cases action with
  | call op =>
      simp only [System.step] at stepped
      split at stepped
      · rename_i idle
        exact begin_frame idle stepped
      · cases stepped
  | advance => exact advance_frame stepped
  | visit c => exact visit_frame stepped

theorem Coherent.step {s s' : System τ} {place : ConnectionId → Place τ} (coherent : Coherent s place)
    {t : τ} {action : Action} (stepped : s.step shards shardOf (t, action) = some s')
    (few : s'.issued.length < 2 ^ 64) : ∃ next, Coherent s' next := by
  cases action with
  | call op =>
      simp only [System.step] at stepped
      split at stepped
      · rename_i idle
        exact ⟨place, coherent.begin idle stepped⟩
      · cases stepped
  | advance => exact coherent.advance stepped few
  | visit c => exact ⟨place, coherent.visit stepped⟩

/-- A registered connection never comes back into the first map. -/
theorem Coherent.lookup_kept {s s' : System τ} {place : ConnectionId → Place τ} (coherent : Coherent s place)
    {t : τ} {action : Action} (stepped : s.step shards shardOf (t, action) = some s') {r : Registration τ}
    (member : r ∈ s.registrations) {conn : ActiveConnection}
    (found : s'.manager.connections.lookup r.connId = some conn) :
    s.manager.connections.lookup r.connId = some conn := by
  cases action with
  | call op =>
      simp only [System.step] at stepped
      split at stepped
      · cases op with
        | register u | kickUser u | cancelAll =>
            cases stepped
            exact found
        | unregister c =>
            simp only [System.begin] at stepped
            split_ifs at stepped
            cases stepped
            exact found
      · cases stepped
  | visit c =>
      simp only [System.step, System.visit] at stepped
      split at stepped
      · split_ifs at stepped
        split at stepped <;> cases stepped <;> exact found
      · cases stepped
  | advance =>
      simp only [System.step, System.advance] at stepped
      split at stepped
      · cases stepped
      · cases stepped
        exact found
      · rename_i u c token op
        cases stepped
        have held := Place.eq_allotted ((coherent.tied t c _).mp (congrArg Op.stage op))
        have other := coherent.registered_ne (by rw [held]; exact fun _ => id) member
        exact (Finmap.lookup_insert_of_ne _ other).symm.trans found
      · split_ifs at stepped
        cases stepped
        exact found
      · rename_i c op
        split at stepped
        · cases stepped
          exact found
        · cases stepped
          by_cases same : r.connId = c
          · rw [same] at found
            cases (Finmap.lookup_erase c _).symm.trans found
          · exact (Finmap.lookup_erase_ne same).symm.trans found
      · rename_i u c op
        split_ifs at stepped
        cases stepped
        obtain ⟨unmapped, -, -, -⟩ := s.manager.unindexConnection_frame u c
        exact (congrArg (Finmap.lookup r.connId) unmapped).symm.trans found
      · split at stepped <;> cases stepped <;> exact found
      · split_ifs at stepped
        cases stepped
        exact found
      · split_ifs at stepped <;> cases stepped <;> exact found

end Steps

/-- The registrations a kick owes are completed ones of its user. -/
def Owes {τ : Type} (s : System τ) (u : UserId) (owed : List (Registration τ)) : Prop :=
  ∀ r ∈ owed, r ∈ s.registrations ∧ r.userId = u

/-- The connections a kick has cancelled so far. -/
structure Hits {τ : Type} (s : System τ) (u : UserId) (kicked : Nat)
    (hit : List (ConnectionId × ActiveConnection)) : Prop where
  counted : kicked = hit.length
  distinct : (hit.map Prod.fst).Nodup
  mine : ∀ h ∈ hit, h.2.userId = u
  cancelled : ∀ h ∈ hit, h.2.cancelToken ∈ s.manager.cancelled
  given : ∀ h ∈ hit, ∃ r ∈ s.registrations, r.connection = h

/-- A kick in the middle of its walk. -/
structure Walks {τ : Type} (s : System τ) (u : UserId) (todo : Finset ConnectionId) (kicked : Nat)
    (owed : List (Registration τ)) (hit : List (ConnectionId × ActiveConnection)) : Prop where
  hits : Hits s u kicked hit
  owes : Owes s u owed
  inside : todo ⊆ s.manager.index u
  ahead : ∀ c ∈ todo, c ∉ hit.map Prod.fst
  reached : ∀ r ∈ owed, r.connId ∉ s.leaving → r.connId ∈ todo ∨ r.connection ∈ hit

/-- A kick that has returned cancelled what it owed, nothing of another user, and counted it. -/
structure Settles {τ : Type} (s : System τ) (k : KickRecord τ) : Prop where
  hits : Hits s k.userId k.returned k.hit
  due : ∀ r ∈ k.due, r.connection ∈ k.hit

structure KicksOk {τ : Type} (s : System τ) : Prop where
  kicking : ∀ t u owed, s.ops t = .kicking u owed → Owes s u owed
  visiting : ∀ t u todo kicked owed hit, s.ops t = .visiting u todo kicked owed hit →
    Walks s u todo kicked owed hit
  returned : ∀ k ∈ s.kicks, Settles s k

section Kicks

variable {τ : Type}

/-- A kick that has cancelled nothing yet. -/
theorem hits_nil (s : System τ) (u : UserId) : Hits s u 0 [] where
  counted := rfl
  distinct := List.nodup_nil
  mine _ member := absurd member List.not_mem_nil
  cancelled _ member := absurd member List.not_mem_nil
  given _ member := absurd member List.not_mem_nil

theorem Hits.mono {s s' : System τ} {u : UserId} {kicked : Nat}
    {hit : List (ConnectionId × ActiveConnection)} (hits : Hits s u kicked hit)
    (more : s.manager.cancelled ⊆ s'.manager.cancelled) (registrations : s.registrations ⊆ s'.registrations) :
    Hits s' u kicked hit where
  counted := hits.counted
  distinct := hits.distinct
  mine := hits.mine
  cancelled h member := more (hits.cancelled h member)
  given h member := by
    obtain ⟨r, registered, same⟩ := hits.given h member
    exact ⟨r, registrations registered, same⟩

theorem Owes.mono {s s' : System τ} {u : UserId} {owed : List (Registration τ)} (owes : Owes s u owed)
    (more : s.registrations ⊆ s'.registrations) : Owes s' u owed :=
  fun r member => ⟨more (owes r member).1, (owes r member).2⟩

/-- A walk goes on unharmed while other tasks take their steps. -/
theorem Walks.frame {s s' : System τ} {t t' : τ} {u : UserId} {todo : Finset ConnectionId} {kicked : Nat}
    {owed : List (Registration τ)} {hit : List (ConnectionId × ActiveConnection)}
    (walks : Walks s u todo kicked owed hit) (frame : Frame s s' t)
    (op : s.ops t' = .visiting u todo kicked owed hit) : Walks s' u todo kicked owed hit where
  hits := walks.hits.mono frame.cancelled frame.registrations
  owes := walks.owes.mono frame.registrations
  inside := by
    have guards : (s.ops t').guards u = true := by
      rw [op]
      exact beq_self_eq_true u
    rw [frame.index u t' guards]
    exact walks.inside
  ahead := walks.ahead
  reached r member staying := walks.reached r member fun left => staying (frame.leaving left)

/-- What remains to be shown of a step is about the task that took it. -/
theorem KicksOk.frame {s s' : System τ} {t : τ} (ok : KicksOk s) (frame : Frame s s' t)
    (kicking : ∀ u owed, s'.ops t = .kicking u owed → Owes s' u owed)
    (visiting : ∀ u todo kicked owed hit, s'.ops t = .visiting u todo kicked owed hit →
      Walks s' u todo kicked owed hit)
    (returned : ∀ k ∈ s'.kicks, k ∈ s.kicks ∨ Settles s' k) : KicksOk s' where
  kicking t' u owed op := by
    by_cases same : t' = t
    · exact kicking u owed (same ▸ op)
    · rw [frame.ops t' same] at op
      exact (ok.kicking t' u owed op).mono frame.registrations
  visiting t' u todo kicked owed hit op := by
    by_cases same : t' = t
    · exact visiting u todo kicked owed hit (same ▸ op)
    · rw [frame.ops t' same] at op
      exact (ok.visiting t' u todo kicked owed hit op).frame frame op
  returned k member := by
    rcases returned k member with old | new
    · have settles := ok.returned k old
      exact ⟨settles.hits.mono frame.cancelled frame.registrations, settles.due⟩
    · exact new

/-- A registration whose `unregister` has not begun is in both maps. -/
theorem Coherent.staying {s : System τ} {place : ConnectionId → Place τ} (coherent : Coherent s place)
    {r : Registration τ} (member : r ∈ s.registrations) (stays : r.connId ∉ s.leaving) :
    place r.connId = .settled r.task r.userId r.cancelToken := by
  have follows := coherent.registered r member
  have here := mt (coherent.left r.connId) stays
  generalize place r.connId = p at follows here
  cases p with
  | unborn => cases follows
  | allotted => cases follows
  | inserted => cases follows
  | settled t u token =>
      obtain ⟨rfl, rfl, rfl⟩ := follows
      rfl
  | removing => exact absurd trivial here
  | gone => exact absurd trivial here

theorem Coherent.staying_lookup {s : System τ} {place : ConnectionId → Place τ} (coherent : Coherent s place)
    {r : Registration τ} (member : r ∈ s.registrations) (stays : r.connId ∉ s.leaving) :
    s.manager.connections.lookup r.connId = some ⟨r.userId, r.cancelToken⟩ := by
  rw [coherent.connections, coherent.staying member stays]
  rfl

/-- A registered connection that is in the first map is in the second. -/
theorem Coherent.registered_index {s : System τ} {place : ConnectionId → Place τ} (coherent : Coherent s place)
    {r : Registration τ} (member : r ∈ s.registrations) {conn : ActiveConnection}
    (found : s.manager.connections.lookup r.connId = some conn) : r.connId ∈ s.manager.index r.userId := by
  have follows := coherent.registered r member
  rw [coherent.connections] at found
  rw [coherent.indexed]
  generalize place r.connId = p at follows found
  cases p with
  | settled t u token =>
      obtain ⟨rfl, rfl, rfl⟩ := follows
      rfl
  | inserted => cases follows
  | unborn | allotted | removing | gone => cases found

theorem Coherent.staying_index {s : System τ} {place : ConnectionId → Place τ} (coherent : Coherent s place)
    {r : Registration τ} (member : r ∈ s.registrations) (stays : r.connId ∉ s.leaving) :
    r.connId ∈ s.manager.index r.userId :=
  coherent.registered_index member (coherent.staying_lookup member stays)

/-- An indexed connection that is in the first map is a registered one of the index's user. -/
theorem Coherent.found_registration {s : System τ} {place : ConnectionId → Place τ} (coherent : Coherent s place)
    {c : ConnectionId} {u : UserId} {conn : ActiveConnection} (indexed : c ∈ s.manager.index u)
    (found : s.manager.connections.lookup c = some conn) :
    conn.userId = u ∧ ∃ r ∈ s.registrations, r.connection = (c, conn) := by
  rw [coherent.indexed] at indexed
  rw [coherent.connections] at found
  have settled := coherent.settled c
  generalize place c = p at indexed found settled
  cases p with
  | settled t v token =>
      cases indexed
      cases found
      exact ⟨rfl, _, settled t u token rfl, rfl⟩
  | unborn | allotted | removing | gone => cases found
  | inserted => cases indexed

/-- No two registrations were given the same token. -/
theorem Coherent.token_single {s : System τ} {place : ConnectionId → Place τ} (coherent : Coherent s place)
    {r r' : Registration τ} (member : r ∈ s.registrations) (member' : r' ∈ s.registrations)
    (same : r.cancelToken = r'.cancelToken) : r = r' := by
  refine List.inj_on_of_nodup_map coherent.single member member' ?_
  rw [← coherent.stamps r member, ← coherent.stamps r' member', same]

variable [DecidableEq τ] {s s' : System τ} {t : τ} {place : ConnectionId → Place τ}

theorem returnKick_ops (s : System τ) (t : τ) (u : UserId) (kicked : Nat) (owed : List (Registration τ))
    (hit : List (ConnectionId × ActiveConnection)) : (s.returnKick t u kicked owed hit).ops t = .idle :=
  become_self s t .idle

/-- Returning a kick that has cancelled all it owed. -/
theorem KicksOk.returnKick (ok : KicksOk s) {u : UserId} {kicked : Nat} {owed : List (Registration τ)}
    {hit : List (ConnectionId × ActiveConnection)} (frame : Frame s (s.returnKick t u kicked owed hit) t)
    (hits : Hits s u kicked hit)
    (due : ∀ r ∈ owed, r.connId ∉ s.leaving → r.connection ∈ hit) :
    KicksOk (s.returnKick t u kicked owed hit) := by
  apply ok.frame frame
  · intro v owed' op
    cases (returnKick_ops s t u kicked owed hit).symm.trans op
  · intro v todo kicked' owed' hit' op
    cases (returnKick_ops s t u kicked owed hit).symm.trans op
  · intro k member
    rcases List.mem_append.mp member with old | new
    · exact .inl old
    · cases List.mem_singleton.mp new
      refine .inr ⟨hits.mono (Finset.Subset.refl _) (List.Subset.refl _), fun r owing => ?_⟩
      obtain ⟨owing, stays⟩ := List.mem_filter.mp owing
      exact due r owing (of_decide_eq_true stays)

omit [DecidableEq τ] in
/-- One visit: the connection leaves the set, and it is cancelled if it is still there. -/
theorem Walks.visit {u : UserId} {todo : Finset ConnectionId} {kicked : Nat} {owed : List (Registration τ)}
    {hit : List (ConnectionId × ActiveConnection)} {c : ConnectionId} (coherent : Coherent s place)
    (walks : Walks s u todo kicked owed hit) (member : c ∈ todo) :
    (∀ conn, s.manager.connections.lookup c = some conn →
      Hits { s with manager := s.manager.cancel conn.cancelToken } u (kicked + 1) (hit ++ [(c, conn)]) ∧
        ∀ r ∈ owed, r.connId ∉ s.leaving →
          r.connId ∈ todo.erase c ∨ r.connection ∈ hit ++ [(c, conn)]) ∧
    (s.manager.connections.lookup c = none →
      ∀ r ∈ owed, r.connId ∉ s.leaving → r.connId ∈ todo.erase c ∨ r.connection ∈ hit) := by
  constructor
  · intro conn found
    obtain ⟨mine, given⟩ := coherent.found_registration (walks.inside member) found
    refine ⟨⟨?_, ?_, ?_, ?_, ?_⟩, ?_⟩
    · rw [walks.hits.counted, List.length_append, List.length_singleton]
    · rw [List.map_append, List.map_singleton, ← List.concat_eq_append]
      exact walks.hits.distinct.concat (walks.ahead c member)
    · intro h hits
      rcases List.mem_append.mp hits with old | new
      · exact walks.hits.mine h old
      · cases List.mem_singleton.mp new
        exact mine
    · intro h hits
      rcases List.mem_append.mp hits with old | new
      · exact Finset.mem_insert_of_mem (walks.hits.cancelled h old)
      · cases List.mem_singleton.mp new
        exact Finset.mem_insert_self ..
    · intro h hits
      rcases List.mem_append.mp hits with old | new
      · exact walks.hits.given h old
      · cases List.mem_singleton.mp new
        exact given
    · intro r owing stays
      by_cases same : r.connId = c
      · have there := coherent.staying_lookup (walks.owes r owing).1 stays
        rw [same, found] at there
        cases there
        subst same
        exact .inr (List.mem_append_right _ (List.mem_singleton_self _))
      · rcases walks.reached r owing stays with ahead | behind
        · exact .inl (Finset.mem_erase.mpr ⟨same, ahead⟩)
        · exact .inr (List.mem_append_left _ behind)
  · intro missing r owing stays
    have there := coherent.staying_lookup (walks.owes r owing).1 stays
    rcases walks.reached r owing stays with ahead | behind
    · refine .inl (Finset.mem_erase.mpr ⟨?_, ahead⟩)
      rintro rfl
      cases missing.symm.trans there
    · exact .inr behind

omit [DecidableEq τ] in
/-- A task that goes on with its walk. -/
theorem KicksOk.visit (ok : KicksOk s) (frame : Frame s s' t) {u : UserId} {todo : Finset ConnectionId} {kicked : Nat}
    {owed : List (Registration τ)} {hit : List (ConnectionId × ActiveConnection)}
    (op : s'.ops t = .visiting u todo kicked owed hit) (kicks : s'.kicks = s.kicks)
    (walks : Walks s' u todo kicked owed hit) : KicksOk s' := by
  apply ok.frame frame
  · intro v owed now
    cases op.symm.trans now
  · intro v todo kicked owed hit now
    cases op.symm.trans now
    exact walks
  · intro k member
    exact .inl (kicks ▸ member)

theorem KicksOk.step (ok : KicksOk s) (coherent : Coherent s place) (frame : Frame s s' t)
    {action : Action} (step : KickStep s s' t action) : KicksOk s' := by
  cases step with
  | quiet kicks _ op =>
      apply ok.frame frame
      · intro u owed now
        exact absurd (now ▸ trivial) op
      · intro u todo kicked owed hit now
        exact absurd (now ▸ trivial) op
      · intro k member
        exact .inl (kicks ▸ member)
  | begins u _ same =>
      subst same
      apply ok.frame frame
      · intro v owed now
        cases (become_self s t _).symm.trans now
        intro r owing
        obtain ⟨member, mine⟩ := List.mem_filter.mp owing
        exact ⟨member, (of_decide_eq_true mine).1⟩
      · intro v todo kicked owed hit now
        cases (become_self s t _).symm.trans now
      · exact fun k member => .inl member
  | @finds u owed ids op found same =>
      subst same
      have owes := ok.kicking t _ _ op
      have all : ids = s.manager.index u := by rw [ConnectionManager.index, found, Option.getD_some]
      refine ok.visit frame (become_self s t _) rfl
        ⟨hits_nil _ u, owes, all.subset, fun _ _ => List.not_mem_nil, ?_⟩
      intro r owing stays
      obtain ⟨member, rfl⟩ := owes r owing
      exact .inl (all ▸ coherent.staying_index member stays)
  | misses op missing same =>
      subst same
      have owes := ok.kicking t _ _ op
      refine ok.returnKick frame (hits_nil s _) ?_
      intro r owing stays
      obtain ⟨member, rfl⟩ := owes r owing
      have indexed := coherent.staying_index member stays
      rw [ConnectionManager.index, missing] at indexed
      exact absurd indexed (Finset.notMem_empty _)
  | skips op member missing same =>
      subst same
      have walks := ok.visiting t _ _ _ _ _ op
      refine ok.visit frame (become_self s t _) rfl { walks with
        hits := walks.hits.mono (Finset.Subset.refl _) (List.Subset.refl _)
        inside := (Finset.erase_subset ..).trans walks.inside
        ahead := ?_
        reached := (walks.visit coherent member).2 missing }
      intro d left
      exact walks.ahead d (Finset.mem_of_mem_erase left)
  | cancels op member found same =>
      subst same
      have walks := ok.visiting t _ _ _ _ _ op
      obtain ⟨hits, reached⟩ := (walks.visit coherent member).1 _ found
      refine ok.visit frame (become_self s t _) rfl ⟨hits.mono (Finset.Subset.refl _) (List.Subset.refl _), walks.owes,
        (Finset.erase_subset ..).trans walks.inside, ?_, reached⟩
      intro d left
      rw [List.map_append, List.mem_append]
      rintro (old | new)
      · exact walks.ahead d (Finset.mem_of_mem_erase left) old
      · exact Finset.ne_of_mem_erase left (List.mem_singleton.mp new)
  | returns op same =>
      subst same
      have walks := ok.visiting t _ _ _ _ _ op
      refine ok.returnKick frame walks.hits fun r owing stays => ?_
      exact (walks.reached r owing stays).resolve_left (Finset.notMem_empty _)

end Kicks

/-! What is cancelled, and by whom. -/

section Blame

variable {τ : Type}

/-- The kick that the task runs has cancelled the connection for the user. -/
def Op.Hit {τ : Type} (u : UserId) (h : ConnectionId × ActiveConnection) : Op τ → Prop
  | .visiting v _ _ _ hit => v = u ∧ h ∈ hit
  | _ => False

/-- A kick of the user that has returned has cancelled the connection. -/
def HitBefore (s : System τ) (u : UserId) (h : ConnectionId × ActiveConnection) : Prop :=
  ∃ k ∈ s.kicks, k.userId = u ∧ h ∈ k.hit

/-- A kick of the user, returned or in flight, has cancelled the connection. -/
def Kicked (s : System τ) (u : UserId) (h : ConnectionId × ActiveConnection) : Prop :=
  HitBefore s u h ∨ ∃ t, (s.ops t).Hit u h

/-- The cancelled tokens are those that a `cancel_all` came by and those that a kick cancelled. -/
def Blamed (s : System τ) : Prop :=
  ∀ token, token ∈ s.manager.cancelled ↔ token ∈ s.swept ∨ ∃ u h, Kicked s u h ∧ h.2.cancelToken = token

theorem Op.not_hit {op : Op τ} (other : ¬ op.Kicking) {u : UserId} {h : ConnectionId × ActiveConnection} :
    ¬ op.Hit u h := by
  intro hit
  cases op with
  | visiting => exact other trivial
  | _ => exact hit

theorem Kicked.hits {s : System τ} {u : UserId} {h : ConnectionId × ActiveConnection} (kicked : Kicked s u h)
    (ok : KicksOk s) : h.2.userId = u ∧ ∃ r ∈ s.registrations, r.connection = h := by
  rcases kicked with ⟨k, member, rfl, hit⟩ | ⟨t, running⟩
  · have settles := ok.returned k member
    exact ⟨settles.hits.mine h hit, settles.hits.given h hit⟩
  · cases op : s.ops t with
    | visiting v todo kicked owed hit =>
        rw [op] at running
        obtain ⟨rfl, member⟩ := running
        have walks := ok.visiting t _ _ _ _ _ op
        exact ⟨walks.hits.mine h member, walks.hits.given h member⟩
    | _ =>
        rw [op] at running
        exact running.elim

/-- A registered token is cancelled by a `cancel_all`, or by a kick of its own user, and not else. -/
theorem Blamed.registered {s : System τ} {place : ConnectionId → Place τ} (blamed : Blamed s) (ok : KicksOk s)
    (coherent : Coherent s place) {r : Registration τ} (member : r ∈ s.registrations) :
    r.cancelToken ∈ s.manager.cancelled ↔ r.cancelToken ∈ s.swept ∨ Kicked s r.userId r.connection := by
  rw [blamed r.cancelToken]
  constructor
  · rintro (swept | ⟨u, h, kicked, same⟩)
    · exact .inl swept
    · obtain ⟨rfl, r', member', rfl⟩ := kicked.hits ok
      cases coherent.token_single member' member same
      exact .inr kicked
  · rintro (swept | kicked)
    · exact .inl swept
    · exact .inr ⟨r.userId, r.connection, kicked, rfl⟩

/-- What is kicked after a step differs from what was by the task that took it. -/
theorem Frame.kicked_iff {s s' : System τ} {t : τ} (frame : Frame s s' t) {u : UserId}
    {h : ConnectionId × ActiveConnection} {new : Prop}
    (own : HitBefore s' u h ∨ (s'.ops t).Hit u h ↔ (HitBefore s u h ∨ (s.ops t).Hit u h) ∨ new) :
    Kicked s' u h ↔ Kicked s u h ∨ new := by
  have split (x : System τ) : Kicked x u h ↔
      (HitBefore x u h ∨ (x.ops t).Hit u h) ∨ ∃ t', t' ≠ t ∧ (x.ops t').Hit u h := by
    constructor
    · rintro (before | ⟨t', hit⟩)
      · exact .inl (.inl before)
      · by_cases same : t' = t
        · exact .inl (.inr (same ▸ hit))
        · exact .inr ⟨t', same, hit⟩
    · rintro ((before | hit) | ⟨t', -, hit⟩)
      · exact .inl before
      · exact .inr ⟨t, hit⟩
      · exact .inr ⟨t', hit⟩
  have others : (∃ t', t' ≠ t ∧ (s'.ops t').Hit u h) ↔ ∃ t', t' ≠ t ∧ (s.ops t').Hit u h :=
    exists_congr fun t' => and_congr_right fun other => by rw [frame.ops t' other]
  rw [split s', split s, own, others, or_right_comm]

variable [DecidableEq τ] {s s' : System τ} {t : τ}

theorem hitBefore_returnKick {u v : UserId} {kicked : Nat} {owed : List (Registration τ)}
    {h : ConnectionId × ActiveConnection} {hit : List (ConnectionId × ActiveConnection)} :
    HitBefore (s.returnKick t v kicked owed hit) u h ↔ HitBefore s u h ∨ v = u ∧ h ∈ hit := by
  unfold HitBefore System.returnKick
  simp only [List.mem_append, List.mem_singleton, or_and_right, exists_or, exists_eq_left]

omit [DecidableEq τ] in
/-- A step that cancels what it sweeps and what it adds to the hits of its task. -/
theorem Blamed.change (blamed : Blamed s) (frame : Frame s s' t) (tokens : Finset CancelToken)
    (new : UserId → ConnectionId × ActiveConnection → Prop)
    (cancelled : ∀ token, token ∈ s'.manager.cancelled ↔
      token ∈ s.manager.cancelled ∨ token ∈ tokens ∨ ∃ u h, new u h ∧ h.2.cancelToken = token)
    (swept : s'.swept = s.swept ∪ tokens)
    (own : ∀ u h, HitBefore s' u h ∨ (s'.ops t).Hit u h ↔ (HitBefore s u h ∨ (s.ops t).Hit u h) ∨ new u h) :
    Blamed s' := by
  intro token
  have kicked (u : UserId) (h : ConnectionId × ActiveConnection) := frame.kicked_iff (own u h)
  simp only [kicked, or_and_right, exists_or]
  rw [cancelled, swept, Finset.mem_union, blamed token]
  exact or_or_or_comm

omit [DecidableEq τ] in
/-- A step that cancels nothing, and after which the kicks have cancelled what they had. -/
theorem Blamed.same (blamed : Blamed s) (frame : Frame s s' t)
    (cancelled : s'.manager.cancelled = s.manager.cancelled) (swept : s'.swept = s.swept)
    (own : ∀ u h, HitBefore s' u h ∨ (s'.ops t).Hit u h ↔ HitBefore s u h ∨ (s.ops t).Hit u h) : Blamed s' := by
  refine blamed.change frame ∅ (fun _ _ => False) (fun token => ?_) ?_ fun u h => ?_
  · simp [cancelled]
  · rw [swept, Finset.union_empty]
  · rw [own u h, or_false]

theorem Blamed.step (blamed : Blamed s) (frame : Frame s s' t) {action : Action} (step : KickStep s s' t action) :
    Blamed s' := by
  cases step with
  | quiet kicks before after sweeps =>
      refine blamed.change frame _ (fun _ _ => False) (fun token => ?_) sweeps.swept fun u h => ?_
      · simp [sweeps.cancelled]
      · rw [HitBefore, kicks, iff_false_intro (Op.not_hit after), iff_false_intro (Op.not_hit before)]
        simp only [HitBefore, or_false]
  | begins v idle same =>
      subst same
      refine blamed.same frame rfl rfl fun u h => ?_
      rw [become_self, idle]
      rfl
  | finds op found same =>
      subst same
      refine blamed.same frame rfl rfl fun u h => ?_
      rw [become_self, op]
      simp [HitBefore, Op.Hit, System.become]
  | misses op missing same =>
      subst same
      refine blamed.same frame rfl rfl fun u h => ?_
      rw [hitBefore_returnKick, returnKick_ops, op]
      simp [Op.Hit]
  | skips op member missing same =>
      subst same
      refine blamed.same frame rfl rfl fun u h => ?_
      rw [become_self, op]
      rfl
  | @cancels v todo kicked owed hit c conn op member found same =>
      -- the one step of a kick that cancels, and it puts the connection among its hits
      subst same
      refine blamed.change frame ∅ (fun u h => v = u ∧ h = (c, conn)) (fun token => ?_)
        (Finset.union_empty _).symm fun u h => ?_
      · change token ∈ insert conn.cancelToken s.manager.cancelled ↔ _
        rw [Finset.mem_insert, or_comm]
        refine or_congr_right ?_
        constructor
        · intro same
          exact .inr ⟨v, (c, conn), ⟨rfl, rfl⟩, same.symm⟩
        · rintro (none_swept | ⟨u, h, ⟨-, rfl⟩, same⟩)
          · exact absurd none_swept (Finset.notMem_empty _)
          · exact same.symm
      · change HitBefore s u h ∨ ((s.become t _).ops t).Hit u h ↔ _
        rw [become_self, op, or_assoc]
        refine or_congr_right ?_
        change v = u ∧ h ∈ hit ++ [(c, conn)] ↔ v = u ∧ h ∈ hit ∨ v = u ∧ h = (c, conn)
        rw [List.mem_append, List.mem_singleton, and_or_left]
  | returns op same =>
      subst same
      refine blamed.same frame rfl rfl fun u h => ?_
      rw [hitBefore_returnKick, returnKick_ops, op]
      simp [Op.Hit]

/-- No `cancel_all` has been called. -/
structure Unswept (s : System τ) : Prop where
  swept : s.swept = ∅
  ops : ∀ t, ¬ (s.ops t).Sweeping

omit [DecidableEq τ] in
theorem Unswept.frame (unswept : Unswept s) (frame : Frame s s' t) (swept : s'.swept = s.swept)
    (own : ¬ (s'.ops t).Sweeping) : Unswept s' where
  swept := swept.trans unswept.swept
  ops t' := by
    by_cases same : t' = t
    · exact same ▸ own
    · exact frame.ops t' same ▸ unswept.ops t'

theorem Unswept.step (unswept : Unswept s) (frame : Frame s s' t) {action : Action}
    (step : KickStep s s' t action) (other : action ≠ .call .cancelAll) : Unswept s' := by
  cases step with
  | quiet kicks before after sweeps =>
      obtain rfl := sweeps.before.resolve_right (unswept.ops t)
      refine unswept.frame frame (sweeps.swept.trans (Finset.union_empty _)) fun now => ?_
      exact (sweeps.after now).elim (unswept.ops t) other
  | begins v idle same =>
      subst same
      exact unswept.frame frame rfl (become_self s t _ ▸ id)
  | finds op found same =>
      subst same
      exact unswept.frame frame rfl (become_self s t _ ▸ id)
  | misses op missing same =>
      subst same
      exact unswept.frame frame rfl (returnKick_ops s t _ _ _ _ ▸ id)
  | skips op member missing same =>
      subst same
      exact unswept.frame frame rfl (become_self s t _ ▸ id)
  | cancels op member found same =>
      subst same
      refine unswept.frame frame rfl ?_
      change ¬ ((s.become t _).ops t).Sweeping
      exact become_self s t _ ▸ id
  | returns op same =>
      subst same
      exact unswept.frame frame rfl (returnKick_ops s t _ _ _ _ ▸ id)

end Blame

section Run

variable {τ : Type} [DecidableEq τ] [Fintype τ] {shards : Nat} {shardOf : ConnectionId → Nat}

/-- What holds of every state that a schedule leads to, while ids last. -/
def Sound (s : System τ) : Prop := s.issued.length < 2 ^ 64 → KicksOk s ∧ ∃ place, Coherent s place

omit [DecidableEq τ] [Fintype τ] in
theorem sound_new : Sound (System.new : System τ) :=
  fun _ => ⟨⟨nofun, nofun, nofun⟩, _, coherent_new⟩

theorem Sound.step {s s' : System τ} {label : τ × Action} (sound : Sound s)
    (stepped : s.step shards shardOf label = some s') : Sound s' := by
  obtain ⟨t, action⟩ := label
  intro few
  obtain ⟨frame, kick⟩ := step_frame stepped
  obtain ⟨kicks, place, coherent⟩ := sound (frame.issued.trans_lt few)
  exact ⟨kicks.step coherent frame kick, coherent.step stepped few⟩

omit [DecidableEq τ] [Fintype τ] in
theorem blamed_new : Blamed (System.new : System τ) := by
  intro token
  refine iff_of_false (Finset.notMem_empty _) ?_
  rintro (swept | ⟨u, h, ⟨k, member, -⟩ | ⟨t, running⟩, -⟩)
  · exact Finset.notMem_empty _ swept
  · exact List.not_mem_nil member
  · exact running

theorem blamed_run {schedule : List (τ × Action)} {s : System τ}
    (ran : follow (System.step shards shardOf) System.new schedule = some s) : Blamed s := by
  refine follow_invariant (fun {_ label _} blamed stepped => ?_) blamed_new ran
  obtain ⟨t, action⟩ := label
  obtain ⟨frame, step⟩ := step_frame stepped
  exact blamed.step frame step

theorem unswept_run {schedule : List (τ × Action)} {s : System τ}
    (ran : follow (System.step shards shardOf) System.new schedule = some s)
    (uncalled : ∀ t, (t, .call .cancelAll) ∉ schedule) : Unswept s := by
  have met : ∀ label ∈ schedule, label.2 ≠ .call .cancelAll := by
    rintro ⟨t, action⟩ member rfl
    exact uncalled t member
  refine follow_along (fun {_ label _} unswept other stepped => ?_) ⟨rfl, fun _ => id⟩
    (along_of_forall _ met _) ran
  obtain ⟨t, action⟩ := label
  obtain ⟨frame, step⟩ := step_frame stepped
  exact unswept.step frame step other

omit [DecidableEq τ] [Fintype τ] in
/-- With no operation in flight the two maps are inverse to each other. -/
theorem Coherent.exact {s : System τ} {place : ConnectionId → Place τ} (coherent : Coherent s place)
    (idle : ∀ t, s.ops t = .idle) (c : ConnectionId) (u : UserId) :
    c ∈ s.manager.index u ↔ ∃ token, s.manager.connections.lookup c = some ⟨u, token⟩ := by
  have free : ∀ t stage, (place c).stage ≠ some (t, stage) := by
    intro t stage held
    have busy := (coherent.tied t c stage).mpr held
    rw [idle t] at busy
    cases busy
  rw [coherent.indexed, coherent.connections]
  generalize place c = p at free
  cases p with
  | settled t v token =>
      constructor
      · intro same
        cases same
        exact ⟨token, rfl⟩
      · rintro ⟨token', same⟩
        cases same
        rfl
  | unborn => exact iff_of_false nofun nofun
  | gone t => exact iff_of_false nofun nofun
  | allotted t v token => exact absurd rfl (free t _)
  | inserted t v token => exact absurd rfl (free t _)
  | removing t v => exact absurd rfl (free t _)

/-- After every schedule of fewer than 2^64 registrations: the maps agree when nothing is in
flight, no id was handed out twice, an unregistered id is in neither map, and every kick that
returned did its work. A token is cancelled only if a kick of its user cancelled it, or a `cancel_all`
that was called. -/
theorem connection_index_exact {schedule : List (τ × Action)} {s : System τ}
    (ran : follow (System.step shards shardOf) System.new schedule = some s)
    (few : s.issued.length < 2 ^ 64) :
    ((∀ t, s.ops t = .idle) →
      (∀ c u, c ∈ s.manager.index u ↔ ∃ token, s.manager.connections.lookup c = some ⟨u, token⟩) ∧
        ∀ u, s.manager.userConnections.lookup u ≠ some ∅) ∧
    s.issued.Nodup ∧
    (∀ c ∈ s.unregistered, s.manager.connections.lookup c = none ∧ ∀ u, c ∉ s.manager.index u) ∧
    (∀ k ∈ s.kicks, (∀ r ∈ k.due, r.connection ∈ k.hit) ∧
      (∀ h ∈ k.hit, h.2.userId = k.userId ∧ h.2.cancelToken ∈ s.manager.cancelled) ∧
      (∀ r ∈ s.registrations, r.userId ≠ k.userId → ∀ h ∈ k.hit, h.2.cancelToken ≠ r.cancelToken) ∧
      (k.hit.map Prod.fst).Nodup ∧ k.returned = k.hit.length) ∧
    (∀ token, token ∈ s.manager.cancelled ↔
      token ∈ s.swept ∨ ∃ u h, Kicked s u h ∧ h.2.cancelToken = token) ∧
    (∀ r ∈ s.registrations, r.cancelToken ∈ s.manager.cancelled ↔
      r.cancelToken ∈ s.swept ∨ Kicked s r.userId r.connection) ∧
    ((∀ t, (t, .call .cancelAll) ∉ schedule) → s.swept = ∅) := by
  obtain ⟨kicks, place, coherent⟩ := follow_invariant Sound.step sound_new ran few
  have blamed := blamed_run ran
  refine ⟨fun idle => ⟨coherent.exact idle, coherent.nonempty⟩, ?_, ?_, ?_, blamed,
    fun r member => blamed.registered kicks coherent member, fun uncalled => (unswept_run ran uncalled).swept⟩
  · rw [coherent.numbered]
    exact List.nodup_range'
  · intro c done
    obtain ⟨owner, gone⟩ := coherent.unregistered c done
    refine ⟨?_, fun u indexed => ?_⟩
    · rw [coherent.connections, gone]
      rfl
    · rw [coherent.indexed, gone] at indexed
      cases indexed
  · intro k member
    obtain ⟨hits, due⟩ := kicks.returned k member
    refine ⟨due, fun h hit => ⟨hits.mine h hit, hits.cancelled h hit⟩, ?_, hits.distinct, hits.counted⟩
    intro r registered other h hit same
    obtain ⟨r', registered', rfl⟩ := hits.given h hit
    cases coherent.token_single registered registered' same.symm
    exact other (hits.mine _ hit)

end Run

/-- Two registrations of one user run side by side behind one of another, and one of them is taken out
while the user is kicked. -/
def kickDuringUnregister : List (Bool × Action) :=
  [(false, .call (.register 8)), (false, .advance), (false, .advance), (false, .advance),
    (false, .call (.register 7)), (true, .call (.register 7)), (false, .advance), (true, .advance), (true, .advance),
    (false, .advance), (false, .advance), (true, .advance), (false, .call (.kickUser 7)), (false, .advance),
    (true, .call (.unregister 3)), (true, .advance), (false, .visit 2), (false, .visit 3), (false, .advance),
    (true, .advance)]

theorem kickDuringUnregister_runs :
    (follow (System.step 1 fun _ => 0) System.new kickDuringUnregister).isSome = true := by
  decide +kernel

/-- The kick returns one, cancels what it owed, and leaves the other user's token alone. -/
theorem connection_index_kick_during_unregister :
    ∃ s, follow (System.step 1 fun _ => 0) System.new kickDuringUnregister = some s ∧
      s.issued.length < 2 ^ 64 ∧ s.unregistered = [3] ∧ s.kicks.map KickRecord.returned = [1] ∧
      (∀ k ∈ s.kicks, ∀ r ∈ k.due, r.connection ∈ k.hit) ∧
      (∃ r ∈ s.registrations, r.userId = 7 ∧ r.cancelToken ∈ s.manager.cancelled) ∧
      (∃ r ∈ s.registrations, r.userId = 8 ∧ r.cancelToken ∉ s.manager.cancelled) ∧
      ∀ c u, c ∈ s.manager.index u ↔ ∃ token, s.manager.connections.lookup c = some ⟨u, token⟩ := by
  have few : (Option.get _ kickDuringUnregister_runs).issued.length < 2 ^ 64 := by decide +kernel
  have idle : ∀ t, (Option.get _ kickDuringUnregister_runs).ops t = .idle := by decide +kernel
  have users : (Option.get _ kickDuringUnregister_runs).kicks.map KickRecord.userId = [7] := by decide +kernel
  have registered : ⟨false, 1, 8, 0⟩ ∈ (Option.get _ kickDuringUnregister_runs).registrations := by decide +kernel
  have uncalled : ∀ t, (t, .call .cancelAll) ∉ kickDuringUnregister := by decide
  obtain ⟨index, -, -, kicks, -, tokens, swept⟩ :=
    connection_index_exact (Option.some_get kickDuringUnregister_runs).symm few
  refine ⟨_, (Option.some_get kickDuringUnregister_runs).symm, few, by decide +kernel, by decide +kernel, ?_,
    by decide +kernel, ⟨_, registered, rfl, ?_⟩, ?_⟩
  · exact fun k member => (kicks k member).1
  · intro cancelled
    rcases (tokens _ registered).mp cancelled with swept_one | ⟨k, member, other, -⟩ | ⟨t, running⟩
    · exact Finset.notMem_empty _ (swept uncalled ▸ swept_one)
    · have seven := users ▸ List.mem_map_of_mem member
      cases other.symm.trans (List.mem_singleton.mp seven)
    · exact (idle t ▸ running : (Op.idle : Op Bool).Hit _ _)
  · exact (index idle).1

end ServerNaive
