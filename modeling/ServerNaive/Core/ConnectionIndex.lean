import ServerNaive.Core.Connection

/-! The two maps against the life of each connection id. An id is handed out, put in the
first map, put in the second, taken out of the first and taken out of the second, in this
order, by the one task that registered it. -/
namespace ServerNaive
open AsyncIo

/-- Where an id is in its life, and in whose hands. -/
inductive Place (τ : Type) where
  | unborn
  | allotted (t : τ) (u : UserId) (token : CancelToken)
  | inserted (t : τ) (u : UserId) (token : CancelToken)
  | settled (t : τ) (u : UserId) (token : CancelToken)
  | removing (t : τ) (u : UserId)
  | gone (t : τ)

/-- The part of an operation that has begun to change the maps. -/
inductive Stage where
  | allotted (u : UserId) (token : CancelToken)
  | inserted (u : UserId) (token : CancelToken)
  | removed (u : UserId)

def Op.stage {τ : Type} : Op τ → Option (ConnectionId × Stage)
  | .allotted u c token => some (c, .allotted u token)
  | .inserted u c token => some (c, .inserted u token)
  | .removed u c => some (c, .removed u)
  | _ => none

namespace Place

variable {τ : Type}

def stage : Place τ → Option (τ × Stage)
  | .allotted t u token => some (t, .allotted u token)
  | .inserted t u token => some (t, .inserted u token)
  | .removing t u => some (t, .removed u)
  | _ => none

/-- What the first map holds for an id. -/
def connection : Place τ → Option ActiveConnection
  | .inserted _ u token => some ⟨u, token⟩
  | .settled _ u token => some ⟨u, token⟩
  | _ => none

/-- The token that was made for an id, while the id holds it. -/
def token : Place τ → Option CancelToken
  | .allotted _ _ token => some token
  | .inserted _ _ token => some token
  | .settled _ _ token => some token
  | _ => none

/-- The user in whose set the second map holds an id. -/
def indexedBy : Place τ → Option UserId
  | .settled _ u _ => some u
  | .removing _ u => some u
  | _ => none

def Leaving : Place τ → Prop
  | .removing _ _ => True
  | .gone _ => True
  | _ => False

/-- The places of an id whose registration has completed. -/
def Follows (r : Registration τ) : Place τ → Prop
  | .settled t u token => t = r.task ∧ u = r.userId ∧ token = r.cancelToken
  | .removing t u => t = r.task ∧ u = r.userId
  | .gone t => t = r.task
  | _ => False

end Place

/-- Every task in the middle of an operation has its id in its hands, and no other. -/
def Tied {τ : Type} (ops : τ → Op τ) (place : ConnectionId → Place τ) : Prop :=
  ∀ t c stage, (ops t).stage = some (c, stage) ↔ (place c).stage = some (t, stage)

section Tied

variable {τ : Type} [DecidableEq τ] {ops : τ → Op τ} {place : ConnectionId → Place τ}

/-- A task without an id in its hands goes on to another such point. -/
theorem Tied.op (tied : Tied ops place) {t : τ} {op : Op τ} (before : (ops t).stage = none)
    (after : op.stage = none) : Tied (Function.update ops t op) place := by
  intro t' c stage
  by_cases same : t' = t
  · subst same
    rw [Function.update_self, after, ← tied, before]
  · rw [Function.update_of_ne same]
    exact tied t' c stage

/-- A task moves one id on, from the stage it has reached with it. -/
theorem Tied.move (tied : Tied ops place) {t : τ} {c : ConnectionId} {op : Op τ} {p : Place τ}
    (before after : Option Stage) (mine : (ops t).stage = before.map (c, ·))
    (held : (place c).stage = before.map (t, ·)) (newMine : op.stage = after.map (c, ·))
    (newHeld : p.stage = after.map (t, ·)) :
    Tied (Function.update ops t op) (Function.update place c p) := by
  have only : ∀ {β : Type} {b b' : β} {stage : Stage} {reached : Option Stage},
      reached.map (b, ·) = some (b', stage) → b' = b := by
    intro β b b' stage reached same
    obtain ⟨_, -, same⟩ := Option.map_eq_some_iff.mp same
    exact (congrArg Prod.fst same).symm
  intro t' d stage
  by_cases sameTask : t' = t
  · subst sameTask
    by_cases sameId : d = c
    · subst sameId
      rw [Function.update_self, Function.update_self, newMine, newHeld]
      cases after with
      | none => exact iff_of_false nofun nofun
      | some reached =>
          simp only [Option.map_some, Option.some.injEq, Prod.mk.injEq, true_and]
    · rw [Function.update_self, Function.update_of_ne sameId, ← tied, newMine, mine]
      exact iff_of_false (fun same => sameId (only same)) fun same => sameId (only same)
  · by_cases sameId : d = c
    · subst sameId
      rw [Function.update_self, Function.update_of_ne sameTask, tied, newHeld, held]
      exact iff_of_false (fun same => sameTask (only same)) fun same => sameTask (only same)
    · rw [Function.update_of_ne sameTask, Function.update_of_ne sameId]
      exact tied t' d stage

end Tied

/-- The maps, the tasks and the history agree with the places of the ids. -/
structure Coherent {τ : Type} (s : System τ) (place : ConnectionId → Place τ) : Prop where
  connections : ∀ c, s.manager.connections.lookup c = (place c).connection
  indexed : ∀ c u, c ∈ s.manager.index u ↔ (place c).indexedBy = some u
  nonempty : ∀ u, s.manager.userConnections.lookup u ≠ some ∅
  tied : Tied s.ops place
  numbered : s.issued = List.range' 1 s.issued.length
  next : s.manager.nextConnId = (s.issued.length + 1) % 2 ^ 64
  born : ∀ c, place c ≠ .unborn → c ∈ s.issued
  registered : ∀ r ∈ s.registrations, (place r.connId).Follows r
  settled : ∀ c t u token, place c = .settled t u token → ⟨t, c, u, token⟩ ∈ s.registrations
  single : (s.registrations.map Registration.connId).Nodup
  -- ids count from 1 and tokens from 0, in step with each other
  tokens : s.manager.tokens = s.issued.length
  stamped : ∀ c, ∀ token ∈ (place c).token, token + 1 = c
  stamps : ∀ r ∈ s.registrations, r.cancelToken + 1 = r.connId
  asked : ∀ t c, s.ops t = .unregistering c →
    c ∈ s.leaving ∧ ∃ r ∈ s.registrations, r.task = t ∧ r.connId = c
  left : ∀ c, (place c).Leaving → c ∈ s.leaving
  unregistered : ∀ c ∈ s.unregistered, ∃ t, place c = .gone t

theorem ConnectionManager.index_unindexConnection (m : ConnectionManager) (u v : UserId) (c : ConnectionId) :
    (m.unindexConnection u c).index v = if v = u then (m.index u).erase c else m.index v := by
  unfold unindexConnection
  split
  · rename_i absent
    split_ifs with same
    · subst same
      simp only [index, absent, Option.getD_none, Finset.erase_empty]
    · rfl
  · rename_i ids present
    have same : m.index u = ids := by rw [index, present, Option.getD_some]
    split_ifs with empty mine mine
    · subst mine
      rw [same, empty]
      simp only [index, Finmap.lookup_erase, Option.getD_none]
    · simp only [index, Finmap.lookup_erase_ne mine]
    · rw [index_insert, if_pos mine, same]
    · rw [index_insert, if_neg mine]

/-- Taking an id out of the second map changes nothing else. -/
theorem ConnectionManager.unindexConnection_frame (m : ConnectionManager) (u : UserId) (c : ConnectionId) :
    (m.unindexConnection u c).connections = m.connections ∧
      (m.unindexConnection u c).nextConnId = m.nextConnId ∧
      (m.unindexConnection u c).tokens = m.tokens ∧ (m.unindexConnection u c).cancelled = m.cancelled := by
  unfold unindexConnection
  split
  · exact ⟨rfl, rfl, rfl, rfl⟩
  · split_ifs <;> exact ⟨rfl, rfl, rfl, rfl⟩

theorem ConnectionManager.unindexConnection_nonempty {m : ConnectionManager} (u : UserId) (c : ConnectionId)
    (nonempty : ∀ v, m.userConnections.lookup v ≠ some ∅) (v : UserId) :
    (m.unindexConnection u c).userConnections.lookup v ≠ some ∅ := by
  unfold unindexConnection
  split
  · exact nonempty v
  · split_ifs with empty
    · by_cases mine : v = u
      · subst mine
        rw [Finmap.lookup_erase]
        exact nofun
      · rw [Finmap.lookup_erase_ne mine]
        exact nonempty v
    · by_cases mine : v = u
      · subst mine
        rw [Finmap.lookup_insert]
        exact fun same => empty (Option.some.inj same)
      · rw [Finmap.lookup_insert_of_ne _ mine]
        exact nonempty v

namespace Place

variable {τ : Type} {p : Place τ} {t : τ} {u : UserId} {token : CancelToken}

theorem eq_allotted (h : p.stage = some (t, .allotted u token)) : p = .allotted t u token := by
  cases p <;> cases h
  rfl

theorem eq_inserted (h : p.stage = some (t, .inserted u token)) : p = .inserted t u token := by
  cases p <;> cases h
  rfl

theorem eq_removing (h : p.stage = some (t, .removed u)) : p = .removing t u := by
  cases p <;> cases h
  rfl

end Place

namespace Coherent

variable {τ : Type} {s : System τ} {place : ConnectionId → Place τ}

theorem fresh (coherent : Coherent s place) (few : s.issued.length + 1 < 2 ^ 64) :
    s.manager.nextConnId = s.issued.length + 1 ∧ place s.manager.nextConnId = .unborn := by
  have next : s.manager.nextConnId = s.issued.length + 1 := coherent.next.trans (Nat.mod_eq_of_lt few)
  refine ⟨next, ?_⟩
  by_contra born
  have old := coherent.born _ born
  rw [coherent.numbered, List.mem_range'_1] at old
  omega

variable [DecidableEq τ]

/-- A step that touches neither the maps nor an id. -/
theorem become (coherent : Coherent s place) {t : τ} {op : Op τ} (before : (s.ops t).stage = none)
    (after : op.stage = none) (other : ∀ c, op ≠ .unregistering c) : Coherent (s.become t op) place :=
  { coherent with
    tied := coherent.tied.op before after
    asked := by
      intro t' c asks
      by_cases same : t' = t
      · subst same
        exact absurd ((Function.update_self ..).symm.trans asks) (other c)
      · exact coherent.asked t' c ((Function.update_of_ne same ..).symm.trans asks) }

/-- A task moves one id from its place to `p`; everything else about the maps is kept. -/
theorem move (coherent : Coherent s place) {s' : System τ} {t : τ} {c : ConnectionId} {op : Op τ} {p : Place τ}
    (ops : s'.ops = Function.update s.ops t op)
    (tied : Tied (Function.update s.ops t op) (Function.update place c p))
    (mapped : ∀ d, s'.manager.connections.lookup d =
      if d = c then p.connection else s.manager.connections.lookup d)
    (indexed : ∀ d u, d ∈ s'.manager.index u ↔
      if d = c then p.indexedBy = some u else d ∈ s.manager.index u)
    (nonempty : ∀ u, s'.manager.userConnections.lookup u ≠ some ∅)
    (numbered : s'.issued = List.range' 1 s'.issued.length)
    (next : s'.manager.nextConnId = (s'.issued.length + 1) % 2 ^ 64)
    (issued : s.issued ⊆ s'.issued) (born : c ∈ s'.issued)
    (registered : ∀ r ∈ s'.registrations,
      if r.connId = c then p.Follows r else r ∈ s.registrations)
    (kept : s.registrations ⊆ s'.registrations)
    (settled : ∀ t u token, p = .settled t u token → ⟨t, c, u, token⟩ ∈ s'.registrations)
    (single : (s'.registrations.map Registration.connId).Nodup)
    (tokens : s'.manager.tokens = s'.issued.length) (stamped : ∀ token ∈ p.token, token + 1 = c)
    (stamps : ∀ r ∈ s'.registrations, r.cancelToken + 1 = r.connId) (other : ∀ d, op ≠ .unregistering d)
    (leaving : s'.leaving = s.leaving) (left : p.Leaving → c ∈ s.leaving)
    (unregistered : ∀ d ∈ s'.unregistered, if d = c then ∃ t, p = .gone t else d ∈ s.unregistered) :
    Coherent s' (Function.update place c p) := by
  constructor
  case connections =>
    intro d
    rw [mapped]
    split_ifs with same
    · rw [same, Function.update_self]
    · rw [Function.update_of_ne same]
      exact coherent.connections d
  case indexed =>
    intro d u
    rw [indexed]
    split_ifs with same
    · rw [same, Function.update_self]
    · rw [Function.update_of_ne same]
      exact coherent.indexed d u
  case nonempty => exact nonempty
  case tied => exact ops ▸ tied
  case numbered => exact numbered
  case next => exact next
  case born =>
    intro d living
    by_cases same : d = c
    · exact same ▸ born
    · rw [Function.update_of_ne same] at living
      exact issued (coherent.born d living)
  case registered =>
    intro r member
    have follows := registered r member
    split_ifs at follows with same
    · rwa [same, Function.update_self]
    · rw [Function.update_of_ne same]
      exact coherent.registered r follows
  case settled =>
    intro d t' u token held
    by_cases same : d = c
    · rw [same, Function.update_self] at held
      exact same ▸ settled t' u token held
    · rw [Function.update_of_ne same] at held
      exact kept (coherent.settled d t' u token held)
  case single => exact single
  case tokens => exact tokens
  case stamped =>
    intro d token made
    by_cases same : d = c
    · rw [same, Function.update_self] at made
      exact same ▸ stamped token made
    · rw [Function.update_of_ne same] at made
      exact coherent.stamped d token made
  case stamps => exact stamps
  case asked =>
    intro t' d asks
    rw [ops] at asks
    by_cases same : t' = t
    · subst same
      exact absurd ((Function.update_self ..).symm.trans asks) (other d)
    · obtain ⟨leaves, r, member, given⟩ := coherent.asked t' d ((Function.update_of_ne same ..).symm.trans asks)
      exact ⟨leaving ▸ leaves, r, kept member, given⟩
  case left =>
    intro d leaves
    rw [leaving]
    by_cases same : d = c
    · rw [same, Function.update_self] at leaves
      exact same ▸ left leaves
    · rw [Function.update_of_ne same] at leaves
      exact coherent.left d leaves
  case unregistered =>
    intro d done
    have gone := unregistered d done
    split_ifs at gone with same
    · rwa [same, Function.update_self]
    · rw [Function.update_of_ne same]
      exact coherent.unregistered d gone

omit [DecidableEq τ] in
/-- Registrations do not concern an id that is not registered. -/
theorem registered_ne (coherent : Coherent s place) {c : ConnectionId} (unfollowed : ∀ r, ¬ (place c).Follows r)
    {r : Registration τ} (member : r ∈ s.registrations) : r.connId ≠ c := by
  intro same
  exact unfollowed r (same ▸ coherent.registered r member)

omit [DecidableEq τ] in
theorem unregistered_ne (coherent : Coherent s place) {c d : ConnectionId} (living : ∀ t, place c ≠ .gone t)
    (done : d ∈ s.unregistered) : d ≠ c := by
  intro same
  obtain ⟨owner, gone⟩ := coherent.unregistered d done
  exact living owner (same ▸ gone)

theorem allots (coherent : Coherent s place) {t : τ} {u : UserId} (op : s.ops t = .registering u)
    (few : s.issued.length + 1 < 2 ^ 64) :
    Coherent { s.become t (.allotted u s.manager.nextConnId s.manager.tokens) with
        manager := s.manager.allot, issued := s.issued ++ [s.manager.nextConnId] }
      (Function.update place s.manager.nextConnId (.allotted t u s.manager.tokens)) := by
  obtain ⟨next, unborn⟩ := coherent.fresh few
  have tied : Tied (Function.update s.ops t (.allotted u s.manager.nextConnId s.manager.tokens))
      (Function.update place s.manager.nextConnId (.allotted t u s.manager.tokens)) :=
    coherent.tied.move none (some (.allotted u s.manager.tokens)) (by rw [op]; rfl) (by rw [unborn]; rfl)
      rfl rfl
  refine coherent.move rfl tied ?mapped ?indexed coherent.nonempty ?numbered ?next
    (List.subset_append_left ..) (List.mem_append_right _ (List.mem_singleton_self _)) ?registered
    (List.Subset.refl _) nofun coherent.single ?tokens ?stamped coherent.stamps nofun rfl nofun ?unregistered
  case mapped =>
    intro d
    split_ifs with same
    · rw [same]
      exact (coherent.connections _).trans (by rw [unborn]; rfl)
    · rfl
  case indexed =>
    intro d v
    split_ifs with same
    · rw [same]
      exact (coherent.indexed _ v).trans (by rw [unborn]; rfl)
    · exact Iff.rfl
  case numbered =>
    show s.issued ++ [s.manager.nextConnId] = List.range' 1 (s.issued ++ [s.manager.nextConnId]).length
    rw [List.length_append, List.length_singleton, List.range'_1_concat, ← coherent.numbered, next,
      Nat.add_comm 1]
  case next =>
    show (s.manager.nextConnId + 1) % 2 ^ 64 = ((s.issued ++ [s.manager.nextConnId]).length + 1) % 2 ^ 64
    rw [List.length_append, List.length_singleton, next]
  case tokens =>
    show s.manager.tokens + 1 = (s.issued ++ [s.manager.nextConnId]).length
    rw [List.length_append, List.length_singleton, coherent.tokens]
  case stamped =>
    intro token made
    cases made
    rw [next, coherent.tokens]
  case registered =>
    intro r member
    rw [if_neg (coherent.registered_ne (by rw [unborn]; exact fun _ => id) member)]
    exact member
  case unregistered =>
    intro d done
    rw [if_neg (coherent.unregistered_ne (by rw [unborn]; exact nofun) done)]
    exact done

theorem inserts (coherent : Coherent s place) {t : τ} {u : UserId} {c : ConnectionId} {token : CancelToken}
    (op : s.ops t = .allotted u c token) :
    Coherent { s.become t (.inserted u c token) with
        manager := s.manager.insertConnection c ⟨u, token⟩ }
      (Function.update place c (.inserted t u token)) := by
  have held := Place.eq_allotted ((coherent.tied t c _).mp (congrArg Op.stage op))
  have tied : Tied (Function.update s.ops t (.inserted u c token))
      (Function.update place c (.inserted t u token)) :=
    coherent.tied.move (some (.allotted u token)) (some (.inserted u token)) (by rw [op]; rfl)
      (by rw [held]; rfl) rfl rfl
  have born : c ∈ s.issued := coherent.born c (by rw [held]; exact nofun)
  refine coherent.move rfl tied ?mapped ?indexed coherent.nonempty coherent.numbered coherent.next
    (List.Subset.refl _) born ?registered (List.Subset.refl _) nofun coherent.single coherent.tokens ?stamped
    coherent.stamps nofun rfl nofun ?unregistered
  case stamped =>
    intro token' made
    exact coherent.stamped c token' (held ▸ made)
  case mapped =>
    intro d
    split_ifs with same
    · subst same
      exact Finmap.lookup_insert _
    · exact Finmap.lookup_insert_of_ne _ same
  case indexed =>
    intro d v
    split_ifs with same
    · rw [same]
      exact (coherent.indexed c v).trans (by rw [held]; rfl)
    · exact Iff.rfl
  case registered =>
    intro r member
    rw [if_neg (coherent.registered_ne (by rw [held]; exact fun _ => id) member)]
    exact member
  case unregistered =>
    intro d done
    rw [if_neg (coherent.unregistered_ne (by rw [held]; exact nofun) done)]
    exact done

theorem indexes (coherent : Coherent s place) {t : τ} {u : UserId} {c : ConnectionId} {token : CancelToken}
    (op : s.ops t = .inserted u c token) :
    Coherent { s.become t .idle with
        manager := s.manager.indexConnection u c
        registrations := s.registrations ++ [⟨t, c, u, token⟩] }
      (Function.update place c (.settled t u token)) := by
  have held := Place.eq_inserted ((coherent.tied t c _).mp (congrArg Op.stage op))
  have tied : Tied (Function.update s.ops t .idle) (Function.update place c (.settled t u token)) :=
    coherent.tied.move (some (.inserted u token)) none (by rw [op]; rfl) (by rw [held]; rfl) rfl rfl
  have born : c ∈ s.issued := coherent.born c (by rw [held]; exact nofun)
  have stamp : token + 1 = c := coherent.stamped c token (held ▸ rfl)
  have new : ∀ r ∈ s.registrations, r.connId ≠ c :=
    fun r => coherent.registered_ne (by rw [held]; exact fun _ => id)
  refine coherent.move rfl tied ?mapped ?indexed ?nonempty coherent.numbered coherent.next
    (List.Subset.refl _) born ?registered (List.subset_append_left ..) ?settled ?single coherent.tokens ?stamped
    ?stamps nofun rfl nofun ?unregistered
  case settled =>
    intro t' u' token' same
    cases same
    exact List.mem_append_right _ (List.mem_singleton_self _)
  case single =>
    rw [List.map_append, List.map_singleton, ← List.concat_eq_append]
    refine coherent.single.concat fun old => ?_
    obtain ⟨r, member, same⟩ := List.mem_map.mp old
    exact new r member same
  case stamped =>
    intro token' made
    cases made
    exact stamp
  case stamps =>
    intro r member
    rcases List.mem_append.mp member with old | last
    · exact coherent.stamps r old
    · cases List.mem_singleton.mp last
      exact stamp
  case mapped =>
    intro d
    split_ifs with same
    · rw [same]
      exact (coherent.connections c).trans (by rw [held]; rfl)
    · rfl
  case indexed =>
    intro d v
    rw [show (s.manager.indexConnection u c).index v = _ from s.manager.index_insert u v _]
    have absent : c ∉ s.manager.index v := by
      rw [coherent.indexed, held]
      exact nofun
    split_ifs with mine same same
    · subst mine same
      exact iff_of_true (Finset.mem_insert_self ..) rfl
    · subst mine
      exact Finset.mem_insert.trans (or_iff_right same)
    · subst same
      exact iff_of_false absent fun equal => mine (Option.some.inj equal).symm
    · exact Iff.rfl
  case nonempty =>
    intro v
    by_cases mine : v = u
    · subst mine
      show Finmap.lookup v (Finmap.insert v _ _) ≠ _
      rw [Finmap.lookup_insert]
      exact fun same => Finset.insert_ne_empty _ _ (Option.some.inj same)
    · show Finmap.lookup v (Finmap.insert u _ _) ≠ _
      rw [Finmap.lookup_insert_of_ne _ mine]
      exact coherent.nonempty v
  case registered =>
    intro r member
    rcases List.mem_append.mp member with old | last
    · rw [if_neg (new r old)]
      exact old
    · cases List.mem_singleton.mp last
      rw [if_pos rfl]
      exact ⟨rfl, rfl, rfl⟩
  case unregistered =>
    intro d done
    rw [if_neg (coherent.unregistered_ne (by rw [held]; exact nofun) done)]
    exact done

/-- A task asks for one of its ids to be taken out. -/
theorem asks (coherent : Coherent s place) {t : τ} {c : ConnectionId} (op : s.ops t = .idle)
    (given : ∃ r ∈ s.registrations, r.task = t ∧ r.connId = c) :
    Coherent { s.become t (.unregistering c) with leaving := s.leaving ++ [c] } place :=
  { coherent with
    tied := coherent.tied.op (by rw [op]; rfl) rfl
    asked := by
      intro t' d asks
      by_cases same : t' = t
      · subst same
        cases (Function.update_self ..).symm.trans asks
        exact ⟨List.mem_append_right _ (List.mem_singleton_self _), given⟩
      · obtain ⟨leaves, member⟩ := coherent.asked t' d ((Function.update_of_ne same ..).symm.trans asks)
        exact ⟨List.mem_append_left _ leaves, member⟩
    left := fun d leaves => List.mem_append_left _ (coherent.left d leaves) }

omit [DecidableEq τ] in
/-- An id that its task is about to take out is in both maps, or was taken out before. -/
theorem asked_place (coherent : Coherent s place) {t : τ} {c : ConnectionId} (op : s.ops t = .unregistering c) :
    (∃ u token, place c = .settled t u token) ∨ place c = .gone t := by
  obtain ⟨-, r, member, rfl, rfl⟩ := coherent.asked t c op
  have follows := coherent.registered r member
  have free : ∀ stage, (place r.connId).stage ≠ some (r.task, stage) := by
    intro stage held
    have busy := (coherent.tied r.task r.connId stage).mpr held
    rw [op] at busy
    cases busy
  generalize place r.connId = p at follows free
  cases p with
  | unborn => cases follows
  | allotted => cases follows
  | inserted => cases follows
  | settled t u token =>
      obtain ⟨rfl, rfl, rfl⟩ := follows
      exact .inl ⟨_, _, rfl⟩
  | removing t u =>
      obtain ⟨rfl, rfl⟩ := follows
      exact absurd rfl (free _)
  | gone t =>
      cases follows
      exact .inr rfl

theorem removes (coherent : Coherent s place) {t : τ} {c : ConnectionId} {conn : ActiveConnection}
    (op : s.ops t = .unregistering c) (found : s.manager.connections.lookup c = some conn) :
    Coherent { s.become t (.removed conn.userId c) with manager := s.manager.removeConnection c }
      (Function.update place c (.removing t conn.userId)) := by
  have mapped := coherent.connections c
  rw [found] at mapped
  obtain ⟨u, token, held⟩ : ∃ u token, place c = .settled t u token := by
    refine (coherent.asked_place op).resolve_right fun gone => ?_
    rw [gone] at mapped
    cases mapped
  rw [held] at mapped
  cases mapped
  have tied : Tied (Function.update s.ops t (.removed u c)) (Function.update place c (.removing t u)) :=
    coherent.tied.move none (some (.removed u)) (by rw [op]; rfl) (by rw [held]; rfl) rfl rfl
  have born : c ∈ s.issued := coherent.born c (by rw [held]; exact nofun)
  refine coherent.move rfl tied ?mapped ?indexed coherent.nonempty coherent.numbered coherent.next
    (List.Subset.refl _) born ?registered (List.Subset.refl _) nofun coherent.single coherent.tokens nofun
    coherent.stamps nofun rfl (fun _ => (coherent.asked t c op).1) ?unregistered
  case mapped =>
    intro d
    split_ifs with same
    · subst same
      exact Finmap.lookup_erase ..
    · exact Finmap.lookup_erase_ne same
  case indexed =>
    intro d v
    split_ifs with same
    · rw [same]
      exact (coherent.indexed c v).trans (by rw [held]; rfl)
    · exact Iff.rfl
  case registered =>
    intro r member
    split_ifs with same
    · have follows := coherent.registered r member
      rw [same, held] at follows
      exact ⟨follows.1, follows.2.1⟩
    · exact member
  case unregistered =>
    intro d done
    rw [if_neg (coherent.unregistered_ne (by rw [held]; exact nofun) done)]
    exact done

/-- The second `unregister` of an id finds nothing. -/
theorem removesNone (coherent : Coherent s place) {t : τ} {c : ConnectionId}
    (op : s.ops t = .unregistering c) (missing : s.manager.connections.lookup c = none) :
    Coherent { s.become t .idle with unregistered := s.unregistered ++ [c] } place := by
  have mapped := coherent.connections c
  rw [missing] at mapped
  have gone : place c = .gone t := by
    refine (coherent.asked_place op).resolve_left ?_
    rintro ⟨u, token, held⟩
    rw [held] at mapped
    cases mapped
  have quiet : Coherent (s.become t .idle) place := coherent.become (by rw [op]; rfl) rfl nofun
  refine { quiet with unregistered := ?_ }
  intro d done
  rcases List.mem_append.mp done with old | new
  · exact coherent.unregistered d old
  · cases List.mem_singleton.mp new
    exact ⟨t, gone⟩

theorem unindexes (coherent : Coherent s place) {t : τ} {u : UserId} {c : ConnectionId}
    (op : s.ops t = .removed u c) :
    Coherent { s.become t .idle with
        manager := s.manager.unindexConnection u c, unregistered := s.unregistered ++ [c] }
      (Function.update place c (.gone t)) := by
  have held := Place.eq_removing ((coherent.tied t c _).mp (congrArg Op.stage op))
  have tied : Tied (Function.update s.ops t .idle) (Function.update place c (.gone t)) :=
    coherent.tied.move (some (.removed u)) none (by rw [op]; rfl) (by rw [held]; rfl) rfl rfl
  have born : c ∈ s.issued := coherent.born c (by rw [held]; exact nofun)
  have leaves : c ∈ s.leaving := coherent.left c (by rw [held]; trivial)
  obtain ⟨unmapped, counter, made, -⟩ := s.manager.unindexConnection_frame u c
  refine coherent.move rfl tied ?mapped ?indexed
    (ConnectionManager.unindexConnection_nonempty u c coherent.nonempty) coherent.numbered
    (counter.trans coherent.next) (List.Subset.refl _) born ?registered (List.Subset.refl _) nofun coherent.single
    (made.trans coherent.tokens) nofun coherent.stamps nofun rfl (fun _ => leaves) ?unregistered
  case mapped =>
    intro d
    show (s.manager.unindexConnection u c).connections.lookup d = _
    rw [unmapped]
    split_ifs with same
    · rw [same]
      exact (coherent.connections c).trans (by rw [held]; rfl)
    · rfl
  case indexed =>
    intro d v
    show d ∈ (s.manager.unindexConnection u c).index v ↔ _
    rw [ConnectionManager.index_unindexConnection]
    have mine : ∀ w, c ∈ s.manager.index w ↔ u = w := by
      intro w
      rw [coherent.indexed, held]
      exact Option.some_inj
    split_ifs with same equal equal
    · subst equal
      exact iff_of_false (Finset.notMem_erase _ _) nofun
    · subst same
      exact Finset.mem_erase.trans (and_iff_right equal)
    · subst equal
      exact iff_of_false (fun member => same ((mine v).mp member).symm) nofun
    · exact Iff.rfl
  case registered =>
    intro r member
    split_ifs with same
    · have follows := coherent.registered r member
      rw [same, held] at follows
      exact follows.1
    · exact member
  case unregistered =>
    intro d done
    split_ifs with same
    · exact ⟨t, rfl⟩
    · rcases List.mem_append.mp done with old | new
      · exact old
      · exact absurd (List.mem_singleton.mp new) same

end Coherent

section Run

variable {τ : Type} [DecidableEq τ] [Fintype τ] {shards : Nat} {shardOf : ConnectionId → Nat}

omit [Fintype τ] in
theorem Coherent.begin {s s' : System τ} {place : ConnectionId → Place τ} (coherent : Coherent s place)
    {t : τ} {call : ManagerCall} (op : s.ops t = .idle) (began : s.begin t call = some s') :
    Coherent s' place := by
  have free : (s.ops t).stage = none := by rw [op]; rfl
  cases call with
  | register u =>
      cases began
      exact coherent.become free rfl nofun
  | unregister c =>
      simp only [System.begin] at began
      split_ifs at began with given
      cases began
      exact coherent.asks op given
  | kickUser u =>
      cases began
      exact coherent.become free rfl nofun
  | cancelAll =>
      cases began
      exact coherent.become free rfl nofun

theorem Coherent.advance {s s' : System τ} {place : ConnectionId → Place τ} (coherent : Coherent s place)
    {t : τ} (advanced : s.advance shards shardOf t = some s') (few : s'.issued.length < 2 ^ 64) :
    ∃ next, Coherent s' next := by
  unfold System.advance at advanced
  split at advanced
  · cases advanced
  · rename_i u op
    cases advanced
    rw [List.length_append] at few
    exact ⟨_, coherent.allots op few⟩
  · rename_i u c token op
    cases advanced
    exact ⟨_, coherent.inserts op⟩
  · rename_i u c token op
    split_ifs at advanced
    cases advanced
    exact ⟨_, coherent.indexes op⟩
  · rename_i c op
    split at advanced
    · rename_i missing
      cases advanced
      exact ⟨_, coherent.removesNone op missing⟩
    · rename_i conn found
      cases advanced
      exact ⟨_, coherent.removes op found⟩
  · rename_i u c op
    split_ifs at advanced
    cases advanced
    exact ⟨_, coherent.unindexes op⟩
  · rename_i u owed op
    have free : (s.ops t).stage = none := by rw [op]; rfl
    have idle : Coherent (s.become t .idle) place := coherent.become free rfl nofun
    split at advanced
    · cases advanced
      exact ⟨place, { idle with }⟩
    · cases advanced
      exact ⟨place, coherent.become free rfl nofun⟩
  · rename_i u todo kicked owed hit op
    have free : (s.ops t).stage = none := by rw [op]; rfl
    have idle : Coherent (s.become t .idle) place := coherent.become free rfl nofun
    split_ifs at advanced
    cases advanced
    exact ⟨place, { idle with }⟩
  · rename_i shard cancelled op
    have free : (s.ops t).stage = none := by rw [op]; rfl
    split_ifs at advanced
    · cases advanced
      have moved : Coherent (s.become t (.cancelling (shard + 1)
          (cancelled + (s.manager.connections.keys.filter (shardOf · = shard)).card))) place :=
        coherent.become free rfl nofun
      exact ⟨place, { moved with }⟩
    · cases advanced
      exact ⟨place, coherent.become free rfl nofun⟩

omit [Fintype τ] in
theorem Coherent.visit {s s' : System τ} {place : ConnectionId → Place τ} (coherent : Coherent s place)
    {t : τ} {c : ConnectionId} (visited : s.visit t c = some s') : Coherent s' place := by
  unfold System.visit at visited
  split at visited
  · rename_i u todo kicked owed hit op
    have free : (s.ops t).stage = none := by rw [op]; rfl
    split_ifs at visited
    split at visited
    · cases visited
      exact coherent.become free rfl nofun
    · rename_i conn found
      cases visited
      have moved : Coherent (s.become t (.visiting u (todo.erase c) (kicked + 1) owed (hit ++ [(c, conn)])))
          place := coherent.become free rfl nofun
      exact { moved with }
  · cases visited

omit [DecidableEq τ] [Fintype τ] in
theorem coherent_new : Coherent (System.new : System τ) fun _ => .unborn := by
  constructor
  case connections => exact fun c => Finmap.lookup_empty c
  case indexed =>
    intro c u
    simp only [System.new, ConnectionManager.new, ConnectionManager.index, Finmap.lookup_empty,
      Option.getD_none, Finset.notMem_empty, Place.indexedBy, reduceCtorEq]
  case nonempty =>
    intro u
    simp only [System.new, ConnectionManager.new, Finmap.lookup_empty, ne_eq, reduceCtorEq, not_false_eq_true]
  case tied =>
    intro t c stage
    constructor
    · intro busy
      cases busy
    · intro held
      cases held
  case numbered => rfl
  case next => rfl
  case born => exact fun c living => absurd rfl living
  case registered => exact fun r member => absurd member List.not_mem_nil
  case settled =>
    intro c t u token held
    cases held
  case single => exact List.nodup_nil
  case tokens => rfl
  case stamped =>
    intro c token made
    cases made
  case stamps => exact fun r member => absurd member List.not_mem_nil
  case asked =>
    intro t c asks
    cases asks
  case left => exact fun c leaves => leaves.elim
  case unregistered => exact fun c done => absurd done List.not_mem_nil

end Run

end ServerNaive
