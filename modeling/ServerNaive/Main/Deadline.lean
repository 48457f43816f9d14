import ServerNaive.Main.Drain

/-! The end of the process comes. `main` waits for no handler: it sleeps at most fifty times, gives up at
its deadline, and the task that waits for a signal is woken by the token. -/
namespace ServerNaive
open AsyncIo

namespace MainPhase

/-- The clock against the phases of the drain: every sleep took its time. -/
def Paced (began sleeps now : Nat) : MainPhase → Prop
  | .serving => sleeps = 0
  | .stopped => sleeps = 0
  | .cancelling _ _ => sleeps = 0
  | .counting deadline _ _ => deadline = began + drainTimeout ∧ began + drainInterval * sleeps ≤ now
  | .sleeping deadline wake =>
      deadline = began + drainTimeout ∧ began + drainInterval * sleeps ≤ wake ∧ wake ≤ now + drainInterval
  | .joining drained => drained = false → began + drainTimeout ≤ now
  | .unregistering drained => drained = false → began + drainTimeout ≤ now
  | .closing drained => drained = false → began + drainTimeout ≤ now
  | .ended drained => drained = false → began + drainTimeout ≤ now

/-- `main` has cancelled the token. -/
def tells : MainPhase → Bool
  | .serving => false
  | .stopped => false
  | _ => true

theorem Paced.later {began sleeps now now' : Nat} {main : MainPhase} (h : main.Paced began sleeps now)
    (later : now ≤ now') : main.Paced began sleeps now' := by
  cases main with
  | serving | stopped | cancelling => exact h
  | counting => exact ⟨h.1, h.2.trans later⟩
  | sleeping => exact ⟨h.1, h.2.1, h.2.2.trans (Nat.add_le_add_right later _)⟩
  | joining | unregistering | closing | ended => exact fun late => (h late).trans later

/-- At the latest at `time` the drain is over. -/
def Within (time began now : Nat) : MainPhase → Prop
  | .serving => now + drainTimeout + drainInterval ≤ time
  | .stopped => now + drainTimeout + drainInterval ≤ time
  | .cancelling _ _ => now + drainTimeout + drainInterval ≤ time
  | .counting _ _ _ => began + drainTimeout + drainInterval ≤ time ∧ now ≤ time
  | .sleeping _ wake => began + drainTimeout + drainInterval ≤ time ∧ now ≤ time ∧ wake ≤ time
  | _ => now ≤ time

end MainPhase

def Listener.stepsLeft : Listener → Nat
  | .starting => 3
  | .listening => 2
  | .woken => 1
  | .returned => 0
  | .panicked => 0

namespace Process

variable {n : Nat} {shards : Nat} {shardOf : ConnectionId → Nat} {p p' : Process n}

structure Punctual (p : Process n) : Prop where
  began : p.began ≤ p.now
  sleeps : p.sleeps ≤ drainTimeout / drainInterval
  paced : p.main.Paced p.began p.sleeps p.now
  told : p.main.tells = true → p.cancelToken = true

theorem punctual_new (users : Credential → Option UserId) : Punctual (new users : Process n) :=
  ⟨le_rfl, Nat.zero_le _, rfl, fun told => by cases told⟩

theorem Punctual.mainStep (h : Punctual p) (stepped : p.mainStep shards shardOf = some p') : Punctual p' := by
  have paced := h.paced
  have told := h.told
  unfold Process.mainStep at stepped
  split at stepped
  all_goals
    rename_i main
    rw [main] at paced told
  · split_ifs at stepped
    cases stepped
    exact ⟨h.began, h.sleeps, paced, fun told => by cases told⟩
  · cases stepped
    exact ⟨h.began, h.sleeps, paced, fun _ => rfl⟩
  · split_ifs at stepped
    · cases stepped
      exact ⟨h.began, h.sleeps, paced, fun _ => told rfl⟩
    · cases stepped
      refine ⟨le_rfl, h.sleeps, ⟨rfl, ?_⟩, fun _ => told rfl⟩
      have unslept : p.sleeps = 0 := paced
      rw [unslept]
      exact le_rfl
    · cases stepped
      exact ⟨h.began, h.sleeps, (fun drained => by cases drained), fun _ => told rfl⟩
  · split_ifs at stepped with below none_left late
    · cases stepped
      exact ⟨h.began, h.sleeps, paced, fun _ => told rfl⟩
    · cases stepped
      exact ⟨h.began, h.sleeps, (fun drained => by cases drained), fun _ => told rfl⟩
    · cases stepped
      exact ⟨h.began, h.sleeps, fun _ => paced.1 ▸ late, fun _ => told rfl⟩
    · cases stepped
      -- the deadline has not come, so there is time for this sleep
      obtain ⟨rfl, slept⟩ := paced
      refine ⟨h.began, ?_, ⟨rfl, ?_, le_rfl⟩, fun _ => told rfl⟩
      · simp only [drainTimeout, drainInterval] at late slept ⊢
        omega
      · simp only [drainInterval] at slept ⊢
        omega
  · split_ifs at stepped with woken
    cases stepped
    exact ⟨h.began, h.sleeps, ⟨paced.1, paced.2.1.trans woken⟩, fun _ => told rfl⟩
  · split at stepped
    · cases stepped
      exact ⟨h.began, h.sleeps, paced, fun _ => told rfl⟩
    · cases stepped
      exact ⟨h.began, h.sleeps, paced, fun _ => told rfl⟩
    · cases stepped
  · cases stepped
    exact ⟨h.began, h.sleeps, paced, fun _ => told rfl⟩
  · cases stepped
    exact ⟨h.began, h.sleeps, paced, fun _ => told rfl⟩
  · cases stepped

theorem Punctual.aside (h : Punctual p) {listener : Listener} {cancelToken : Bool} {now : Nat} (later : p.now ≤ now)
    (held : p.cancelToken = true → cancelToken = true) : Punctual { p with listener, cancelToken, now } :=
  ⟨h.began.trans later, h.sleeps, h.paced.later later, fun told => held (h.told told)⟩

theorem Punctual.step (h : Punctual p) (stepped : Stepped shards shardOf p p') : Punctual p' := by
  cases stepped with
  | service => exact ⟨h.began, h.sleeps, h.paced, h.told⟩
  | main taken => exact h.mainStep taken
  | stops serving =>
      have paced := h.paced
      rw [serving] at paced
      exact ⟨h.began, h.sleeps, paced, fun told => by cases told⟩
  | aside later held => exact h.aside later held

/-- The process is on its way to its end. -/
def Stopping (p : Process n) : Prop := p.main ≠ .serving ∨ p.cancelToken = true ∨ p.listener = .woken

/-- How many steps of `main`, of the listener and of the clock it is away, at most: a count of the shards,
a check and a sleep for each sleep that is left. -/
def stepsLeft (shards : Nat) (p : Process n) : Nat :=
  let rounds := (drainTimeout / drainInterval - p.sleeps) * (shards + drainInterval + 2)
  match p.main with
  | .serving => rounds + 2 * shards + 11 + p.listener.stepsLeft
  | .stopped => rounds + 2 * shards + 10
  | .cancelling shard _ => rounds + (shards - shard) + shards + 9
  | .counting _ shard _ => rounds + (shards - shard) + 8
  | .sleeping _ wake => rounds + (wake - p.now) + shards + 9
  | .joining _ => 3 + p.listener.stepsLeft
  | .unregistering _ => 2
  | .closing _ => 1
  | .ended _ => 0

/-- The events that need no handler, no sync and no signal. -/
def ProcessEvent.Own : ProcessEvent n → Prop
  | .main => True
  | .listen => True
  | .tick => True
  | _ => False

structure Ending (time : Nat) (p : Process n) : Prop where
  punctual : Punctual p
  stopping : Stopping p
  within : p.main.Within time p.began p.now

/-- An event brings the end nearer. -/
def Nears (shards : Nat) (shardOf : ConnectionId → Nat) (time : Nat) (p : Process n) : Prop :=
  ∃ e p', ProcessEvent.Own e ∧ p.step shards shardOf e = some p' ∧ Ending time p' ∧
    p'.stepsLeft shards < p.stepsLeft shards

theorem Ending.main {time : Nat} (h : Ending time p) (stepped : p.mainStep shards shardOf = some p')
    (within : p'.main.Within time p'.began p'.now) (going : p'.main ≠ .serving)
    (fewer : p'.stepsLeft shards < p.stepsLeft shards) : Nears shards shardOf time p :=
  ⟨.main, p', trivial, stepped, ⟨h.punctual.mainStep stepped, .inl going, within⟩, fewer⟩

/-- The listener moves on while `main` waits for it. -/
theorem Ending.listen {time : Nat} (h : Ending time p) (listener : Listener) {cancelToken : Bool}
    (stepped : p.listenStep = some { p with listener, cancelToken }) (held : p.cancelToken = true → cancelToken = true)
    (stopping : p.main ≠ .serving ∨ cancelToken = true) (waits : p.main = .serving ∨ ∃ drained, p.main = .joining drained)
    (fewer : listener.stepsLeft < p.listener.stepsLeft) : Nears shards shardOf time p := by
  refine ⟨.listen, _, trivial, stepped, ⟨?_, ?_, h.within⟩, ?_⟩
  · exact h.punctual.aside le_rfl held
  · exact stopping.imp id .inl
  · rcases waits with main | ⟨drained, main⟩ <;> simp only [stepsLeft, main] <;> omega

theorem Ending.cancelling {time shard cancelled : Nat} (h : Ending time p) (main : p.main = .cancelling shard cancelled) :
    Nears shards shardOf time p := by
  have within := h.within
  rw [main] at within
  have time_left : p.now ≤ time := by
    change p.now + drainTimeout + drainInterval ≤ time at within
    omega
  by_cases below : shard < shards
  · have stepped : p.mainStep shards shardOf = some { p with
        service := p.cancelShard shardOf shard
        main := .cancelling (shard + 1) (cancelled + p.manager.shardLen shardOf shard) } := by
      simp only [mainStep, main, below, if_true]
    refine h.main stepped within (fun same => by cases same) ?_
    simp only [stepsLeft, main]
    omega
  by_cases some_cancelled : 0 < cancelled
  · have stepped : p.mainStep shards shardOf = some { p with
        main := .counting (p.now + drainTimeout) 0 0, counted := p.registrations, began := p.now } := by
      simp only [mainStep, main, below, some_cancelled, if_false, if_true]
    refine h.main stepped ⟨within, time_left⟩ (fun same => by cases same) ?_
    simp only [stepsLeft, main]
    omega
  · have stepped : p.mainStep shards shardOf = some { p with main := .joining true } := by
      simp only [mainStep, main, below, some_cancelled, if_false]
    refine h.main stepped time_left (fun same => by cases same) ?_
    simp only [stepsLeft, main]
    cases p.listener <;> simp only [Listener.stepsLeft] <;> omega

theorem Ending.counting {time deadline shard remaining : Nat} (h : Ending time p)
    (main : p.main = .counting deadline shard remaining) : Nears shards shardOf time p := by
  have paced := h.punctual.paced
  have within := h.within
  rw [main] at paced within
  by_cases below : shard < shards
  · have stepped : p.mainStep shards shardOf = some { p with
        main := .counting deadline (shard + 1) (remaining + p.manager.shardLen shardOf shard) } := by
      simp only [mainStep, main, below, if_true]
    refine h.main stepped within (fun same => by cases same) ?_
    simp only [stepsLeft, main]
    omega
  have done : p.mainStep shards shardOf =
      if remaining = 0 then some { p with main := .joining true }
      else if deadline ≤ p.now then some { p with main := .joining false }
      else some { p with main := .sleeping deadline (p.now + drainInterval), sleeps := p.sleeps + 1 } := by
    simp only [mainStep, main, below, if_false]
  have joins (drained : Bool) : stepsLeft shards { p with main := .joining drained } < p.stepsLeft shards := by
    simp only [stepsLeft, main]
    cases p.listener <;> simp only [Listener.stepsLeft] <;> omega
  by_cases none_left : remaining = 0
  · rw [if_pos none_left] at done
    exact h.main done within.2 (fun same => by cases same) (joins true)
  rw [if_neg none_left] at done
  by_cases late : deadline ≤ p.now
  · rw [if_pos late] at done
    exact h.main done within.2 (fun same => by cases same) (joins false)
  rw [if_neg late] at done
  refine h.main done ⟨within.1, within.2, ?_⟩ (fun same => by cases same) ?_
  · have time := within.1
    change p.now + drainInterval ≤ _
    rw [← paced.1] at time
    omega
  · have spare : p.sleeps + 1 ≤ drainTimeout / drainInterval := (h.punctual.mainStep done).sleeps
    obtain ⟨more, rounds⟩ := Nat.exists_eq_add_of_le' spare
    simp only [stepsLeft, main, rounds, Nat.add_sub_cancel, Nat.add_sub_cancel_left,
      show more + (p.sleeps + 1) - p.sleeps = more + 1 by omega, Nat.succ_mul]
    omega

theorem Ending.sleeping {time deadline wake : Nat} (h : Ending time p) (main : p.main = .sleeping deadline wake) :
    Nears shards shardOf time p := by
  have within := h.within
  rw [main] at within
  by_cases woken : wake ≤ p.now
  · have stepped : p.mainStep shards shardOf =
        some { p with main := .counting deadline 0 0, counted := p.registrations } := by
      simp only [mainStep, main, woken, if_true]
    refine h.main stepped ⟨within.1, within.2.1⟩ (fun same => by cases same) ?_
    simp only [stepsLeft, main]
    omega
  · refine ⟨.tick, _, trivial, rfl, ⟨?_, ?_, ?_⟩, ?_⟩
    · exact h.punctual.aside (Nat.le_succ _) id
    · exact h.stopping
    · change p.main.Within time p.began (p.now + 1)
      rw [main]
      exact ⟨within.1, (Nat.lt_of_not_le woken).trans_le within.2.2, within.2.2⟩
    · simp only [stepsLeft, main]
      omega

theorem Ending.joining {time : Nat} {drained : Bool} (h : Ending time p) (main : p.main = .joining drained) :
    Nears shards shardOf time p := by
  have within := h.within
  rw [main] at within
  have told : p.cancelToken = true := h.punctual.told (by rw [main]; rfl)
  have going : p.main ≠ .serving := by
    rw [main]
    exact fun same => by cases same
  cases listener : p.listener with
  | starting =>
      refine h.listen .listening ?_ id (.inl going) (.inr ⟨drained, main⟩) (listener ▸ by decide)
      simp only [listenStep, listener]
  | listening =>
      refine h.listen .woken ?_ id (.inl going) (.inr ⟨drained, main⟩) (listener ▸ by decide)
      simp only [listenStep, listener, told, if_true]
  | woken =>
      refine h.listen .returned ?_ (fun _ => rfl) (.inl going) (.inr ⟨drained, main⟩) (listener ▸ by decide)
      simp only [listenStep, listener]
  | returned =>
      have stepped : p.mainStep shards shardOf = some { p with main := .unregistering drained } := by
        simp only [mainStep, main, listener]
      refine h.main stepped within (fun same => by cases same) ?_
      simp only [stepsLeft, main, listener, Listener.stepsLeft]
      omega
  | panicked =>
      have stepped : p.mainStep shards shardOf = some { p with main := .ended drained } := by
        simp only [mainStep, main, listener]
      refine h.main stepped within (fun same => by cases same) ?_
      simp only [stepsLeft, main, listener, Listener.stepsLeft]
      omega

theorem Ending.progress {time : Nat} (h : Ending time p) (going : ¬ ∃ drained, p.main = .ended drained) :
    Nears shards shardOf time p := by
  have within := h.within
  cases main : p.main with
  | serving =>
      rw [main] at within
      by_cases told : p.cancelToken = true
      · have stepped : p.mainStep shards shardOf = some { p with main := .stopped } := by
          simp only [mainStep, main, told, if_true]
        refine h.main stepped within (fun same => by cases same) ?_
        simp only [stepsLeft, main]
        omega
      · have woken : p.listener = .woken := by
          rcases h.stopping with stopped | told' | woken
          · exact absurd main stopped
          · exact absurd told' told
          · exact woken
        refine h.listen .returned ?_ (fun _ => rfl) (.inr rfl) (.inl main) (woken ▸ by decide)
        simp only [listenStep, woken]
  | stopped =>
      rw [main] at within
      have stepped : p.mainStep shards shardOf = some { p with
          main := .cancelling 0 0, cancelToken := true, due := p.registrations, counted := p.registrations } := by
        simp only [mainStep, main]
      refine h.main stepped within (fun same => by cases same) ?_
      simp only [stepsLeft, main]
      omega
  | cancelling shard cancelled => exact h.cancelling main
  | counting deadline shard remaining => exact h.counting main
  | sleeping deadline wake => exact h.sleeping main
  | joining drained => exact h.joining main
  | unregistering drained =>
      rw [main] at within
      have stepped : p.mainStep shards shardOf = some { p with main := .closing drained } := by
        simp only [mainStep, main]
      refine h.main stepped within (fun same => by cases same) ?_
      simp only [stepsLeft, main]
      omega
  | closing drained =>
      rw [main] at within
      have stepped : p.mainStep shards shardOf = some { p with main := .ended drained } := by
        simp only [mainStep, main]
      refine h.main stepped within (fun same => by cases same) ?_
      simp only [stepsLeft, main]
      omega
  | ended drained => exact absurd ⟨drained, main⟩ going

theorem Punctual.within (h : Punctual p) :
    p.main.Within (p.now + drainTimeout + drainInterval) p.began p.now := by
  have began := h.began
  have paced := h.paced
  cases main : p.main with
  | serving | stopped | cancelling => exact le_rfl
  | counting => exact ⟨by omega, by omega⟩
  | sleeping deadline wake =>
      rw [main] at paced
      exact ⟨by omega, by omega, by have soon := paced.2.2; omega⟩
  | joining | unregistering | closing | ended =>
      change p.now ≤ _
      omega

/-- Whatever the handlers do: `main` sleeps at most fifty times in its drain, gives the drain up only when
five seconds are over, and once the process is on its way to its end the steps of `main`, of the listener
and of the clock alone bring it there, with no more than the drain's timeout and one interval gone. -/
theorem shutdown_ends {users : Credential → Option UserId} {schedule : List (ProcessEvent n)}
    (ran : follow (step shards shardOf) (new users) schedule = some p) :
    p.sleeps ≤ 50 ∧ (∀ drained, p.main = .ended drained → drained = false → p.began + drainTimeout ≤ p.now) ∧
      (p.Stopping → Leads (step shards shardOf) ProcessEvent.Own
        (fun q => (∃ drained, q.main = .ended drained) ∧ q.now ≤ p.now + drainTimeout + drainInterval) p) := by
  have punctual : Punctual p :=
    follow_invariant (I := Punctual) (fun h stepped => h.step (step_stepped stepped)) (punctual_new users) ran
  refine ⟨punctual.sleeps, ?_, fun stopping => ?_⟩
  · intro drained main late
    have paced := punctual.paced
    rw [main] at paced
    exact paced late
  · refine leads_of_progress (I := Ending (p.now + drainTimeout + drainInterval)) (stepsLeft shards) ?_
      ⟨punctual, stopping, punctual.within⟩
    intro q ending going
    refine ending.progress fun ended => going ⟨ended, ?_⟩
    have within := ending.within
    obtain ⟨drained, main⟩ := ended
    rw [main] at within
    exact within

/-- A signal comes while a handler relays, and the handler never leaves. -/
def stuckHandler (h : Fin n) : List (ProcessEvent n) :=
  entersRelay h ++ [.listen, .signal, .listen, .main, .main, .main, .main, .main, .main]

theorem stuckHandler_runs :
    (follow (step 1 fun _ => 0) (new fun _ => some 7) (stuckHandler (0 : Fin 1))).isSome = true := by
  decide +kernel

theorem shutdown_ends_stuckHandler :
    ∃ p, follow (step 1 fun _ => 0) (new fun _ => some 7) (stuckHandler (0 : Fin 1)) = some p ∧
      p.main = .sleeping 5000 100 ∧ p.service.phase 0 = .relaying "a" 7 1 0 ∧ p.sleeps ≤ 50 ∧
      Leads (step 1 fun _ => 0) ProcessEvent.Own (fun q => (∃ drained, q.main = .ended drained) ∧ q.now ≤ 5100) p := by
  have ran := (Option.some_get stuckHandler_runs).symm
  have main : (Option.get _ stuckHandler_runs).main = .sleeping 5000 100 := by decide +kernel
  have relays : (Option.get _ stuckHandler_runs).service.phase 0 = .relaying "a" 7 1 0 := by decide +kernel
  have now : (Option.get _ stuckHandler_runs).now = 0 := by decide +kernel
  obtain ⟨sleeps, -, ends⟩ := shutdown_ends ran
  have leads := ends (.inl fun same => by cases main.symm.trans same)
  rw [now] at leads
  exact ⟨_, ran, main, relays, sleeps, leads⟩

end Process

end ServerNaive
