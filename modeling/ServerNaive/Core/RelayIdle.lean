import ServerNaive.Async.Paced
import ServerNaive.Core.RelayFidelity

/-! The idle timer of the relay. It is moved by the bytes that the writers have taken and by nothing
else, and it is looked at in the same poll, after both directions had their turn. -/
namespace ServerNaive
open AsyncIo

namespace Relay

variable {A B : Type}

/-- The bytes that both writers have accepted. -/
def acceptedBytes (s : Relay (Traced A) (Traced B)) : Nat :=
  (accepted s.a.calls).length + (accepted s.b.calls).length

/-- When a writer last accepted a byte, after a poll at `now` that led from `s` to `t`. -/
def acceptedAt (since now : Nat) (s t : Relay (Traced A) (Traced B)) : Nat :=
  if s.acceptedBytes < t.acceptedBytes then now else since

/-- The parts of the relay that only the end of a poll changes. -/
def SameTimer (s t : Relay A B) : Prop := t.deadline = s.deadline ∧ t.idleTimeout = s.idleTimeout

/-- What `settle` has to go on is what the writers accepted. -/
structure Counted (s : Relay (Traced A) (Traced B)) : Prop where
  upload : Faithful s.upload.own
  download : Faithful s.download.own

theorem Counted.advances {s t : Relay (Traced A) (Traced B)} {r : Polled} (h : Counted s) (advances : Advances s t r) :
    Counted t :=
  ⟨h.upload.ends advances.upload, h.download.ends advances.download⟩

theorem counted_new (a : A) (b : B) (start idleTimeoutSecs bufferSize : Nat) (suppress : Bool) :
    Counted (Relay.new (Traced.start a) (Traced.start b) start idleTimeoutSecs bufferSize suppress) :=
  ⟨.start bufferSize suppress, .start bufferSize false⟩

theorem Counted.bytes {s : Relay (Traced A) (Traced B)} (h : Counted s) :
    s.acceptedBytes = s.bToA.bytesTransferred + s.aToB.bytesTransferred := by
  have up : s.aToB.bytesTransferred = (accepted s.b.calls).length := h.upload.of_own.counted
  have down : s.bToA.bytesTransferred = (accepted s.a.calls).length := h.download.of_own.counted
  rw [up, down]
  rfl

end Relay

/-- A direction never takes back what it has counted. -/
theorem CopyStep.bytes_le {v w : Progress} (step : CopyStep v w) :
    v.dir.bytesTransferred ≤ w.dir.bytesTransferred := by
  cases step with
  | wrote holds positive fits => exact Nat.le_add_right _ _
  | unwritten | flushed | shutdown | finished | readAhead | readNext | sawEnd | swallowed | readWaits =>
      exact le_rfl

theorem CopyEnds.bytes_le {failed : IoError → Prop} {v w : Progress} (ends : CopyEnds failed v w) :
    v.dir.bytesTransferred ≤ w.dir.bytesTransferred := by
  refine ends.invariant (P := fun u => v.dir.bytesTransferred ≤ u.dir.bytesTransferred) ?_ ?_ le_rfl
  · intro x y less step
    exact less.trans step.bytes_le
  · intro x y e less failing
    obtain ⟨-, room, -, rfl⟩ := failing
    exact less

namespace Relay

variable {A B : Type}

/-- Progress of either direction is progress of some writer. -/
theorem Advances.progress_iff {s t : Relay (Traced A) (Traced B)} {r : Polled} (h : Counted s)
    (advances : Advances s t r) :
    (s.aToB.bytesTransferred < t.aToB.bytesTransferred ∨ s.bToA.bytesTransferred < t.bToA.bytesTransferred) ↔
      s.acceptedBytes < t.acceptedBytes := by
  have up : s.aToB.bytesTransferred ≤ t.aToB.bytesTransferred := advances.upload.bytes_le
  have down : s.bToA.bytesTransferred ≤ t.bToA.bytesTransferred := advances.download.bytes_le
  rw [h.bytes, (h.advances advances).bytes]
  omega

variable [AsyncRead A] [AsyncWrite A] [AsyncRead B] [AsyncWrite B]

omit [AsyncWrite A] [AsyncRead B] in
theorem pollAToB_timer {fuel : Nat} {s t : Relay A B} {r : Option Polled} (polled : pollAToB fuel s = (t, r)) :
    SameTimer s t ∧ (r = none ∨ r = some .running ∨ ∃ e, r = some (.ready (.error e))) := by
  unfold pollAToB at polled
  split_ifs at polled
  · cases polled
    exact ⟨⟨rfl, rfl⟩, .inl rfl⟩
  · split at polled
    · cases polled
      exact ⟨⟨rfl, rfl⟩, .inr (.inl rfl)⟩
    · cases polled
      exact ⟨⟨rfl, rfl⟩, .inr (.inr ⟨_, rfl⟩)⟩
    · cases polled
      exact ⟨⟨rfl, rfl⟩, .inl rfl⟩

omit [AsyncRead A] [AsyncWrite B] in
theorem pollBToA_timer {fuel : Nat} {s t : Relay A B} {r : Option Polled} (polled : pollBToA fuel s = (t, r)) :
    SameTimer s t ∧ (r = none ∨ r = some .running ∨ ∃ e, r = some (.ready (.error e))) := by
  unfold pollBToA at polled
  split_ifs at polled
  · cases polled
    exact ⟨⟨rfl, rfl⟩, .inl rfl⟩
  · split at polled
    · cases polled
      exact ⟨⟨rfl, rfl⟩, .inr (.inl rfl)⟩
    · cases polled
      exact ⟨⟨rfl, rfl⟩, .inr (.inr ⟨_, rfl⟩)⟩
    · cases polled
      exact ⟨⟨rfl, rfl⟩, .inl rfl⟩

/-- How a poll ends: it goes on, a direction fails, or both had their turn and it settles. -/
inductive PollEnds (now : Nat) (s : Relay (Traced A) (Traced B)) : Relay (Traced A) (Traced B) → Polled → Prop
  | running (t : Relay (Traced A) (Traced B)) : PollEnds now s t .running
  | failed (t : Relay (Traced A) (Traced B)) (e : IoError) : PollEnds now s t (.ready (.error e))
  | settles {mid t : Relay (Traced A) (Traced B)} {r : Polled} (advances : Advances s mid .pending)
      (timer : SameTimer s mid)
      (settled : mid.settle (s.aToB.bytesTransferred, s.bToA.bytesTransferred) now = (t, r)) : PollEnds now s t r

theorem poll_ends {fuel now : Nat} {s t : Relay (Traced A) (Traced B)} {r : Polled}
    (polled : poll fuel now s = (t, r)) : PollEnds now s t r := by
  unfold poll at polled
  split at polled
  · rename_i mid answer first
    cases polled
    obtain ⟨-, same | same | ⟨e, same⟩⟩ := pollAToB_timer first
    · cases same
    · cases same
      exact .running _
    · cases same
      exact .failed _ e
  · rename_i mid first
    have up : Advances s mid .pending := pollAToB_advances first
    have timer := (pollAToB_timer first).1
    split at polled
    · rename_i last answer second
      cases polled
      obtain ⟨-, same | same | ⟨e, same⟩⟩ := pollBToA_timer second
      · cases same
      · cases same
        exact .running _
      · cases same
        exact .failed _ e
    · rename_i last second
      have down : Advances mid last .pending := pollBToA_advances second
      have timer' := (pollBToA_timer second).1
      exact .settles (up.trans down) ⟨timer'.1.trans timer.1, timer'.2.trans timer.2⟩ polled

/-- The time of the latest of the polls in which some writer accepted a byte, or else `since`. -/
def lastAccepted (since : Nat) (s : Relay (Traced A) (Traced B)) : List (Nat × Nat) → Nat
  | [] => since
  | (fuel, now) :: polls =>
      lastAccepted (acceptedAt since now s (poll fuel now s).1) (poll fuel now s).1 polls

/-- The timer was last set at `since`. -/
structure Timed (since idleTimeout : Nat) (s : Relay (Traced A) (Traced B)) : Prop where
  counted : Counted s
  period : s.idleTimeout = idleTimeout
  deadline : s.deadline = since + idleTimeout

omit [AsyncRead A] [AsyncWrite A] [AsyncRead B] [AsyncWrite B] in
/-- The end of a poll, in terms of what was accepted in it. -/
theorem Timed.settles {since idleTimeout now : Nat} {s mid t : Relay (Traced A) (Traced B)} {r : Polled}
    (h : Timed since idleTimeout s) (advances : Advances s mid .pending) (timer : SameTimer s mid)
    (settled : mid.settle (s.aToB.bytesTransferred, s.bToA.bytesTransferred) now = (t, r)) :
    Timed (acceptedAt since now s t) idleTimeout t ∧
      (t.aToB.isDone ∧ t.bToA.isDone ∧ r = .ready (.ok true) ∧ t.termination = .completed ∨
        ¬ (t.aToB.isDone ∧ t.bToA.isDone) ∧
          (acceptedAt since now s t + idleTimeout ≤ now ∧
              r = .ready (.ok false) ∧ t.termination = .idleTimeout ∨
            now < acceptedAt since now s t + idleTimeout ∧ r = .pending)) := by
  have moved : mid.nextDeadline (s.aToB.bytesTransferred, s.bToA.bytesTransferred) now =
      acceptedAt since now s mid + idleTimeout := by
    unfold nextDeadline acceptedAt
    simp only [advances.progress_iff h.counted]
    split_ifs
    · rw [timer.2, h.period]
    · rw [timer.1, h.deadline]
  have kept := h.counted.advances advances
  have period := timer.2.trans h.period
  unfold settle at settled
  rw [moved] at settled
  split_ifs at settled with done late
  · cases settled
    exact ⟨⟨⟨kept.upload, kept.download⟩, period, rfl⟩, .inl ⟨done.1, done.2, rfl, rfl⟩⟩
  · cases settled
    exact ⟨⟨⟨kept.upload, kept.download⟩, period, rfl⟩, .inr ⟨done, .inl ⟨late, rfl, rfl⟩⟩⟩
  · cases settled
    exact ⟨⟨⟨kept.upload, kept.download⟩, period, rfl⟩, .inr ⟨done, .inr ⟨Nat.lt_of_not_le late, rfl⟩⟩⟩

/-- Polls that leave the run going keep the timer at the latest accepted byte. -/
theorem run_timed {since idleTimeout : Nat} {s t : Relay (Traced A) (Traced B)} {polls : List (Nat × Nat)}
    (h : Timed since idleTimeout s) (ran : s.run polls = (t, .pending)) :
    Timed (s.lastAccepted since polls) idleTimeout t := by
  induction polls generalizing s since with
  | nil =>
      cases ran
      exact h
  | cons first polls ih =>
      obtain ⟨fuel, now⟩ := first
      rw [run] at ran
      cases polled : poll fuel now s with
      | mk mid answer =>
          rw [polled] at ran
          rw [lastAccepted, polled]
          cases poll_ends polled with
          | running => cases ran
          | failed t e => cases ran
          | settles advances timer settled =>
              obtain ⟨next, ends⟩ := h.settles advances timer settled
              rcases ends with ⟨-, -, rfl, -⟩ | ⟨-, ⟨-, rfl, -⟩ | ⟨-, rfl⟩⟩
              · cases ran
              · cases ran
              · exact ih next ran

theorem run_append {s t : Relay A B} {polls more : List (Nat × Nat)} (ran : s.run polls = (t, .pending)) :
    s.run (polls ++ more) = t.run more := by
  induction polls generalizing s with
  | nil =>
      cases ran
      rfl
  | cons first polls ih =>
      obtain ⟨fuel, now⟩ := first
      rw [run] at ran
      rw [List.cons_append, run]
      cases polled : poll fuel now s with
      | mk mid answer =>
          rw [polled] at ran
          cases answer with
          | pending => exact ih ran
          | running => cases ran
          | ready result => cases ran

theorem lastAccepted_append {since : Nat} {s t : Relay (Traced A) (Traced B)} {polls more : List (Nat × Nat)}
    (ran : s.run polls = (t, .pending)) :
    s.lastAccepted since (polls ++ more) = t.lastAccepted (s.lastAccepted since polls) more := by
  induction polls generalizing s since with
  | nil =>
      cases ran
      rfl
  | cons first polls ih =>
      obtain ⟨fuel, now⟩ := first
      rw [run] at ran
      rw [List.cons_append, lastAccepted, lastAccepted]
      cases polled : poll fuel now s with
      | mk mid answer =>
          rw [polled] at ran
          cases answer with
          | pending => exact ih ran
          | running => cases ran
          | ready result => cases ran

end Relay

/-- The run of `copy_bidirectional_with_stats` over its polls; two of its parameters are ignored. -/
def copyBidirectionalWithStats {A B : Type} [AsyncRead A] [AsyncWrite A] [AsyncRead B] [AsyncWrite B] (a : A) (b : B)
    (idleTimeoutSecs _uplinkOnlySecs _downlinkOnlySecs bufferSize : Nat) (suppressAToBShutdown : Bool) (start : Nat)
    (polls : List (Nat × Nat)) : Relay A B × Polled :=
  (Relay.new a b start idleTimeoutSecs bufferSize suppressAToBShutdown).run polls

section Idle

variable {A B : Type} [AsyncRead A] [AsyncWrite A] [AsyncRead B] [AsyncWrite B]

/-- The function returns that the relay ended as idle. -/
def EndsIdle (s : Relay A B) (r : Polled) : Prop :=
  ∃ completed copied, r = .ready (.ok completed) ∧ s.result (.ok completed) = .ok copied ∧
    copied.termination = .idleTimeout

/-- The next poll of a run that is still going ends it as idle just when no direction fails, one of them
is not done, and no writer has accepted a byte for as long as the timeout; and nothing but an error, the
end of both directions and that silence ends a run. -/
theorem idle_timeout_exact (a : A) (b : B)
    (idleTimeoutSecs uplinkOnlySecs downlinkOnlySecs bufferSize start : Nat) (suppress : Bool)
    (polls : List (Nat × Nat)) (fuel now : Nat) (s t : Relay (Traced A) (Traced B)) (r : Polled)
    (going : copyBidirectionalWithStats (.start a) (.start b) idleTimeoutSecs uplinkOnlySecs downlinkOnlySecs
      bufferSize suppress start polls = (s, .pending))
    (next : copyBidirectionalWithStats (.start a) (.start b) idleTimeoutSecs uplinkOnlySecs downlinkOnlySecs
      bufferSize suppress start (polls ++ [(fuel, now)]) = (t, r))
    (returns : r ≠ .running) :
    (EndsIdle t r ↔ (∀ e, r ≠ .ready (.error e)) ∧ ¬ (t.aToB.isDone ∧ t.bToA.isDone) ∧
      (Relay.new (.start a) (.start b) start idleTimeoutSecs bufferSize suppress).lastAccepted start
        (polls ++ [(fuel, now)]) + idleTimeoutSecs ≤ now) ∧
    (r = .pending ∨ (∃ e, r = .ready (.error e)) ∨ (t.aToB.isDone ∧ t.bToA.isDone) ∨
      (Relay.new (.start a) (.start b) start idleTimeoutSecs bufferSize suppress).lastAccepted start
        (polls ++ [(fuel, now)]) + idleTimeoutSecs ≤ now) := by
  have timed := Relay.run_timed ⟨Relay.counted_new a b start idleTimeoutSecs bufferSize suppress, rfl, rfl⟩ going
  rw [copyBidirectionalWithStats, Relay.run_append going, Relay.run] at next
  rw [Relay.lastAccepted_append going, Relay.lastAccepted]
  cases polled : Relay.poll fuel now s with
  | mk u answer =>
      have last : (u, answer) = (t, r) := by
        rw [polled] at next
        cases answer with
        | pending => exact next
        | running => exact next
        | ready result => exact next
      cases last
      cases Relay.poll_ends polled with
      | running => exact absurd rfl returns
      | failed t e =>
          refine ⟨iff_of_false ?_ ?_, .inr (.inl ⟨e, rfl⟩)⟩
          · rintro ⟨completed, copied, same, -⟩
            cases same
          · rintro ⟨unfailed, -⟩
            exact unfailed e rfl
      | settles advances timer settled =>
          rw [Relay.lastAccepted]
          rcases (timed.settles advances timer settled).2 with
            ⟨up, down, rfl, ended⟩ | ⟨undone, ⟨late, rfl, ended⟩ | ⟨early, rfl⟩⟩
          · refine ⟨iff_of_false ?_ ?_, .inr (.inr (.inl ⟨up, down⟩))⟩
            · rintro ⟨completed, copied, -, copies, idle⟩
              cases copies
              cases ended.symm.trans idle
            · rintro ⟨-, undone, -⟩
              exact undone ⟨up, down⟩
          · refine ⟨iff_of_true ⟨false, _, rfl, rfl, ended⟩ ⟨?_, undone, late⟩, .inr (.inr (.inr late))⟩
            intro e same
            cases same
          · refine ⟨iff_of_false ?_ ?_, .inl rfl⟩
            · rintro ⟨completed, copied, same, -⟩
              cases same
            · rintro ⟨-, -, late⟩
              exact absurd late (Nat.not_le.mpr early)

end Idle

/-- The client sends two bytes at once and is silent from then on; it is polled at the times given. -/
def quietClient (polls : List (Nat × Nat)) : Relay (Traced Scripted) (Traced Scripted) × Polled :=
  copyBidirectionalWithStats (.start ⟨[.ready (.ok [7, 8])], []⟩) (.start ⟨[], []⟩) 5 1 1 8 true 0 polls

/-- Five seconds after the poll that passed the bytes on, not after the start. -/
theorem idle_timeout_exact_quiet :
    (quietClient [(9, 2), (9, 6)]).2 = .pending ∧
      EndsIdle (quietClient [(9, 2), (9, 6), (9, 7)]).1 (quietClient [(9, 2), (9, 6), (9, 7)]).2 := by
  refine ⟨by decide +kernel, ?_⟩
  refine (idle_timeout_exact _ _ 5 1 1 8 0 true [(9, 2), (9, 6)] 9 7 (quietClient [(9, 2), (9, 6)]).1
    (quietClient [(9, 2), (9, 6), (9, 7)]).1 (quietClient [(9, 2), (9, 6), (9, 7)]).2
    (Prod.ext rfl (by decide +kernel)) rfl (by decide +kernel)).1.mpr ⟨?_, by decide +kernel, by decide +kernel⟩
  intro e
  rw [show (quietClient [(9, 2), (9, 6), (9, 7)]).2 = .ready (.ok false) by decide +kernel]
  intro same
  cases same

end ServerNaive
