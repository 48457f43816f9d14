import ServerNaive.Async.Paced
import ServerNaive.Core.RelaySteps
import ServerNaive.Transport.PaddingWake

/-! Why a direction of the relay waits. The flush before a read is not waited for, but it is made, so
the writer has been asked to pass on all it has taken when the direction goes to sleep. -/
namespace ServerNaive
open AsyncIo

/-- A poll of a direction that found it at `v` leaves it waiting at `w`. -/
inductive Parks (v w : Progress) : Prop
  | write (holds : w.dir.pos < w.dir.cap) {calls : List Call} (grew : Grew (fun c => c.isRead = false) v.writes calls)
      {offered : Bytes} (blocked : w.writes = calls ++ [.write offered .pending])
  | read (empty : w.dir.cap ≤ w.dir.pos) (going : w.dir.readDone = false)
      (parked : Parked (fun c => c.isRead = true) v.reads w.reads) {calls : List Call}
      (grew : Grew (fun c => c.isRead = false) v.writes calls) {r : PollResult Unit}
      (flushed : w.writes = calls ++ [.flush r]) (fine : r = .pending ∨ r = .ready (.ok ()))
  | shutdown (empty : w.dir.cap ≤ w.dir.pos) (ended : w.dir.readDone = true) {calls : List Call}
      (grew : Grew (fun c => c.isRead = false) v.writes calls) {r : PollResult Unit}
      (blocked : w.writes = calls ++ [.flush r, .shutdown .pending]) (fine : r = .pending ∨ r = .ready (.ok ()))

/-- A step reads, or calls the writing half of the other stream, or neither. -/
theorem CopyStep.grew {v w : Progress} (step : CopyStep v w) :
    Grew (fun c => c.isRead = true) v.reads w.reads ∧ Grew (fun c => c.isRead = false) v.writes w.writes := by
  cases step with
  | wrote | unwritten | flushed | shutdown => exact ⟨.refl _, .one rfl rfl⟩
  | finished => exact ⟨.refl _, .refl _⟩
  | readAhead | readNext | sawEnd | swallowed | readWaits => exact ⟨.one rfl rfl, .refl _⟩

theorem CopySteps.grew {v w : Progress} (steps : CopySteps v w) :
    Grew (fun c => c.isRead = true) v.reads w.reads ∧ Grew (fun c => c.isRead = false) v.writes w.writes := by
  induction steps with
  | refl => exact ⟨.refl _, .refl _⟩
  | tail _ step ih => exact ⟨ih.1.trans step.grew.1, ih.2.trans step.grew.2⟩

/-- Steps before the one that waits do not matter. -/
theorem Parks.head {u v w : Progress} (steps : CopySteps u v) (parks : Parks v w) : Parks u w := by
  obtain ⟨reads, writes⟩ := steps.grew
  cases parks with
  | write holds grew blocked => exact .write holds (writes.trans grew) blocked
  | read empty going parked grew flushed fine =>
      exact .read empty going (reads.parked parked) (writes.trans grew) flushed fine
  | shutdown empty ended grew blocked fine => exact .shutdown empty ended (writes.trans grew) blocked fine

namespace Copy

variable {R W : Type}

theorem readAhead_holds [AsyncRead R] {c : Copy R W} (holds : c.dir.pos < c.dir.cap) :
    (readAhead c).writer = c.writer ∧ (readAhead c).dir.pos < (readAhead c).dir.cap := by
  unfold readAhead
  split_ifs
  · split
    · exact ⟨rfl, holds⟩
    · exact ⟨rfl, holds.trans_le (Nat.le_add_right _ _)⟩
    · exact ⟨rfl, holds⟩
    · exact ⟨rfl, holds⟩
  · exact ⟨rfl, holds⟩

variable [AsyncRead R] [AsyncWrite W]

theorem writePass_parks (c : Copy (Traced R) (Traced W)) :
    (writePass c).Holds (fun _ => True) (fun last r => r = some .pending → Parks c.progress last.progress) := by
  unfold writePass
  split_ifs with holds
  · split
    · intro waits
      cases waits
    · trivial
    · intro waits
      cases waits
    · rename_i writer polled
      intro waits
      obtain ⟨same, more⟩ := readAhead_holds (c := ⟨c.dir, c.reader, writer⟩) holds
      have blocked := (congrArg Traced.calls same).trans (Traced.calls_pollWrite polled)
      exact .write more (.refl _) blocked
  · intro waits
    cases waits

theorem writeLoop_parks {c last : Copy (Traced R) (Traced W)} (ran : writeLoop c = (last, some .pending)) :
    Parks c.progress last.progress := by
  refine runLoop_holds (I := fun s : Copy (Traced R) (Traced W) => CopySteps c.progress s.progress)
    (Q := fun last r => r = some .pending → Parks c.progress last.progress)
    (fun s => s.dir.cap - s.dir.pos) ?_ .refl (Nat.lt_succ_self _) ran rfl
  intro s reached
  refine ((writePass_steps s).and (writePass_parks s)).imp ?_ ?_
  · rintro next ⟨⟨steps, less⟩, -⟩
    exact ⟨reached.trans steps, less⟩
  · rintro last r ⟨-, parks⟩ waits
    exact .head reached (parks waits)

omit [AsyncRead R] in
/-- After a flush that did not fail, the direction waits for the end to be passed on or for a read. -/
theorem finish_parks {c last : Copy (Traced R) (Traced W)} {writer : Traced W} {r : PollResult Unit}
    (empty : c.dir.cap ≤ c.dir.pos) (ended : c.dir.readDone = true)
    (flushed : AsyncWrite.pollFlush c.writer = (writer, r)) (fine : r = .pending ∨ r = .ready (.ok ()))
    (ran : finish { c with writer } = (last, .pending)) : Parks c.progress last.progress := by
  unfold finish at ran
  split_ifs at ran with forwards
  · split at ran
    · rename_i closing polled
      cases ran
      refine .shutdown empty ended (.refl _) ?_ fine
      have shut := Traced.calls_pollShutdown polled
      rw [Traced.calls_pollFlush flushed, List.append_assoc] at shut
      exact shut
    · cases ran
  · cases ran

theorem readNext_parks {c : Copy (Traced R) (Traced W)} {writer : Traced W} {r : PollResult Unit}
    (empty : c.dir.cap ≤ c.dir.pos) (going : c.dir.readDone = false)
    (flushed : AsyncWrite.pollFlush c.writer = (writer, r)) (fine : r = .pending ∨ r = .ready (.ok ())) :
    (readNext { c with writer }).Holds (fun _ => True)
      (fun last r => r = .pending → Parks c.progress last.progress) := by
  unfold readNext
  split
  · rename_i reader polled
    intro _
    exact .read empty going (parked_one rfl rfl (Traced.calls_pollRead polled)) (.refl _)
      (Traced.calls_pollFlush flushed) fine
  · intro waits
    cases waits
  · trivial
  · trivial

theorem copyPass_parks (c : Copy (Traced R) (Traced W)) :
    (copyPass c).Holds (fun _ => True) (fun last r => r = .pending → Parks c.progress last.progress) := by
  unfold copyPass
  split
  · rename_i last r ran
    rintro rfl
    exact writeLoop_parks ran
  · rename_i mid ran
    obtain ⟨steps, left⟩ := writeLoop_steps ran
    have empty := left rfl
    split
    · intro waits
      cases waits
    · rename_i writer answer unfailed polled
      have fine : answer = .pending ∨ answer = .ready (.ok ()) := by
        cases answer with
        | pending => exact .inl rfl
        | ready result =>
            cases result with
            | error e => exact absurd rfl (unfailed e)
            | ok done => exact .inr rfl
      split_ifs with ended
      · intro waits
        exact .head steps (finish_parks empty ended polled fine (Prod.ext rfl waits))
      · refine (readNext_parks empty (eq_false_of_ne_true ended) polled fine).imp (fun _ _ => trivial) ?_
        intro last r parks waits
        exact .head steps (parks waits)

theorem pollCopy_parks (fuel : Nat) (c : Copy (Traced R) (Traced W)) :
    (pollCopy fuel c).Holds (fun _ => True) (fun last r => r = .pending → Parks c.progress last.progress) := by
  unfold pollCopy
  split_ifs with done
  · intro waits
    cases waits
  · refine (loop_holds (I := fun s : Copy (Traced R) (Traced W) => CopySteps c.progress s.progress)
      (Q := fun last r => r = .pending → Parks c.progress last.progress) ?_ fuel .refl).imp (fun _ _ => trivial)
      (fun _ _ parks => parks)
    intro s reached
    refine ((copyPass_steps s).and (copyPass_parks s)).imp ?_ ?_
    · rintro next ⟨steps, -⟩
      exact reached.trans steps
    · rintro last r ⟨-, parks⟩ waits
      exact .head reached (parks waits)

end Copy

/-- No poll of the transport or of a direction of the relay waits without having been made to wait by
the stream below. -/
theorem no_lost_wakeup :
    (∀ {S : Type} [AsyncRead S] (t last : NaivePaddedTransport (Traced S)) (remaining : Nat),
      t.pollRead remaining = (last, .pending) →
        Parked (fun c => c.isRead = true) t.inner.calls last.inner.calls) ∧
    (∀ {S : Type} [AsyncWrite S] (t last : NaivePaddedTransport (Traced S)) (buf : Bytes),
      t.pollWrite buf = (last, .pending) →
        Parked (fun c => c.isRead = false) t.inner.calls last.inner.calls) ∧
    (∀ {S : Type} [AsyncWrite S] (t last : NaivePaddedTransport (Traced S)),
      t.pollFlush = (last, .pending) → Parked (fun c => c.isRead = false) t.inner.calls last.inner.calls) ∧
    (∀ {S : Type} [AsyncWrite S] (t last : NaivePaddedTransport (Traced S)),
      t.pollShutdown = (last, .pending) → Parked (fun c => c.isRead = false) t.inner.calls last.inner.calls) ∧
    (∀ {R W : Type} [AsyncRead R] [AsyncWrite W] (fuel : Nat) (c last : Copy (Traced R) (Traced W)),
      c.pollCopy fuel = .leave last .pending → Parks c.progress last.progress) := by
  refine ⟨?_, ?_, ?_, ?_, ?_⟩
  · intro S _ t last remaining ran
    exact (NaivePaddedTransport.pollRead_reads ran).2 rfl
  · intro S _ t last buf ran
    refine ((NaivePaddedTransport.pollWrite_writes ran).2 rfl).imp ?_
    intro c writes
    exact NaivePaddedTransport.unread_of_keepsOpen c (NaivePaddedTransport.keepsOpen_of_isWrite c writes)
  · intro S _ t last ran
    exact ((NaivePaddedTransport.pollFlush_writes ran).2 rfl).imp NaivePaddedTransport.unread_of_keepsOpen
  · intro S _ t last ran
    exact (NaivePaddedTransport.pollShutdown_writes ran).2 rfl
  · intro R W _ _ fuel c last ran
    have holds := Copy.pollCopy_parks fuel c
    rw [ran] at holds
    exact holds rfl

/-- The writer takes two of three bytes and blocks; a fourth byte is read meanwhile. -/
def blockedCopy : Copy (Traced Scripted) (Traced Scripted) where
  dir := .new 8 false
  reader := .start ⟨[.ready (.ok [1, 2, 3]), .ready (.ok [4])], []⟩
  writer := .start ⟨[], [.ready (.ok 2), .pending]⟩

theorem no_lost_wakeup_blocked :
    ∃ last, blockedCopy.pollCopy 3 = .leave last .pending ∧ last.dir.held = [3, 4] ∧
      Parks blockedCopy.progress last.progress :=
  ⟨_, rfl, rfl, no_lost_wakeup.2.2.2.2 3 blockedCopy _ rfl⟩

end ServerNaive
