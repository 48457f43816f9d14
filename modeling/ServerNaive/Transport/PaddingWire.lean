import ServerNaive.Async.Driver
import ServerNaive.Transport.PaddingCodec

/-! What each call of the writing half puts on the wire, over any inner writer: failing ones and
ones that take nothing of what they are offered as well. -/
namespace ServerNaive.NaivePaddedTransport
open AsyncIo PaddingCodec

variable {W : Type}

/-- What the inner writer has taken and what is queued for it. -/
def onWire (t : NaivePaddedTransport (Traced W)) : Bytes := accepted t.inner.calls ++ t.unsent

/-- Some of the queued frame has been sent, from its front; the frame is dropped when all of it is. -/
def Sent (t next : NaivePaddedTransport (Traced W)) (sent : Bytes) : Prop :=
  accepted next.inner.calls = accepted t.inner.calls ++ sent ∧ t.unsent = sent ++ next.unsent ∧
    (next.writePending = t.writePending ∧ next.writePendingOff = t.writePendingOff + sent.length ∨
      next.writePending = none ∧ next.writePendingOff = 0)

/-- The offset stays inside the frame. -/
def OffsetInside (t : NaivePaddedTransport (Traced W)) : Prop :=
  ∀ frame, t.writePending = some frame → t.writePendingOff < frame.length

structure Drains (t next : NaivePaddedTransport (Traced W)) : Prop where
  only : DrainOnly t next
  sent : ∃ sent, Sent t next sent
  inside : OffsetInside t → OffsetInside next

theorem unsent_none {t : NaivePaddedTransport (Traced W)} (cleared : t.writePending = none) :
    t.unsent = [] := by
  rw [unsent, cleared]

theorem onWire_none {t : NaivePaddedTransport (Traced W)} (cleared : t.writePending = none) :
    t.onWire = accepted t.inner.calls := by
  rw [onWire, unsent_none cleared, List.append_nil]

namespace Drains

variable {s t u : NaivePaddedTransport (Traced W)}

theorem onWire (drains : Drains s t) : t.onWire = s.onWire := by
  obtain ⟨sent, moved, left, -⟩ := drains.sent
  unfold NaivePaddedTransport.onWire
  rw [moved, left, List.append_assoc]

theorem frames (drains : Drains s t) : t.writeFramesDone = s.writeFramesDone := by
  rw [drains.only]

theorem rng (drains : Drains s t) : t.rng = s.rng := by
  rw [drains.only]

/-- The inner writer is called, and takes nothing. -/
theorem idle (t : NaivePaddedTransport (Traced W)) {inner : Traced W}
    (same : accepted inner.calls = accepted t.inner.calls) : Drains t { t with inner } where
  only := rfl
  sent := ⟨[], by rw [List.append_nil]; exact same, rfl, .inl ⟨rfl, rfl⟩⟩
  inside := id

theorem refl (t : NaivePaddedTransport (Traced W)) : Drains t t := idle t rfl

theorem trans (first : Drains s t) (second : Drains t u) : Drains s u where
  only := first.only.trans second.only
  sent := by
    obtain ⟨sent, moved, left, pending⟩ := first.sent
    obtain ⟨more, moved', left', pending'⟩ := second.sent
    refine ⟨sent ++ more, ?_, ?_, ?_⟩
    · rw [moved', moved, List.append_assoc]
    · rw [left, left', List.append_assoc]
    · rcases pending' with ⟨same', offset'⟩ | gone
      · rcases pending with ⟨same, offset⟩ | ⟨none, zero⟩
        · refine .inl ⟨same'.trans same, ?_⟩
          rw [offset', offset, List.length_append, Nat.add_assoc]
        · -- nothing was left to send
          rw [unsent_none none] at left'
          have empty : more = [] := (List.append_eq_nil_iff.mp left'.symm).1
          refine .inr ⟨same'.trans none, ?_⟩
          rw [offset', zero, empty]
          rfl
      · exact .inr gone
  inside := second.inside ∘ first.inside

end Drains

/-- A write of the pending frame that took `n` bytes of it. -/
theorem advance_drains {t : NaivePaddedTransport (Traced W)} {frame : Bytes} (queued : t.writePending = some frame)
    {inner : Traced W} {n : Nat} (fits : n ≤ (frame.drop t.writePendingOff).length)
    (moved : accepted inner.calls = accepted t.inner.calls ++ (frame.drop t.writePendingOff).take n) :
    Drains t (advance t frame inner n) := by
  have owes : t.unsent = frame.drop t.writePendingOff := by rw [unsent, queued]
  rw [List.length_drop] at fits
  unfold advance
  split_ifs with complete
  · refine ⟨rfl, ⟨_, moved, ?_, .inr ⟨rfl, rfl⟩⟩, fun _ frame' none_left => by cases none_left⟩
    rw [owes, List.take_of_length_le (by rw [List.length_drop]; omega)]
    exact (List.append_nil _).symm
  · refine ⟨rfl, ⟨_, moved, ?_, .inl ⟨rfl, ?_⟩⟩, ?_⟩
    · rw [owes]
      simp only [unsent, queued]
      rw [← List.drop_drop, List.take_append_drop]
    · rw [List.length_take, List.length_drop, Nat.min_eq_left fits]
    · intro _ frame' same
      cases queued.symm.trans same
      exact Nat.lt_of_not_le complete

variable [AsyncWrite W]

/-- A write that took nothing. -/
theorem accepted_stalled {s inner : Traced W} {offer : Bytes} {r : PollResult Nat}
    (polled : AsyncWrite.pollWrite s offer = (inner, r)) (nothing : ∀ n, r = .ready (.ok n) → n = 0) :
    accepted inner.calls = accepted s.calls := by
  have moved := Traced.accepted_pollWrite polled
  rcases r with _ | ⟨e | n⟩
  · exact moved.trans (List.append_nil _)
  · exact moved.trans (List.append_nil _)
  · cases nothing n rfl
    exact moved.trans (List.append_nil _)

theorem drainPass_drains (zeroText : String) (t : NaivePaddedTransport (Traced W)) :
    (drainPass zeroText t).Holds (Drains t) (fun last _ => Drains t last) := by
  cases queued : t.writePending with
  | none =>
      rw [drainPass_idle queued]
      exact .refl t
  | some frame =>
      obtain ⟨inner, r, polled, ⟨same, nothing⟩ | ⟨n, -, rfl, same⟩⟩ := drainPass_cases zeroText queued
      · rw [same]
        exact .idle t (accepted_stalled polled nothing)
      · rw [same]
        exact advance_drains queued (AsyncWrite.pollWrite_le polled) (Traced.accepted_pollWrite polled)

theorem drain_drains {zeroText : String} {t last : NaivePaddedTransport (Traced W)} {d : Drain}
    (ran : drain zeroText t = (last, d)) : Drains t last := by
  refine drain_rule (I := Drains t) (Q := fun last _ => Drains t last) ?_ (.refl t) ran
  intro s before
  exact (drainPass_drains zeroText s).imp (fun _ drains => before.trans drains) fun _ _ drains => before.trans drains

/-- A new frame is on the wire, whether the inner writer has taken any of it or not. -/
structure Framed (t : NaivePaddedTransport (Traced W)) (buf : Bytes) (last : NaivePaddedTransport (Traced W))
    (r : PollResult Nat) : Prop where
  wire : last.onWire = t.onWire ++ t.nextFrame buf
  frames : last.writeFramesDone = t.writeFramesDone + 1
  rng : last.rng = (drawPad t.rng).1
  inside : OffsetInside last
  answer : r = .ready (.ok (frameData buf).length) ∨
    ∃ e, r = .ready (.error e) ∧ AsyncWrite.pollWrite t.inner (t.nextFrame buf) = (last.inner, .ready (.error e))

theorem length_frameBytes_pos (data pad : Bytes) : 0 < (frameBytes data pad).length := by
  simp only [frameBytes, List.length_append, length_be16, List.length_singleton]
  omega

theorem writeFrame_framed {t last : NaivePaddedTransport (Traced W)} {buf : Bytes} {r : PollResult Nat}
    (cleared : t.writePending = none) (ran : writeFrame t buf = (last, r)) : Framed t buf last r := by
  have positive : 0 < (t.nextFrame buf).length := length_frameBytes_pos _ _
  have start := onWire_none cleared
  -- the whole frame is still queued
  have queued {inner : Traced W} (same : accepted inner.calls = accepted t.inner.calls) :
      onWire { t.queueFrame buf with inner } = t.onWire ++ t.nextFrame buf := by
    rw [start]
    exact congrArg (· ++ t.nextFrame buf) same
  have atStart {inner : Traced W} : OffsetInside { t.queueFrame buf with inner } := by
    intro frame same
    cases same
    exact positive
  obtain ⟨inner, r', polled, ⟨e, rfl, same⟩ | ⟨nothing, same⟩ | ⟨n, -, rfl, same⟩⟩ := writeFrame_cases t buf
  all_goals cases same.symm.trans ran
  · exact ⟨queued (accepted_stalled polled fun n same => by cases same), rfl, rfl, atStart, .inr ⟨e, rfl, polled⟩⟩
  · have stalled : accepted inner.calls = accepted t.inner.calls := by
      apply accepted_stalled polled
      rintro n rfl
      rcases nothing with same | same <;> cases same
      rfl
    exact ⟨queued stalled, rfl, rfl, atStart, .inl rfl⟩
  · -- the frame is queued, and some of it is sent at once
    have drains := advance_drains (t := { t.queueFrame buf with inner := t.inner }) rfl (AsyncWrite.pollWrite_le polled)
      (Traced.accepted_pollWrite polled)
    exact ⟨drains.onWire.trans (queued rfl), drains.frames, drains.rng, drains.inside atStart, .inl rfl⟩

/-- How `poll_write` ends. -/
inductive Wrote (t : NaivePaddedTransport (Traced W)) (buf : Bytes) :
    NaivePaddedTransport (Traced W) → PollResult Nat → Prop
  | blocked {mid : NaivePaddedTransport (Traced W)} (drains : Drains t mid) : Wrote t buf mid .pending
  | failed {mid : NaivePaddedTransport (Traced W)} (drains : Drains t mid) {e : IoError}
      (drained : drain "transport write returned zero" t = (mid, .failed e)) : Wrote t buf mid (.ready (.error e))
  | raw {mid : NaivePaddedTransport (Traced W)} (drains : Drains t mid) (cleared : mid.writePending = none)
      (raw : paddingFrames ≤ t.writeFramesDone) {inner : Traced W} {r : PollResult Nat}
      (polled : AsyncWrite.pollWrite mid.inner buf = (inner, r)) : Wrote t buf { mid with inner } r
  | framed {mid : NaivePaddedTransport (Traced W)} (drains : Drains t mid)
      (drained : drain "transport write returned zero" t = (mid, .cleared))
      (short : t.writeFramesDone < paddingFrames) {last : NaivePaddedTransport (Traced W)} {r : PollResult Nat}
      (framed : Framed mid buf last r) : Wrote t buf last r

theorem pollWrite_wrote {t last : NaivePaddedTransport (Traced W)} {buf : Bytes} {r : PollResult Nat}
    (ran : pollWrite t buf = (last, r)) : Wrote t buf last r := by
  unfold pollWrite at ran
  split at ran
  · rename_i mid drained
    cases ran
    exact .blocked (drain_drains drained)
  · rename_i mid e drained
    cases ran
    exact .failed (drain_drains drained) drained
  · rename_i mid drained
    have drains := drain_drains drained
    have cleared := (drain_holds drained).2 rfl
    split_ifs at ran with raw
    · cases ran
      exact .raw drains cleared (drains.frames ▸ raw) (Prod.mk.eta (p := AsyncWrite.pollWrite mid.inner buf)).symm
    · exact .framed drains drained (drains.frames ▸ Nat.lt_of_not_le raw) (writeFrame_framed cleared ran)

/-- What a write adds to the wire: nothing, a frame of its own, or its own front. -/
inductive Adds (buf : Bytes) : Bytes → Prop
  | nothing : Adds buf []
  | frame (pad : Bytes) : Adds buf (frameBytes (frameData buf) pad)
  | front (n : Nat) : Adds buf (buf.take n)

theorem rawWrite_onWire {t : NaivePaddedTransport (Traced W)} {buf : Bytes} {inner : Traced W}
    {r : PollResult Nat} (cleared : t.writePending = none) (polled : AsyncWrite.pollWrite t.inner buf = (inner, r)) :
    onWire { t with inner } = t.onWire ++ (Call.write buf r).taken := by
  have after : onWire { t with inner } = accepted inner.calls :=
    onWire_none (t := { t with inner }) cleared
  rw [after, onWire_none cleared, Traced.accepted_pollWrite polled]

theorem Wrote.adds {t last : NaivePaddedTransport (Traced W)} {buf : Bytes} {r : PollResult Nat}
    (wrote : Wrote t buf last r) : ∃ piece, Adds buf piece ∧ last.onWire = t.onWire ++ piece := by
  cases wrote with
  | blocked drains => exact ⟨[], .nothing, by rw [drains.onWire, List.append_nil]⟩
  | failed drains drained => exact ⟨[], .nothing, by rw [drains.onWire, List.append_nil]⟩
  | @raw mid drains cleared raw inner r polled =>
      refine ⟨(Call.write buf r).taken, ?_, ?_⟩
      · cases r with
        | pending => exact .nothing
        | ready answer =>
            cases answer with
            | error e => exact .nothing
            | ok n => exact .front n
      · rw [rawWrite_onWire cleared polled, drains.onWire]
  | @framed mid drains drained short last r framed =>
      exact ⟨mid.nextFrame buf, .frame _, by rw [framed.wire, drains.onWire]⟩

/-- How `poll_flush` ends: the inner writer is flushed when nothing is queued. -/
inductive Flushed (t : NaivePaddedTransport (Traced W)) :
    NaivePaddedTransport (Traced W) → PollResult Unit → Prop
  | blocked {mid : NaivePaddedTransport (Traced W)} (drains : Drains t mid) : Flushed t mid .pending
  | failed {mid : NaivePaddedTransport (Traced W)} (drains : Drains t mid) {e : IoError}
      (drained : drain "transport write returned zero during flush" t = (mid, .failed e)) :
      Flushed t mid (.ready (.error e))
  | flushed {mid : NaivePaddedTransport (Traced W)} (drains : Drains t mid) (cleared : mid.writePending = none)
      {inner : Traced W} {r : PollResult Unit} (polled : AsyncWrite.pollFlush mid.inner = (inner, r)) :
      Flushed t { mid with inner } r

theorem pollFlush_flushed {t last : NaivePaddedTransport (Traced W)} {r : PollResult Unit}
    (ran : pollFlush t = (last, r)) : Flushed t last r := by
  unfold pollFlush at ran
  split at ran
  · rename_i mid drained
    cases ran
    exact .blocked (drain_drains drained)
  · rename_i mid e drained
    cases ran
    exact .failed (drain_drains drained) drained
  · rename_i mid drained
    cases ran
    exact .flushed (drain_drains drained) ((drain_holds drained).2 rfl) rfl

theorem Flushed.drains {t last : NaivePaddedTransport (Traced W)} {r : PollResult Unit}
    (flushed : Flushed t last r) : Drains t last := by
  cases flushed with
  | blocked drains => exact drains
  | failed drains drained => exact drains
  | flushed drains cleared polled => exact drains.trans (.idle _ (Traced.accepted_pollFlush polled))

theorem Flushed.cleared {t last : NaivePaddedTransport (Traced W)} (flushed : Flushed t last (.ready (.ok ()))) :
    last.writePending = none := by
  cases flushed with
  | flushed drains cleared polled => exact cleared

/-- How `poll_shutdown` ends: the inner writer is shut down when nothing is queued. -/
inductive Shut (t : NaivePaddedTransport (Traced W)) :
    NaivePaddedTransport (Traced W) → PollResult Unit → Prop
  | unflushed {mid : NaivePaddedTransport (Traced W)} {r : PollResult Unit} (flushed : Flushed t mid r)
      (unready : r ≠ .ready (.ok ())) : Shut t mid r
  | shut {mid : NaivePaddedTransport (Traced W)} (flushed : Flushed t mid (.ready (.ok ())))
      {inner : Traced W} {r : PollResult Unit} (polled : AsyncWrite.pollShutdown mid.inner = (inner, r)) :
      Shut t { mid with inner } r

theorem pollShutdown_shut {t last : NaivePaddedTransport (Traced W)} {r : PollResult Unit}
    (ran : pollShutdown t = (last, r)) : Shut t last r := by
  unfold pollShutdown at ran
  split at ran
  · rename_i mid flushed
    cases ran
    exact .unflushed (pollFlush_flushed flushed) fun same => by cases same
  · rename_i mid e flushed
    cases ran
    exact .unflushed (pollFlush_flushed flushed) fun same => by cases same
  · rename_i mid flushed
    cases ran
    exact .shut (pollFlush_flushed flushed) rfl

theorem Shut.drains {t last : NaivePaddedTransport (Traced W)} {r : PollResult Unit} (shut : Shut t last r) :
    Drains t last := by
  cases shut with
  | unflushed flushed unready => exact flushed.drains
  | shut flushed polled => exact flushed.drains.trans (.idle _ (Traced.accepted_pollShutdown polled))

theorem Shut.cleared {t last : NaivePaddedTransport (Traced W)} (shut : Shut t last (.ready (.ok ()))) :
    last.writePending = none := by
  cases shut with
  | unflushed flushed unready => exact absurd rfl unready
  | shut flushed polled => exact flushed.cleared

end ServerNaive.NaivePaddedTransport
