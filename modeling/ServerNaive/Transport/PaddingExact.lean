import ServerNaive.Transport.PaddingRoundTrip
import ServerNaive.Transport.PaddingWake

/-! The encoder against the encoding of the accepted writes, byte for byte. The pads are part of the
encoding: they are what the generator of the transport would draw for one frame after another. -/
namespace ServerNaive.NaivePaddedTransport
open AsyncIo PaddingCodec

def rngAfter (g : Rng) : Nat → Rng
  | 0 => g
  | frames + 1 => (drawPad (rngAfter g frames)).1

/-- The writes with the pads their frames get. -/
def paddedFrom (g : Rng) (done : Nat) : List Bytes → List Accepted
  | [] => []
  | data :: writes => ⟨data, (drawPad (rngAfter g done)).2⟩ :: paddedFrom g (done + 1) writes

def padded (g : Rng) (writes : List Bytes) : List Accepted := paddedFrom g 0 writes

/-- The reference encoding of the accepted writes. -/
def encoding (g : Rng) (writes : List Bytes) : Bytes := wireFrom 0 (padded g writes)

theorem paddedFrom_snoc (g : Rng) (done : Nat) (writes : List Bytes) (data : Bytes) :
    paddedFrom g done (writes ++ [data]) =
      paddedFrom g done writes ++ [⟨data, (drawPad (rngAfter g (done + writes.length))).2⟩] := by
  induction writes generalizing done with
  | nil => rfl
  | cons first rest ih =>
      simp only [List.cons_append, paddedFrom, List.length_cons]
      rw [ih (done + 1), Nat.add_right_comm, Nat.add_assoc]

theorem length_paddedFrom (g : Rng) (done : Nat) (writes : List Bytes) :
    (paddedFrom g done writes).length = writes.length := by
  induction writes generalizing done with
  | nil => rfl
  | cons first rest ih => exact congrArg (· + 1) (ih (done + 1))

theorem encoding_snoc (g : Rng) (writes : List Bytes) (data : Bytes) :
    encoding g (writes ++ [data]) = encoding g writes ++
      wireOf writes.length ⟨data, (drawPad (rngAfter g writes.length)).2⟩ := by
  rw [encoding, padded, paddedFrom_snoc, wireFrom_snoc, length_paddedFrom, Nat.zero_add]
  rfl

/-- The transport has put on the wire the encoding of the writes its caller was told are accepted. -/
structure Exact {W : Type} (g : Rng) (e : Traced (NaivePaddedTransport (Traced W))) : Prop where
  wire : e.stream.onWire = encoding g (acceptedWrites e.calls)
  frames : e.stream.writeFramesDone = min paddingFrames (acceptedWrites e.calls).length
  rng : e.stream.rng = rngAfter g e.stream.writeFramesDone

theorem exact_new {W : Type} (w : W) (g : Rng) : Exact g (freshEncoder w g) := ⟨rfl, rfl, rfl⟩

/-- No call made below has failed. -/
def Clean {W : Type} (e : Traced (NaivePaddedTransport (Traced W))) : Prop :=
  ∀ c ∈ e.stream.inner.calls, c.failed = false

variable {W : Type}

/-- A call that accepts no write and only drains keeps the encoding. -/
theorem Exact.drains {g : Rng} {e : Traced (NaivePaddedTransport (Traced W))} (h : Exact g e)
    {last : NaivePaddedTransport (Traced W)} (drains : Drains e.stream last) {c : Call}
    (refused : c.acceptedWrite = none) : Exact g ⟨last, e.calls ++ [c]⟩ := by
  have same : acceptedWrites (e.calls ++ [c]) = acceptedWrites e.calls := by
    rw [acceptedWrites_snoc, refused]
    exact List.append_nil _
  refine ⟨?_, ?_, ?_⟩
  · rw [same]
    exact drains.onWire.trans h.wire
  · rw [same]
    exact drains.frames.trans h.frames
  · exact drains.rng.trans (h.rng.trans (congrArg (rngAfter g) drains.frames.symm))

variable [AsyncWrite W]

/-- A write past the frames is on the wire as it is. -/
theorem Exact.raw {g : Rng} {e : Traced (NaivePaddedTransport (Traced W))} (h : Exact g e)
    {mid : NaivePaddedTransport (Traced W)} (drains : Drains e.stream mid) (cleared : mid.writePending = none)
    (raw : paddingFrames ≤ e.stream.writeFramesDone) {buf : Bytes} {inner : Traced W} {n : Nat}
    (polled : AsyncWrite.pollWrite mid.inner buf = (inner, .ready (.ok n))) :
    Exact g ⟨{ mid with inner }, e.calls ++ [.write buf (.ready (.ok n))]⟩ := by
  have long : paddingFrames ≤ (acceptedWrites e.calls).length := by
    rw [h.frames] at raw
    exact raw.trans (Nat.min_le_right _ _)
  have more : acceptedWrites (e.calls ++ [.write buf (.ready (.ok n))]) =
      acceptedWrites e.calls ++ [buf.take n] := acceptedWrites_snoc ..
  refine ⟨?_, ?_, ?_⟩
  · rw [more, encoding_snoc, wireOf, if_neg (Nat.not_lt.mpr long), ← h.wire, ← drains.onWire]
    exact rawWrite_onWire cleared polled
  · rw [more, List.length_append, List.length_singleton]
    refine drains.frames.trans (h.frames.trans ?_)
    omega
  · exact drains.rng.trans (h.rng.trans (congrArg (rngAfter g) drains.frames.symm))

/-- One of the first eight writes is on the wire in a frame of its own. -/
theorem Exact.framed {g : Rng} {e : Traced (NaivePaddedTransport (Traced W))} (h : Exact g e)
    {mid last : NaivePaddedTransport (Traced W)} (drains : Drains e.stream mid)
    (short : e.stream.writeFramesDone < paddingFrames) {buf : Bytes} {r : PollResult Nat}
    (framed : Framed mid buf last r) :
    Exact g ⟨last, e.calls ++ [.write buf (.ready (.ok (frameData buf).length))]⟩ := by
  have count : e.stream.writeFramesDone = (acceptedWrites e.calls).length := by
    have frames := h.frames
    omega
  have drawn : mid.rng = rngAfter g (acceptedWrites e.calls).length := by
    rw [drains.rng, h.rng, count]
  have more : acceptedWrites (e.calls ++ [.write buf (.ready (.ok (frameData buf).length))]) =
      acceptedWrites e.calls ++ [frameData buf] := by
    rw [acceptedWrites_snoc]
    exact congrArg (acceptedWrites e.calls ++ [·]) (take_frameData buf)
  have frames : last.writeFramesDone = (acceptedWrites e.calls).length + 1 := by
    rw [framed.frames, drains.frames, count]
  refine ⟨?_, ?_, ?_⟩
  · rw [more, encoding_snoc, wireOf, if_pos (count ▸ short), ← h.wire, ← drains.onWire, ← drawn]
    exact framed.wire
  · rw [more, List.length_append, List.length_singleton]
    refine frames.trans ?_
    omega
  · refine framed.rng.trans ?_
    rw [drawn, frames]
    rfl

theorem pollWrite_exact {g : Rng} (e : Traced (NaivePaddedTransport (Traced W))) (buf : Bytes)
    (h : Clean e → Exact g e) (clean : Clean (AsyncWrite.pollWrite e buf).1) :
    Exact g (AsyncWrite.pollWrite e buf).1 := by
  have ran : pollWrite e.stream buf = ((pollWrite e.stream buf).1, (pollWrite e.stream buf).2) := rfl
  have before : Exact g e := h fun c member => clean c ((pollWrite_writes ran).1.mem member)
  have poll : (AsyncWrite.pollWrite e buf).1 =
      ⟨(pollWrite e.stream buf).1, e.calls ++ [.write buf (pollWrite e.stream buf).2]⟩ := rfl
  rw [poll] at clean ⊢
  generalize (pollWrite e.stream buf).1 = last, (pollWrite e.stream buf).2 = r at ran clean ⊢
  cases pollWrite_wrote ran with
  | blocked drains => exact before.drains drains rfl
  | failed drains drained => exact before.drains drains rfl
  | @raw mid drains cleared raw inner r polled =>
      -- only an accepted write puts anything on the wire
      have idle (nothing : (Call.write buf r).taken = []) : Drains mid { mid with inner } :=
        .idle mid (by rw [Traced.accepted_pollWrite polled, nothing, List.append_nil])
      cases r with
      | pending => exact before.drains (drains.trans (idle rfl)) rfl
      | ready answer =>
          cases answer with
          | error failure => exact before.drains (drains.trans (idle rfl)) rfl
          | ok n => exact before.raw drains cleared raw polled
  | @framed mid drains drained short last r framed =>
      rcases framed.answer with rfl | ⟨failure, rfl, polled⟩
      · exact before.framed drains short framed
      · have recorded := Traced.calls_pollWrite polled
        have failed := clean (.write (mid.nextFrame buf) (.ready (.error failure)))
          (recorded.symm ▸ List.mem_append_right _ (List.mem_singleton_self _))
        cases failed

theorem pollFlush_exact {g : Rng} (e : Traced (NaivePaddedTransport (Traced W))) (h : Clean e → Exact g e)
    (clean : Clean (AsyncWrite.pollFlush e).1) : Exact g (AsyncWrite.pollFlush e).1 := by
  have ran : pollFlush e.stream = ((pollFlush e.stream).1, (pollFlush e.stream).2) := rfl
  have before : Exact g e := h fun c member => clean c ((pollFlush_writes ran).1.mem member)
  exact before.drains (pollFlush_flushed ran).drains rfl

theorem pollShutdown_exact {g : Rng} (e : Traced (NaivePaddedTransport (Traced W))) (h : Clean e → Exact g e)
    (clean : Clean (AsyncWrite.pollShutdown e).1) : Exact g (AsyncWrite.pollShutdown e).1 := by
  have ran : pollShutdown e.stream = ((pollShutdown e.stream).1, (pollShutdown e.stream).2) := rfl
  have before : Exact g e := h fun c member => clean c ((pollShutdown_writes ran).1.mem member)
  exact before.drains (pollShutdown_shut ran).drains rfl

theorem drive_exact (w : W) (g : Rng) (ops : List WriteOp) (clean : Clean (drive (freshEncoder w g) ops)) :
    Exact g (drive (freshEncoder w g) ops) :=
  drive_holds (I := fun e => Clean e → Exact g e) pollWrite_exact pollFlush_exact pollShutdown_exact
    ops (fun _ => exact_new w g) clean

/-- A write that has to wait adds nothing to the wire. -/
theorem pollWrite_pending_onWire {t last : NaivePaddedTransport (Traced W)} {buf : Bytes}
    (ran : pollWrite t buf = (last, .pending)) : last.onWire = t.onWire := by
  cases pollWrite_wrote ran with
  | blocked drains => exact drains.onWire
  | raw drains cleared raw polled =>
      rw [rawWrite_onWire cleared polled, drains.onWire]
      exact List.append_nil _
  | framed drains drained short framed => rcases framed.answer with same | ⟨failure, same, -⟩ <;> cases same

/-- The stream below is shut down at most once, last of all, and when nothing is queued. -/
def ShutsDrained (t last : NaivePaddedTransport (Traced W)) : Prop :=
  Grew (fun c => c.isShutdown = false) t.inner.calls last.inner.calls ∨
    ∃ mid : NaivePaddedTransport (Traced W), Grew (fun c => c.isShutdown = false) t.inner.calls mid.inner.calls ∧
      mid.writePending = none ∧ last = { mid with inner := (AsyncWrite.pollShutdown mid.inner).1 }

theorem open_of_keepsOpen (c : Call) (opens : c.keepsOpen = true) : c.isShutdown = false := by
  cases c with
  | read cap r | write offered r | flush r => rfl
  | shutdown r => cases opens

theorem pollShutdown_shutsDrained {t last : NaivePaddedTransport (Traced W)} {r : PollResult Unit}
    (ran : pollShutdown t = (last, r)) : ShutsDrained t last := by
  unfold pollShutdown at ran
  split at ran
  · rename_i mid flushed
    cases ran
    exact .inl ((pollFlush_writes flushed).1.imp open_of_keepsOpen)
  · rename_i mid e flushed
    cases ran
    exact .inl ((pollFlush_writes flushed).1.imp open_of_keepsOpen)
  · rename_i mid flushed
    cases ran
    exact .inr ⟨mid, (pollFlush_writes flushed).1.imp open_of_keepsOpen, (pollFlush_flushed flushed).cleared, rfl⟩

/-- While no call below fails, the wire carries the encoding of the accepted writes after every call. -/
theorem encoder_exact (w : W) (g : Rng) (ops : List WriteOp) (clean : Clean (drive (freshEncoder w g) ops)) :
    accepted (drive (freshEncoder w g) ops).stream.inner.calls ++ (drive (freshEncoder w g) ops).stream.unsent =
      encoding g (acceptedWrites (drive (freshEncoder w g) ops).calls) ∧
    (drive (freshEncoder w g) ops).stream.writeFramesDone =
      min paddingFrames (acceptedWrites (drive (freshEncoder w g) ops).calls).length ∧
    (∀ buf last, pollWrite (drive (freshEncoder w g) ops).stream buf = (last, .pending) →
      accepted last.inner.calls ++ last.unsent = encoding g (acceptedWrites (drive (freshEncoder w g) ops).calls)) ∧
    (∀ buf last r, pollWrite (drive (freshEncoder w g) ops).stream buf = (last, r) →
      Grew (fun c => c.isShutdown = false) (drive (freshEncoder w g) ops).stream.inner.calls last.inner.calls) ∧
    (∀ last r, pollFlush (drive (freshEncoder w g) ops).stream = (last, r) →
      Grew (fun c => c.isShutdown = false) (drive (freshEncoder w g) ops).stream.inner.calls last.inner.calls) ∧
    (∀ last r, pollShutdown (drive (freshEncoder w g) ops).stream = (last, r) →
      ShutsDrained (drive (freshEncoder w g) ops).stream last) ∧
    (∀ last, pollFlush (drive (freshEncoder w g) ops).stream = (last, .ready (.ok ())) →
      accepted last.inner.calls = encoding g (acceptedWrites (drive (freshEncoder w g) ops).calls)) ∧
    (∀ last, pollShutdown (drive (freshEncoder w g) ops).stream = (last, .ready (.ok ())) →
      accepted last.inner.calls = encoding g (acceptedWrites (drive (freshEncoder w g) ops).calls)) := by
  have h := drive_exact w g ops clean
  generalize drive (freshEncoder w g) ops = e at h
  refine ⟨h.wire, h.frames, ?_, ?_, ?_, ?_, ?_, ?_⟩
  · intro buf last ran
    exact (pollWrite_pending_onWire ran).trans h.wire
  · intro buf last r ran
    exact (pollWrite_writes ran).1.imp fun c writes => open_of_keepsOpen c (keepsOpen_of_isWrite c writes)
  · intro last r ran
    exact (pollFlush_writes ran).1.imp open_of_keepsOpen
  · intro last r ran
    exact pollShutdown_shutsDrained ran
  · intro last ran
    have flushed := pollFlush_flushed ran
    rw [← onWire_none flushed.cleared, flushed.drains.onWire]
    exact h.wire
  · intro last ran
    have shut := pollShutdown_shut ran
    rw [← onWire_none shut.cleared, shut.drains.onWire]
    exact h.wire

/-- Half of a frame has gone out, and the next write waits for the other half. -/
theorem encoder_exact_stalled :
    let e := drive (freshEncoder (PacedWriter.mk [2, 0]) smallPads) [.write [1, 2, 3], .write [4]]
    accepted e.stream.inner.calls = [0, 3] ∧ e.stream.unsent = [0, 1, 2, 3] ∧
      accepted e.stream.inner.calls ++ e.stream.unsent = encoding smallPads (acceptedWrites e.calls) :=
  ⟨by decide +kernel, by decide +kernel,
    (encoder_exact (PacedWriter.mk [2, 0]) smallPads [.write [1, 2, 3], .write [4]]
      (show ∀ c ∈ _, _ by decide +kernel)).1⟩

end ServerNaive.NaivePaddedTransport
