import ServerNaive.Async.Phase
import ServerNaive.Transport.Padding

/-! The response half of an H3 stream: a writer over the driver's frame channel, under the padding
layer. The writer keeps no record of the end it has sent. -/
namespace ServerNaive
open AsyncIo

inductive OutboundFrame where
  | headers (list : List (String × String))
  | body (data : Bytes) (fin : Bool)
  deriving DecidableEq

/-- The end of a response. -/
def finFrame : OutboundFrame := .body [] true

/-- The driver's `PollSender`: room is reserved before a frame is put in. Its answers are the
capacity of the channel; an error is a channel whose receiver is gone. -/
class OutboundFrameSender (S : Type) where
  pollReserve : S → S × Poll (Except Unit Unit)
  sendItem : S → OutboundFrame → S × Except Unit Unit

/-- A sender together with the frames it has taken. -/
structure Outbox (S : Type) where
  sender : S
  frames : List OutboundFrame
  deriving DecidableEq

instance Outbox.sends {S : Type} [OutboundFrameSender S] : OutboundFrameSender (Outbox S) where
  pollReserve x :=
    let (sender, answer) := OutboundFrameSender.pollReserve x.sender
    ({ x with sender }, answer)
  sendItem x frame :=
    match OutboundFrameSender.sendItem x.sender frame with
    | (sender, .ok ()) => (⟨sender, x.frames ++ [frame]⟩, .ok ())
    | (sender, .error ()) => ({ x with sender }, .error ())

structure H3StreamWriter (S : Type) where
  send : S
  deriving DecidableEq

namespace H3StreamWriter

variable {S : Type} [OutboundFrameSender S]

def pollWrite (w : H3StreamWriter S) (buf : Bytes) : H3StreamWriter S × PollResult Nat :=
  match OutboundFrameSender.pollReserve w.send with
  | (send, .pending) => (⟨send⟩, .pending)
  | (send, .ready (.error ())) => (⟨send⟩, .ready (.error ⟨.brokenPipe, "H3 reserve error"⟩))
  | (send, .ready (.ok ())) => match OutboundFrameSender.sendItem send (.body buf false) with
      | (send, .error ()) => (⟨send⟩, .ready (.error ⟨.brokenPipe, "H3 send error"⟩))
      | (send, .ok ()) => (⟨send⟩, .ready (.ok buf.length))

def pollShutdown (w : H3StreamWriter S) : H3StreamWriter S × PollResult Unit :=
  match OutboundFrameSender.pollReserve w.send with
  | (send, .pending) => (⟨send⟩, .pending)
  | (send, .ready (.error ())) => (⟨send⟩, .ready (.error ⟨.brokenPipe, "H3 shutdown reserve error"⟩))
  -- the answer of `send_item` is dropped
  | (send, .ready (.ok ())) => (⟨(OutboundFrameSender.sendItem send finFrame).1⟩, .ready (.ok ()))

instance : AsyncWrite (H3StreamWriter S) where
  pollWrite := pollWrite
  pollFlush w := (w, .ready (.ok ()))
  pollShutdown := pollShutdown
  pollWrite_le := by
    intro w buf w' n h
    unfold pollWrite at h
    split at h
    · cases h
    · cases h
    · split at h
      · cases h
      · cases h
        exact Nat.le_refl _

end H3StreamWriter

/-! What the peer may see of a response after its head. -/

/-- Body frames without an end. -/
def Bodies (frames : List OutboundFrame) : Prop := ∀ f ∈ frames, ∃ data, f = .body data false

/-- Body frames, and behind them at most the end. -/
def EndsOnce (frames : List OutboundFrame) : Prop :=
  ∃ bodies, Bodies bodies ∧ (frames = bodies ∨ frames = bodies ++ [finFrame])

/-- Body frames and the end. -/
def Ended (frames : List OutboundFrame) : Prop := ∃ bodies, Bodies bodies ∧ frames = bodies ++ [finFrame]

theorem bodies_nil : Bodies [] := fun _ member => absurd member List.not_mem_nil

theorem Bodies.snoc {frames : List OutboundFrame} (h : Bodies frames) (data : Bytes) :
    Bodies (frames ++ [.body data false]) := by
  intro f member
  rcases List.mem_append.mp member with old | new
  · exact h f old
  · exact ⟨data, List.mem_singleton.mp new⟩

theorem Bodies.fin_notMem {frames : List OutboundFrame} (h : Bodies frames) : finFrame ∉ frames := by
  intro member
  obtain ⟨data, same⟩ := h _ member
  cases same

theorem Bodies.endsOnce {frames : List OutboundFrame} (h : Bodies frames) : EndsOnce frames :=
  ⟨frames, h, .inl rfl⟩

theorem Ended.endsOnce {frames : List OutboundFrame} (h : Ended frames) : EndsOnce frames := by
  obtain ⟨bodies, plain, same⟩ := h
  exact ⟨bodies, plain, .inr same⟩

theorem Ended.fin_mem {frames : List OutboundFrame} (h : Ended frames) : finFrame ∈ frames := by
  obtain ⟨bodies, -, rfl⟩ := h
  exact List.mem_append_right _ List.mem_cons_self

/-- A second end is one too many. -/
theorem Ended.not_endsOnce {frames : List OutboundFrame} (h : Ended frames) : ¬ EndsOnce (frames ++ [finFrame]) := by
  rintro ⟨bodies, plain, same | same⟩
  · apply plain.fin_notMem
    rw [← same]
    exact List.mem_append_right _ List.mem_cons_self
  · apply plain.fin_notMem
    rw [← List.append_cancel_right same]
    exact h.fin_mem

/-- The channel takes one more frame from a shutdown that is polled at most that often. -/
def takesEnd {S : Type} [OutboundFrameSender S] : Nat → S → Bool
  | 0, _ => false
  | polls + 1, s => match OutboundFrameSender.pollReserve s with
      | (s, .pending) => takesEnd polls s
      | (_, .ready (.error ())) => false
      | (s, .ready (.ok ())) => (OutboundFrameSender.sendItem s finFrame).2.isOk

section Writer

variable {S : Type} [OutboundFrameSender S]

theorem Outbox.frames_pollReserve {x next : Outbox S} {answer : Poll (Except Unit Unit)}
    (reserved : OutboundFrameSender.pollReserve x = (next, answer)) : next.frames = x.frames := by
  obtain ⟨rfl, -⟩ := Prod.mk.inj reserved
  rfl

theorem Outbox.frames_sendItem (x : Outbox S) (frame : OutboundFrame) :
    (OutboundFrameSender.sendItem x frame).1.frames =
      x.frames ++ if (OutboundFrameSender.sendItem x.sender frame).2.isOk then [frame] else [] := by
  simp only [OutboundFrameSender.sendItem]
  cases sent : OutboundFrameSender.sendItem x.sender frame with
  | mk sender answer =>
      cases answer with
      | ok u => rfl
      | error u => exact (List.append_nil _).symm

theorem H3StreamWriter.frames_pollWrite (w : H3StreamWriter (Outbox S)) (buf : Bytes) :
    (pollWrite w buf).1.send.frames = w.send.frames ∨
      (pollWrite w buf).1.send.frames = w.send.frames ++ [.body buf false] := by
  unfold pollWrite
  cases reserved : OutboundFrameSender.pollReserve w.send with
  | mk send answer =>
      have kept := Outbox.frames_pollReserve reserved
      match answer with
      | .pending => exact .inl kept
      | .ready (.error ()) => exact .inl kept
      | .ready (.ok ()) =>
          have taken := Outbox.frames_sendItem send (.body buf false)
          rw [kept] at taken
          dsimp only
          split
          all_goals
            rename_i next sent
            rw [sent] at taken
            split_ifs at taken
            · exact .inr taken
            · exact .inl (taken.trans (List.append_nil _))

/-- A shutdown adds nothing, or it returns and has added the end. -/
theorem H3StreamWriter.frames_pollShutdown {w last : H3StreamWriter (Outbox S)} {r : PollResult Unit}
    (polled : pollShutdown w = (last, r)) :
    last.send.frames = w.send.frames ∨ (∃ a, r = .ready a) ∧ last.send.frames = w.send.frames ++ [finFrame] := by
  unfold pollShutdown at polled
  cases reserved : OutboundFrameSender.pollReserve w.send with
  | mk send answer =>
      have kept := Outbox.frames_pollReserve reserved
      rw [reserved] at polled
      match answer with
      | .pending =>
          cases polled
          exact .inl kept
      | .ready (.error ()) =>
          cases polled
          exact .inl kept
      | .ready (.ok ()) =>
          cases polled
          have taken := Outbox.frames_sendItem send finFrame
          rw [kept] at taken
          split_ifs at taken
          · exact .inr ⟨⟨_, rfl⟩, taken⟩
          · exact .inl (taken.trans (List.append_nil _))

/-- The frames of a writer are bodies until its first shutdown returns. -/
theorem H3StreamWriter.phased :
    Phased (fun w : H3StreamWriter (Outbox S) => Bodies w.send.frames)
      fun w => Bodies w.send.frames ∨ Ended w.send.frames where
  write w buf start := by
    rcases frames_pollWrite w buf with same | more
    · exact same ▸ start
    · exact more ▸ start.snoc buf
  flush w start := start
  waits start polled := by
    rcases frames_pollShutdown polled with same | ⟨⟨a, returned⟩, -⟩
    · exact same ▸ start
    · cases returned
  shuts start polled := by
    rcases frames_pollShutdown polled with same | ⟨-, more⟩
    · exact .inl (same ▸ start)
    · exact .inr ⟨_, start, more⟩

end Writer

/-! The padding layer on top of it. -/

namespace NaivePaddedTransport

variable {T : Type}

section Reads

variable [AsyncRead T] {I : T → Prop}

/-- Reading leaves the pending frame alone, and uses the inner stream for reading only. -/
def Quiet (I : T → Prop) (pending : Option Bytes) (t : NaivePaddedTransport T) : Prop :=
  I t.inner ∧ t.writePending = pending

theorem readData_quiet (reads : KeptByReads I) {pending : Option Bytes} (remaining : Nat)
    {t : NaivePaddedTransport T} (start : Quiet I pending t) : Quiet I pending (readData remaining t).1 := by
  rcases Nat.eq_zero_or_pos remaining with rfl | room
  · exact start
  · have next := reads t.inner (dataCap remaining t) start.1
    obtain ⟨inner, r, polled, ⟨same, -⟩ | ⟨bs, -, -, same⟩⟩ := readData_cases room t
    all_goals rw [polled] at next
    · rw [same]
      exact ⟨next, start.2⟩
    · rw [same, takeData]
      split_ifs <;> exact ⟨next, start.2⟩

theorem skipPadding_quiet (reads : KeptByReads I) {pending : Option Bytes} {t : NaivePaddedTransport T}
    (start : Quiet I pending t) :
    (skipPadding t).Holds (Quiet I pending) fun last _ => Quiet I pending last := by
  have next := reads t.inner (min t.readSkipRem 256) start.1
  obtain ⟨inner, r, polled, ⟨same, -⟩ | ⟨bs, -, -, same⟩⟩ := skipPadding_cases t
  all_goals
    rw [polled] at next
    rw [same]
    exact ⟨next, start.2⟩

theorem headerPass_quiet (reads : KeptByReads I) {pending : Option Bytes} {t : NaivePaddedTransport T}
    (start : Quiet I pending t) :
    (headerPass t).Holds (Quiet I pending) fun last _ => Quiet I pending last := by
  by_cases short : t.readHdrPos < 3
  · have next := reads t.inner (t.readHdr.length - t.readHdrPos) start.1
    obtain ⟨inner, r, polled, ⟨same, -⟩ | ⟨bs, -, -, same⟩⟩ := headerPass_cases short
    all_goals
      rw [polled] at next
      rw [same]
      exact ⟨next, start.2⟩
  · rw [headerPass_full short]
    exact start

theorem readHeader_quiet (reads : KeptByReads I) {pending : Option Bytes} {t last : NaivePaddedTransport T}
    {r : Option (PollResult Bytes)} (start : Quiet I pending t) (ran : readHeader t = (last, r)) :
    Quiet I pending last :=
  readHeader_rule (Q := fun last _ => Quiet I pending last) (fun _ quiet => headerPass_quiet reads quiet) start ran

theorem readPass_quiet (reads : KeptByReads I) {pending : Option Bytes} (remaining : Nat)
    {t : NaivePaddedTransport T} (start : Quiet I pending t) :
    (readPass remaining t).Holds (Quiet I pending) fun last _ => Quiet I pending last := by
  unfold readPass
  split_ifs
  · exact readData_quiet reads remaining start
  · exact skipPadding_quiet reads start
  · exact ⟨reads t.inner remaining start.1, start.2⟩
  · split
    · rename_i last r ran
      exact readHeader_quiet reads start ran
    · rename_i last ran
      have quiet := readHeader_quiet reads start ran
      rw [Pass.holds_again, parseHeader]
      split_ifs <;> exact quiet

theorem pollRead_quiet (reads : KeptByReads I) {pending : Option Bytes} (remaining : Nat)
    {t : NaivePaddedTransport T} (start : Quiet I pending t) :
    Quiet I pending (AsyncRead.pollRead t remaining).1 :=
  pollRead_rule (Q := fun last _ => Quiet I pending last) (fun _ quiet => readPass_quiet reads remaining quiet) start
    (Prod.mk.eta (p := pollRead t remaining)).symm

end Reads

section Writes

variable [AsyncWrite T] {Open Shut : T → Prop}

theorem drainPass_open (h : Phased Open Shut) (zeroText : String) {t : NaivePaddedTransport T} (start : Open t.inner) :
    (drainPass zeroText t).Holds (fun next => Open next.inner) fun last _ => Open last.inner := by
  cases queued : t.writePending with
  | none =>
      rw [drainPass_idle queued]
      exact start
  | some frame =>
      have next := h.write t.inner (frame.drop t.writePendingOff) start
      obtain ⟨inner, r, polled, ⟨same, -⟩ | ⟨n, -, -, same⟩⟩ := drainPass_cases zeroText queued
      all_goals rw [polled] at next
      · rw [same]
        exact next
      · rw [same, Pass.holds_again, advance_inner]
        exact next

theorem drain_open (h : Phased Open Shut) {zeroText : String} {t last : NaivePaddedTransport T} {d : Drain}
    (start : Open t.inner) (ran : drain zeroText t = (last, d)) : Open last.inner :=
  drain_rule (I := fun s : NaivePaddedTransport T => Open s.inner) (Q := fun last _ => Open last.inner)
    (fun _ kept => drainPass_open h zeroText kept) start ran

theorem writeFrame_open (h : Phased Open Shut) {t : NaivePaddedTransport T} (buf : Bytes) (start : Open t.inner) :
    Open (writeFrame t buf).1.inner := by
  have next := h.write t.inner (t.nextFrame buf) start
  obtain ⟨inner, r, polled, ⟨e, -, same⟩ | ⟨-, same⟩ | ⟨n, -, -, same⟩⟩ := writeFrame_cases t buf
  all_goals rw [polled] at next
  · rw [same]
    exact next
  · rw [same]
    exact next
  · rw [same, advance_inner]
    exact next

theorem pollWrite_open (h : Phased Open Shut) {t : NaivePaddedTransport T} (buf : Bytes) (start : Open t.inner) :
    Open (AsyncWrite.pollWrite t buf).1.inner := by
  change Open (pollWrite t buf).1.inner
  unfold pollWrite
  split
  · rename_i mid drained
    exact drain_open h start drained
  · rename_i mid e drained
    exact drain_open h start drained
  · rename_i mid drained
    have kept := drain_open h start drained
    split_ifs
    · exact h.write mid.inner buf kept
    · exact writeFrame_open h buf kept

theorem pollFlush_open (h : Phased Open Shut) {t last : NaivePaddedTransport T} {r : PollResult Unit}
    (start : Open t.inner) (ran : pollFlush t = (last, r)) : Open last.inner := by
  unfold pollFlush at ran
  split at ran
  · rename_i mid drained
    cases ran
    exact drain_open h start drained
  · rename_i mid e drained
    cases ran
    exact drain_open h start drained
  · rename_i mid drained
    cases ran
    exact h.flush mid.inner (drain_open h start drained)

/-- A flush that succeeds leaves nothing pending. -/
theorem pollFlush_clears {t last : NaivePaddedTransport T} (ran : pollFlush t = (last, .ready (.ok ()))) :
    last.writePending = none := by
  unfold pollFlush at ran
  split at ran
  · cases ran
  · cases ran
  · rename_i mid drained
    obtain rfl := congrArg Prod.fst ran
    exact (drain_holds drained).2 rfl

/-- A shutdown that fails to flush returns and leaves the inner stream open. -/
theorem phased (h : Phased Open Shut) :
    Phased (fun t : NaivePaddedTransport T => Open t.inner)
      fun t => Open t.inner ∨ Shut t.inner ∧ t.writePending = none where
  write _ buf start := pollWrite_open h buf start
  flush _ start := pollFlush_open h start Prod.mk.eta.symm
  waits {t next} start polled := by
    change pollShutdown t = _ at polled
    unfold pollShutdown at polled
    split at polled
    · rename_i mid flushed
      cases polled
      exact pollFlush_open h start flushed
    · cases polled
    · rename_i mid flushed
      obtain ⟨rfl, waiting⟩ := Prod.mk.inj polled
      exact h.waits (pollFlush_open h start flushed) (Prod.ext rfl waiting)
  shuts {t last r} start polled := by
    change pollShutdown t = _ at polled
    unfold pollShutdown at polled
    split at polled
    · cases polled
    · rename_i mid e flushed
      cases polled
      exact .inl (pollFlush_open h start flushed)
    · rename_i mid flushed
      have clear : mid.writePending = none := pollFlush_clears flushed
      obtain ⟨rfl, returned⟩ := Prod.mk.inj polled
      exact .inr ⟨h.shuts (pollFlush_open h start flushed) (Prod.ext rfl returned), clear⟩

/-- With nothing pending and nothing to flush below, a shutdown is the inner stream's. -/
theorem pollShutdown_clear {t : NaivePaddedTransport T} (clear : t.writePending = none)
    (flushed : AsyncWrite.pollFlush t.inner = (t.inner, .ready (.ok ()))) :
    AsyncWrite.pollShutdown t =
      ({ t with inner := (AsyncWrite.pollShutdown t.inner).1 }, (AsyncWrite.pollShutdown t.inner).2) := by
  have drained (zeroText : String) : drain zeroText t = (t, .cleared) := by
    simp only [drain, runLoop, loop, drainPass, clear]
  have flushes : pollFlush t = (t, .ready (.ok ())) := by
    simp only [pollFlush, drained, flushed]
  change pollShutdown t = _
  simp only [pollShutdown, flushes]

end Writes

end NaivePaddedTransport

/-- The stream under the padding layer of an H3 tunnel. -/
abbrev H3Stream (R S : Type) := Join R (H3StreamWriter (Outbox S))

section Stream

variable {R S : Type} [OutboundFrameSender S]

def sentFrames (t : NaivePaddedTransport (H3Stream R S)) : List OutboundFrame := t.inner.writer.send.frames

/-- The tunnel may still write. -/
def ResponseOpen (t : NaivePaddedTransport (H3Stream R S)) : Prop := Bodies (sentFrames t)

/-- A shutdown has returned: it failed, or the end is out and nothing is pending behind it. -/
def ResponseShut (t : NaivePaddedTransport (H3Stream R S)) : Prop :=
  Bodies (sentFrames t) ∨ Ended (sentFrames t) ∧ t.writePending = none

theorem response_phased : Phased (ResponseOpen (R := R) (S := S)) ResponseShut where
  write := (NaivePaddedTransport.phased (Join.phased H3StreamWriter.phased)).write
  flush := (NaivePaddedTransport.phased (Join.phased H3StreamWriter.phased)).flush
  waits := (NaivePaddedTransport.phased (Join.phased H3StreamWriter.phased)).waits
  shuts {t last r} start polled := by
    rcases (NaivePaddedTransport.phased (Join.phased H3StreamWriter.phased)).shuts start polled with
      failed | ⟨failed | ended, clear⟩
    · exact .inl failed
    · exact .inl failed
    · exact .inr ⟨ended, clear⟩

omit [OutboundFrameSender S] in
theorem responseOpen_read [AsyncRead R] : KeptByReads (ResponseOpen (R := R) (S := S)) :=
  fun _ cap start => (NaivePaddedTransport.pollRead_quiet
    (Join.keptByReads fun w : H3StreamWriter (Outbox S) => Bodies w.send.frames) cap ⟨start, rfl⟩).1

omit [OutboundFrameSender S] in
theorem responseShut_read [AsyncRead R] : KeptByReads (ResponseShut (R := R) (S := S)) := by
  rintro t cap (failed | ⟨ended, clear⟩)
  · exact .inl (responseOpen_read t cap failed)
  · have kept := NaivePaddedTransport.pollRead_quiet
      (Join.keptByReads fun w : H3StreamWriter (Outbox S) => Ended w.send.frames) cap ⟨ended, clear⟩
    exact .inr kept

omit [OutboundFrameSender S] in
theorem ResponseShut.endsOnce {t : NaivePaddedTransport (H3Stream R S)} (h : ResponseShut t) :
    EndsOnce (sentFrames t) := by
  rcases h with failed | ⟨ended, -⟩
  · exact failed.endsOnce
  · exact ended.endsOnce

/-- A shutdown with nothing pending sends the end, whether or not it was sent before, if the
channel takes it in time. -/
theorem sentFrames_shutdownWithin (polls : Nat) {t : NaivePaddedTransport (H3Stream R S)}
    (clear : t.writePending = none) :
    sentFrames (shutdownWithin polls t) =
      sentFrames t ++ if takesEnd polls t.inner.writer.send.sender then [finFrame] else [] := by
  induction polls generalizing t with
  | zero => exact (List.append_nil _).symm
  | succ polls ih =>
      rw [shutdownWithin, NaivePaddedTransport.pollShutdown_clear clear rfl, takesEnd]
      have polled : AsyncWrite.pollShutdown t.inner = ({ t.inner with writer := (t.inner.writer.pollShutdown).1 },
        (t.inner.writer.pollShutdown).2) := rfl
      rw [polled, H3StreamWriter.pollShutdown]
      simp only [OutboundFrameSender.pollReserve]
      cases OutboundFrameSender.pollReserve t.inner.writer.send.sender with
      | mk sender answer =>
          cases answer with
          | pending => exact ih clear
          | ready r =>
              cases r with
              | error u => exact (List.append_nil _).symm
              | ok u => exact Outbox.frames_sendItem ⟨sender, t.inner.writer.send.frames⟩ finFrame

end Stream

end ServerNaive
