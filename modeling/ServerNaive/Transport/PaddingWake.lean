import ServerNaive.Async.Record
import ServerNaive.Transport.Padding

/-! Which calls each poll of the transport makes below. A poll that has to wait has been made to wait
by the last of them, so that whoever waits will be woken. -/
namespace ServerNaive.NaivePaddedTransport
open AsyncIo

section Read

variable {R : Type} [AsyncRead R]

/-- The calls from `before` on are reads, and the last of them waits if the poll does. -/
def ReadsUntil (before : List Call) (waits : Prop) (last : NaivePaddedTransport (Traced R)) : Prop :=
  Grew (fun c => c.isRead = true) before last.inner.calls ∧
    (waits → Parked (fun c => c.isRead = true) before last.inner.calls)

/-- One read below. -/
theorem reads_one {t : NaivePaddedTransport (Traced R)} {cap : Nat} {inner : Traced R} {r : PollResult Bytes}
    (polled : AsyncRead.pollRead t.inner cap = (inner, r)) {waits : Prop} (only : waits → r = .pending)
    {next : NaivePaddedTransport (Traced R)} (its : next.inner = inner) : ReadsUntil t.inner.calls waits next := by
  have grown : next.inner.calls = t.inner.calls ++ [.read cap r] := by
    rw [its]
    exact Traced.calls_pollRead polled
  refine ⟨.one rfl grown, ?_⟩
  intro waiting
  cases only waiting
  exact parked_one rfl rfl grown

omit [AsyncRead R] in
theorem ReadsUntil.after {before : List Call} {mid : NaivePaddedTransport (Traced R)} {waits : Prop}
    {last : NaivePaddedTransport (Traced R)} (grew : Grew (fun c => c.isRead = true) before mid.inner.calls)
    (reads : ReadsUntil mid.inner.calls waits last) : ReadsUntil before waits last :=
  ⟨grew.trans reads.1, fun waiting => grew.parked (reads.2 waiting)⟩

theorem headerPass_reads (t : NaivePaddedTransport (Traced R)) :
    (headerPass t).Holds (fun next => Grew (fun c => c.isRead = true) t.inner.calls next.inner.calls)
      (fun last r => ReadsUntil t.inner.calls (r = some .pending) last) := by
  by_cases short : t.readHdrPos < 3
  · obtain ⟨inner, r, polled, ⟨same, -⟩ | ⟨bs, -, -, same⟩⟩ := headerPass_cases short
    · rw [same]
      exact reads_one polled (fun waits => Option.some.inj waits) rfl
    · rw [same]
      exact .one rfl (Traced.calls_pollRead polled)
  · rw [headerPass_full short]
    exact ⟨.refl _, fun waits => by cases waits⟩

theorem readHeader_reads {t last : NaivePaddedTransport (Traced R)} {r : Option (PollResult Bytes)}
    (ran : readHeader t = (last, r)) : ReadsUntil t.inner.calls (r = some .pending) last := by
  refine readHeader_rule
    (I := fun s : NaivePaddedTransport (Traced R) => Grew (fun c => c.isRead = true) t.inner.calls s.inner.calls)
    (Q := fun last r => ReadsUntil t.inner.calls (r = some .pending) last) ?_ (.refl _) ran
  intro s grew
  exact (headerPass_reads s).imp (fun _ more => grew.trans more) fun _ _ reads => .after grew reads

theorem readData_reads {remaining : Nat} {t last : NaivePaddedTransport (Traced R)} {r : PollResult Bytes}
    (ran : readData remaining t = (last, r)) : ReadsUntil t.inner.calls (r = .pending) last := by
  rcases Nat.eq_zero_or_pos remaining with rfl | room
  · cases ran
    exact ⟨.refl _, fun waits => by cases waits⟩
  · obtain ⟨inner, r', polled, ⟨same, -⟩ | ⟨bs, -, -, same⟩⟩ := readData_cases room t
    · cases same.symm.trans ran
      exact reads_one polled id rfl
    · cases same.symm.trans ran
      exact reads_one polled id (takeData_inner ..)

theorem readPass_reads (remaining : Nat) (t : NaivePaddedTransport (Traced R)) :
    (readPass remaining t).Holds (fun next => Grew (fun c => c.isRead = true) t.inner.calls next.inner.calls)
      (fun last r => ReadsUntil t.inner.calls (r = .pending) last) := by
  unfold readPass
  split_ifs with data skip raw
  · exact readData_reads Prod.mk.eta.symm
  · obtain ⟨inner, r, polled, ⟨same, -⟩ | ⟨bs, -, -, same⟩⟩ := skipPadding_cases t
    · rw [same]
      exact reads_one polled id rfl
    · rw [same]
      exact .one rfl (Traced.calls_pollRead polled)
  · exact reads_one (Prod.mk.eta (p := AsyncRead.pollRead t.inner remaining)).symm id rfl
  · split
    · rename_i last r ran
      obtain ⟨grew, parked⟩ := readHeader_reads ran
      exact ⟨grew, fun waits => parked (congrArg some waits)⟩
    · rename_i last ran
      rw [Pass.holds_again, parseHeader_inner]
      exact (readHeader_reads ran).1

/-- `poll_read` reads below, and waits only for the last read. -/
theorem pollRead_reads {remaining : Nat} {t last : NaivePaddedTransport (Traced R)} {r : PollResult Bytes}
    (ran : pollRead t remaining = (last, r)) : ReadsUntil t.inner.calls (r = .pending) last := by
  refine pollRead_rule
    (I := fun s : NaivePaddedTransport (Traced R) => Grew (fun c => c.isRead = true) t.inner.calls s.inner.calls)
    (Q := fun last r => ReadsUntil t.inner.calls (r = .pending) last) ?_ (.refl _) ran
  intro s grew
  exact (readPass_reads remaining s).imp (fun _ more => grew.trans more) fun _ _ reads => .after grew reads

end Read

section Write

variable {W : Type} [AsyncWrite W]

theorem drainPass_writes (zeroText : String) (t : NaivePaddedTransport (Traced W)) :
    (drainPass zeroText t).Holds (fun next => Grew (fun c => c.isWrite = true) t.inner.calls next.inner.calls)
      (fun last d => Grew (fun c => c.isWrite = true) t.inner.calls last.inner.calls ∧
        (d = .blocked → Parked (fun c => c.isWrite = true) t.inner.calls last.inner.calls)) := by
  cases queued : t.writePending with
  | none =>
      rw [drainPass_idle queued]
      exact ⟨.refl _, fun waits => by cases waits⟩
  | some frame =>
      obtain ⟨inner, r, polled, ⟨same, -⟩ | ⟨n, -, -, same⟩⟩ := drainPass_cases zeroText queued
      · have grown := Traced.calls_pollWrite polled
        rw [same]
        refine ⟨.one rfl grown, ?_⟩
        intro waits
        cases pending_of_stalled waits
        exact parked_one rfl rfl grown
      · rw [same, Pass.holds_again, advance_inner]
        exact .one rfl (Traced.calls_pollWrite polled)

theorem drain_writes {zeroText : String} {t last : NaivePaddedTransport (Traced W)} {d : Drain}
    (ran : drain zeroText t = (last, d)) :
    Grew (fun c => c.isWrite = true) t.inner.calls last.inner.calls ∧
      (d = .blocked → Parked (fun c => c.isWrite = true) t.inner.calls last.inner.calls) := by
  refine drain_rule
    (I := fun s : NaivePaddedTransport (Traced W) => Grew (fun c => c.isWrite = true) t.inner.calls s.inner.calls)
    (Q := fun last d => Grew (fun c => c.isWrite = true) t.inner.calls last.inner.calls ∧
      (d = .blocked → Parked (fun c => c.isWrite = true) t.inner.calls last.inner.calls)) ?_ (.refl _) ran
  intro s grew
  apply (drainPass_writes zeroText s).imp
  · intro next more
    exact grew.trans more
  · rintro last d ⟨more, parked⟩
    exact ⟨grew.trans more, fun waits => grew.parked (parked waits)⟩

/-- The first offer of a frame is never waited for. -/
theorem writeFrame_writes {t last : NaivePaddedTransport (Traced W)} {buf : Bytes} {r : PollResult Nat}
    (ran : writeFrame t buf = (last, r)) :
    Grew (fun c => c.isWrite = true) t.inner.calls last.inner.calls ∧ r ≠ .pending := by
  obtain ⟨inner, r', polled, ⟨e, -, same⟩ | ⟨-, same⟩ | ⟨n, -, -, same⟩⟩ := writeFrame_cases t buf
  all_goals cases same.symm.trans ran
  · exact ⟨.one rfl (Traced.calls_pollWrite polled), fun waits => by cases waits⟩
  · exact ⟨.one rfl (Traced.calls_pollWrite polled), fun waits => by cases waits⟩
  · rw [advance_inner]
    exact ⟨.one rfl (Traced.calls_pollWrite polled), fun waits => by cases waits⟩

theorem pollWrite_writes {t last : NaivePaddedTransport (Traced W)} {buf : Bytes} {r : PollResult Nat}
    (ran : pollWrite t buf = (last, r)) :
    Grew (fun c => c.isWrite = true) t.inner.calls last.inner.calls ∧
      (r = .pending → Parked (fun c => c.isWrite = true) t.inner.calls last.inner.calls) := by
  unfold pollWrite at ran
  split at ran
  · rename_i mid drained
    cases ran
    obtain ⟨grew, parked⟩ := drain_writes drained
    exact ⟨grew, fun _ => parked rfl⟩
  · rename_i mid e drained
    cases ran
    exact ⟨(drain_writes drained).1, fun waits => by cases waits⟩
  · rename_i mid drained
    have drains := (drain_writes drained).1
    split_ifs at ran
    · have grown := Traced.calls_pollWrite (Prod.mk.eta (p := AsyncWrite.pollWrite mid.inner buf)).symm
      cases ran
      refine ⟨drains.trans (.one rfl grown), fun waits => drains.parked (parked_one rfl ?_ grown)⟩
      rw [show (AsyncWrite.pollWrite mid.inner buf).2 = .pending from waits]
      rfl
    · obtain ⟨grew, unpending⟩ := writeFrame_writes ran
      exact ⟨drains.trans grew, fun waits => absurd waits unpending⟩

theorem keepsOpen_of_isWrite (c : Call) (writes : c.isWrite = true) : c.keepsOpen = true := by
  cases c with
  | write offered r => rfl
  | read cap r | flush r | shutdown r => cases writes

theorem pollFlush_writes {t last : NaivePaddedTransport (Traced W)} {r : PollResult Unit}
    (ran : pollFlush t = (last, r)) :
    Grew (fun c => c.keepsOpen = true) t.inner.calls last.inner.calls ∧
      (r = .pending → Parked (fun c => c.keepsOpen = true) t.inner.calls last.inner.calls) := by
  unfold pollFlush at ran
  split at ran
  · rename_i mid drained
    cases ran
    obtain ⟨grew, parked⟩ := drain_writes drained
    exact ⟨grew.imp keepsOpen_of_isWrite, fun _ => (parked rfl).imp keepsOpen_of_isWrite⟩
  · rename_i mid e drained
    cases ran
    exact ⟨(drain_writes drained).1.imp keepsOpen_of_isWrite, fun waits => by cases waits⟩
  · rename_i mid drained
    have drains := (drain_writes drained).1.imp keepsOpen_of_isWrite
    have grown := Traced.calls_pollFlush (Prod.mk.eta (p := AsyncWrite.pollFlush mid.inner)).symm
    cases ran
    refine ⟨drains.trans (.one rfl grown), fun waits => drains.parked (parked_one rfl ?_ grown)⟩
    rw [show (AsyncWrite.pollFlush mid.inner).2 = .pending from waits]
    rfl

theorem unread_of_keepsOpen (c : Call) (opens : c.keepsOpen = true) : c.isRead = false := by
  cases c with
  | write offered r | flush r | shutdown r => rfl
  | read cap r => cases opens

theorem pollShutdown_writes {t last : NaivePaddedTransport (Traced W)} {r : PollResult Unit}
    (ran : pollShutdown t = (last, r)) :
    Grew (fun c => c.isRead = false) t.inner.calls last.inner.calls ∧
      (r = .pending → Parked (fun c => c.isRead = false) t.inner.calls last.inner.calls) := by
  unfold pollShutdown at ran
  split at ran
  · rename_i mid flushed
    cases ran
    obtain ⟨grew, parked⟩ := pollFlush_writes flushed
    exact ⟨grew.imp unread_of_keepsOpen, fun _ => (parked rfl).imp unread_of_keepsOpen⟩
  · rename_i mid e flushed
    cases ran
    exact ⟨(pollFlush_writes flushed).1.imp unread_of_keepsOpen, fun waits => by cases waits⟩
  · rename_i mid flushed
    have flushes := (pollFlush_writes flushed).1.imp unread_of_keepsOpen
    have grown := Traced.calls_pollShutdown (Prod.mk.eta (p := AsyncWrite.pollShutdown mid.inner)).symm
    cases ran
    refine ⟨flushes.trans (.one rfl grown), fun waits => flushes.parked (parked_one rfl ?_ grown)⟩
    rw [show (AsyncWrite.pollShutdown mid.inner).2 = .pending from waits]
    rfl

end Write

end ServerNaive.NaivePaddedTransport
