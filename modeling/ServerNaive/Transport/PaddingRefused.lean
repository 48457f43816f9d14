import ServerNaive.Async.Paced
import ServerNaive.Transport.PaddingWire

/-! What a write that fails leaves behind. A new frame is queued and counted before it is first
offered, and the offer that fails does not take it back. -/
namespace ServerNaive.NaivePaddedTransport
open AsyncIo PaddingCodec

/-- What one call of the caller adds to the wire. -/
inductive Submits : WriteOp → Bytes → Prop
  | write {buf piece : Bytes} (adds : Adds buf piece) : Submits (.write buf) piece
  | flush : Submits .flush []
  | shutdown : Submits .shutdown []

/-- A failed write has left nothing behind. What it changed is that the inner writer has taken
some of what was queued before, and whatever is called later, only that and what later writes submit
gets on the wire. -/
structure Refused {W : Type} [AsyncWrite W] (t last : NaivePaddedTransport (Traced W)) : Prop where
  frames : last.writeFramesDone = t.writeFramesDone
  earlier : ∃ sent, Sent t last sent
  later : ∀ ops, ∃ pieces, List.Forall₂ Submits ops pieces ∧ (drive last ops).onWire = t.onWire ++ pieces.flatten

variable {W : Type} [AsyncWrite W]

/-- Whatever is called, the wire grows by what is submitted. -/
theorem drive_submits (t : NaivePaddedTransport (Traced W)) (ops : List WriteOp) :
    ∃ pieces, List.Forall₂ Submits ops pieces ∧ (drive t ops).onWire = t.onWire ++ pieces.flatten := by
  induction ops generalizing t with
  | nil => exact ⟨[], .nil, (List.append_nil _).symm⟩
  | cons op ops ih =>
      -- one call, then the rest from where it left the transport
      have next {piece : Bytes} {last : NaivePaddedTransport (Traced W)} (submits : Submits op piece)
          (wire : last.onWire = t.onWire ++ piece) : ∃ pieces, List.Forall₂ Submits (op :: ops) pieces ∧
            (drive last ops).onWire = t.onWire ++ pieces.flatten := by
        obtain ⟨pieces, all, grown⟩ := ih last
        refine ⟨piece :: pieces, .cons submits all, ?_⟩
        rw [grown, wire, List.flatten_cons, List.append_assoc]
      cases op with
      | write buf =>
          have wrote : Wrote t buf _ _ := pollWrite_wrote Prod.mk.eta.symm
          obtain ⟨piece, adds, wire⟩ := wrote.adds
          exact next (.write adds) wire
      | flush =>
          have drains := (pollFlush_flushed (t := t) Prod.mk.eta.symm).drains
          exact next .flush (drains.onWire.trans (List.append_nil _).symm)
      | shutdown =>
          have drains := (pollShutdown_shut (t := t) Prod.mk.eta.symm).drains
          exact next .shutdown (drains.onWire.trans (List.append_nil _).symm)

theorem Drains.refused {t last : NaivePaddedTransport (Traced W)} (drains : Drains t last) : Refused t last where
  frames := drains.frames
  earlier := drains.sent
  later ops := by
    obtain ⟨pieces, all, grown⟩ := drive_submits last ops
    exact ⟨pieces, all, by rw [grown, drains.onWire]⟩

/-- Whether the drain loop will clear what is queued is the same question all along. -/
def Clears (t : NaivePaddedTransport (Traced W)) : Prop := t.writePending = none ∨ TakesAll t.inner t.unsent

theorem drainPass_clears (zeroText : String) (t : NaivePaddedTransport (Traced W)) :
    (drainPass zeroText t).Holds (fun next => Clears next ↔ Clears t)
      (fun _ d => d = .cleared ↔ Clears t) := by
  cases queued : t.writePending with
  | none =>
      rw [drainPass_idle queued]
      exact iff_of_true rfl (.inl queued)
  | some frame =>
      have owes : t.unsent = frame.drop t.writePendingOff := by rw [unsent, queued]
      -- a frame that is queued is cleared by the writer or not at all
      have clears : Clears t ↔ TakesAll t.inner (frame.drop t.writePendingOff) := by
        rw [Clears, queued, owes]
        exact ⟨fun either => either.resolve_left (fun none_left => by cases none_left), .inr⟩
      obtain ⟨inner, r, polled, ⟨same, nothing⟩ | ⟨n, positive, rfl, same⟩⟩ := drainPass_cases zeroText queued
      · rw [same]
        refine iff_of_false (stalled_ne_cleared zeroText r) fun takes => ?_
        obtain ⟨n, accepts⟩ := (clears.mp takes).accepts
        cases nothing _ ((congrArg Prod.snd polled).symm.trans accepts)
      · obtain ⟨m, rfl⟩ : ∃ m, n = m + 1 := Nat.exists_eq_succ_of_ne_zero (Nat.ne_of_gt positive)
        rw [same, Pass.holds_again, advance]
        split_ifs with complete
        · refine iff_of_true (.inl rfl) (clears.mpr (.last polled ?_))
          rw [List.length_drop]
          omega
        · rw [clears, takesAll_rest polled (by rw [List.length_drop]; omega), Clears, queued]
          refine ⟨fun either => ?_, fun takes => .inr ?_⟩
          · have takes := either.resolve_left (fun none_left => by cases none_left)
            rw [unsent] at takes
            rw [List.drop_drop]
            exact takes
          · rw [List.drop_drop] at takes
            exact takes

theorem drain_clears {zeroText : String} {t last : NaivePaddedTransport (Traced W)} {d : Drain}
    (ran : drain zeroText t = (last, d)) : d = .cleared ↔ Clears t := by
  refine drain_rule (I := fun s : NaivePaddedTransport (Traced W) => Clears s ↔ Clears t)
    (Q := fun _ d => d = .cleared ↔ Clears t) ?_ Iff.rfl ran
  intro s same
  exact (drainPass_clears zeroText s).imp (fun _ step => step.trans same) fun _ _ step => step.trans same

/-- A failed write leaves nothing behind just when it fails before it queues a frame of its own: past
the eighth frame, or because the frame queued before it is not taken. -/
theorem failed_write_refused_iff (t last : NaivePaddedTransport (Traced W)) (buf : Bytes) (e : IoError)
    (ran : pollWrite t buf = (last, .ready (.error e))) :
    Refused t last ↔
      paddingFrames ≤ t.writeFramesDone ∨ t.writePending ≠ none ∧ ¬ TakesAll t.inner t.unsent := by
  cases pollWrite_wrote ran with
  | failed drains drained =>
      have uncleared : ¬ Clears t := fun clears => by cases (drain_clears drained).mpr clears
      exact iff_of_true drains.refused (.inr (not_or.mp uncleared))
  | raw drains cleared raw polled =>
      have idle := Drains.idle _ ((Traced.accepted_pollWrite polled).trans (List.append_nil _))
      exact iff_of_true (drains.trans idle).refused (.inl raw)
  | framed drains drained short framed =>
      refine iff_of_false ?_ ?_
      · intro refused
        have counted := framed.frames
        rw [refused.frames, drains.frames] at counted
        omega
      · rintro (raw | uncleared)
        · omega
        · exact not_or.mpr uncleared ((drain_clears drained).mp rfl)

def brokenPipe : IoError := ⟨.brokenPipe, "broken pipe"⟩

/-- A fresh transport on a stream whose first write fails. -/
def onFailing : NaivePaddedTransport (Traced Scripted) :=
  new (Traced.start ⟨[], [.ready (.error brokenPipe)]⟩) ⟨fun _ => 1, 0⟩

/-- The same past the eighth frame, and with a frame queued that the stream made to wait. -/
def rawOnFailing : NaivePaddedTransport (Traced Scripted) := { onFailing with writeFramesDone := paddingFrames }

def queuedOnFailing : NaivePaddedTransport (Traced Scripted) :=
  (pollWrite (new (Traced.start ⟨[], [.pending, .ready (.error brokenPipe)]⟩) ⟨fun _ => 1, 0⟩) [5]).1

theorem failed_write_refused_iff_onFailing :
    ((pollWrite onFailing [7, 8]).2 = .ready (.error brokenPipe) ∧
      (Refused onFailing (pollWrite onFailing [7, 8]).1 ↔
        paddingFrames ≤ onFailing.writeFramesDone ∨
          onFailing.writePending ≠ none ∧ ¬ TakesAll onFailing.inner onFailing.unsent)) ∧
      ∀ t ∈ [rawOnFailing, queuedOnFailing],
        (pollWrite t [7, 8]).2 = .ready (.error brokenPipe) ∧ Refused t (pollWrite t [7, 8]).1 := by
  have told : ∀ t ∈ [onFailing, rawOnFailing, queuedOnFailing],
      (pollWrite t [7, 8]).2 = .ready (.error brokenPipe) := by
    decide +kernel
  have refused_iff (t : NaivePaddedTransport (Traced Scripted))
      (among : t ∈ [onFailing, rawOnFailing, queuedOnFailing]) :=
    failed_write_refused_iff t _ [7, 8] brokenPipe (Prod.ext rfl (told t among))
  refine ⟨⟨told _ List.mem_cons_self, refused_iff _ List.mem_cons_self⟩, ?_⟩
  intro t among
  have member := List.mem_cons_of_mem onFailing among
  refine ⟨told t member, (refused_iff t member).mpr ?_⟩
  rcases List.mem_pair.mp among with rfl | rfl
  · exact .inl (Nat.le_refl paddingFrames)
  · have fails : (AsyncWrite.pollWrite queuedOnFailing.inner queuedOnFailing.unsent).2 =
        .ready (.error brokenPipe) := by
      decide +kernel
    refine .inr ⟨by decide +kernel, fun takes => ?_⟩
    obtain ⟨n, accepts⟩ := takes.accepts
    cases fails.symm.trans accepts

/-- The caller is told that the write failed, and shuts the stream down; the write goes out then. -/
theorem failed_write_sent :
    (pollWrite onFailing [7, 8]).2 = .ready (.error brokenPipe) ∧
      accepted (drive (pollWrite onFailing [7, 8]).1 [.shutdown]).inner.calls = [0, 2, 1, 7, 8, 1] ∧
      ¬ Refused onFailing (pollWrite onFailing [7, 8]).1 :=
  ⟨by decide +kernel, by decide +kernel, fun refused => absurd refused.frames (by decide +kernel)⟩

end ServerNaive.NaivePaddedTransport
