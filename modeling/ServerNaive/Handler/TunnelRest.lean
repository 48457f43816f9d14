import ServerNaive.Async.HeldUp
import ServerNaive.Handler.RelayRests
import ServerNaive.Handler.TunnelData
import ServerNaive.Transport.PaddingRoundTrip
import ServerNaive.Transport.PaddingWake

/-! A tunnel that waits holds nothing back. Whatever the stream below the padding layer and the remote end
do, a turn of the relay that has to be taken again leaves a byte behind only where the stream it is meant
for has kept a call of this turn waiting. -/
namespace ServerNaive
open AsyncIo PaddingCodec NaivePaddedTransport

/-! The padding layer waits only where the stream below does. -/

section Client

variable {S : Type} {base : List Call} {e next : Padded S}

/-- A call of this turn below the padding layer was answered so. -/
def HeldUpBelow (kind : Call → Bool) (base : List Call) (e : Padded S) : Prop := HeldUp kind base e.stream.inner

/-- Nothing is left in the padding layer, or the stream below does not take it. -/
def FlushedBelow (base : List Call) (e : Padded S) : Prop :=
  e.stream.writePending = none ∨ HeldUpBelow Call.unready base e

theorem silent_of_read [AsyncRead S] {cap : Nat} (since : base <+: e.stream.inner.calls)
    (polled : AsyncRead.pollRead e cap = (next, .pending)) : HeldUpBelow Call.silent base next := by
  have ran : pollRead e.stream cap = (next.stream, .pending) :=
    Prod.ext (congrArg (fun p => p.1.stream) polled)
      (show (AsyncRead.pollRead e cap).2 = _ from congrArg Prod.snd polled)
  exact heldUp_parked since ((pollRead_reads ran).2 rfl) fun _ => Call.silent_of_waits

variable [AsyncWrite S]

theorem unready_of_write {buf : Bytes} (since : base <+: e.stream.inner.calls)
    (polled : AsyncWrite.pollWrite e buf = (next, .pending)) : HeldUpBelow Call.unready base next := by
  have ran : pollWrite e.stream buf = (next.stream, .pending) :=
    Prod.ext (congrArg (fun p => p.1.stream) polled)
      (show (AsyncWrite.pollWrite e buf).2 = _ from congrArg Prod.snd polled)
  refine heldUp_parked since ((pollWrite_writes ran).2 rfl) fun c writes => Call.unready_of_waits ?_
  exact unread_of_keepsOpen c (keepsOpen_of_isWrite c writes)

theorem unready_of_shutdown (since : base <+: e.stream.inner.calls)
    (polled : AsyncWrite.pollShutdown e = (next, .pending)) : HeldUpBelow Call.unready base next := by
  have ran : pollShutdown e.stream = (next.stream, .pending) :=
    Prod.ext (congrArg (fun p => p.1.stream) polled)
      (show (AsyncWrite.pollShutdown e).2 = _ from congrArg Prod.snd polled)
  exact heldUp_parked since ((pollShutdown_writes ran).2 rfl) fun _ => Call.unready_of_waits

theorem flushed_of_flush {r : PollResult Unit} (since : base <+: e.stream.inner.calls)
    (polled : AsyncWrite.pollFlush e = (next, r)) (fine : ∀ e, r ≠ .ready (.error e)) : FlushedBelow base next := by
  have ran : pollFlush e.stream = (next.stream, r) :=
    Prod.ext (congrArg (fun p => p.1.stream) polled)
      (show (AsyncWrite.pollFlush e).2 = _ from congrArg Prod.snd polled)
  rcases r with _ | ⟨failure | ⟨⟩⟩
  · refine .inr (heldUp_parked since ((pollFlush_writes ran).2 rfl) fun c opens => Call.unready_of_waits ?_)
    exact unread_of_keepsOpen c opens
  · exact absurd rfl (fine failure)
  · exact .inl (pollFlush_clears ran)

end Client

section Turn

variable {S B : Type} [AsyncRead S] [AsyncWrite S] [AsyncRead B] [AsyncWrite B]

theorem below_kept (base : List Call) : KeptByCalls fun e : Padded S => base <+: e.stream.inner.calls :=
  (keptByCalls_inner (longer_kept base)).traced

theorem upload_waits (below base : List Call) :
    Copy.Waits (fun e : Padded S => below <+: e.stream.inner.calls) (fun x : Traced B => base <+: x.calls)
      (HeldUpBelow Call.silent below) (HeldUp Call.refuses base) fun _ => True where
  reads := (below_kept below).read
  writes := (longer_kept base).guarded
  dry := silent_of_read
  full since polled := heldUp_call since (Traced.calls_pollWrite polled) rfl
  shutting since polled := heldUp_call since (Traced.calls_pollShutdown polled) rfl
  flushed _ _ _ := trivial

theorem download_waits (below base : List Call) :
    Copy.Waits (fun x : Traced B => base <+: x.calls) (fun e : Padded S => below <+: e.stream.inner.calls)
      (HeldUp Call.silent base) (HeldUpBelow Call.unready below) (FlushedBelow below) where
  reads := (longer_kept base).read
  writes := (below_kept below).guarded
  dry since polled := heldUp_call since (Traced.calls_pollRead polled) rfl
  full := unready_of_write
  shutting := unready_of_shutdown
  flushed := flushed_of_flush

variable {s t : Relay (Padded S) (Traced B)} {turn : Turn}

/-- The upload after a turn that has to be taken again: it is done, or it has read all there was and handed
it on, or the remote end takes no more. -/
abbrev UploadStops (s t : Relay (Padded S) (Traced B)) : Prop :=
  Copy.Stops (HeldUpBelow Call.silent s.a.stream.inner.calls) (HeldUp Call.refuses s.b.calls) (fun _ => True)
    ⟨t.aToB, t.a, t.b⟩

/-- The download. -/
abbrev DownloadStops (s t : Relay (Padded S) (Traced B)) : Prop :=
  Copy.Stops (HeldUp Call.silent s.b.calls) (HeldUpBelow Call.unready s.a.stream.inner.calls)
    (FlushedBelow s.a.stream.inner.calls) ⟨t.bToA, t.b, t.a⟩

theorem select_stops (selected : s.select turn = (t, .pending)) : UploadStops s t ∧ DownloadStops s t := by
  rcases Relay.select_polled selected with ⟨kicked, -⟩ | ⟨polled, ran, same⟩
  · cases kicked
  · cases polled with
    | running => cases same
    | ready answer => cases same
    | pending =>
        have below := keptByCalls_inner (heldUp_kept (S := S) Call.silent s.a.stream.inner.calls)
        exact Relay.poll_stops (upload_waits s.a.stream.inner.calls s.b.calls)
          (download_waits s.a.stream.inner.calls s.b.calls) below.traced.guarded
          (heldUp_kept Call.refuses s.b.calls).read (fun _ _ => id) (List.prefix_refl _) (List.prefix_refl _) ran

/-- Whatever the streams below the padding layer and at the remote end do, a tunnel that waits holds
nothing back. All that was read from the client is at the remote end, unless this one keeps a write or a
shutdown of this very turn waiting, and the other way round. A direction that holds nothing waits for
its reader. -/
theorem tunnel_strands_nothing (client : S) (remote : B) (g : Rng) (start idleTimeoutSecs bufferSize : Nat)
    (turns : List Turn) (turn : Turn) (s t : Relay (Padded S) (Traced B))
    (ran : (Relay.new (freshEncoder client g) (Traced.start remote) start idleTimeoutSecs bufferSize false).selectRun
      turns = (s, .pending))
    (selected : s.select turn = (t, .pending)) :
    (t.aToB.isDone = false → HeldUp Call.refuses s.b.calls t.b ∨
      HeldUpBelow Call.silent s.a.stream.inner.calls t.a ∧
        accepted t.b.calls = parseFrames paddingFrames (returned t.a.stream.inner.calls)) ∧
    (t.bToA.isDone = false → HeldUpBelow Call.unready s.a.stream.inner.calls t.a ∨
      HeldUp Call.silent s.b.calls t.b ∧
        parseFrames paddingFrames (accepted t.a.stream.inner.calls) = returned t.b.calls) := by
  obtain ⟨before, unrefused⟩ : Conducts g bufferSize s ∧ Unrefused s.a.calls := by
    have started := Conducts.new client remote g start idleTimeoutSecs bufferSize false
    obtain ⟨conducts, unrefused | ⟨e, failed⟩⟩ := started.selectRun (fun _ member => by cases member) ran
    · exact ⟨conducts, unrefused⟩
    · cases failed
  obtain ⟨conducts, accepting⟩ : Conducts g bufferSize t ∧ Unrefused t.a.calls := by
    obtain ⟨conducts, unrefused | ⟨e, failed⟩⟩ := before.select unrefused selected
    · exact ⟨conducts, unrefused⟩
    · cases failed
  obtain ⟨up, down⟩ := select_stops selected
  constructor
  · intro undone
    rcases up with done | waiting
    · cases undone.symm.trans done
    · cases waiting with
      | reads silent empty flushed => exact .inr ⟨silent, conducts.upload_drained empty⟩
      | writes refused => exact .inl refused
  · intro undone
    rcases down with done | waiting
    · cases undone.symm.trans done
    · cases waiting with
      | reads silent empty flushed =>
          rcases flushed with cleared | unready
          · exact .inr ⟨silent, conducts.download_drained accepting empty cleared⟩
          · exact .inl unready
      | writes unready => exact .inl unready

end Turn

/-- A byte goes up and a byte comes down, but the client's stream does not take it at once. -/
def lateTaker : Relay (Padded Scripted) (Traced Scripted) :=
  .new (freshEncoder ⟨[.ready (.ok [0, 1, 0, 7])], [.pending, .pending]⟩ smallPads) (.start ⟨[.ready (.ok [5])], []⟩) 0 60 8 false

/-- After the first turn. -/
def untaken : Relay (Padded Scripted) (Traced Scripted) := (lateTaker.selectRun [⟨40, 0, false, false⟩]).1

/-- After the second. -/
def takenLate : Relay (Padded Scripted) (Traced Scripted) := (untaken.select ⟨40, 1, false, false⟩).1

theorem tunnel_strands_nothing_takenLate :
    accepted untaken.a.stream.inner.calls = [] ∧ accepted takenLate.b.calls = [7] ∧
      returned takenLate.b.calls = [5] ∧
      parseFrames paddingFrames (accepted takenLate.a.stream.inner.calls) = returned takenLate.b.calls := by
  have ran : (lateTaker.selectRun [⟨40, 0, false, false⟩]).2 = .pending := by decide +kernel
  have selected : (untaken.select ⟨40, 1, false, false⟩).2 = .pending := by decide +kernel
  have undone : takenLate.bToA.isDone = false := by decide +kernel
  have taken : ¬ HeldUp Call.unready untaken.a.stream.inner.calls takenLate.a.stream.inner := by decide +kernel
  have strands := tunnel_strands_nothing _ _ _ 0 60 8 [⟨40, 0, false, false⟩] ⟨40, 1, false, false⟩ untaken takenLate
    (Prod.ext rfl ran) (Prod.ext rfl selected)
  obtain ⟨-, same⟩ := (strands.2 undone).resolve_left taken
  exact ⟨by decide +kernel, by decide +kernel, by decide +kernel, same⟩

end ServerNaive
