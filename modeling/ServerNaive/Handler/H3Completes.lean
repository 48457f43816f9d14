import ServerNaive.Handler.H3Tunnel
import ServerNaive.Handler.RelayRests
import ServerNaive.Transport.PaddingDutiful

/-! The tunnel of an H3 request gets done: over a driver that takes its frames and a remote end that does
its duty nothing but the idle timer and a kick keeps it from delivering both ways. -/
namespace ServerNaive
open AsyncIo PaddingCodec NaivePaddedTransport

/-- The driver is there as long as the tunnel is, and takes every frame that it made room for. -/
structure Willing (S : Type) [OutboundFrameSender S] : Prop where
  reserve : ∀ s u, (OutboundFrameSender.pollReserve (S := S) s).2 ≠ .ready (.error u)
  send : ∀ s frame, (OutboundFrameSender.sendItem (S := S) s frame).2 = .ok ()

section Writer

variable {S : Type} [OutboundFrameSender S]

theorem Willing.outbox (willing : Willing S) : Willing (Outbox S) where
  reserve x := willing.reserve x.sender
  send x frame := by
    have taken := willing.send x.sender frame
    simp only [OutboundFrameSender.sendItem]
    cases sent : OutboundFrameSender.sendItem x.sender frame with
    | mk sender answer =>
        rw [sent] at taken
        cases taken
        rfl

namespace H3StreamWriter

/-- A write waits for room or puts in all of its bytes as one frame. -/
theorem pollWrite_willing (willing : Willing S) (w : H3StreamWriter S) (buf : Bytes) :
    (pollWrite w buf).2 = .pending ∨ (pollWrite w buf).2 = .ready (.ok buf.length) := by
  unfold pollWrite
  have reserve := willing.reserve w.send
  cases reserved : OutboundFrameSender.pollReserve w.send with
  | mk send answer =>
      rw [reserved] at reserve
      rcases answer with _ | ⟨u | u⟩
      · exact .inl rfl
      · exact absurd rfl (reserve u)
      · have taken := willing.send send (.body buf false)
        cases sent : OutboundFrameSender.sendItem send (.body buf false) with
        | mk send answer =>
            rw [sent] at taken
            cases taken
            right
            simp only [sent]

theorem pollShutdown_willing (willing : Willing S) (w : H3StreamWriter S) (e : IoError) :
    (pollShutdown w).2 ≠ .ready (.error e) := by
  unfold pollShutdown
  have reserve := willing.reserve w.send
  cases reserved : OutboundFrameSender.pollReserve w.send with
  | mk send answer =>
      rw [reserved] at reserve
      rcases answer with _ | ⟨u | u⟩
      · intro failed
        cases failed
      · exact absurd rfl (reserve u)
      · intro failed
        cases failed

theorem obliging (willing : Willing S) : Obliging (H3StreamWriter S) where
  write w buf e failed := by
    change (pollWrite w buf).2 = _ at failed
    rcases pollWrite_willing willing w buf with same | same <;> cases same.symm.trans failed
  progress w buf offered none_taken := by
    change (pollWrite w buf).2 = _ at none_taken
    rcases pollWrite_willing willing w buf with same | same
    · cases same.symm.trans none_taken
    · have empty := same.symm.trans none_taken
      rw [Poll.ready.injEq, Except.ok.injEq] at empty
      exact offered (List.length_eq_zero_iff.mp empty)
  flush _ _ failed := by cases failed
  shutdown w e := pollShutdown_willing willing w e

/-- The first shutdown that returns has sent the end. -/
theorem ends_phased (willing : Willing S) :
    Phased (fun w : H3StreamWriter (Outbox S) => Bodies w.send.frames) fun w => Ended w.send.frames where
  write := phased.write
  flush := phased.flush
  waits := phased.waits
  shuts {w last r} start polled := by
    change pollShutdown w = _ at polled
    unfold pollShutdown at polled
    have reserve := willing.outbox.reserve w.send
    cases reserved : OutboundFrameSender.pollReserve w.send with
    | mk send answer =>
        have kept := Outbox.frames_pollReserve reserved
        rw [reserved] at polled reserve
        rcases answer with _ | ⟨u | u⟩
        · cases polled
        · exact absurd rfl (reserve u)
        · cases polled
          have taken := Outbox.frames_sendItem send finFrame
          rw [willing.send send.sender finFrame, kept] at taken
          exact ⟨_, start, taken⟩

end H3StreamWriter

/-! The response under the padding layer. -/

variable {R : Type}

/-- The response before the tunnel's stream was shut down. -/
def Speaking : Padded (H3Stream R S) → Prop :=
  fun e => OpenBelow (fun x => Bodies x.stream.writer.send.frames) e.stream

/-- The response after it. -/
def Spoken : Padded (H3Stream R S) → Prop :=
  fun e => ShutBelow (fun x => Ended x.stream.writer.send.frames) e.stream

theorem response_ends (willing : Willing S) : Phased (Speaking (R := R) (S := S)) Spoken := by
  have obliging := Join.obliging (R := R) (H3StreamWriter.obliging willing.outbox)
  refine Traced.phased (steady_phased (Traced.phased (Join.phased (H3StreamWriter.ends_phased willing))) ?_)
  exact ⟨fun _ polled => (Traced.obliging obliging).write _ _ _ (congrArg Prod.snd polled),
    fun _ offered polled => (Traced.obliging obliging).progress _ _ offered (congrArg Prod.snd polled),
    fun _ polled => (Traced.obliging obliging).flush _ _ (congrArg Prod.snd polled)⟩

omit [OutboundFrameSender S] in
theorem speaking_read [AsyncRead R] : KeptByReads (Speaking (R := R) (S := S)) :=
  fun e cap start => openBelow_read (fun _ _ kept => kept) e.stream cap start

omit [OutboundFrameSender S] in
theorem spoken_read [AsyncRead R] : KeptByReads (Spoken (R := R) (S := S)) :=
  fun e cap start => shutBelow_read (fun _ _ kept => kept) e.stream cap start

end Writer

section Tunnel

variable {C S B : Type} [Receiver C InboundFrame] [OutboundFrameSender S] [AsyncRead B] [AsyncWrite B]

/-- The response of a tunnel that is done. -/
theorem h3_answered {R : Type} [AsyncRead R] (willing : Willing S) {config : ConnConfig} {client : H3Stream R S}
    (fresh : client.writer.send.frames = []) {g : Rng} {remote : B} {start : Nat} {turns : List Turn}
    {t : Relay (Padded (H3Stream R S)) (Traced B)}
    (ran : (Relay.new (freshEncoder client g) (Traced.start remote) start config.idleTimeoutSecs config.bufferSize
      false).selectRun turns = (t, .finished (.ok true)))
    (downloaded : t.bToA.shutdownDone = true) :
    parseFrames paddingFrames (responseBytes (framesOut t.a)) = returned t.b.calls ∧ Ended (framesOut t.a) := by
  have opened : Speaking (freshEncoder client g) := by
    refine ⟨?_, fun frame queued => by cases queued⟩
    change Bodies client.writer.send.frames
    rw [fresh]
    exact bodies_nil
  have unsent : Boxed (freshEncoder client g).stream.inner := by
    change responseBytes client.writer.send.frames = _
    rw [fresh]
    rfl
  have staged := Relay.selectRun_staged speaking_read spoken_read (response_ends willing)
    (Relay.staged_new (Traced.start remote) start config.idleTimeoutSecs config.bufferSize opened) ran
  obtain ⟨ended, clear⟩ : Spoken t.a := by
    have client := staged.client
    rw [ByEnd, if_pos downloaded] at client
    exact client
  have boxed : responseBytes (framesOut t.a) = accepted t.a.stream.inner.calls :=
    Relay.selectRun_kept (keptByCalls_inner boxed_kept).traced unsent ran
  obtain ⟨conducts, unrefused | ⟨e, failed⟩⟩ :=
    (Conducts.new client remote g start config.idleTimeoutSecs config.bufferSize false).selectRun
      (accepting_new client g).2 ran
  · rw [boxed]
    exact ⟨(conducts.download_done unrefused downloaded clear).1, ended⟩
  · cases failed

/-- The polls of the tunnel come to one of four ends: everything is delivered both ways, the response has
its end and the user's record has every byte; the idle timer ran out; the tunnel was kicked; or it was
held up in each of them. -/
theorem h3_tunnel_completes {J : B → Prop} {rest : B → Bytes} (willing : Willing S) (duty : Dutiful J rest)
    (config : ConnConfig) (recv : C) (sender : S) (g : Rng) (remote : B) (begins : J remote) (start : Nat)
    (turns : List Turn) (closing : Nat × Nat) (room : 0 < config.bufferSize)
    (enough : ∀ turn ∈ turns, max (parseFrames paddingFrames (bodyBytes (Receiver.queue recv))).length
      (rest remote).length + 2 ≤ turn.fuel)
    (later : ∀ turn ∈ turns, start ≤ turn.now) :
    let client : H3Stream (H3StreamReader C) S := ⟨.new recv, ⟨⟨sender, []⟩⟩⟩
    let out := relay config (freshEncoder client g) (Traced.start remote) start turns closing
    let sent := parseFrames paddingFrames (bodyBytes (Receiver.queue recv))
    (out.selected = .finished (.ok true) ∧ accepted out.b.calls = sent ∧
        parseFrames paddingFrames (responseBytes (framesOut out.a)) = rest remote ∧ Ended (framesOut out.a) ∧
        out.recorded.uploads.sum = sent.length ∧ out.recorded.downloads.sum = (rest remote).length) ∨
      (out.selected = .finished (.ok false) ∧ ∃ turn ∈ turns, start + config.idleTimeoutSecs ≤ turn.now) ∨
      (out.selected = .kicked ∧ ∃ turn ∈ turns, turn.cancelled = true) ∨
      (out.selected = .pending ∧ turns.length ≤ stalls out.a.calls + stalls out.b.calls) := by
  intro client out sent
  have carried : upcoming (new (Traced.start client) g) = sent := upcoming_new (Traced.start client) g
  have duties := NaivePaddedTransport.dutiful (R := H3StreamReader C) (H3StreamWriter.obliging willing.outbox)
  cases ran : (Relay.new (freshEncoder client g) (Traced.start remote) start config.idleTimeoutSecs config.bufferSize
      false).selectRun turns with
  | mk t selected =>
      have ended : out = relay config (freshEncoder client g) (Traced.start remote) start turns closing := rfl
      rw [relay, ran] at ended
      rcases Relay.selectRun_polled ran with ⟨rfl, fired⟩ | ⟨polled, same, rfl⟩
      · exact .inr (.inr (.inl ⟨congrArg RelayOutcome.selected ended, fired⟩))
      have ends := Relay.new_concludes duties duty
        ⟨readOk_new (Traced.start client) g, fun _ queued => by cases queued⟩ begins room
        (fun p member => by
          obtain ⟨turn, listed, rfl⟩ := List.mem_map.mp member
          rw [carried]
          exact enough turn listed)
        (fun p member => by
          obtain ⟨turn, listed, rfl⟩ := List.mem_map.mp member
          exact later turn listed) same
      cases ends with
      | completed flows uploaded downloaded =>
          obtain ⟨response, last⟩ := h3_answered willing rfl ran downloaded
          obtain ⟨uploads, downloads⟩ := Relay.selectRun_counted ran
          obtain ⟨conducts, -⟩ := (Conducts.new client remote g start config.idleTimeoutSecs config.bufferSize
            false).selectRun (accepting_new client g).2 ran
          have up := conducts.up.of_own
          have down := conducts.down.of_own
          have received : accepted t.b.calls = sent :=
            (up.drained uploaded).symm.trans ((flows.returned (up.done uploaded).1).trans carried)
          have given : returned t.b.calls = rest remote := flows.swap.returned (down.done downloaded).1
          have answered : accepted t.a.calls = rest remote := (down.drained downloaded).symm.trans given
          rw [ended]
          refine .inl ⟨rfl, received, response.trans given, last, ?_, ?_⟩
          · exact (Relay.sum_noted _).trans (uploads.trans (congrArg List.length received))
          · exact (Relay.sum_noted _).trans (downloads.trans (congrArg List.length answered))
      | idle late =>
          obtain ⟨p, member, late⟩ := late
          obtain ⟨turn, listed, rfl⟩ := List.mem_map.mp member
          exact .inr (.inl ⟨congrArg RelayOutcome.selected ended, turn, listed, late⟩)
      | waits held_up =>
          rw [ended]
          refine .inr (.inr (.inr ⟨rfl, ?_⟩))
          rw [List.length_map] at held_up
          exact (Nat.le_add_left _ _).trans held_up

end Tunnel

/-- A driver whose channel is full whenever `delays` says so, and otherwise takes a frame. -/
structure PacedSender where
  delays : List Bool

instance : OutboundFrameSender PacedSender where
  pollReserve s :=
    if s.delays.headD false then (⟨s.delays.tail⟩, .pending) else (⟨s.delays.tail⟩, .ready (.ok ()))
  sendItem s _ := (s, .ok ())

theorem PacedSender.willing : Willing PacedSender where
  reserve s u failed := by
    simp only [OutboundFrameSender.pollReserve] at failed
    split_ifs at failed
    cases failed
  send _ _ := rfl

/-- A request in two padding frames between a driver and a remote end that both make the tunnel wait. -/
def pacedTunnel : RelayOutcome (Padded (H3Stream (H3StreamReader (PacedReceiver InboundFrame)) PacedSender))
    (Traced (Join PacedReader PacedWriter)) :=
  relay smallBuffer (freshEncoder ⟨.new cutRequest, ⟨⟨⟨[true, false]⟩, []⟩⟩⟩ smallPads) (Traced.start pacedRemote) 0
    fourTurns (1, 1)

theorem h3_tunnel_completes_pacedTunnel :
    pacedTunnel.selected = .finished (.ok true) ∧ accepted pacedTunnel.b.calls = [7, 8, 9] ∧
      parseFrames paddingFrames (responseBytes (framesOut pacedTunnel.a)) = [6, 7, 8] ∧
      Ended (framesOut pacedTunnel.a) := by
  have finished : pacedTunnel.selected = .finished (.ok true) := by decide +kernel
  have sent : parseFrames paddingFrames (bodyBytes (Receiver.queue cutRequest)) = [7, 8, 9] := by decide +kernel
  have ends := h3_tunnel_completes PacedSender.willing (dutiful_join (R := PacedReader) PacedWriter.obliging) smallBuffer
    cutRequest ⟨[true, false]⟩ smallPads pacedRemote trivial 0 fourTurns (1, 1) (by decide)
    (by rw [sent]; decide) (by decide)
  rw [sent] at ends
  unfold pacedTunnel at finished ⊢
  rcases ends with ⟨-, up, down, last, -⟩ | ⟨same, -⟩ | ⟨same, -⟩ | ⟨same, -⟩
  · exact ⟨finished, up, down, last⟩
  all_goals cases same.symm.trans finished

end ServerNaive
