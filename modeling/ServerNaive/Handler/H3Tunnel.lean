import ServerNaive.Handler.TunnelData
import ServerNaive.Transport.PaddingRoundTrip
import ServerNaive.Transport.QuicheReader

/-! The tunnel of an H3 request from one channel of the driver to the other: the frames of the request
come in, through the padding layer and the relay, to the remote end, and its answer goes out as frames. -/
namespace ServerNaive
open AsyncIo PaddingCodec NaivePaddedTransport

def OutboundFrame.data : OutboundFrame → Bytes
  | .headers _ => []
  | .body data _ => data

/-- The bytes that the frames of a response carry. -/
def responseBytes (frames : List OutboundFrame) : Bytes := frames.flatMap OutboundFrame.data

theorem responseBytes_append (frames more : List OutboundFrame) :
    responseBytes (frames ++ more) = responseBytes frames ++ responseBytes more :=
  List.flatMap_append

/-! The response half. -/

section Response

variable {R S : Type} [OutboundFrameSender S]

/-- A frame is in the channel if and only if its write was accepted. -/
theorem H3StreamWriter.responseBytes_pollWrite {w last : H3StreamWriter (Outbox S)} {buf : Bytes} {r : PollResult Nat}
    (polled : pollWrite w buf = (last, r)) :
    responseBytes last.send.frames = responseBytes w.send.frames ++ (Call.write buf r).taken := by
  unfold pollWrite at polled
  cases reserved : OutboundFrameSender.pollReserve w.send with
  | mk send answer =>
      have kept := Outbox.frames_pollReserve reserved
      rw [reserved] at polled
      rcases answer with _ | ⟨u | u⟩
      · cases polled
        rw [kept]
        exact (List.append_nil _).symm
      · cases polled
        rw [kept]
        exact (List.append_nil _).symm
      · simp only [OutboundFrameSender.sendItem] at polled
        cases sent : OutboundFrameSender.sendItem send.sender (.body buf false) with
        | mk sender answer =>
            rw [sent] at polled
            rcases answer with u | u
            · cases polled
              rw [kept]
              exact (List.append_nil _).symm
            · cases polled
              rw [responseBytes_append, kept]
              simp only [responseBytes, List.flatMap_cons, List.flatMap_nil, OutboundFrame.data, List.append_nil,
                Call.taken, List.take_length]

/-- The channel has what the writer accepted. -/
def Boxed (x : Traced (H3Stream R S)) : Prop :=
  responseBytes x.stream.writer.send.frames = accepted x.calls

theorem boxed_kept [AsyncRead R] : KeptByCalls (Boxed (R := R) (S := S)) where
  read x cap h := by
    unfold Boxed
    rw [Traced.calls_pollRead Prod.mk.eta.symm, accepted_append, accepted_singleton]
    exact h.trans (List.append_nil _).symm
  write x buf h := by
    unfold Boxed
    rw [Traced.accepted_pollWrite Prod.mk.eta.symm, ← h]
    exact H3StreamWriter.responseBytes_pollWrite Prod.mk.eta.symm
  flush x h := by
    unfold Boxed
    rw [Traced.accepted_pollFlush Prod.mk.eta.symm]
    exact h
  shutdown x h := by
    unfold Boxed
    rw [Traced.accepted_pollShutdown Prod.mk.eta.symm, ← h]
    change responseBytes (H3StreamWriter.pollShutdown x.stream.writer).1.send.frames = _
    rcases H3StreamWriter.frames_pollShutdown (w := x.stream.writer) Prod.mk.eta.symm with same | ⟨-, more⟩
    · rw [same]
    · rw [more, responseBytes_append]
      exact List.append_nil _

/-- The frames of the response under the padding layer. -/
def framesOut (e : Padded (H3Stream R S)) : List OutboundFrame := e.stream.inner.stream.writer.send.frames

omit [OutboundFrameSender S] in
theorem keptByReads_framesOut [AsyncRead R] (P : List OutboundFrame → Prop) :
    KeptByReads fun e : Padded (H3Stream R S) => P (framesOut e) :=
  fun e cap start => (pollRead_quiet (I := fun x : Traced (H3Stream R S) => P x.stream.writer.send.frames)
    (fun _ _ kept => kept) (t := e.stream) cap ⟨start, rfl⟩).1

theorem unfinished_phased :
    Phased (fun w : H3StreamWriter (Outbox S) => finFrame ∉ w.send.frames) fun _ => True where
  write w buf start := by
    rcases H3StreamWriter.frames_pollWrite w buf with same | more
    · exact same ▸ start
    · change finFrame ∉ (H3StreamWriter.pollWrite w buf).1.send.frames
      rw [more]
      intro member
      rcases List.mem_append.mp member with before | itself
      · exact start before
      · cases List.mem_singleton.mp itself
  flush _ start := start
  waits start polled := by
    rcases H3StreamWriter.frames_pollShutdown polled with same | ⟨⟨a, returned⟩, -⟩
    · exact same ▸ start
    · cases returned
  shuts _ _ := trivial

/-- The end of the response goes out only when the tunnel's stream is shut down. -/
def FinAsked (e : Padded (H3Stream R S)) : Prop := finFrame ∈ framesOut e → ∃ r, .shutdown r ∈ e.calls

theorem finAsked_kept [AsyncRead R] : KeptByCalls (FinAsked (R := R) (S := S)) := by
  have phased := Traced.phased (phased (Traced.phased (Join.phased (R := R) (unfinished_phased (S := S)))))
  -- no other call sends the end, and the record only grows
  have other {e next : Padded (H3Stream R S)} {c : Call} (h : FinAsked e) (calls : next.calls = e.calls ++ [c])
      (kept : finFrame ∉ framesOut e → finFrame ∉ framesOut next) : FinAsked next := by
    intro fin
    by_cases before : finFrame ∈ framesOut e
    · obtain ⟨r, asked⟩ := h before
      exact ⟨r, calls ▸ List.mem_append_left _ asked⟩
    · exact absurd fin (kept before)
  constructor
  · intro e cap h
    exact other h (Traced.calls_pollRead Prod.mk.eta.symm)
      fun before => keptByReads_framesOut (finFrame ∉ ·) e cap before
  · intro e buf h
    exact other h (Traced.calls_pollWrite Prod.mk.eta.symm) fun before => phased.write e buf before
  · intro e h
    exact other h (Traced.calls_pollFlush Prod.mk.eta.symm) fun before => phased.flush e before
  · intro e h _
    refine ⟨(AsyncWrite.pollShutdown e).2, ?_⟩
    rw [Traced.calls_pollShutdown Prod.mk.eta.symm]
    exact List.mem_append_right _ (List.mem_singleton_self _)

/-- Before the shutdown has returned. -/
def Answering (e : Padded (H3Stream R S)) : Prop := Bodies (framesOut e)

/-- After it: it failed, or the end is out with nothing pending behind it. -/
def Answered (e : Padded (H3Stream R S)) : Prop :=
  Bodies (framesOut e) ∨ Ended (framesOut e) ∧ e.stream.writePending = none

theorem answer_phased : Phased (Answering (R := R) (S := S)) Answered := by
  have lifted := Traced.phased (phased (Traced.phased (Join.phased (R := R) (H3StreamWriter.phased (S := S)))))
  refine ⟨lifted.write, lifted.flush, lifted.waits, ?_⟩
  intro e last r start polled
  rcases lifted.shuts start polled with failed | ⟨failed | ended, clear⟩
  · exact .inl failed
  · exact .inl failed
  · exact .inr ⟨ended, clear⟩

omit [OutboundFrameSender S] in
theorem answered_read [AsyncRead R] : KeptByReads (Answered (R := R) (S := S)) := by
  rintro e cap (failed | ⟨ended, clear⟩)
  · exact .inl (keptByReads_framesOut Bodies e cap failed)
  · exact .inr (pollRead_quiet (I := fun x : Traced (H3Stream R S) => Ended x.stream.writer.send.frames)
      (fun _ _ kept => kept) (t := e.stream) cap ⟨ended, clear⟩)

end Response

/-! The request half. -/

theorem NaivePaddedTransport.Serves.heard {R : Type} [ByteSource R] {t last : NaivePaddedTransport R}
    {r : PollResult Bytes} (h : Serves t last r) :
    (∀ failure, r ≠ .ready (.error failure)) ∧ (r = .ready (.ok []) → ByteSource.rest last.inner = []) := by
  rcases r with _ | ⟨e | bs⟩
  · exact ⟨(fun _ other => by cases other), fun other => by cases other⟩
  · exact h.elim
  · refine ⟨(fun _ other => by cases other), fun empty => ?_⟩
    cases empty
    exact h.2

section Request

variable {R W : Type} [ByteSource R] [AsyncWrite W]

/-- A read with room for a byte never fails, and it finds the end only when the source has run dry. -/
def EndIsEnd (e : Padded (Join R W)) : Prop := ReadsTo (fun t => ByteSource.rest t.inner.stream.reader = []) e

/-- What a request stream has given so far, and what its end means. -/
structure Requests (g : Rng) (total : Bytes) (e : Padded (Join R W)) : Prop where
  mirrors : Mirrors g e
  draws : Join.Draws total e.stream.inner
  ends : EndIsEnd e

theorem requests_kept (g : Rng) (total : Bytes) : KeptByCalls (Requests (R := R) (W := W) g total) := by
  have draws := (keptByCalls_inner (Join.draws_kept (R := R) (W := W) total)).traced
  have spent := keptByCalls_inner (Join.spent_kept (R := R) (W := W)).traced
  have kept := ((mirrors_kept (S := Join R W) g).and draws).readsTo spent fun e cap start room =>
    (pollRead_serves start.1.ok room (t := e.stream) Prod.mk.eta.symm).2.heard
  have same : Requests (R := R) (W := W) g total =
      fun e => (Mirrors g e ∧ Join.Draws total e.stream.inner) ∧ EndIsEnd e := by
    funext e
    exact propext ⟨fun h => ⟨⟨h.mirrors, h.draws⟩, h.ends⟩, fun h => ⟨h.1.1, h.1.2, h.2⟩⟩
  rw [same]
  exact kept

omit [AsyncWrite W] in
theorem requests_new (r : R) (w : W) (g : Rng) : Requests g (ByteSource.rest r) (freshEncoder ⟨r, w⟩ g) where
  mirrors := mirrors_new _ g
  draws := rfl
  ends _ _ member := by cases member

end Request

/-! From one channel to the other. -/

section Relayed

variable {S B : Type} [AsyncRead S] [AsyncWrite S] [AsyncRead B] [AsyncWrite B]

/-- The relay of a tunnel before the shutdowns of a kick. -/
theorem relay_conducts (config : ConnConfig) (client : S) (g : Rng) (remote : B) (start : Nat) (turns : List Turn)
    (closing : Nat × Nat) :
    let out := relay config (freshEncoder client g) (Traced.start remote) start turns closing
    ∃ t, Conducts g config.bufferSize t ∧
      (Relay.new (freshEncoder client g) (Traced.start remote) start config.idleTimeoutSecs config.bufferSize
        false).selectRun turns = (t, out.selected) ∧
      (out.selected ≠ .kicked ∧ out.a = t.a ∧ out.b = t.b ∨
        out.selected = .kicked ∧ Unrefused t.a.calls ∧ out.a = shutdownWithin closing.1 t.a ∧
          out.b = shutdownWithin closing.2 t.b) := by
  have begun := Conducts.new client remote g start config.idleTimeoutSecs config.bufferSize false
  have conducts {t : Relay (Padded S) (Traced B)} {r : Selected}
      (ran : (Relay.new (freshEncoder client g) (Traced.start remote) start config.idleTimeoutSecs config.bufferSize
        false).selectRun turns = (t, r)) := begun.selectRun (accepting_new client g).2 ran
  have run := relay_run config (freshEncoder client g) (Traced.start remote) start turns closing
  dsimp only
  generalize relay config (freshEncoder client g) (Traced.start remote) start turns closing = out at run ⊢
  cases run with
  | finished ran => exact ⟨_, (conducts ran).1, ran, .inl ⟨(fun kicked => by cases kicked), rfl, rfl⟩⟩
  | kicked ran =>
      obtain ⟨held, unrefused | ⟨e, failed⟩⟩ := conducts ran
      · exact ⟨_, held, ran, .inr ⟨rfl, unrefused, rfl, rfl⟩⟩
      · cases failed
  | unended ran runs =>
      refine ⟨_, (conducts ran).1, ran, .inl ⟨?_, rfl, rfl⟩⟩
      rintro rfl
      cases runs

end Relayed

section Tunnel

variable {B : Type} [AsyncRead B] [AsyncWrite B] {S : Type} [OutboundFrameSender S]

/-- The remote end gets a front of what the request's frames carry, and it is told of an end only
when it has all of it, unless the tunnel was kicked. -/
theorem h3_upload_faithful {C : Type} [Receiver C InboundFrame] (config : ConnConfig) (recv : C) (sender : S) (g : Rng)
    (remote : B) (start : Nat) (turns : List Turn) (closing : Nat × Nat) :
    let client : H3Stream (H3StreamReader C) S := ⟨.new recv, ⟨⟨sender, []⟩⟩⟩
    let out := relay config (freshEncoder client g) (Traced.start remote) start turns closing
    let sent := parseFrames paddingFrames (bodyBytes (Receiver.queue recv))
    accepted out.b.calls <+: sent ∧
      (0 < config.bufferSize → out.selected ≠ .kicked → ∀ r, .shutdown r ∈ out.b.calls →
        accepted out.b.calls = sent) := by
  intro client out sent
  obtain ⟨t, conducts, ran, ends⟩ := relay_conducts config client g remote start turns closing
  have begun : Requests g (bodyBytes (Receiver.queue recv)) (freshEncoder client g) :=
    requests_new (H3StreamReader.new recv) client.writer g
  have requests : Requests g (bodyBytes (Receiver.queue recv)) t.a :=
    Relay.selectRun_kept (requests_kept g _) begun ran
  have front : accepted t.b.calls <+: sent := by
    refine conducts.upload_front.trans (parseFrames_mono _ ?_)
    rw [← requests.draws]
    exact List.prefix_append _ _
  rcases ends with ⟨-, -, b⟩ | ⟨kicked, -, -, b⟩
  · change out.b = t.b at b
    rw [b]
    refine ⟨front, fun positive _ r told => ?_⟩
    obtain ⟨all, done⟩ := conducts.upload_told told
    rw [all]
    obtain ⟨room, asked, eof | ⟨e, failed⟩⟩ := conducts.upload_ended positive done
    · have dry := (requests.ends _ _ eof asked).2 rfl
      have drawn := requests.draws
      rw [Join.Draws, dry, List.append_nil] at drawn
      rw [drawn]
    · exact absurd rfl ((requests.ends _ _ failed asked).1 e)
  · change out.b = _ at b
    rw [b, accepted_shutdownWithin]
    exact ⟨front, fun _ spared => absurd kicked spared⟩

/-- A request in two padding frames, cut elsewhere into body frames, with a datagram between them. -/
def cutRequest : PacedReceiver InboundFrame :=
  ⟨[some (.body [0, 2, 1, 7] false), none, some (.body [8, 0] false), some (.datagram [1]),
    some (.body [0, 1, 0, 9] true)], false⟩

/-- A remote end that answers two bytes and then ends, and makes the tunnel wait both ways. -/
def shortAnswer : Scripted := ⟨[.ready (.ok [5, 6]), .pending, .ready (.ok [])], [.ready (.ok 1), .pending]⟩

def fourTurns : List Turn :=
  [⟨40, 0, false, false⟩, ⟨40, 1, false, false⟩, ⟨40, 2, false, false⟩, ⟨40, 3, false, false⟩]

/-- The tunnel between the two. -/
def cutTunnel : RelayOutcome (Padded (H3Stream (H3StreamReader (PacedReceiver InboundFrame)) ScriptedSender))
    (Traced Scripted) :=
  relay smallBuffer (freshEncoder ⟨.new cutRequest, ⟨⟨⟨[.pending]⟩, []⟩⟩⟩ smallPads) (Traced.start shortAnswer) 0
    fourTurns (1, 1)

theorem h3_upload_faithful_cutTunnel :
    .shutdown (.ready (.ok ())) ∈ cutTunnel.b.calls ∧ accepted cutTunnel.b.calls =
      parseFrames paddingFrames (bodyBytes (Receiver.queue cutRequest)) := by
  have told : .shutdown (.ready (.ok ())) ∈ cutTunnel.b.calls := by decide +kernel
  have spared : cutTunnel.selected ≠ .kicked := by decide +kernel
  exact ⟨told, (h3_upload_faithful smallBuffer cutRequest (ScriptedSender.mk [.pending]) smallPads shortAnswer 0
    fourTurns (1, 1)).2 (by decide) spared _ told⟩

/-- The frames of the response carry a front of what the remote end gave. Unless the tunnel was kicked,
the end is among them only when they carry all of it, once, last, and after the remote end's. -/
theorem h3_download_faithful {R : Type} [AsyncRead R] (config : ConnConfig) (request : R) (sender : S) (g : Rng)
    (remote : B) (start : Nat) (turns : List Turn) (closing : Nat × Nat) :
    let client : H3Stream R S := ⟨request, ⟨⟨sender, []⟩⟩⟩
    let out := relay config (freshEncoder client g) (Traced.start remote) start turns closing
    let response := framesOut out.a
    parseFrames paddingFrames (responseBytes response) <+: returned out.b.calls ∧
      (out.selected ≠ .kicked → finFrame ∈ response →
        parseFrames paddingFrames (responseBytes response) = returned out.b.calls ∧ Ended response ∧
        (0 < config.bufferSize → ∃ room, 0 < room ∧ (.read room (.ready (.ok [])) ∈ out.b.calls ∨
          ∃ e, .read room (.ready (.error e)) ∈ out.b.calls))) := by
  intro client out response
  obtain ⟨t, conducts, ran, ends⟩ := relay_conducts config client g remote start turns closing
  have begun : Boxed (freshEncoder client g).stream.inner := rfl
  have boxed : Boxed t.a.stream.inner :=
    Relay.selectRun_kept (keptByCalls_inner boxed_kept).traced begun ran
  rcases ends with ⟨-, a, b⟩ | ⟨kicked, unrefused, a, b⟩
  · change out.a = t.a at a
    change out.b = t.b at b
    have same : responseBytes response = accepted t.a.stream.inner.calls := by
      rw [← boxed, ← a]
      rfl
    rw [same, b]
    refine ⟨conducts.download_front, fun _ fin => ?_⟩
    change finFrame ∈ framesOut out.a at fin
    change _ ∧ Ended (framesOut out.a) ∧ _
    rw [a] at fin ⊢
    have unasked : FinAsked (freshEncoder client g) := fun member => by cases member
    obtain ⟨r, told⟩ := Relay.selectRun_kept finAsked_kept unasked ran fin
    have opened : Answering (freshEncoder client g) := bodies_nil
    have staged := Relay.selectRun_staged (keptByReads_framesOut Bodies) answered_read answer_phased
      (Relay.staged_new (Traced.start remote) start config.idleTimeoutSecs config.bufferSize opened) ran
    obtain ⟨ended, clear⟩ : Ended (framesOut t.a) ∧ t.a.stream.writePending = none := by
      have client := staged.client
      unfold ByEnd at client
      split_ifs at client
      · rcases client with still | ended
        · exact absurd fin still.fin_notMem
        · exact ended
      · exact absurd fin (Bodies.fin_notMem client)
    obtain ⟨all, done⟩ := conducts.download_told told clear
    exact ⟨all, ended, fun positive => conducts.download_ended positive done⟩
  · change out.a = _ at a
    change out.b = _ at b
    refine ⟨?_, fun spared => absurd kicked spared⟩
    have closed : Boxed out.a.stream.inner := by
      rw [a]
      exact (keptByCalls_inner boxed_kept).traced.shutdownWithin closing.1 boxed
    have accepting : Accepting g out.a := by
      rw [a]
      exact (accepting_guarded g).shutdownWithin closing.1 ⟨conducts.client, unrefused⟩
    have given : accepted out.a.calls <+: returned out.b.calls := by
      rw [a, b, accepted_shutdownWithin, Traced.returned_shutdownWithin]
      exact conducts.download_exact ▸ List.prefix_append _ _
    have same : responseBytes response = accepted out.a.stream.inner.calls := closed
    rw [same]
    exact accepting.front.trans given

theorem h3_download_faithful_cutTunnel :
    finFrame ∈ framesOut cutTunnel.a ∧ cutTunnel.selected ≠ .kicked ∧ 0 < smallBuffer.bufferSize ∧
      parseFrames paddingFrames (responseBytes (framesOut cutTunnel.a)) = returned cutTunnel.b.calls ∧
      Ended (framesOut cutTunnel.a) ∧ ∃ room, 0 < room ∧ (.read room (.ready (.ok [])) ∈ cutTunnel.b.calls ∨
        ∃ e, .read room (.ready (.error e)) ∈ cutTunnel.b.calls) := by
  have fin : finFrame ∈ framesOut cutTunnel.a := by decide +kernel
  have spared : cutTunnel.selected ≠ .kicked := by decide +kernel
  obtain ⟨all, ended, heard⟩ := h3_download_faithful smallBuffer (H3StreamReader.new cutRequest)
    (ScriptedSender.mk [.pending]) smallPads shortAnswer 0 fourTurns (1, 1) |>.2 spared fin
  exact ⟨fin, spared, by decide, all, ended, heard (by decide)⟩

end Tunnel

end ServerNaive
