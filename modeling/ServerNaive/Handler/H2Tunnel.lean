import ServerNaive.Core.RelayIdle
import ServerNaive.Handler.TunnelData
import ServerNaive.Transport.BridgeData
import ServerNaive.Transport.BridgeDuplex
import ServerNaive.Transport.PaddingRoundTrip
import ServerNaive.Transport.PaddingSteady

/-! The tunnel of an H2 request: the bridge on one end of the pipe, and on the other the task that relays
between the padding layer and the remote end. The client, the bridge and the task take their steps in
any order. -/
namespace ServerNaive
open AsyncIo PaddingCodec NaivePaddedTransport

/-- What the task is doing; `over` with the result of the relay, or `none` without one. -/
inductive TunnelStage where
  | connecting
  | relaying
  | closingClient
  | closingRemote
  | over (result : Option (IoResult Bool))
  deriving DecidableEq

/-- The bridge, what the client has sent so far, and the task. The relay holds its end of the bridge's
pipe under the padding layer. -/
structure H2Tunnel (B : Type) where
  bridge : Bridge Bytes
  sent : Bytes
  relay : Relay (Padded DuplexEnd) (Traced B)
  stage : TunnelStage

/-- A step of the client or the bridge, the end of the dialling, a poll of the task's `select!`, or a poll
or the timeout of a shutdown that a kick brings. -/
inductive H2Event where
  | outside (e : BridgeEvent Bytes)
  | connected (now : Nat)
  | connectFailed
  | turn (turn : Turn)
  | closePoll
  | closeTimeout

/-- The parties other than the tunnel. -/
def BridgeEvent.isClientOrBridge : BridgeEvent Bytes → Bool
  | .bridge => true
  | .clientSends _ => true
  | .clientEnds _ => true
  | .clientLost => true
  | .clientReads _ => true
  | _ => false

namespace H2Tunnel

variable {B : Type}

def start (cfg : BridgeConfig) (g : Rng) (yields : List Bool) (remote : B) (idleTimeoutSecs : Nat) : H2Tunnel B where
  bridge := .start cfg
  sent := []
  relay := .new (freshEncoder (.new cfg.capacity yields) g) (.start remote) 0 idleTimeoutSecs cfg.bufferSize false
  stage := .connecting

/-- The tunnel's end of the pipe. -/
def pipeEnd (s : H2Tunnel B) : Traced DuplexEnd := s.relay.a.stream.inner

/-- The bridge has used the pipe. -/
def afterBridge (s : H2Tunnel B) (bridge : Bridge Bytes) (sends : Bytes) : H2Tunnel B :=
  { s with
    bridge
    sent := s.sent ++ sends
    relay := { s.relay with a := s.relay.a.onto (s.pipeEnd.stream.rejoin bridge.upload bridge.download) } }

/-- The task has used the pipe. -/
def afterTask (s : H2Tunnel B) (relay : Relay (Padded DuplexEnd) (Traced B)) (stage : TunnelStage) : H2Tunnel B :=
  { s with relay, stage, bridge := s.bridge.withPipes relay.a.stream.inner.stream }

/-- The task ends and drops its end of the pipe. -/
def finish (cfg : BridgeConfig) (s : H2Tunnel B) (result : Option (IoResult Bool)) : Option (H2Tunnel B) :=
  (s.bridge.step cfg .tunnelEnds).map fun bridge => { s with bridge, stage := .over result }

variable [AsyncRead B] [AsyncWrite B]

def step (cfg : BridgeConfig) (s : H2Tunnel B) : H2Event → Option (H2Tunnel B)
  | .outside e =>
      if e.isClientOrBridge then (s.bridge.step cfg e).map fun bridge => s.afterBridge bridge e.sends else none
  -- the timer of the relay starts with it
  | .connected now =>
      if s.stage = .connecting then
        some { s with stage := .relaying, relay := { s.relay with deadline := now + s.relay.idleTimeout } }
      else none
  | .connectFailed => if s.stage = .connecting then s.finish cfg none else none
  | .turn turn =>
      if s.stage = .relaying then
        match s.relay.select turn with
        -- the poll was not allowed enough passes to come to an end
        | (_, .running) => none
        | (relay, .pending) => some (s.afterTask relay .relaying)
        | (relay, .kicked) => some (s.afterTask relay .closingClient)
        | (relay, .finished result) => (s.afterTask relay .relaying).finish cfg (some result)
      else none
  | .closePoll => match s.stage with
      | .closingClient => match AsyncWrite.pollShutdown s.relay.a with
          | (a, .pending) => some (s.afterTask { s.relay with a } .closingClient)
          | (a, .ready _) => some (s.afterTask { s.relay with a } .closingRemote)
      | .closingRemote => match AsyncWrite.pollShutdown s.relay.b with
          | (b, .pending) => some (s.afterTask { s.relay with b } .closingRemote)
          | (b, .ready _) => (s.afterTask { s.relay with b } .closingRemote).finish cfg none
      | _ => none
  | .closeTimeout => match s.stage with
      | .closingClient => some { s with stage := .closingRemote }
      | .closingRemote => s.finish cfg none
      | _ => none

end H2Tunnel

/-! The tunnel's end of the pipe under the padding layer. -/

section End

/-- The end still takes data. -/
def OpenEnd (x : Traced DuplexEnd) : Prop := x.stream.outgoing.closed = false

def ShutEnd (x : Traced DuplexEnd) : Prop := x.stream.outgoing.closed = true

theorem outgoing_pollRead (x : DuplexEnd) (cap : Nat) : (DuplexEnd.pollRead x cap).1.outgoing = x.outgoing := by
  unfold DuplexEnd.pollRead
  split_ifs <;> rfl

theorem openEnd_read : KeptByReads OpenEnd := by
  intro x cap start
  change (DuplexEnd.pollRead x.stream cap).1.outgoing.closed = false
  rw [outgoing_pollRead]
  exact start

theorem shutEnd_read : KeptByReads ShutEnd := by
  intro x cap start
  change (DuplexEnd.pollRead x.stream cap).1.outgoing.closed = true
  rw [outgoing_pollRead]
  exact start

theorem end_phased : Phased OpenEnd ShutEnd where
  write x buf start := by
    change (DuplexEnd.pollWrite x.stream buf).1.outgoing.closed = false
    unfold DuplexEnd.pollWrite
    split_ifs <;> exact start
  flush _ start := start
  waits _ polled := by cases congrArg Prod.snd polled
  shuts _ polled := by
    obtain rfl := congrArg Prod.fst polled
    rfl

theorem end_steady : Steady OpenEnd where
  write {x next buf e} start polled := by
    have answer : (DuplexEnd.pollWrite x.stream buf).2 = .ready (.error e) := congrArg Prod.snd polled
    unfold DuplexEnd.pollWrite at answer
    split_ifs at answer with yields closed full
    · cases start.symm.trans closed
    · cases answer
  progress {x next buf} start offer polled := by
    have answer : (DuplexEnd.pollWrite x.stream buf).2 = .ready (.ok 0) := congrArg Prod.snd polled
    unfold DuplexEnd.pollWrite at answer
    split_ifs at answer with yields closed full
    · cases answer
    · have none_taken := Except.ok.inj (Poll.ready.inj answer)
      have some_offered := List.length_pos_iff.mpr offer
      omega
  flush _ polled := by cases congrArg Prod.snd polled

/-- The padding layer over an end that still takes data, and over one that was shut down properly. -/
def OpenPadded (e : Padded DuplexEnd) : Prop := OpenBelow OpenEnd e.stream

def ShutPadded (e : Padded DuplexEnd) : Prop := ShutBelow ShutEnd e.stream

theorem padded_phased : Phased OpenPadded ShutPadded := Traced.phased (steady_phased end_phased end_steady)

theorem openPadded_read : KeptByReads OpenPadded := fun e cap start => openBelow_read openEnd_read e.stream cap start

theorem shutPadded_read : KeptByReads ShutPadded := fun e cap start => shutBelow_read shutEnd_read e.stream cap start

/-- The pipe to the tunnel has come to its end. -/
def PipeEnded (x : Traced DuplexEnd) : Prop := x.stream.incoming.closed = true ∧ x.stream.incoming.data = []

theorem pipeEnded_kept : KeptByCalls PipeEnded where
  read x cap h := by
    change (DuplexEnd.pollRead x.stream cap).1.incoming.closed = true ∧ _
    change _ ∧ (DuplexEnd.pollRead x.stream cap).1.incoming.data = []
    unfold DuplexEnd.pollRead
    split_ifs with yields some_there
    · exact h
    · exact absurd h.2 some_there
    · exact h
    · exact h
  write x buf h := by
    change (DuplexEnd.pollWrite x.stream buf).1.incoming.closed = true ∧ _
    change _ ∧ (DuplexEnd.pollWrite x.stream buf).1.incoming.data = []
    unfold DuplexEnd.pollWrite
    split_ifs <;> exact h
  flush _ h := h
  shutdown _ h := h

theorem NaivePaddedTransport.LastRead.unfailed {x : Traced DuplexEnd} {e : IoError} (h : LastRead (.ready (.error e)) x) : False := by
  obtain ⟨before, cap, -, polled⟩ := h
  have answer : (DuplexEnd.pollRead before.stream cap).2 = .ready (.error e) := congrArg Prod.snd polled
  unfold DuplexEnd.pollRead at answer
  split_ifs at answer <;> cases answer

theorem NaivePaddedTransport.LastRead.pipeEnded {x : Traced DuplexEnd} (h : LastRead (.ready (.ok [])) x) : PipeEnded x := by
  obtain ⟨before, cap, room, polled⟩ := h
  obtain ⟨rfl, answer⟩ := Prod.mk.inj polled
  change (DuplexEnd.pollRead before.stream cap).2 = .ready (.ok []) at answer
  change (DuplexEnd.pollRead before.stream cap).1.incoming.closed = true ∧
    (DuplexEnd.pollRead before.stream cap).1.incoming.data = []
  unfold DuplexEnd.pollRead at answer ⊢
  split_ifs at answer ⊢ with yields some_there closed
  · have none_taken := Except.ok.inj (Poll.ready.inj answer)
    rcases List.take_eq_nil_iff.mp none_taken with zero | empty
    · omega
    · exact absurd empty some_there
  · exact ⟨closed, not_not.mp some_there⟩

/-- A read with room never fails, and it finds the end only when the pipe has come to its end. -/
def EndIsPipeEnd (e : Padded DuplexEnd) : Prop := ReadsTo (fun t => PipeEnded t.inner) e

theorem endIsPipeEnd_kept (g : Rng) : KeptByCalls fun e => Mirrors g e ∧ EndIsPipeEnd e := by
  refine (mirrors_kept (S := DuplexEnd) g).readsTo (keptByCalls_inner pipeEnded_kept) ?_
  intro e cap mirror room
  have last := pollRead_last mirror.ok room (t := e.stream) Prod.mk.eta.symm
  constructor
  · intro failure failed
    change (pollRead e.stream cap).2 = _ at failed
    rw [failed] at last
    exact (last fun _ other => by cases other).unfailed
  · intro eof
    change (pollRead e.stream cap).2 = _ at eof
    rw [eof] at last
    exact (last fun _ same => by cases same; rfl).pipeEnded

end End

/-! The steps of the client and the bridge. -/

namespace Bridge

/-- What the client and the bridge leave as it is. -/
structure Aside (e : BridgeEvent Bytes) (b c : Bridge Bytes) : Prop where
  runs : c.tunnelOver = b.tunnelOver
  takes : e.takes b = []
  puts : e.puts = []
  closed : b.download.closed = true → c.download.closed = true
  fin : b.fin = true → c.fin = true ∧ e.sends = []

theorem step_aside {cfg : BridgeConfig} {b c : Bridge Bytes} {e : BridgeEvent Bytes} (aside : e.isClientOrBridge = true)
    (stepped : b.step cfg e = some c) : Aside e b c := by
  cases e with
  | bridge =>
      cases advance_moves stepped with
      | leave => exact ⟨rfl, rfl, rfl, fun _ => rfl, fun fin => ⟨fin, rfl⟩⟩
      | ended | take | fetch | finish | upDone | upBroken | up | downDone | downBroken | down =>
          exact ⟨rfl, rfl, rfl, id, fun fin => ⟨fin, rfl⟩⟩
  | clientSends chunk =>
      rw [step] at stepped
      split_ifs at stepped with ended
      cases stepped
      exact ⟨rfl, rfl, rfl, id, fun fin => absurd (.inl fin) ended⟩
  | clientEnds =>
      rw [step] at stepped
      split_ifs at stepped with ended
      cases stepped
      exact ⟨rfl, rfl, rfl, id, fun _ => ⟨rfl, rfl⟩⟩
  | clientLost =>
      cases stepped
      exact ⟨rfl, rfl, rfl, id, fun fin => ⟨fin, rfl⟩⟩
  | clientReads n =>
      rw [step] at stepped
      split_ifs at stepped
      cases stepped
      exact ⟨rfl, rfl, rfl, id, fun fin => ⟨fin, rfl⟩⟩
  | tunnelReads | tunnelWrites | tunnelShuts | tunnelEnds => cases aside

end Bridge

/-! All parties together. -/

namespace H2Tunnel

variable {B : Type}

/-- Both hold the same pipe, and the task has not dropped its end. -/
structure Joined (cfg : BridgeConfig) (s : H2Tunnel B) : Prop where
  runs : s.bridge.tunnelOver = false
  pipes : s.bridge.withPipes s.pipeEnd.stream = s.bridge
  capacity : s.pipeEnd.stream.capacity = cfg.capacity

/-- The relay, after any of its polls. -/
structure Relayed (cfg : BridgeConfig) (g : Rng) (s : H2Tunnel B) : Prop where
  conducts : Conducts g cfg.bufferSize s.relay
  ends : EndIsPipeEnd s.relay.a
  staged : s.bridge.lost = false → s.relay.Staged OpenPadded ShutPadded

/-- The remote end has everything that a client that has ended has sent. -/
def ToldAll (s : H2Tunnel B) : Prop :=
  accepted s.relay.b.calls = parseFrames paddingFrames s.sent ∧ s.bridge.fin = true

/-- The remote end's stream has ended or failed. -/
def RemoteEnded (s : H2Tunnel B) : Prop :=
  ∃ room, 0 < room ∧ (.read room (.ready (.ok [])) ∈ s.relay.b.calls ∨
    ∃ e, .read room (.ready (.error e)) ∈ s.relay.b.calls)

/-- All that the remote end gave is in the pipe or past it. -/
def Answered (s : H2Tunnel B) : Prop :=
  parseFrames paddingFrames (accepted s.pipeEnd.calls) = returned s.relay.b.calls ∧ s.RemoteEnded

/-- Where all bytes are. -/
structure Carries (cfg : BridgeConfig) (s : H2Tunnel B) : Prop where
  ledger : Bridge.Ledger cfg s.sent (returned s.pipeEnd.calls) (accepted s.pipeEnd.calls) s.bridge
  up : accepted s.relay.b.calls <+: parseFrames paddingFrames (returned s.pipeEnd.calls)
  down : parseFrames paddingFrames (accepted s.pipeEnd.calls) <+: returned s.relay.b.calls

/-- What holds whoever has taken the last step. -/
structure Sound (cfg : BridgeConfig) (g : Rng) (s : H2Tunnel B) : Prop extends Carries cfg s where
  joined : (∀ result, s.stage ≠ .over result) → s.Joined cfg
  relaying : s.stage = .connecting ∨ s.stage = .relaying → s.Relayed cfg g ∧ Unrefused s.relay.a.calls
  closing : s.stage = .closingClient →
    Accepting g s.relay.a ∧ accepted s.relay.a.calls <+: returned s.relay.b.calls
  settled : ∀ result, s.stage = .over (some result) → 0 < cfg.bufferSize → s.bridge.lost = false →
    ((∃ r, .shutdown r ∈ s.relay.b.calls) → s.ToldAll) ∧ (result = .ok true → s.Answered)

section States

variable {cfg : BridgeConfig} {g : Rng} {s : H2Tunnel B}

theorem sound_start (cfg : BridgeConfig) (g : Rng) (yields : List Bool) (remote : B) (idleTimeoutSecs : Nat) :
    Sound cfg g (start cfg g yields remote idleTimeoutSecs) where
  ledger := .start cfg
  up := List.nil_prefix
  down := List.nil_prefix
  joined _ := ⟨rfl, rfl, rfl⟩
  relaying _ := by
    have conducts := Conducts.new (DuplexEnd.new cfg.capacity yields) remote g 0 idleTimeoutSecs cfg.bufferSize false
    refine ⟨⟨conducts, (fun _ _ member => by cases member), fun _ => ?_⟩, fun _ member => by cases member⟩
    exact Relay.staged_new _ 0 idleTimeoutSecs cfg.bufferSize ⟨rfl, fun _ queued => by cases queued⟩
  closing other := by cases other
  settled _ other := by cases other

/-- An upload that has found the client's end has taken all that the client sent. -/
theorem Relayed.taken_all (h : s.Relayed cfg g) (joined : s.Joined cfg)
    (ledger : Bridge.Ledger cfg s.sent (returned s.pipeEnd.calls) (accepted s.pipeEnd.calls) s.bridge)
    (positive : 0 < cfg.bufferSize) (connected : s.bridge.lost = false) (ended : s.relay.aToB.readDone = true) :
    PipeEnded s.pipeEnd ∧ returned s.pipeEnd.calls = s.sent ∧ s.bridge.fin = true := by
  obtain ⟨room, asked, eof | ⟨e, failed⟩⟩ := h.conducts.upload_ended positive ended
  · obtain ⟨closed, empty⟩ := (h.ends _ _ eof asked).2 rfl
    have upload : s.bridge.upload = s.pipeEnd.stream.incoming := congrArg Bridge.upload joined.pipes.symm
    exact ⟨⟨closed, empty⟩, ledger.taken_all connected joined.runs (upload ▸ closed) (upload ▸ empty)⟩
  · exact absurd rfl ((h.ends _ _ failed asked).1 e)

/-- The remote end is told of an end only when it has everything. -/
theorem Relayed.told (h : s.Relayed cfg g) (joined : s.Joined cfg)
    (ledger : Bridge.Ledger cfg s.sent (returned s.pipeEnd.calls) (accepted s.pipeEnd.calls) s.bridge)
    (positive : 0 < cfg.bufferSize) (connected : s.bridge.lost = false) {r : PollResult Unit}
    (told : .shutdown r ∈ s.relay.b.calls) : s.ToldAll := by
  obtain ⟨all, done⟩ := h.conducts.upload_told told
  obtain ⟨-, same, fin⟩ := h.taken_all joined ledger positive connected done
  rw [ToldAll, ← same]
  exact ⟨all, fin⟩

/-- A download that is done is in the pipe. -/
theorem Relayed.answered (h : s.Relayed cfg g) (unrefused : Unrefused s.relay.a.calls) (positive : 0 < cfg.bufferSize)
    (connected : s.bridge.lost = false) (done : s.relay.bToA.isDone = true) : s.Answered := by
  have shut : ShutPadded s.relay.a := by
    have client := (h.staged connected).client
    have shutdownDone : s.relay.bToA.shutdownDone = true := done
    unfold ByEnd at client
    rw [if_pos shutdownDone] at client
    exact client
  obtain ⟨all, ended⟩ := h.conducts.download_done unrefused done shut.2
  exact ⟨all, h.conducts.download_ended positive ended⟩

/-- While the task relays, only the end of the download closes its half of the pipe. -/
theorem Relayed.done_of_closed (h : s.Relayed cfg g) (joined : s.Joined cfg) (connected : s.bridge.lost = false)
    (closed : s.bridge.download.closed = true) : s.relay.bToA.isDone = true := by
  have client := (h.staged connected).client
  unfold ByEnd at client
  split_ifs at client with done
  · exact done
  · have opened : s.pipeEnd.stream.outgoing.closed = false := client.1
    have download : s.bridge.download = s.pipeEnd.stream.outgoing := congrArg Bridge.download joined.pipes.symm
    cases opened.symm.trans (download ▸ closed)

/-- A step of the client or the bridge. -/
theorem Sound.outside (h : s.Sound cfg g) {e : BridgeEvent Bytes} {bridge : Bridge Bytes}
    (aside : e.isClientOrBridge = true) (stepped : s.bridge.step cfg e = some bridge) :
    (s.afterBridge bridge e.sends).Sound cfg g := by
  have still := Bridge.step_aside aside stepped
  have kept := Bridge.step_irreversible h.ledger.valid stepped
  have connected (now : bridge.lost = false) : s.bridge.lost = false := by
    cases before : s.bridge.lost with
    | false => rfl
    | true => cases now.symm.trans (kept.lost before)
  have ledger := h.ledger.step stepped
  rw [still.takes, still.puts, List.append_nil, List.append_nil] at ledger
  refine ⟨⟨ledger, h.up, h.down⟩, ?_, ?_, ?_, ?_⟩
  · intro going
    have joined := h.joined going
    exact ⟨still.runs.trans joined.runs, rfl, joined.capacity⟩
  · intro relaying
    obtain ⟨relayed, unrefused⟩ := h.relaying relaying
    have joined := h.joined fun result other => by
      rcases relaying with same | same <;> cases same.symm.trans other
    have upload : s.bridge.upload = s.pipeEnd.stream.incoming := congrArg Bridge.upload joined.pipes.symm
    have download : s.bridge.download = s.pipeEnd.stream.outgoing := congrArg Bridge.download joined.pipes.symm
    refine ⟨⟨relayed.conducts.onto _, ?_, ?_⟩, unrefused⟩
    · intro cap r member room
      obtain ⟨fine, ended⟩ := relayed.ends cap r member room
      refine ⟨fine, fun eof => ?_⟩
      obtain ⟨closed, empty⟩ := ended eof
      obtain ⟨closed', empty'⟩ := kept.ended (upload ▸ closed) (upload ▸ congrArg List.length empty)
      exact ⟨closed', List.eq_nil_of_length_eq_zero empty'⟩
    · intro now
      have staged := relayed.staged (connected now)
      refine ⟨staged.up, staged.down, ?_⟩
      have client := staged.client
      change ByEnd _ _ s.relay.bToA.shutdownDone _
      unfold ByEnd at client ⊢
      split_ifs at client ⊢
      · exact ⟨still.closed (download ▸ client.1), client.2⟩
      · refine ⟨?_, client.2⟩
        -- of these parties only a bridge that has lost its client closes the half
        cases closed : bridge.download.closed with
        | false => exact closed
        | true =>
            rcases kept.closes closed with before | dropped | lost | shuts
            · cases (download ▸ client.1 : s.bridge.download.closed = false).symm.trans before
            · cases (still.runs.trans joined.runs).symm.trans dropped
            · cases now.symm.trans lost
            · cases shuts
              cases aside
  · intro closing
    obtain ⟨accepting, front⟩ := h.closing closing
    exact ⟨⟨accepting.1.onto _, accepting.2⟩, front⟩
  · intro result finished positive now
    obtain ⟨told, answered⟩ := h.settled result finished positive (connected now)
    refine ⟨?_, answered⟩
    rintro ⟨r, shutdown⟩
    obtain ⟨all, fin⟩ := told ⟨r, shutdown⟩
    obtain ⟨fin', unsent⟩ := still.fin fin
    refine ⟨?_, fin'⟩
    change accepted s.relay.b.calls = parseFrames paddingFrames (s.sent ++ e.sends)
    rw [unsent, List.append_nil]
    exact all

theorem Sound.hosts (h : s.Sound cfg g) (joined : s.Joined cfg) : Bridge.Hosts cfg s.bridge s.sent s.pipeEnd := by
  refine ⟨?_, joined.capacity⟩
  rw [joined.pipes]
  exact h.ledger

theorem Joined.afterTask (h : s.Joined cfg) {relay : Relay (Padded DuplexEnd) (Traced B)} {stage : TunnelStage}
    (capacity : relay.a.stream.inner.stream.capacity = cfg.capacity) : (s.afterTask relay stage).Joined cfg :=
  ⟨h.runs, rfl, capacity⟩

/-- The end of the task keeps what it has done. -/
theorem Carries.finish (h : s.Carries cfg) {t : H2Tunnel B} {result : Option (IoResult Bool)}
    (ended : s.finish cfg result = some t)
    (settles : ∀ r, result = some r → 0 < cfg.bufferSize → s.bridge.lost = false →
      ((∃ r, .shutdown r ∈ s.relay.b.calls) → s.ToldAll) ∧ (r = .ok true → s.Answered)) : t.Sound cfg g := by
  obtain ⟨bridge, stepped, rfl⟩ := Option.map_eq_some_iff.mp ended
  have ledger := h.ledger.step stepped
  simp only [BridgeEvent.sends, BridgeEvent.takes, BridgeEvent.puts, List.append_nil] at ledger
  rw [Bridge.step] at stepped
  split_ifs at stepped
  cases stepped
  refine ⟨⟨ledger, h.up, h.down⟩, fun going => absurd rfl (going result), fun other => ?_, fun other => ?_, ?_⟩
  · rcases other with other | other <;> cases other
  · cases other
  · intro r finished
    cases finished
    exact settles r rfl

variable [AsyncRead B] [AsyncWrite B]

/-- A poll of the relay. -/
theorem Sound.select (h : s.Sound cfg g) (relaying : s.stage = .relaying) {turn : Turn}
    {relay : Relay (Padded DuplexEnd) (Traced B)} {r : Selected} (selected : s.relay.select turn = (relay, r))
    (stage : TunnelStage) :
    (s.afterTask relay stage).Carries cfg ∧ (s.afterTask relay stage).Joined cfg ∧
      (s.afterTask relay stage).Relayed cfg g ∧ (Unrefused relay.a.calls ∨ ∃ e, r = .finished (.error e)) := by
  obtain ⟨relayed, unrefused⟩ := h.relaying (.inr relaying)
  have joined := h.joined fun result other => by cases relaying.symm.trans other
  obtain ⟨conducts, answer⟩ := relayed.conducts.select unrefused selected
  have host := Relay.select_kept (keptByCalls_inner (Bridge.hosts_kept joined.runs s.sent)).traced (h.hosts joined)
    selected
  have ends := Relay.select_kept (endIsPipeEnd_kept g) ⟨relayed.conducts.client, relayed.ends⟩ selected
  refine ⟨⟨host.ledger, conducts.upload_front, conducts.download_front⟩, joined.afterTask host.capacity,
    ⟨conducts, ends.2, fun connected => ?_⟩, answer⟩
  exact Relay.select_staged openPadded_read shutPadded_read padded_phased (relayed.staged connected) selected

omit [AsyncRead B] [AsyncWrite B] in
/-- A stage behind which nothing is claimed but where the bytes are. -/
theorem Carries.closingRemote (h : s.Carries cfg) (joined : s.Joined cfg) (stage : s.stage = .closingRemote) :
    s.Sound cfg g := by
  refine ⟨h, fun _ => joined, ?_, ?_, ?_⟩
  · rintro (other | other) <;> cases stage.symm.trans other
  · intro other
    cases stage.symm.trans other
  · intro result other
    cases stage.symm.trans other

theorem completed_done {relay next : Relay (Padded DuplexEnd) (Traced B)} {turn : Turn}
    (selected : relay.select turn = (next, .finished (.ok true))) : next.bToA.isDone = true := by
  unfold Relay.select at selected
  by_cases first : turn.cancelFirst ∧ turn.cancelled
  · rw [if_pos first] at selected
    cases selected
  · rw [if_neg first] at selected
    split at selected
    · rename_i t r polled
      cases selected
      cases Relay.poll_ends polled with
      | settles advances timer settled =>
          unfold Relay.settle at settled
          split_ifs at settled with done
          · cases settled
            exact done.2
          · cases congrArg Prod.snd settled
          · cases congrArg Prod.snd settled
    · cases selected
    · split_ifs at selected <;> cases selected

theorem Sound.turn (h : s.Sound cfg g) {turn : Turn} {t : H2Tunnel B} (stepped : s.step cfg (.turn turn) = some t) :
    t.Sound cfg g := by
  rw [step] at stepped
  split_ifs at stepped with relaying
  split at stepped
  · cases stepped
  · rename_i relay selected
    obtain ⟨carries, joined, relayed, unrefused | ⟨e, failed⟩⟩ := h.select relaying selected .relaying
    · cases stepped
      refine ⟨carries, fun _ => joined, fun _ => ⟨relayed, unrefused⟩, ?_, ?_⟩
      · intro other
        cases other
      · intro result other
        cases other
    · cases failed
  · rename_i relay selected
    obtain ⟨carries, joined, relayed, unrefused | ⟨e, failed⟩⟩ := h.select relaying selected .closingClient
    · cases stepped
      refine ⟨carries, fun _ => joined, ?_, ?_, ?_⟩
      · rintro (other | other) <;> cases other
      · intro _
        refine ⟨⟨relayed.conducts.client, unrefused⟩, ?_⟩
        rw [← relayed.conducts.download_exact]
        exact List.prefix_append _ _
      · intro result other
        cases other
    · cases failed
  · rename_i relay result selected
    obtain ⟨carries, joined, relayed, answer⟩ := h.select relaying selected .relaying
    refine carries.finish stepped ?_
    intro r same positive connected
    cases same
    constructor
    · rintro ⟨answer, told⟩
      exact relayed.told joined carries.ledger positive connected told
    · rintro rfl
      rcases answer with unrefused | ⟨e, failed⟩
      · exact relayed.answered unrefused positive connected (completed_done selected)
      · cases failed

omit [AsyncRead B] [AsyncWrite B] in
/-- A poll of the client's shutdown after a kick. -/
theorem Sound.shutClient (h : s.Sound cfg g) (closing : s.stage = .closingClient) {a : Padded DuplexEnd}
    {r : PollResult Unit} (polled : AsyncWrite.pollShutdown s.relay.a = (a, r)) (stage : TunnelStage) :
    (s.afterTask { s.relay with a } stage).Carries cfg ∧ (s.afterTask { s.relay with a } stage).Joined cfg ∧
      Accepting g a ∧ accepted a.calls <+: returned s.relay.b.calls := by
  have joined := h.joined fun result other => by cases closing.symm.trans other
  obtain ⟨accepting, front⟩ := h.closing closing
  have host := (keptByCalls_inner (Bridge.hosts_kept joined.runs s.sent)).traced.shutdown s.relay.a (h.hosts joined)
  have read := (keptByCalls_inner (Traced.returned_kept (returned s.pipeEnd.calls))).traced.shutdown s.relay.a
    (List.prefix_refl _)
  have kept := (accepting_guarded g).shutdown s.relay.a accepting
  have taken := Traced.accepted_pollShutdown polled
  rw [polled] at host read kept
  rw [← taken] at front
  exact ⟨⟨host.ledger, h.up.trans (parseFrames_mono _ read), kept.front.trans front⟩, joined.afterTask host.capacity,
    kept, front⟩

omit [AsyncRead B] in
/-- A poll of the remote end's. -/
theorem Sound.shutRemote (h : s.Sound cfg g) (closing : s.stage = .closingRemote) {b : Traced B}
    {r : PollResult Unit} (polled : AsyncWrite.pollShutdown s.relay.b = (b, r)) :
    (s.afterTask { s.relay with b } .closingRemote).Carries cfg ∧
      (s.afterTask { s.relay with b } .closingRemote).Joined cfg := by
  have joined := h.joined fun result other => by cases closing.symm.trans other
  refine ⟨⟨?_, ?_, ?_⟩, joined.afterTask joined.capacity⟩
  · exact (h.hosts joined).ledger
  · change accepted b.calls <+: _
    rw [Traced.accepted_pollShutdown polled]
    exact h.up
  · change _ <+: returned b.calls
    rw [Traced.returned_pollShutdown polled]
    exact h.down

theorem Sound.closePoll (h : s.Sound cfg g) {t : H2Tunnel B} (stepped : s.step cfg .closePoll = some t) :
    t.Sound cfg g := by
  rw [step] at stepped
  split at stepped
  · rename_i closing
    split at stepped
    · rename_i a polled
      obtain ⟨carries, joined, accepting, front⟩ := h.shutClient closing polled .closingClient
      cases stepped
      refine ⟨carries, fun _ => joined, ?_, fun _ => ⟨accepting, front⟩, ?_⟩
      · rintro (other | other) <;> cases other
      · intro result other
        cases other
    · rename_i a answer polled
      obtain ⟨carries, joined, -⟩ := h.shutClient closing polled .closingRemote
      cases stepped
      exact carries.closingRemote joined rfl
  · rename_i closing
    split at stepped
    · rename_i b polled
      obtain ⟨carries, joined⟩ := h.shutRemote closing polled
      cases stepped
      exact carries.closingRemote joined rfl
    · rename_i b answer polled
      obtain ⟨carries, -⟩ := h.shutRemote closing polled
      exact carries.finish stepped fun _ other => by cases other
  · cases stepped

theorem step_sound {e : H2Event} {t : H2Tunnel B} (h : s.Sound cfg g) (stepped : s.step cfg e = some t) :
    t.Sound cfg g := by
  cases e with
  | outside e =>
      rw [step] at stepped
      split_ifs at stepped with aside
      obtain ⟨bridge, moved, rfl⟩ := Option.map_eq_some_iff.mp stepped
      exact h.outside aside moved
  | connected now =>
      rw [step] at stepped
      split_ifs at stepped with connecting
      cases stepped
      obtain ⟨relayed, unrefused⟩ := h.relaying (.inl connecting)
      have joined := h.joined fun result other => by cases connecting.symm.trans other
      have later : Conducts g cfg.bufferSize { s.relay with deadline := now + s.relay.idleTimeout } :=
        ⟨relayed.conducts.client, relayed.conducts.state, relayed.conducts.up, relayed.conducts.down,
          relayed.conducts.upHeard, relayed.conducts.downHeard⟩
      refine ⟨⟨h.ledger, h.up, h.down⟩, fun _ => ⟨joined.runs, joined.pipes, joined.capacity⟩, fun _ => ?_, ?_, ?_⟩
      · refine ⟨⟨later, relayed.ends, fun connected => ?_⟩, unrefused⟩
        have staged := relayed.staged connected
        exact ⟨staged.up, staged.down, staged.client⟩
      · intro other
        cases other
      · intro result other
        cases other
  | connectFailed =>
      rw [step] at stepped
      split_ifs at stepped
      exact h.toCarries.finish stepped fun _ other => by cases other
  | turn turn => exact h.turn stepped
  | closePoll => exact h.closePoll stepped
  | closeTimeout =>
      rw [step] at stepped
      split at stepped
      · rename_i closing
        have joined := h.joined fun result other => by cases closing.symm.trans other
        cases stepped
        have carries : Carries cfg { s with stage := .closingRemote } := ⟨h.ledger, h.up, h.down⟩
        exact carries.closingRemote ⟨joined.runs, joined.pipes, joined.capacity⟩ rfl
      · exact h.toCarries.finish stepped fun _ other => by cases other
      · cases stepped

end States

section Runs

variable [AsyncRead B] [AsyncWrite B]

/-- The bridge of a running tunnel is in a state that it can reach among parties that do what they like,
so what holds of it whatever the tunnel does holds of it here. -/
theorem h2_refines_bridge (cfg : BridgeConfig) (g : Rng) (yields : List Bool) (remote : B) (idleTimeoutSecs : Nat)
    (schedule : List H2Event) (s : H2Tunnel B)
    (ran : follow (step cfg) (start cfg g yields remote idleTimeoutSecs) schedule = some s) :
    ∃ events, follow (Bridge.step cfg) (.start cfg) events = some s.bridge := by
  have sound : s.Sound cfg g := follow_invariant step_sound (sound_start cfg g yields remote idleTimeoutSecs) ran
  exact sound.ledger.reached

/-- A client that lets the session send three bytes at a time. -/
def smallBridge : BridgeConfig := ⟨16, 3, by decide⟩

/-- A remote end that answers one byte and ends, and makes the tunnel wait both ways. -/
def oneByteAnswer : Scripted := ⟨[.pending, .ready (.ok [5]), .pending, .ready (.ok [])], [.pending]⟩

/-- The client sends one byte in a frame and ends, and reads the answer. -/
def wholeExchange : List H2Event :=
  [.connected 0, .turn ⟨40, 0, false, false⟩, .outside (.clientSends [0, 1, 0, 7]), .outside .bridge,
    .outside .bridge, .turn ⟨40, 1, false, false⟩, .outside .bridge, .outside (.clientEnds true),
    .turn ⟨40, 2, false, false⟩, .outside .bridge, .turn ⟨40, 3, false, false⟩, .outside .bridge, .outside .bridge,
    .outside (.clientReads 2), .outside .bridge, .outside .bridge, .outside .bridge, .outside .bridge]

theorem wholeExchange_runs :
    (follow (step smallBridge) (start smallBridge smallPads [] oneByteAnswer 60) wholeExchange).isSome = true := by
  decide +kernel

/-- Where it leads. -/
def exchanged : H2Tunnel Scripted :=
  (follow (step smallBridge) (start smallBridge smallPads [] oneByteAnswer 60) wholeExchange).get wholeExchange_runs

theorem exchanged_ran :
    follow (step smallBridge) (start smallBridge smallPads [] oneByteAnswer 60) wholeExchange = some exchanged :=
  (Option.some_get wholeExchange_runs).symm

theorem h2_refines_bridge_exchanged :
    exchanged.bridge.endMarks = 1 ∧ ∃ events, follow (Bridge.step smallBridge) (.start smallBridge) events =
      some exchanged.bridge :=
  ⟨by decide +kernel, h2_refines_bridge smallBridge smallPads [] oneByteAnswer 60 wholeExchange exchanged exchanged_ran⟩

/-- At every point of every run the remote end has a front of what the client's bytes carry. It is told
of an end only when the client has ended and it has everything, unless the client was lost or the
tunnel kicked. -/
theorem h2_upload_faithful (cfg : BridgeConfig) (g : Rng) (yields : List Bool) (remote : B) (idleTimeoutSecs : Nat)
    (schedule : List H2Event) (s : H2Tunnel B)
    (ran : follow (step cfg) (start cfg g yields remote idleTimeoutSecs) schedule = some s) :
    accepted s.relay.b.calls <+: parseFrames paddingFrames s.sent ∧
      (0 < cfg.bufferSize → s.bridge.lost = false → (s.stage = .relaying ∨ ∃ result, s.stage = .over (some result)) →
        ∀ r, .shutdown r ∈ s.relay.b.calls →
          accepted s.relay.b.calls = parseFrames paddingFrames s.sent ∧ s.bridge.fin = true) := by
  have sound : s.Sound cfg g := follow_invariant step_sound (sound_start cfg g yields remote idleTimeoutSecs) ran
  constructor
  · refine sound.up.trans (parseFrames_mono _ ?_)
    have forwarded : returned s.pipeEnd.calls <+: s.bridge.forwarded := ⟨_, sound.ledger.up.upload⟩
    exact (forwarded.trans (List.prefix_append _ _)).trans sound.ledger.up.front
  · rintro positive connected (relaying | ⟨result, finished⟩) r told
    · have joined := sound.joined fun result other => by cases relaying.symm.trans other
      exact (sound.relaying (.inr relaying)).1.told joined sound.ledger positive connected told
    · exact (sound.settled result finished positive connected).1 ⟨r, told⟩

theorem h2_upload_faithful_exchanged :
    .shutdown (.ready (.ok ())) ∈ exchanged.relay.b.calls ∧
      accepted exchanged.relay.b.calls = parseFrames paddingFrames exchanged.sent ∧ exchanged.bridge.fin = true := by
  have told : .shutdown (.ready (.ok ())) ∈ exchanged.relay.b.calls := by decide +kernel
  have finished : exchanged.stage = .over (some (.ok true)) := by decide +kernel
  have faithful := h2_upload_faithful smallBridge smallPads [] oneByteAnswer 60 wholeExchange exchanged exchanged_ran
  exact ⟨told, faithful.2 (by decide) (by decide +kernel) (.inr ⟨_, finished⟩) _ told⟩

/-- At every point of every run the client has been given a front of an encoding of what the remote end
gave. The end of the response is marked once at most, and only behind all of it, after the remote end's,
unless the client was lost or the relay was kicked, timed out or failed. -/
theorem h2_download_faithful (cfg : BridgeConfig) (g : Rng) (yields : List Bool) (remote : B)
    (idleTimeoutSecs : Nat) (schedule : List H2Event) (s : H2Tunnel B)
    (ran : follow (step cfg) (start cfg g yields remote idleTimeoutSecs) schedule = some s) :
    parseFrames paddingFrames s.bridge.given <+: returned s.relay.b.calls ∧ s.bridge.endMarks ≤ 1 ∧
      (0 < cfg.bufferSize → s.bridge.lost = false → (s.stage = .relaying ∨ s.stage = .over (some (.ok true))) →
        0 < s.bridge.endMarks →
          parseFrames paddingFrames s.bridge.given = returned s.relay.b.calls ∧ s.RemoteEnded) := by
  have sound : s.Sound cfg g := follow_invariant step_sound (sound_start cfg g yields remote idleTimeoutSecs) ran
  refine ⟨?_, ?_, ?_⟩
  · refine (parseFrames_mono _ ?_).trans sound.down
    exact (List.prefix_append _ _).trans sound.ledger.down.given
  · obtain ⟨events, reached⟩ := sound.ledger.reached
    exact BridgeLog.endMarks_le_one reached
  · intro positive connected spared mark
    rw [sound.ledger.given_all mark]
    rcases spared with relaying | finished
    · have joined := sound.joined fun result other => by cases relaying.symm.trans other
      obtain ⟨relayed, unrefused⟩ := sound.relaying (.inr relaying)
      have done := relayed.done_of_closed joined connected (sound.ledger.down.marked mark).2.1
      exact relayed.answered unrefused positive connected done
    · exact (sound.settled _ finished positive connected).2 rfl

theorem h2_download_faithful_exchanged :
    exchanged.bridge.endMarks = 1 ∧
      parseFrames paddingFrames exchanged.bridge.given = returned exchanged.relay.b.calls ∧ exchanged.RemoteEnded := by
  have marked : 0 < exchanged.bridge.endMarks := by decide +kernel
  have finished : exchanged.stage = .over (some (.ok true)) := by decide +kernel
  have faithful := h2_download_faithful smallBridge smallPads [] oneByteAnswer 60 wholeExchange exchanged exchanged_ran
  exact ⟨Nat.le_antisymm faithful.2.1 marked, faithful.2.2 (by decide) (by decide +kernel) (.inr finished) marked⟩

end Runs

end H2Tunnel

end ServerNaive
