import ServerNaive.Handler.Answer
import ServerNaive.Transport.QuicheStream

/-! How the response of an H3 tunnel ends. The relay shuts the client's stream down once, and so
does the datagram handler; a kick shuts it down again. -/
namespace ServerNaive
open AsyncIo StdNet

/-- `Shut` once a direction is done with its writer, `Open` before. -/
def ByEnd {W : Type} (Open Shut : W → Prop) (done : Bool) (w : W) : Prop :=
  if done then Shut w else Open w

theorem ByEnd.keptByReads {R : Type} [AsyncRead R] {Open Shut : R → Prop} (opened : KeptByReads Open)
    (shut : KeptByReads Shut) (done : Bool) : KeptByReads (ByEnd Open Shut done) := by
  cases done with
  | false => exact opened
  | true => exact shut

namespace Copy

variable {R W : Type} {I : R → Prop} {Open Shut : W → Prop}

/-- A direction that forwards its reader's end and has not done so yet. -/
structure Going (I : R → Prop) (Open : W → Prop) (c : Copy R W) : Prop where
  forwards : c.dir.suppressShutdown = false
  unended : c.dir.shutdownDone = false
  reader : I c.reader
  writer : Open c.writer

/-- A direction between two polls. -/
structure Staged (I : R → Prop) (Open Shut : W → Prop) (c : Copy R W) : Prop where
  forwards : c.dir.suppressShutdown = false
  reader : I c.reader
  writer : ByEnd Open Shut c.dir.shutdownDone c.writer

theorem Going.staged {c : Copy R W} (h : Going I Open c) : Staged I Open Shut c := by
  refine ⟨h.forwards, h.reader, ?_⟩
  rw [h.unended]
  exact h.writer

theorem Going.wrote {c : Copy R W} (h : Going I Open c) {writer : W} (next : Open writer) :
    Going I Open { c with writer } :=
  ⟨h.forwards, h.unended, h.reader, next⟩

variable [AsyncRead R] [AsyncWrite W]

omit [AsyncWrite W] in
theorem readAhead_going (reads : KeptByReads I) {c : Copy R W} (h : Going I Open c) :
    Going I Open (readAhead c) := by
  have next := reads c.reader (c.dir.buf.length - c.dir.cap) h.reader
  unfold readAhead
  split_ifs
  · split
    all_goals
      rename_i polled
      rw [polled] at next
      exact ⟨h.forwards, h.unended, next, h.writer⟩
  · exact h

omit [AsyncWrite W] in
theorem readNext_going (reads : KeptByReads I) {c : Copy R W} (h : Going I Open c) :
    (readNext c).Holds (Going I Open) fun last _ => Going I Open last := by
  have next := reads c.reader c.dir.buf.length h.reader
  unfold readNext
  split
  all_goals
    rename_i polled
    rw [polled] at next
    exact ⟨h.forwards, h.unended, next, h.writer⟩

theorem writePass_going (reads : KeptByReads I) (phased : Phased Open Shut) {c : Copy R W} (h : Going I Open c) :
    (writePass c).Holds
      (fun next => Going I Open next ∧ next.dir.cap - next.dir.pos < c.dir.cap - c.dir.pos)
      fun last _ => Going I Open last := by
  have next := phased.write c.writer c.dir.held h.writer
  unfold writePass
  split_ifs with holds
  · split
    all_goals
      rename_i polled
      rw [polled] at next
    · exact h.wrote next
    · rename_i writer i positive
      refine ⟨⟨h.forwards, h.unended, h.reader, next⟩, ?_⟩
      have some_taken : 0 < i := Nat.pos_of_ne_zero positive
      change c.dir.cap - (c.dir.pos + i) < c.dir.cap - c.dir.pos
      omega
    · exact h.wrote next
    · exact readAhead_going reads (h.wrote next)
  · exact h

theorem writeLoop_going (reads : KeptByReads I) (phased : Phased Open Shut) {c last : Copy R W}
    {r : Option (PollResult Unit)} (h : Going I Open c) (ran : writeLoop c = (last, r)) : Going I Open last :=
  runLoop_holds (Q := fun last _ => Going I Open last) (fun s => s.dir.cap - s.dir.pos)
    (fun _ going => writePass_going reads phased going) h (Nat.lt_succ_self _) ran

omit [AsyncRead R] in
theorem finish_staged (phased : Phased Open Shut) {c : Copy R W} (h : Going I Open c) :
    Staged I Open Shut (finish c).1 := by
  unfold finish
  rw [if_pos h.forwards]
  split
  · rename_i writer polled
    exact (h.wrote (phased.waits h.writer polled)).staged
  · rename_i writer answer polled
    exact ⟨h.forwards, h.reader, phased.shuts h.writer polled⟩

theorem copyPass_staged (reads : KeptByReads I) (phased : Phased Open Shut) {c : Copy R W} (h : Going I Open c) :
    (copyPass c).Holds (Going I Open) fun last _ => Staged I Open Shut last := by
  unfold copyPass
  split
  · rename_i last r ran
    exact (writeLoop_going reads phased h ran).staged
  · rename_i mid ran
    have going := writeLoop_going reads phased h ran
    have next := phased.flush mid.writer going.writer
    split
    · rename_i writer e polled
      rw [polled] at next
      exact (going.wrote next).staged
    · rename_i writer answer _ polled
      rw [polled] at next
      have flushed := going.wrote next
      split_ifs
      · exact finish_staged phased flushed
      · exact (readNext_going reads flushed).imp (fun _ h => h) fun _ _ h => h.staged

/-- A poll of one direction keeps what reading its reader keeps, and shuts its writer down at
most once. -/
theorem pollCopy_staged (reads : KeptByReads I) (phased : Phased Open Shut) (fuel : Nat) {c : Copy R W}
    (h : Staged I Open Shut c) :
    (pollCopy fuel c).Holds (Staged I Open Shut) fun last _ => Staged I Open Shut last := by
  unfold pollCopy
  split_ifs with done
  · exact h
  · have going : Going I Open c := by
      have unended := eq_false_of_ne_true done
      refine ⟨h.forwards, unended, h.reader, ?_⟩
      have writer := h.writer
      rw [unended] at writer
      exact writer
    exact (loop_holds (fun _ going => copyPass_staged reads phased going) fuel going).imp
      (fun _ h => h.staged) fun _ _ h => h

end Copy

namespace Relay

variable {A B : Type} {Open Shut : A → Prop}

/-- The client's stream between two polls of the relay. -/
structure Staged (Open Shut : A → Prop) (s : Relay A B) : Prop where
  up : s.aToB.suppressShutdown = false
  down : s.bToA.suppressShutdown = false
  client : ByEnd Open Shut s.bToA.shutdownDone s.a

theorem staged_new {a : A} (b : B) (start idleTimeoutSecs bufferSize : Nat) (opened : Open a) :
    Staged Open Shut (Relay.new a b start idleTimeoutSecs bufferSize false) :=
  ⟨rfl, rfl, opened⟩

theorem settle_staged {before : Nat × Nat} {now : Nat} {s : Relay A B} (h : Staged Open Shut s) :
    Staged Open Shut (s.settle before now).1 := by
  unfold settle
  split_ifs <;> exact ⟨h.up, h.down, h.client⟩

variable [AsyncRead A] [AsyncWrite A] [AsyncRead B] [AsyncWrite B]

omit [AsyncWrite A] [AsyncRead B] in
/-- The upload only reads the client's stream. -/
theorem pollAToB_staged (opened : KeptByReads Open) (shut : KeptByReads Shut) (fuel : Nat) {s : Relay A B}
    (h : Staged Open Shut s) : Staged Open Shut (pollAToB fuel s).1 := by
  unfold pollAToB
  split_ifs
  · exact h
  · have reads := ByEnd.keptByReads opened shut s.bToA.shutdownDone
    have start : Copy.Staged (ByEnd Open Shut s.bToA.shutdownDone) (fun _ : B => True) (fun _ => True)
        ⟨s.aToB, s.a, s.b⟩ := ⟨h.up, h.client, by unfold ByEnd; split_ifs <;> trivial⟩
    have polled := Copy.pollCopy_staged reads phased_true fuel start
    split
    all_goals
      rename_i same
      rw [same] at polled
      exact ⟨polled.forwards, h.down, polled.reader⟩

omit [AsyncRead A] [AsyncWrite B] in
theorem pollBToA_staged (phased : Phased Open Shut) (fuel : Nat) {s : Relay A B} (h : Staged Open Shut s) :
    Staged Open Shut (pollBToA fuel s).1 := by
  unfold pollBToA
  split_ifs
  · exact h
  · have start : Copy.Staged (fun _ : B => True) Open Shut ⟨s.bToA, s.b, s.a⟩ := ⟨h.down, trivial, h.client⟩
    have polled := Copy.pollCopy_staged (fun _ _ => id) phased fuel start
    split
    all_goals
      rename_i same
      rw [same] at polled
      exact ⟨h.up, polled.forwards, polled.writer⟩

theorem poll_staged (opened : KeptByReads Open) (shut : KeptByReads Shut) (phased : Phased Open Shut)
    (fuel now : Nat) {s : Relay A B} (h : Staged Open Shut s) : Staged Open Shut (poll fuel now s).1 := by
  have first := pollAToB_staged opened shut fuel h
  unfold poll
  split
  · rename_i t r same
    rw [same] at first
    exact first
  · rename_i t same
    rw [same] at first
    have second := pollBToA_staged phased fuel first
    split
    · rename_i u r same
      rw [same] at second
      exact second
    · rename_i u same
      rw [same] at second
      exact settle_staged second

/-- However the race against the token goes, the relay has shut the client's stream down at most
once. -/
theorem selectRun_staged (opened : KeptByReads Open) (shut : KeptByReads Shut) (phased : Phased Open Shut)
    {s t : Relay A B} {turns : List Turn} {r : Selected} (h : Staged Open Shut s)
    (ran : s.selectRun turns = (t, r)) : Staged Open Shut t := by
  induction turns generalizing s with
  | nil =>
      cases ran
      exact h
  | cons turn turns ih =>
      have one : ∀ {u answer}, s.select turn = (u, answer) → Staged Open Shut u := by
        intro u answer selected
        rcases select_cases selected with ⟨-, rfl, -⟩ | ⟨polled, same, -⟩
        · exact h
        · have next := poll_staged opened shut phased turn.fuel turn.now h
          rw [same] at next
          exact next
      rw [selectRun] at ran
      split at ran
      · rename_i next waits
        exact ih (one waits) ran
      · rename_i last answer _ selected
        cases ran
        exact one selected

end Relay

/-! The datagram handler over any stream. -/

namespace Uot

/-- The input half only reads its stream. -/
theorem reader_kept {R : Type} (udp : UdpBehaviour) (J : R → Prop) :
    SessionKept udp J fun s : Session R => J s.reader where
  reader _ start := start
  read _ _ _ next := next
  resolved _ _ start := start
  sends dest payload := by
    have sent : Task.Keeps (fun s : Session R => J s.reader) (sendTo udp dest payload) := by
      refine Task.keeps_tick.bind fun _ => ?_
      intro fuel s start
      dsimp only
      split <;> exact start
    exact sent.bind fun n => fun _ _ start => start

section Output

variable {W : Type} [AsyncWrite W] {Open Shut : W → Prop}

theorem keeps_writeUotPacket (phased : Phased Open Shut) (source : SocketAddr) (data : Bytes) (isConnect : Bool) :
    Task.Keeps Open (writeUotPacket source data isConnect : Task W IoError Unit) := by
  have all (bs : Bytes) := Task.keeps_writeAll phased bs
  have tail : Task.Keeps Open (do
      Task.writeU16 (UInt16.ofNat data.length)
      Task.writeAll data : Task W IoError Unit) := (all _).bind fun _ => all _
  cases isConnect with
  | true => exact tail
  | false =>
      have addr : Task.Keeps Open (writeAddrParser source : Task W IoError Unit) := by
        unfold writeAddrParser
        split <;> exact (all _).bind fun _ => (all _).bind fun _ => all _
      exact addr.bind fun _ => tail

theorem keeps_outputLoop (phased : Phased Open Shut) (isConnect : Bool) (events : List OutputEvent) :
    Task.Keeps (fun s : Output W => Open s.writer) (outputLoop isConnect events) := by
  induction events with
  | nil => exact Task.keeps_pure _
  | cons event events ih =>
      have round : Task.Keeps (fun s : Output W => Open s.writer) (outputRound isConnect event) := by
        cases event with
        | received datagram =>
            intro fuel s start
            have wrote := keeps_writeUotPacket phased datagram.source datagram.data isConnect fuel s.writer start
            simp only [outputRound]
            split
            all_goals
              rename_i ran
              rw [ran] at wrote
              exact wrote
        | recvError e => exact fun _ _ start => start
        | cancelled => exact fun _ _ start => start
        | innerCancelled => exact Task.keeps_pure _
      refine round.bind fun goes => ?_
      cases goes with
      | true => exact ih
      | false => exact Task.keeps_pure _

/-- The output half shuts the stream down at most once, when its loop is left. -/
theorem handleUotOutput_shuts (phased : Phased Open Shut) (isConnect : Bool) (events : List OutputEvent)
    (closing fuel : Nat) {s : Output W} (start : Open s.writer) :
    Open (handleUotOutput isConnect events closing fuel s).state.writer ∨
      Shut (handleUotOutput isConnect events closing fuel s).state.writer := by
  have kept := keeps_outputLoop phased isConnect events fuel s start
  unfold handleUotOutput
  change Open (AsyncIo.Task.bind _ _ fuel s).state.writer ∨ Shut (AsyncIo.Task.bind _ _ fuel s).state.writer
  unfold AsyncIo.Task.bind
  cases ran : outputLoop isConnect events fuel s with
  | done waits t left =>
      rw [ran] at kept
      cases waits with
      | true => exact .inl kept
      | false => exact phased.shutdownWithin closing kept
  | failed e t left =>
      rw [ran] at kept
      exact .inl kept
  | cut t =>
      rw [ran] at kept
      exact .inl kept

end Output

end Uot

section Tunnel

variable {T B : Type} [AsyncRead T] [AsyncWrite T]

/-- The output half of a session whose socket is open. -/
def uotOutput (world : World T B) (fixed : Option Uot.Destination) (s : Uot.Session (NaivePaddedTransport T))
    (polls : Nat) : Run (Uot.Output (NaivePaddedTransport T)) IoError Bool :=
  let input : Run _ IoError Unit := Task.forever (Uot.inputPacket world.udp fixed) polls s
  Uot.handleUotOutput fixed.isSome world.events world.closing.1 world.writing ⟨input.state.reader, [], false⟩

/-- It is the one whose downloads `process_tunnel` records. -/
theorem uotLoops_downloads (world : World T B) (user : UserId) (fixed : Option Uot.Destination)
    (s : Uot.Session (NaivePaddedTransport T)) (polls : Nat) (l : Ledger) :
    (uotLoops world user fixed s polls l).1.downloads =
      l.downloads ++ (uotOutput world fixed s polls).state.downloads.map (user, ·) := rfl

/-- The client's stream as `handle_uot_stream` leaves it. -/
def uotClient (world : World T B) (version : Uot.UotVersion) (client : NaivePaddedTransport T)
    (cache : DnsCache) : NaivePaddedTransport T :=
  match Uot.readRequest version world.polls (.start client cache) with
  | .cut s => s.reader
  | .failed _ s _ => s.reader
  | .done fixed s left => match Uot.openSocket world.udp fixed left s with
      | .cut s => s.reader
      | .failed _ s _ => s.reader
      | .done () s left => (uotOutput world fixed s left).state.writer

variable [AsyncRead B] [AsyncWrite B]

/-- The client's stream as `process_tunnel` leaves it. -/
def tunnelClient (server : Server) (world : World T B) (target : Address) (outbound : OutboundType)
    (client : NaivePaddedTransport T) (d : Dialing) : NaivePaddedTransport T :=
  match Uot.processTunnel target outbound with
  | some (.uot version) => uotClient world version client d.cache
  | _ => match remoteEnd server target outbound d with
      | none => client
      | some stream =>
          (relay server.config client (world.remote stream) world.start world.turns world.closing).a

omit [AsyncRead B] [AsyncWrite B] in
theorem uotClient_shuts {Open Shut : NaivePaddedTransport T → Prop} (reads : KeptByReads Open)
    (phased : Phased Open Shut) (world : World T B) (version : Uot.UotVersion) {client : NaivePaddedTransport T}
    (cache : DnsCache) (start : Open client) :
    Open (uotClient world version client cache) ∨ Shut (uotClient world version client cache) := by
  have asked := (Uot.reader_kept world.udp Open).readRequest reads version world.polls (.start client cache) start
  unfold uotClient
  split
  · rename_i s ran
    rw [ran] at asked
    exact .inl asked
  · rename_i e s left ran
    rw [ran] at asked
    exact .inl asked
  · rename_i fixed s left ran
    rw [ran] at asked
    have opened := Uot.keeps_openSocket (I := fun s => Open s.reader) world.udp fixed left s asked
    split
    · rename_i s ran
      rw [ran] at opened
      exact .inl opened
    · rename_i e s left ran
      rw [ran] at opened
      exact .inl opened
    · rename_i s left ran
      rw [ran] at opened
      apply Uot.handleUotOutput_shuts phased
      exact ((Uot.reader_kept world.udp Open).inputPacket reads fixed).forever left s opened

end Tunnel

section Response

variable {R S B : Type} [AsyncRead R] [OutboundFrameSender S] [AsyncRead B] [AsyncWrite B]

/-- The response has ended, and the channel would take another end in time. -/
def Recloses (polls : Nat) (s : Relay (NaivePaddedTransport (H3Stream R S)) B) : Prop :=
  finFrame ∈ sentFrames s.a ∧ takesEnd polls s.a.inner.writer.send.sender = true

theorem relay_endsOnce_iff (config : ConnConfig) {client : NaivePaddedTransport (H3Stream R S)} (remote : B)
    (start : Nat) (turns : List Turn) (closing : Nat × Nat) (opened : ResponseOpen client) :
    EndsOnce (sentFrames (relay config client remote start turns closing).a) ↔
      (Relay.new client remote start config.idleTimeoutSecs config.bufferSize false).Spares
        (Recloses closing.1) turns := by
  have staged {t : Relay (NaivePaddedTransport (H3Stream R S)) B} {r : Selected}
      (ran : (Relay.new client remote start config.idleTimeoutSecs config.bufferSize false).selectRun turns =
        (t, r)) : ResponseShut t.a := by
    have reached := (Relay.selectRun_staged responseOpen_read responseShut_read response_phased
      (Relay.staged_new remote start config.idleTimeoutSecs config.bufferSize opened) ran).client
    unfold ByEnd at reached
    split_ifs at reached
    · exact reached
    · exact .inl reached
  have run := relay_run config client remote start turns closing
  generalize relay config client remote start turns closing = out at run ⊢
  cases run with
  | finished ran =>
      rw [Relay.selectRun_spares_iff ran]
      exact iff_of_true (staged ran).endsOnce (by rintro ⟨kicked, -⟩; cases kicked)
  | @kicked t ran =>
      rw [Relay.selectRun_spares_iff ran]
      dsimp only
      rcases staged ran with failed | ⟨ended, clear⟩
      · refine iff_of_true ?_ fun kicked => failed.fin_notMem kicked.2.1
        rcases response_phased.shutdownWithin closing.1 failed with still | shut
        · exact still.endsOnce
        · exact shut.endsOnce
      · rw [sentFrames_shutdownWithin closing.1 clear]
        cases takes : takesEnd closing.1 t.a.inner.writer.send.sender with
        | false =>
            refine iff_of_true ?_ fun kicked => ?_
            · simpa using ended.endsOnce
            · cases takes.symm.trans kicked.2.2
        | true => exact iff_of_false ended.not_endsOnce fun spared => spared ⟨rfl, ended.fin_mem, takes⟩
  | unended ran runs =>
      rw [Relay.selectRun_spares_iff ran]
      refine iff_of_true (staged ran).endsOnce ?_
      rintro ⟨rfl, -⟩
      cases runs

/-- After its head, the response of a tunnel is body frames and at most one end, exactly if no
kick finds the end sent by the relay and the channel ready for another. -/
theorem response_ends_once_iff (server : Server) (world : World (H3Stream R S) B) (target : Address)
    (outbound : OutboundType) (rng : Rng) (d : Dialing) (unsent : world.inner.writer.send.frames = []) :
    EndsOnce (sentFrames (tunnelClient server world target outbound (.new world.inner rng) d)) ↔
      ∀ stream ∈ remoteEnd server target outbound d,
        (Relay.new (NaivePaddedTransport.new world.inner rng) (world.remote stream) world.start
          server.config.idleTimeoutSecs server.config.bufferSize false).Spares
            (Recloses world.closing.1) world.turns := by
  have opened : ResponseOpen (NaivePaddedTransport.new world.inner rng) := by
    change Bodies world.inner.writer.send.frames
    rw [unsent]
    exact bodies_nil
  unfold tunnelClient
  split
  · rename_i version dispatched
    refine iff_of_true ?_ ?_
    · rcases uotClient_shuts responseOpen_read response_phased world version d.cache opened with still | shut
      · exact still.endsOnce
      · exact shut.endsOnce
    · intro stream reached
      rw [remoteEnd, dispatched] at reached
      cases reached
  · cases reached : remoteEnd server target outbound d with
    | none => exact iff_of_true opened.endsOnce fun _ other => by cases other
    | some stream =>
        rw [relay_endsOnce_iff server.config (world.remote stream) world.start world.turns world.closing opened]
        exact ⟨fun spared other same => by cases same; exact spared, fun spared => spared stream rfl⟩

end Response

/-- A channel with its answers laid down; when they have run out it takes every frame. -/
structure ScriptedSender where
  answers : List (Poll (Except Unit Unit))
  deriving DecidableEq

instance : OutboundFrameSender ScriptedSender where
  pollReserve s := match s.answers with
    | [] => (s, .ready (.ok ()))
    | answer :: answers => (⟨answers⟩, answer)
  sendItem s _ := (s, .ok ())

/-- A client that sends nothing over an H3 stream. -/
def quietH3 (remote : Scripted) (turns : List Turn) : World (H3Stream Scripted ScriptedSender) Scripted where
  inner := ⟨⟨[], []⟩, ⟨⟨⟨[]⟩, []⟩⟩⟩
  rng := ⟨fun _ => 0, 0⟩
  remote _ := remote
  sentHead := .ok ()
  start := 0
  turns
  closing := (1, 1)
  udp := Uot.openUdp
  polls := 0
  events := []
  writing := 0

/-- The response of a tunnel to a literal address. -/
def responseOf (world : World (H3Stream Scripted ScriptedSender) Scripted) : List OutboundFrame :=
  sentFrames (tunnelClient { oneUserServer (.direct ⟨false⟩) with config := smallBuffer } world
    (.ipv4 ⟨9, 9, 9, 9⟩ 443) (.direct none none) (.new world.inner world.rng)
    (.start (fun _ _ _ => .done (.ok ())) Uot.publicDns))

/-- A kick during the transfer ends the response once, as it finds no end. -/
theorem response_ends_once_kicked :
    let world := quietH3 ⟨[.ready (.ok [5])], []⟩ [⟨9, 0, false, false⟩, ⟨9, 1, true, true⟩]
    responseOf world = [.body [0, 1, 0, 5] false, finFrame] ∧
      (Relay.new (NaivePaddedTransport.new world.inner world.rng) (world.remote .dialer) 0 60 16 false).Spares
        (Recloses 1) world.turns := by
  intro world
  have sent : responseOf world = [.body [0, 1, 0, 5] false, finFrame] := by decide +kernel
  have once : EndsOnce (responseOf world) := by
    refine ⟨[.body [0, 1, 0, 5] false], ?_, .inr sent⟩
    intro f member
    exact ⟨_, List.mem_singleton.mp member⟩
  refine ⟨sent, ?_⟩
  exact (response_ends_once_iff _ world _ _ world.rng _ rfl).mp once
    (.tcp (applySocketOpts ⟨⟨.v4 ⟨9, 9, 9, 9⟩, 443⟩, false, none⟩ true)) (by decide +kernel)

/-- The remote ends, the relay forwards that, and the kick sends the end a second time. -/
theorem response_ends_twice :
    let world := quietH3 ⟨[.ready (.ok [])], []⟩ [⟨9, 0, false, false⟩, ⟨9, 1, true, true⟩]
    responseOf world = [finFrame, finFrame] ∧ ¬ EndsOnce (responseOf world) := by
  intro world
  have sent : responseOf world = [finFrame, finFrame] := by decide +kernel
  refine ⟨sent, ?_⟩
  rw [sent]
  exact Ended.not_endsOnce ⟨[], bodies_nil, rfl⟩

end ServerNaive
