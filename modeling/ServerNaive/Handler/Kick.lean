import ServerNaive.Handler.ResponseEnd
import ServerNaive.Uot.Loops

/-! A registered tunnel between its awaits, from its first one to `unregister`. The client is part of
the surroundings: it may do anything to its stream, or nothing any more. -/
namespace ServerNaive
open AsyncIo StdNet

/-- The relay without its client. -/
def Relay.core {A B : Type} (r : Relay A B) : Relay Unit B := { r with a := () }

def Relay.over {A B : Type} (client : A) (r : Relay Unit B) : Relay A B := { r with a := client }

inductive TunnelPhase (B : Type) where
  /-- The request of a version 2 session is being read. -/
  | request (m : Reading (UInt8 × String × UInt16))
  | resolving (host : String) (port : UInt16)
  | binding (fixed : Option Uot.Destination)
  | loops (l : Uot.Loops)
  | resolvingTarget
  /-- One attempt is under way, with the addresses that are left. -/
  | attempting (addr : SocketAddr) (rest : List IpAddr)
  | dialing
  | relaying (r : Relay Unit B)
  /-- The shutdowns after a kick: of the client's stream, and then of the remote one. -/
  | closing (remote : B) (clientDone : Bool)
  | unregistered

structure TunnelTask (T B : Type) where
  client : NaivePaddedTransport T
  cache : DnsCache
  cancelled : Bool
  phase : TunnelPhase B

/-- What stays the same over the life of a tunnel. -/
structure TunnelSetup where
  target : Address
  config : ConnConfig
  udp : Uot.UdpBehaviour

inductive TunnelEvent (T B : Type) where
  -- the surroundings
  | client (next : T)
  | remote (next : B)
  | kick
  | received (datagram : Uot.Received)
  | recvError (e : IoError)
  | connected (remote : B) (now : Nat)
  | refused (e : IoError)
  -- the tunnel, and what answers it in any case
  | resolved
  | bound
  | sent
  | poll
  | pollInput
  | cancelInput
  | endInput
  | cancelOutput
  | endOutput
  | joined
  | turn (fuel now : Nat) (cancelFirst : Bool)
  | timeout

/-- Steps of the tunnel, of its timers, of the resolver and of its own socket. -/
def TunnelEvent.unaided {T B : Type} : TunnelEvent T B → Bool
  | .client _ | .remote _ | .kick | .received _ | .recvError _ | .connected _ _ | .refused _ => false
  | _ => true

namespace TunnelPhase

variable {B : Type}

def isUnregistered : TunnelPhase B → Bool
  | .unregistered => true
  | _ => false

/-- The request of a version 2 session is being read. -/
def readsRequest : TunnelPhase B → Bool
  | .request _ => true
  | _ => false

/-- A packet is being written to the client. -/
def writesPacket : TunnelPhase B → Bool
  | .loops l => l.output.isWriting
  | _ => false

/-- The first await of a dispatched tunnel. -/
def start (setup : TunnelSetup) : Uot.Tunnel → TunnelPhase B
  | .uot .v1 => .binding none
  | .uot .v2 => .request Uot.requestReading
  | .direct _ (some _) => .dialing
  | .direct (some (ip :: ips)) none => .attempting ⟨ip, setup.target.port⟩ ips
  | .direct _ none => .resolvingTarget
  | .proxy _ => .dialing

/-- An attempt has failed: the next address, or the end. -/
def nextAttempt (setup : TunnelSetup) : List IpAddr → TunnelPhase B
  | [] => .unregistered
  | ip :: ips => .attempting ⟨ip, setup.target.port⟩ ips

/-- A socket is bound, and connected if it has a fixed destination. -/
def bind (udp : Uot.UdpBehaviour) (fixed : Option Uot.Destination) : TunnelPhase B :=
  match udp.bindDual, udp.bindV4 with
  | .error _, .error _ => .unregistered
  | _, _ => match fixed with
      | none => .loops (.start none)
      | some dest => match udp.connect dest.addr with
          | .error _ => .unregistered
          | .ok () => .loops (.start (some dest))

/-- A timer runs out. -/
def expire (setup : TunnelSetup) : TunnelPhase B → Option (TunnelPhase B)
  | .loops l => l.timeout.map .loops
  | .attempting _ rest => some (nextAttempt setup rest)
  | .dialing => some .unregistered
  | .closing remote false => some (.closing remote true)
  | .closing _ true => some .unregistered
  | _ => none

end TunnelPhase

namespace TunnelTask

variable {T B : Type}

def start (setup : TunnelSetup) (tunnel : Uot.Tunnel) (client : NaivePaddedTransport T) (cache : DnsCache) :
    TunnelTask T B :=
  ⟨client, cache, false, .start setup tunnel⟩

def become (s : TunnelTask T B) (phase : TunnelPhase B) : TunnelTask T B := { s with phase }

/-- A step of one of the halves that needs no stream. -/
def inLoops (s : TunnelTask T B) (f : Uot.Loops → Option Uot.Loops) : Option (TunnelTask T B) :=
  match s.phase with
  | .loops l => (f l).map fun l => s.become (.loops l)
  | _ => none

def resolved (setup : TunnelSetup) (s : TunnelTask T B) : Option (TunnelTask T B) :=
  match s.phase with
  | .resolving host port => match Uot.resolveHost s.cache host port with
      | (cache, .ok addr) => some { s with cache, phase := .binding (some ⟨host, port, addr⟩) }
      | (cache, .error _) => some { s with cache, phase := .unregistered }
  | .loops l => (l.resolved s.cache).map fun (l, cache) => { s with cache, phase := .loops l }
  | .resolvingTarget => match resolveSocketAddr s.cache setup.target with
      | (cache, .ok addr) => some { s with cache, phase := .attempting addr [] }
      | (cache, .error _) => some { s with cache, phase := .unregistered }
  | _ => none

variable [AsyncRead T] [AsyncWrite T] [AsyncRead B] [AsyncWrite B]

/-- One poll of a future that is awaited alone. -/
def poll (s : TunnelTask T B) : Option (TunnelTask T B) :=
  match s.phase with
  | .request (.done (isConnect, host, port)) =>
      some (s.become (if isConnect ≠ 0 then .resolving host port else .binding none))
  | .request (.failed _) => some (s.become .unregistered)
  | .request m =>
      let (m, client) := m.poll s.client
      some { s with client, phase := .request m }
  | .loops l => (l.pollOutput s.client).map fun (l, client) => { s with client, phase := .loops l }
  | .closing remote false => match AsyncWrite.pollShutdown s.client with
      | (client, .pending) => some { s with client }
      | (client, .ready _) => some { s with client, phase := .closing remote true }
  | .closing remote true => match AsyncWrite.pollShutdown remote with
      | (remote, .pending) => some (s.become (.closing remote true))
      | (_, .ready _) => some (s.become .unregistered)
  | _ => none

/-- One poll of the relay's race against the token; a poll that has not ended is no step. -/
def turn (fuel now : Nat) (cancelFirst : Bool) (s : TunnelTask T B) : Option (TunnelTask T B) :=
  match s.phase with
  | .relaying r => match (r.over s.client).select ⟨fuel, now, cancelFirst, s.cancelled⟩ with
      | (_, .running) => none
      | (t, .pending) => some { s with client := t.a, phase := .relaying t.core }
      | (t, .finished _) => some { s with client := t.a, phase := .unregistered }
      | (t, .kicked) => some { s with client := t.a, phase := .closing t.b false }
  | _ => none

def step (setup : TunnelSetup) (s : TunnelTask T B) : TunnelEvent T B → Option (TunnelTask T B)
  | .client next => some { s with client := { s.client with inner := next } }
  | .remote next => match s.phase with
      | .relaying r => some (s.become (.relaying { r with b := next }))
      | .closing _ done => some (s.become (.closing next done))
      | _ => none
  | .kick => some { s with cancelled := true }
  | .received datagram => s.inLoops (·.received datagram)
  | .recvError _ => s.inLoops (·.recvError)
  | .connected remote now => match s.phase with
      | .attempting _ _ | .dialing => some (s.become
          (.relaying (.new () remote now setup.config.idleTimeoutSecs setup.config.bufferSize false)))
      | _ => none
  | .refused _ => match s.phase with
      | .attempting _ rest => some (s.become (.nextAttempt setup rest))
      | .dialing => some (s.become .unregistered)
      | _ => none
  | .resolved => s.resolved setup
  | .bound => match s.phase with
      | .binding fixed => some (s.become (.bind setup.udp fixed))
      | _ => none
  | .sent => s.inLoops (·.sent setup.udp)
  | .poll => s.poll
  | .pollInput => match s.phase with
      | .loops l => (l.pollInput s.client).map fun (l, client) => { s with client, phase := .loops l }
      | _ => none
  | .cancelInput => s.inLoops (·.cancelInput s.cancelled)
  | .endInput => s.inLoops (·.endInput)
  | .cancelOutput => s.inLoops (·.cancelOutput s.cancelled)
  | .endOutput => s.inLoops (·.endOutput)
  | .joined => match s.phase with
      | .loops l => if l.joined then some (s.become .unregistered) else none
      | _ => none
  | .turn fuel now cancelFirst => s.turn fuel now cancelFirst
  | .timeout => (s.phase.expire setup).map s.become

/-! Left to itself, the machine goes where the functions of the session go. -/

section Functions

variable {setup : TunnelSetup} {cache : DnsCache} {cancelled : Bool}

/-- Polls alone lead there. -/
def PolledTo (setup : TunnelSetup) (s t : TunnelTask T B) : Prop :=
  Leads (step setup) (fun e => e = .poll) (fun u => u = t) s

/-- Polls of a part lead the task along, if one of its own does what one of the part does or the part stays. -/
theorem polledTo_of_polls {τ σ : Type} {poll : τ → σ → τ × σ} (embed : τ × σ → TunnelTask T B)
    (moves : ∀ s, embed (poll s.1 s.2) = embed s ∨ step setup (embed s) .poll = some (embed (poll s.1 s.2)))
    {s t : τ × σ} (polls : Polls poll s t) : PolledTo setup (embed s) (embed t) := by
  induction polls using Relation.ReflTransGen.head_induction_on with
  | refl => exact .refl rfl
  | head one _ ih =>
      subst one
      rcases moves _ with same | stepped
      · rwa [same] at ih
      · exact Leads.head (a := .poll) rfl stepped ih

theorem polledTo_request {m m' : Reading (UInt8 × String × UInt16)} {client client' : NaivePaddedTransport T}
    (polls : Polls Reading.poll (m, client) (m', client')) :
    PolledTo (B := B) setup ⟨client, cache, cancelled, .request m⟩ ⟨client', cache, cancelled, .request m'⟩ := by
  refine polledTo_of_polls (fun s => ⟨s.2, cache, cancelled, .request s.1⟩) ?_ polls
  rintro ⟨m, client⟩
  cases m with
  | done value => exact .inl rfl
  | failed e => exact .inl rfl
  | fill eof n got next => exact .inr rfl

/-- The request is read as `readRequestHead` reads it. -/
theorem request_follows (client : NaivePaddedTransport T) (fuel : Nat) :
    (Uot.readRequestHead fuel client).Holds
      (fun asked last => PolledTo (B := B) setup ⟨client, cache, cancelled, .request Uot.requestReading⟩
        ⟨last, cache, cancelled, .request (.done asked)⟩)
      (fun e last => PolledTo (B := B) setup ⟨client, cache, cancelled, .request Uot.requestReading⟩
        ⟨last, cache, cancelled, .request (.failed e)⟩)
      fun last => ∃ m, PolledTo (B := B) setup ⟨client, cache, cancelled, .request Uot.requestReading⟩
        ⟨last, cache, cancelled, .request m⟩ := by
  have follows := Reading.follows_toTask Uot.requestReading fuel client
  rw [Uot.toTask_requestReading] at follows
  refine Run.Holds.imp follows ?_ ?_ ?_
  · exact fun asked last polls => polledTo_request polls
  · exact fun e last polls => polledTo_request polls
  · exact fun last ⟨m, polls⟩ => ⟨m, polledTo_request polls⟩

theorem polledTo_packet (l : Uot.Loops) {m m' : Writing} {client client' : NaivePaddedTransport T}
    (polls : Polls Writing.poll (m, client) (m', client')) :
    PolledTo (B := B) setup ⟨client, cache, cancelled, .loops { l with output := .writing m }⟩
      ⟨client', cache, cancelled, .loops { l with output := .writing m' }⟩ := by
  refine polledTo_of_polls (fun s => ⟨s.2, cache, cancelled, .loops { l with output := .writing s.1 }⟩) ?_ polls
  rintro ⟨m, client⟩
  cases m with
  | failed e => exact .inl rfl
  | left pieces =>
      cases pieces with
      | nil => exact .inl rfl
      | cons piece pieces => exact .inr rfl

/-- A packet is written as `writeUotPacket` writes it. -/
theorem packet_follows (l : Uot.Loops) (client : NaivePaddedTransport T) (datagram : Uot.Received) (fuel : Nat) :
    let writing := Uot.packetPieces datagram.source datagram.data l.fixed.isSome
    (Uot.writeUotPacket datagram.source datagram.data l.fixed.isSome fuel client).Holds
      (fun _ last => PolledTo (B := B) setup ⟨client, cache, cancelled, .loops { l with output := .writing (.left writing) }⟩
        ⟨last, cache, cancelled, .loops { l with output := .writing (.left []) }⟩)
      (fun e last => PolledTo (B := B) setup ⟨client, cache, cancelled, .loops { l with output := .writing (.left writing) }⟩
        ⟨last, cache, cancelled, .loops { l with output := .writing (.failed e) }⟩)
      fun last => ∃ m, PolledTo (B := B) setup
        ⟨client, cache, cancelled, .loops { l with output := .writing (.left writing) }⟩
        ⟨last, cache, cancelled, .loops { l with output := .writing m }⟩ := by
  intro writing
  have follows := Writing.follows_writePieces writing fuel client
  rw [Uot.writePieces_packetPieces] at follows
  refine Run.Holds.imp follows ?_ ?_ ?_
  · exact fun _ last polls => polledTo_packet l polls
  · exact fun e last polls => polledTo_packet l polls
  · exact fun last ⟨m, polls⟩ => ⟨m, polledTo_packet l polls⟩

/-- An attempt ends without a connection. -/
def AttemptFails (e : TunnelEvent T B) : Prop := e = .timeout ∨ ∃ err, e = .refused err

/-- Attempts that fail, up to the one that the outcome comes from. -/
def AttemptsTo (setup : TunnelSetup) (s : TunnelTask T B) (outcome : IoResult TcpStream) : Prop :=
  Leads (step setup) AttemptFails (fun t => match outcome with
    | .ok stream => ∃ rest, t = s.become (.attempting stream.peer rest)
    | .error _ => t = s.become .unregistered) s

/-- The addresses are tried as `connectIpList` tries them. -/
theorem attempts_follow (s : TunnelTask T B) (tcpNodelay : Bool) (timeout : Nat) (ip : IpAddr) (ips : List IpAddr)
    (lastErr : Option IoError) (d : Dialing) :
    (s.become (.attempting ⟨ip, setup.target.port⟩ ips)).AttemptsTo setup
      (connectIpList setup.target.port tcpNodelay timeout (ip :: ips) lastErr d).2 := by
  induction ips generalizing ip lastErr d with
  | nil =>
      rw [connectIpList, connectOne]
      cases d.attempt d.dialed.length ⟨ip, setup.target.port⟩ timeout with
      | elapsed => exact Leads.head (a := .timeout) (.inl rfl) rfl (.refl rfl)
      | done outcome =>
          cases outcome with
          | error e => exact Leads.head (a := .refused e) (.inr ⟨e, rfl⟩) rfl (.refl rfl)
          | ok u => exact .refl ⟨[], rfl⟩
  | cons next ips ih =>
      rw [connectIpList, connectOne]
      cases d.attempt d.dialed.length ⟨ip, setup.target.port⟩ timeout with
      | elapsed => exact Leads.head (a := .timeout) (.inl rfl) rfl (ih next _ _)
      | done outcome =>
          cases outcome with
          | error e => exact Leads.head (a := .refused e) (.inr ⟨e, rfl⟩) rfl (ih next _ _)
          | ok u => exact .refl ⟨next :: ips, rfl⟩

end Functions

/-! Once the token has fired. -/

/-- The tunnel gets to `unregister` without the client. -/
def Leaves (setup : TunnelSetup) (s : TunnelTask T B) : Prop :=
  Leads (step setup) (·.unaided = true) (fun t => t.phase.isUnregistered = true) s

end TunnelTask

namespace TunnelPhase

variable {T B : Type} [AsyncRead T] [AsyncWrite T] [AsyncRead B] [AsyncWrite B]

/-- A tunnel in this phase gets to `unregister` without the client, whatever the client's stream
is like. -/
def Ends (T : Type) {B : Type} [AsyncRead T] [AsyncWrite T] [AsyncRead B] [AsyncWrite B] (setup : TunnelSetup)
    (cancelled : Bool) (phase : TunnelPhase B) : Prop :=
  ∀ (client : NaivePaddedTransport T) (cache : DnsCache),
    TunnelTask.Leaves setup ⟨client, cache, cancelled, phase⟩

variable {setup : TunnelSetup} {cancelled : Bool}

/-- A step that ends in such a phase. -/
theorem Ends.before {phase next : TunnelPhase B} (ends : next.Ends T setup cancelled)
    (client' : NaivePaddedTransport T) (cache' : DnsCache) {client : NaivePaddedTransport T} {cache : DnsCache}
    {e : TunnelEvent T B} (unaided : e.unaided = true)
    (stepped : TunnelTask.step setup ⟨client, cache, cancelled, phase⟩ e = some ⟨client', cache', cancelled, next⟩) :
    TunnelTask.Leaves setup ⟨client, cache, cancelled, phase⟩ :=
  Leads.head unaided stepped (ends client' cache')

theorem ends_unregistered : (unregistered : TunnelPhase B).Ends T setup cancelled :=
  fun _ _ => .refl rfl

theorem ends_closing (remote : B) (done : Bool) : (closing remote done).Ends T setup cancelled := by
  have second : (closing remote true).Ends T setup cancelled :=
    fun client cache => ends_unregistered.before client cache (e := .timeout) rfl rfl
  cases done with
  | true => exact second
  | false => exact fun client cache => second.before client cache (e := .timeout) rfl rfl

theorem ends_attempting (addr : SocketAddr) (rest : List IpAddr) :
    (attempting addr rest : TunnelPhase B).Ends T setup cancelled := by
  induction rest generalizing addr with
  | nil => exact fun client cache => ends_unregistered.before client cache (e := .timeout) rfl rfl
  | cons ip ips ih => exact fun client cache => (ih ⟨ip, setup.target.port⟩).before client cache (e := .timeout) rfl rfl

theorem ends_dialing : (dialing : TunnelPhase B).Ends T setup cancelled :=
  fun client cache => ends_unregistered.before client cache (e := .timeout) rfl rfl

/-- The race may look at the token first. -/
theorem ends_relaying (r : Relay Unit B) : (relaying r).Ends T setup true :=
  fun client cache => (ends_closing r.b false).before client cache (e := .turn 0 0 true) rfl rfl

theorem ends_resolvingTarget : (resolvingTarget : TunnelPhase B).Ends T setup cancelled := by
  intro client cache
  cases found : resolveSocketAddr cache setup.target with
  | mk answered outcome =>
      cases outcome with
      | ok addr =>
          refine (ends_attempting addr []).before client answered (e := .resolved) rfl ?_
          simp only [TunnelTask.step, TunnelTask.resolved, found]
      | error e =>
          refine ends_unregistered.before client answered (e := .resolved) rfl ?_
          simp only [TunnelTask.step, TunnelTask.resolved, found]

/-- Both halves see the token; the output half, which may still have a shutdown to wait for, has a
timer for it. -/
theorem ends_loops {l : Uot.Loops} (unwritten : l.output.isWriting = false) :
    (loops l : TunnelPhase B).Ends T setup true := by
  have joined {l : Uot.Loops} (input : l.input = .stopped) (output : l.output = .stopped) :
      (loops l : TunnelPhase B).Ends T setup true := by
    intro client cache
    refine ends_unregistered.before client cache (e := .joined) rfl ?_
    simp only [TunnelTask.step, Uot.Loops.joined, input, output, Uot.InputState.isStopped]
    rfl
  have closing {l : Uot.Loops} (input : l.input = .stopped) (output : l.output = .closing) :
      (loops l : TunnelPhase B).Ends T setup true := by
    intro client cache
    refine (joined (l := { l with output := .stopped }) input rfl).before client cache (e := .timeout) rfl ?_
    simp only [TunnelTask.step, TunnelPhase.expire, Uot.Loops.timeout, output]
    rfl
  have stops {l : Uot.Loops} (input : l.input = .stopped) (output : l.output.isWriting = false) :
      (loops l : TunnelPhase B).Ends T setup true := by
    cases state : l.output with
    | waiting =>
        intro client cache
        refine (closing (l := { l.closeOutput with inner := true }) input rfl).before client cache (e := .cancelOutput) rfl ?_
        simp only [TunnelTask.step, TunnelTask.inLoops, Uot.Loops.cancelOutput, state]
        rfl
    | writing m =>
        rw [state] at output
        cases output
    | closing => exact closing input state
    | stopped => exact joined input state
  by_cases stopped : l.input.isStopped = true
  · exact stops (Uot.InputState.isStopped_iff.mp stopped) unwritten
  · intro client cache
    refine (stops (l := l.failInput) rfl unwritten).before client cache (e := .cancelInput) rfl ?_
    simp only [TunnelTask.step, TunnelTask.inLoops, Uot.Loops.cancelInput, stopped]
    rfl

theorem ends_binding (fixed : Option Uot.Destination) : (binding fixed : TunnelPhase B).Ends T setup true := by
  intro client cache
  have bound : (TunnelPhase.bind setup.udp fixed : TunnelPhase B).Ends T setup true := by
    have started (fixed : Option Uot.Destination) : (loops (.start fixed) : TunnelPhase B).Ends T setup true :=
      ends_loops rfl
    unfold TunnelPhase.bind
    split
    · exact ends_unregistered
    · split
      · exact started none
      · rename_i dest
        split
        · exact ends_unregistered
        · exact started (some dest)
  exact bound.before client cache (e := .bound) rfl rfl

theorem ends_resolving (host : String) (port : UInt16) :
    (resolving host port : TunnelPhase B).Ends T setup true := by
  intro client cache
  cases found : Uot.resolveHost cache host port with
  | mk answered outcome =>
      cases outcome with
      | ok addr =>
          refine (ends_binding (some ⟨host, port, addr⟩)).before client answered (e := .resolved) rfl ?_
          simp only [TunnelTask.step, TunnelTask.resolved, found]
      | error e =>
          refine ends_unregistered.before client answered (e := .resolved) rfl ?_
          simp only [TunnelTask.step, TunnelTask.resolved, found]

end TunnelPhase

/-- In whatever phase the token has fired, and whatever the client does not do any more, steps of the
tunnel and of its timers lead to `unregister`, unless a packet is just being written to the client.
Nothing is said of a request that is being read. -/
theorem kick_works {T B : Type} [AsyncRead T] [AsyncWrite T] [AsyncRead B] [AsyncWrite B] (setup : TunnelSetup)
    (s : TunnelTask T B) (fired : s.cancelled = true) (asked : s.phase.readsRequest = false)
    (unwritten : s.phase.writesPacket = false) : s.Leaves setup := by
  obtain ⟨client, cache, cancelled, phase⟩ := s
  cases fired
  cases phase with
  | request m => cases asked
  | resolving host port => exact TunnelPhase.ends_resolving host port client cache
  | binding fixed => exact TunnelPhase.ends_binding fixed client cache
  | loops l => exact TunnelPhase.ends_loops unwritten client cache
  | resolvingTarget => exact TunnelPhase.ends_resolvingTarget client cache
  | attempting addr rest => exact TunnelPhase.ends_attempting addr rest client cache
  | dialing => exact TunnelPhase.ends_dialing client cache
  | relaying r => exact TunnelPhase.ends_relaying r client cache
  | closing remote done => exact TunnelPhase.ends_closing remote done client cache
  | unregistered => exact TunnelPhase.ends_unregistered client cache

/-- The stream of a client that neither sends nor reads any more. -/
structure Stalled where
  deriving DecidableEq

instance : AsyncRead Stalled where
  pollRead s _ := (s, .pending)
  pollRead_fits h := by cases h

instance : AsyncWrite Stalled where
  pollWrite s _ := (s, .pending)
  pollFlush s := (s, .ready (.ok ()))
  pollShutdown s := (s, .pending)
  pollWrite_le h := by cases h

def quietSetup : TunnelSetup := ⟨.domain Uot.magicV1 0, smallBuffer, Uot.openUdp⟩

/-- A tunnel of a client that has stalled. -/
def stalledTunnel (version : Uot.UotVersion) : TunnelTask Stalled Scripted :=
  .start quietSetup (.uot version) (.new ⟨⟩ ⟨fun _ => 0, 0⟩) Uot.publicDns

/-- A session that waits for packets of such a client is left. -/
theorem kick_works_stalled : ∃ s, follow (TunnelTask.step quietSetup) (stalledTunnel .v1) [.bound, .kick] = some s ∧
    s.Leaves quietSetup :=
  ⟨_, rfl, kick_works quietSetup _ rfl rfl rfl⟩

namespace TunnelTask

/-- A packet is being written while the padding layer holds a frame that the client does not take. -/
structure Blocked (s : TunnelTask Stalled Scripted) : Prop where
  writing : ∃ l b buf pieces, s.phase = .loops l ∧ l.output = .writing (.left ((b :: buf) :: pieces))
  pending : ∃ frame, s.client.writePending = some frame

theorem pollWrite_stalled {t : NaivePaddedTransport Stalled} {frame : Bytes} (queued : t.writePending = some frame)
    (buf : Bytes) : AsyncWrite.pollWrite t buf = (t, .pending) := by
  have polled : AsyncWrite.pollWrite t.inner (frame.drop t.writePendingOff) = (t.inner, .pending) := rfl
  have drained (zeroText : String) : NaivePaddedTransport.drain zeroText t = (t, .blocked) := by
    simp only [NaivePaddedTransport.drain, runLoop, loop, NaivePaddedTransport.drainPass, queued, polled]
    rw [← queued]
  change NaivePaddedTransport.pollWrite t buf = _
  simp only [NaivePaddedTransport.pollWrite, drained]

/-- No step of the tunnel and no timer changes that. -/
theorem Blocked.step {s t : TunnelTask Stalled Scripted} {e : TunnelEvent Stalled Scripted} (h : s.Blocked)
    (unaided : e.unaided = true) (stepped : s.step quietSetup e = some t) : t.Blocked := by
  obtain ⟨⟨l, b, buf, pieces, phase, output⟩, frame, queued⟩ := h
  obtain ⟨client, cache, cancelled, _⟩ := s
  cases phase
  -- the input half alone can move, and it leaves the frame where it is
  have moves {m : Uot.Loops} {client' : NaivePaddedTransport Stalled} {cache' : DnsCache} (kept : m.output = l.output)
      (same : client'.writePending = client.writePending) :
      (⟨client', cache', cancelled, .loops m⟩ : TunnelTask Stalled Scripted).Blocked :=
    ⟨⟨m, b, buf, pieces, rfl, kept.trans output⟩, frame, same.trans queued⟩
  have inLoops {f : Uot.Loops → Option Uot.Loops} (keeps : ∀ {m}, f l = some m → m.output = l.output)
      (stepped : TunnelTask.inLoops ⟨client, cache, cancelled, .loops l⟩ f = some t) : t.Blocked := by
    obtain ⟨m, moved, rfl⟩ := Option.map_eq_some_iff.mp stepped
    exact moves (keeps moved) rfl
  cases e with
  | client | remote | kick | received | recvError | connected | refused => cases unaided
  | bound | turn => cases stepped
  | resolved =>
      obtain ⟨⟨m, cache'⟩, moved, rfl⟩ := Option.map_eq_some_iff.mp stepped
      exact moves (Uot.Loops.resolved_output moved) rfl
  | sent => exact inLoops Uot.Loops.sent_output stepped
  | cancelInput => exact inLoops Uot.Loops.cancelInput_output stepped
  | endInput => exact inLoops Uot.Loops.endInput_output stepped
  | pollInput =>
      obtain ⟨⟨m, client'⟩, moved, rfl⟩ := Option.map_eq_some_iff.mp stepped
      obtain ⟨kept, same⟩ := Uot.Loops.pollInput_output (I := fun t => t.writePending = client.writePending)
        (fun t cap same => (NaivePaddedTransport.pollRead_quiet (I := fun _ => True) (fun _ _ => id) cap
          ⟨trivial, same⟩).2) rfl moved
      exact moves kept same
  | poll =>
      obtain ⟨⟨m, client'⟩, moved, rfl⟩ := Option.map_eq_some_iff.mp stepped
      simp only [Uot.Loops.pollOutput, output, Writing.poll, pollWrite_stalled queued, Option.some.injEq,
        Prod.mk.injEq] at moved
      obtain ⟨rfl, rfl⟩ := moved
      exact moves output.symm rfl
  | cancelOutput =>
      simp only [TunnelTask.step, TunnelTask.inLoops, Uot.Loops.cancelOutput, output, reduceCtorEq, decide_false,
        Bool.and_false, Bool.false_eq_true, if_false, Option.map_none] at stepped
  | endOutput =>
      simp only [TunnelTask.step, TunnelTask.inLoops, Uot.Loops.endOutput, output, reduceCtorEq, decide_false,
        Bool.and_false, Bool.false_eq_true, if_false, Option.map_none] at stepped
  | joined =>
      simp only [TunnelTask.step, Uot.Loops.joined, output, reduceCtorEq, decide_false, Bool.and_false,
        Bool.false_eq_true, if_false] at stepped
  | timeout =>
      simp only [TunnelTask.step, TunnelPhase.expire, Uot.Loops.timeout, output, reduceCtorEq, if_false,
        Option.map_none] at stepped

theorem Blocked.not_leaves {s : TunnelTask Stalled Scripted} (h : s.Blocked) : ¬ s.Leaves quietSetup := by
  intro leaves
  obtain ⟨t, ⟨⟨l, _, _, _, phase, _⟩, _⟩, ended⟩ := leaves.invariant h fun blocked unaided stepped =>
    blocked.step unaided stepped
  rw [phase] at ended
  cases ended

end TunnelTask

/-- A datagram arrives for a client that has stopped reading. Its first byte is taken into the padding
layer, the next ones are not, and the token that fires then is not looked at. -/
theorem kick_waits_for_packet :
    ∃ s, follow (TunnelTask.step quietSetup) (stalledTunnel .v1)
        [.bound, .received ⟨⟨.v4 ⟨9, 9, 9, 9⟩, 53⟩, [7], by decide⟩, .poll, .poll, .poll, .kick, .cancelInput] = some s ∧
      s.cancelled = true ∧ ¬ s.Leaves quietSetup := by
  refine ⟨_, rfl, rfl, TunnelTask.Blocked.not_leaves ?_⟩
  exact ⟨⟨_, _, _, _, rfl, rfl⟩, _, rfl⟩

/-- The request of a session is awaited without the token, so that a client that never sends it is
not unregistered. -/
theorem request_outlasts_kick :
    ∃ s, follow (TunnelTask.step quietSetup) (stalledTunnel .v2) [.kick] = some s ∧
      s.cancelled = true ∧ ¬ s.Leaves quietSetup := by
  refine ⟨{ stalledTunnel .v2 with cancelled := true }, rfl, rfl, ?_⟩
  intro leaves
  obtain ⟨t, rfl, ended⟩ := leaves.invariant (I := fun s => s = { stalledTunnel .v2 with cancelled := true }) rfl
    (by
      rintro s e t rfl unaided stepped
      cases e with
      | client | remote | kick | received | recvError | connected | refused => cases unaided
      | poll =>
          cases stepped
          rfl
      | resolved | bound | sent | pollInput | cancelInput | endInput | cancelOutput | endOutput | joined | turn
      | timeout => cases stepped)
  cases ended

end ServerNaive
