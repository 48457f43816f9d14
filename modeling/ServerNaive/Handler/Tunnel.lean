import ServerNaive.Handler.Connect
import ServerNaive.Handler.Relay
import ServerNaive.Handler.Request
import ServerNaive.Uot.Traffic

/-! `process_tunnel` with all that it does for its user: what it registers and records, what
it moves, what it dials, and the sockets it opens. -/
namespace ServerNaive
open AsyncIo StdNet

/-- What a request has done so far that others can see: also, beside what it has recorded, how much the
remote end or the socket has taken, and how much the client. -/
structure Ledger where
  written : List Written
  registered : List UserId
  requests : List UserId
  uploads : List (UserId × Nat)
  downloads : List (UserId × Nat)
  uotStreams : List (UserId × Uot.UotVersion)
  dialing : Dialing
  udpBinds : Nat
  toRemote : List Nat
  toClient : List Nat

namespace Ledger

def start (dialing : Dialing) : Ledger := ⟨[], [], [], [], [], [], dialing, 0, [], []⟩

def write (l : Ledger) (ws : List Written) : Ledger := { l with written := l.written ++ ws }

/-- The resolver was asked. -/
def asked (l : Ledger) (cache : DnsCache) : Ledger := { l with dialing := { l.dialing with cache } }

/-- `register` and `record_request`. -/
def admitUser (l : Ledger) (user : UserId) : Ledger :=
  { l with registered := l.registered ++ [user], requests := l.requests ++ [user] }

def record (l : Ledger) (user : UserId) (uploads downloads : List Nat) : Ledger :=
  { l with
    uploads := l.uploads ++ uploads.map (user, ·)
    downloads := l.downloads ++ downloads.map (user, ·) }

/-- Traffic that was moved, whether or not it is recorded. -/
def moved (l : Ledger) (traffic : List Nat × List Nat) : Ledger :=
  { l with toRemote := l.toRemote ++ traffic.1, toClient := l.toClient ++ traffic.2 }

/-- The dual-stack socket, and the plain one when that fails. -/
def bindUdp (l : Ledger) (udp : Uot.UdpBehaviour) : Ledger :=
  { l with udpBinds := l.udpBinds + match udp.bindDual with
      | .ok _ => 1
      | .error _ => 2 }

end Ledger

/-- What the surroundings of one request do: how attempts to connect end, the stream under the
padding layer, the remote ends, whether the response head can be written, and the polls, wakeups
and datagrams of the tunnel. -/
structure World (T B : Type) where
  inner : T
  rng : Rng
  remote : RemoteStream → B
  sentHead : Except String Unit
  start : Nat
  turns : List Turn
  closing : Nat × Nat
  udp : Uot.UdpBehaviour
  polls : Nat
  events : List Uot.OutputEvent
  writing : Nat

/-- The result of a call, if it has returned. -/
abbrev Returned := Option (Except String Unit)

section Code

variable {T B : Type} [AsyncRead T] [AsyncWrite T] [AsyncRead B] [AsyncWrite B]

/-- What a datagram session has moved when its input half is at `s`: what the socket took of each datagram
it sent, and the sizes of those whose packets the client's stream has taken. -/
def uotTraffic (world : World T B) (fixed : Option Uot.Destination) (s : Uot.Session (NaivePaddedTransport T)) :
    List Nat × List Nat :=
  let output := (Uot.handleUotOutput fixed.isSome world.events world.closing.1 world.writing
    ⟨Traced.start s.reader, [], false⟩).state
  (Uot.sentSizes world.udp s.sent,
    (Uot.delivered fixed.isSome (Uot.receivedOf world.events) (accepted output.writer.calls).length).map
      fun p => p.data.length)

/-- The two loops share nothing but the stream, of which they use one direction each. -/
def uotLoops (world : World T B) (user : UserId) (fixed : Option Uot.Destination)
    (s : Uot.Session (NaivePaddedTransport T)) (polls : Nat) (l : Ledger) : Ledger × Returned :=
  let input : Run _ IoError Unit := Task.forever (Uot.inputPacket world.udp fixed) polls s
  let output := Uot.handleUotOutput fixed.isSome world.events world.closing.1 world.writing
    ⟨input.state.reader, [], false⟩
  (((l.asked input.state.cache).record user input.state.uploads output.state.downloads).moved
      (uotTraffic world fixed input.state),
    match input, output with
    | .failed _ _ _, .done false _ _ => some (.ok ())
    | _, _ => none)

def handleUotStream (world : World T B) (user : UserId) (version : Uot.UotVersion)
    (client : NaivePaddedTransport T) (l : Ledger) : Ledger × Returned :=
  match Uot.readRequest version world.polls (.start client l.dialing.cache) with
  | .cut s => (l.asked s.cache, none)
  | .failed e s _ => (l.asked s.cache, some (.error e.message))
  | .done fixed s left =>
      match Uot.openSocket world.udp fixed left s with
      | .cut s => (l.asked s.cache, none)
      | .failed e s _ => ((l.asked s.cache).bindUdp world.udp, some (.error e.message))
      | .done () s left => uotLoops world user fixed s left ((l.asked s.cache).bindUdp world.udp)

/-- What a relay has moved: what the remote end took, and what the client took. -/
def relayTraffic (server : Server) (world : World T B) (client : NaivePaddedTransport T) (stream : RemoteStream) :
    List Nat × List Nat :=
  let out := relay server.config (Traced.start client) (Traced.start (world.remote stream)) world.start world.turns
    world.closing
  ([(accepted out.b.calls).length], [(accepted out.a.calls).length])

/-- The relay of a tunnel whose remote end is there, recorded for its user. -/
def relayFor (server : Server) (world : World T B) (user : UserId) (client : NaivePaddedTransport T)
    (stream : RemoteStream) (l : Ledger) : Ledger × Returned :=
  let out := relay server.config client (world.remote stream) world.start world.turns world.closing
  ((l.record user out.recorded.uploads out.recorded.downloads).moved (relayTraffic server world client stream),
    if out.selected.ended then some (.ok ()) else none)

/-- Both connect handlers relay once they are connected. -/
def relayConnected (server : Server) (world : World T B) (user : UserId) (client : NaivePaddedTransport T)
    (connected : Dialing × Except String RemoteStream) (l : Ledger) : Ledger × Returned :=
  match connected with
  | (dialing, .error e) => ({ l with dialing }, some (.error e))
  | (dialing, .ok stream) => relayFor server world user client stream { l with dialing }

/-- The dial of `handle_proxy_connect`. -/
def connectProxy (target : Address) (handler : OutboundHandler) (d : Dialing) :
    Dialing × Except String RemoteStream :=
  match (handler.dialTcp (dialerAddr target none)).outcome with
  | .elapsed => (d.through handler (dialerAddr target none), .error "Proxy connect timeout")
  | .done (.error e) => (d.through handler (dialerAddr target none), .error ("Proxy connect failed: " ++ e))
  | .done (.ok ()) => (d.through handler (dialerAddr target none), .ok .dialer)

/-- `process_tunnel`. -/
def processTunnel (server : Server) (world : World T B) (target : Address) (user : UserId)
    (outbound : OutboundType) (client : NaivePaddedTransport T) (l : Ledger) : Ledger × Returned :=
  match Uot.processTunnel target outbound with
  | some (.uot version) =>
      handleUotStream world user version client
        { l.admitUser user with uotStreams := l.uotStreams ++ [(user, version)] }
  | some (.direct resolved dialer) =>
      relayConnected server world user client
        (handleDirectConnect server.config target resolved dialer l.dialing) (l.admitUser user)
  | some (.proxy handler) =>
      relayConnected server world user client (connectProxy target handler l.dialing) (l.admitUser user)
  | none => (l.admitUser user, some (.ok ()))

/-- The handler behind both entries. -/
def handleRequest (server : Server) (world : World T B) (backend : Backend) (peer : SocketAddr)
    (view : RequestView) (l : Ledger) : Ledger × Returned :=
  match checkRequest server backend peer view with
  | .error refusal => (l.write (refusal.status.elim [] backend.sendStatus), some (.error refusal.text))
  | .ok (target, user) => match server.router.route l.dialing.cache target with
      | (cache, .reject) => ((l.asked cache).write (backend.sendStatus 403), some (.ok ()))
      | (cache, outbound) =>
          let (rng, padding) := generatePaddingHeader world.rng
          match backend.unfit padding with
          | some e => (l.asked cache, some (.error e))
          | none => match world.sentHead with
              | .error e => ((l.asked cache).write [.head 200 [("padding", padding)] false],
                  some (.error (backend.unsent ++ e)))
              | .ok () => processTunnel server world target user outbound (.new world.inner rng)
                  ((l.asked cache).write [.head 200 [("padding", padding)] false])

def processH2RequestPingora (server : Server) (world : World T B) (peer : SocketAddr) (req : H2Request)
    (l : Ledger) : Ledger × Returned :=
  handleRequest server world (pingoraBackend server.headerError) peer req.view l

def processH3RequestQuiche (server : Server) (world : World T B) (peer : SocketAddr) (req : H3Request)
    (l : Ledger) : Ledger × Returned :=
  handleRequest server world quicheBackend peer req.view l

end Code

end ServerNaive
