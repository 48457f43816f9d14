import ServerNaive.Async.Resume
import ServerNaive.Uot.Output
import ServerNaive.Uot.Session

/-! The two halves of a UDP-over-TCP session between their awaits, so that the client, the network
and the cancel token can act at any of them. What the halves read and write is the resumable form of
the tasks of the session. -/
namespace ServerNaive.Uot
open AsyncIo StdNet

def addrReading (codes : AddrCodes) : Reading (String × UInt16) := do
  let ty ← Reading.readU8
  if ty = codes.ipv4 then
    let ip ← Reading.readExact 4
    let port ← Reading.readU16
    return (octetsText ip, port)
  else if ty = codes.ipv6 then
    let ip ← Reading.readExact 16
    let port ← Reading.readU16
    return (ipv6Text ip, port)
  else if ty = codes.fqdn then
    let len ← Reading.readU8
    let domain ← Reading.readExact len.toNat
    let port ← Reading.readU16
    match fromUtf8 domain with
    | none => .failed (anyhow codes.invalidFqdn)
    | some domain => return (domain, port)
  else .failed (anyhow (codes.unknownType ++ String.ofList (Nat.toDigits 16 ty.toNat)))

def requestReading : Reading (UInt8 × String × UInt16) := do
  let isConnect ← Reading.readU8
  let (host, port) ← addrReading socksaddrSerializer
  return (isConnect, host, port)

/-- What `write_uot_packet` writes, piece by piece. -/
def packetPieces (source : SocketAddr) (data : Bytes) (isConnect : Bool) : List Bytes :=
  (if isConnect then [] else match source.ip with
    | .v4 ip => [[0x00], ip.octets, be16 source.port.toNat]
    | .v6 ip => [[0x01], ipv6Octets ip, be16 source.port.toNat]) ++
  [be16 (UInt16.ofNat data.length).toNat, data]

section Tasks

variable {R : Type} [AsyncRead R]

theorem toTask_addrReading (codes : AddrCodes) :
    (addrReading codes).toTask = (readAddr codes : Task R IoError (String × UInt16)) := by
  unfold addrReading readAddr
  rw [Reading.toTask_bind, Reading.toTask_readU8]
  apply congrArg (Task.readU8 >>= ·)
  funext ty
  split_ifs
  · simp only [Reading.toTask_bind, Reading.toTask_readExact, Reading.toTask_readU16, Reading.toTask_pure]
  · simp only [Reading.toTask_bind, Reading.toTask_readExact, Reading.toTask_readU16, Reading.toTask_pure]
  · simp only [Reading.toTask_bind, Reading.toTask_readU8, Reading.toTask_readExact, Reading.toTask_readU16]
    apply congrArg (Task.readU8 >>= ·)
    funext len
    apply congrArg (Task.readExact len.toNat >>= ·)
    funext domain
    apply congrArg (Task.readU16 >>= ·)
    funext port
    cases fromUtf8 domain <;> rfl
  · rfl

theorem toTask_requestReading :
    requestReading.toTask = (readRequestHead : Task R IoError (UInt8 × String × UInt16)) := by
  simp only [requestReading, readRequestHead, readSocksAddr, Reading.toTask_bind, Reading.toTask_readU8,
    toTask_addrReading, Reading.toTask_pure]

theorem writePieces_packetPieces {W : Type} [AsyncWrite W] (source : SocketAddr) (data : Bytes) (isConnect : Bool) :
    Task.writePieces (packetPieces source data isConnect) =
      (writeUotPacket source data isConnect : Task W IoError Unit) := by
  have tail : Task.writePieces [be16 (UInt16.ofNat data.length).toNat, data] = (do
      Task.writeU16 (UInt16.ofNat data.length)
      Task.writeAll data : Task W IoError Unit) := by
    simp only [Task.writePieces, Task.writeU16, bind_pure_unit]
  cases isConnect with
  | true => exact tail
  | false =>
      unfold packetPieces writeUotPacket writeAddrParser
      rw [if_neg Bool.false_ne_true, if_pos rfl]
      cases source.ip with
      | v4 ip =>
          simp only [List.cons_append, List.nil_append, Task.writePieces, Task.writeU8, Task.writeU16, bind_assoc,
            bind_pure_unit]
      | v6 ip =>
          simp only [List.cons_append, List.nil_append, Task.writePieces, Task.writeU8, Task.writeU16, bind_assoc,
            bind_pure_unit]

end Tasks

/-- Where the input half is in its `next`, or that it has left its loop. -/
inductive InputState where
  | addr (m : Reading (String × UInt16))
  | resolving (host : String) (port : UInt16)
  | length (dest : Destination) (m : Reading UInt16)
  | payload (dest : Destination) (m : Reading Bytes)
  | sending (dest : Destination) (payload : Bytes)
  | stopped

def InputState.isStopped : InputState → Bool
  | .stopped => true
  | _ => false

theorem InputState.isStopped_iff {input : InputState} : input.isStopped = true ↔ input = .stopped := by
  cases input <;> simp [isStopped]

/-- Where the output half is. -/
inductive OutputState where
  | waiting
  | writing (m : Writing)
  | closing
  | stopped
  deriving DecidableEq

def OutputState.isWriting : OutputState → Bool
  | .writing _ => true
  | _ => false

/-- The halves under `join!`, the token by which each stops the other, and the sends made so far. -/
structure Loops where
  fixed : Option Destination
  input : InputState
  output : OutputState
  inner : Bool
  sends : Nat

namespace Loops

/-- The first await of a packet; the destination of a connected socket is implicit. -/
def packetStart (fixed : Option Destination) : InputState :=
  match fixed with
  | none => .addr (addrReading addrParser)
  | some dest => .length dest Reading.readU16

def start (fixed : Option Destination) : Loops := ⟨fixed, packetStart fixed, .waiting, false, 0⟩

/-- A failed packet ends the half and stops the other. -/
def failInput (l : Loops) : Loops := { l with input := .stopped, inner := true }

def closeOutput (l : Loops) : Loops := { l with output := .closing }

section Stream

variable {S : Type}

/-- One poll of the read that `next` awaits. -/
def pollReading [AsyncRead S] {α : Type} (l : Loops) (stream : S) (m : Reading α) (again : Reading α → InputState)
    (next : α → InputState) : Loops × S :=
  match m with
  | .done value => ({ l with input := next value }, stream)
  | .failed _ => (l.failInput, stream)
  | .fill eof n got k =>
      let (m, stream) := (Reading.fill eof n got k).poll stream
      ({ l with input := again m }, stream)

def pollInput [AsyncRead S] (l : Loops) (stream : S) : Option (Loops × S) :=
  match l.input with
  | .addr m => some (l.pollReading stream m .addr fun (host, port) => .resolving host port)
  | .length dest m => some (l.pollReading stream m (.length dest) fun len =>
      if len = 0 then packetStart l.fixed else .payload dest (Reading.readExact len.toNat))
  | .payload dest m => some (l.pollReading stream m (.payload dest) (.sending dest))
  | _ => none

/-- One poll of the write or of the shutdown that the output half awaits. -/
def pollOutput [AsyncWrite S] (l : Loops) (stream : S) : Option (Loops × S) :=
  match l.output with
  | .writing (.left []) => some ({ l with output := .waiting }, stream)
  | .writing (.failed _) => some ({ l.closeOutput with inner := true }, stream)
  | .writing m =>
      let (m, stream) := m.poll stream
      some ({ l with output := .writing m }, stream)
  | .closing => match AsyncWrite.pollShutdown stream with
      | (stream, .pending) => some (l, stream)
      | (stream, .ready _) => some ({ l with output := .stopped }, stream)
  | _ => none

end Stream

/-- The resolver answers. -/
def resolved (l : Loops) (cache : DnsCache) : Option (Loops × DnsCache) :=
  match l.input with
  | .resolving host port => match resolveHost cache host port with
      | (cache, .ok addr) => some ({ l with input := .length ⟨host, port, addr⟩ Reading.readU16 }, cache)
      | (cache, .error _) => some (l.failInput, cache)
  | _ => none

/-- The socket answers. -/
def sent (udp : UdpBehaviour) (l : Loops) : Option Loops :=
  match l.input with
  | .sending _ _ => match udp.send l.sends with
      | .ok _ => some { l with input := packetStart l.fixed, sends := l.sends + 1 }
      | .error _ => some { l.failInput with sends := l.sends + 1 }
  | _ => none

/-- The input half sees the tunnel's token. -/
def cancelInput (cancelled : Bool) (l : Loops) : Option Loops :=
  if cancelled && !l.input.isStopped then some l.failInput else none

/-- The input half sees that the other half has ended. -/
def endInput (l : Loops) : Option Loops :=
  if l.inner && !l.input.isStopped then some { l with input := .stopped } else none

def received (l : Loops) (datagram : Received) : Option Loops :=
  if l.output = .waiting then
    some { l with output := .writing (.left (packetPieces datagram.source datagram.data l.fixed.isSome)) }
  else none

def recvError (l : Loops) : Option Loops :=
  if l.output = .waiting then some { l.closeOutput with inner := true } else none

def cancelOutput (cancelled : Bool) (l : Loops) : Option Loops :=
  if cancelled && l.output = .waiting then some { l.closeOutput with inner := true } else none

def endOutput (l : Loops) : Option Loops :=
  if l.inner && l.output = .waiting then some l.closeOutput else none

/-- The timer of the shutdown. -/
def timeout (l : Loops) : Option Loops :=
  if l.output = .closing then some { l with output := .stopped } else none

/-- Both halves have ended. -/
def joined (l : Loops) : Bool := l.input.isStopped && l.output = .stopped

/-! The input half leaves the output half alone. -/

theorem sent_output {udp : UdpBehaviour} {l m : Loops} (moved : l.sent udp = some m) : m.output = l.output := by
  unfold sent at moved
  split at moved
  · split at moved <;> cases moved <;> rfl
  · cases moved

theorem cancelInput_output {cancelled : Bool} {l m : Loops} (moved : l.cancelInput cancelled = some m) :
    m.output = l.output := by
  unfold cancelInput at moved
  split_ifs at moved
  cases moved
  rfl

theorem endInput_output {l m : Loops} (moved : l.endInput = some m) : m.output = l.output := by
  unfold endInput at moved
  split_ifs at moved
  cases moved
  rfl

theorem resolved_output {l m : Loops} {cache cache' : DnsCache} (moved : l.resolved cache = some (m, cache')) :
    m.output = l.output := by
  unfold resolved at moved
  split at moved
  · split at moved <;> cases moved <;> rfl
  · cases moved

section Reads

variable {S : Type} [AsyncRead S] {I : S → Prop}

theorem pollReading_output (reads : KeptByReads I) (l : Loops) {stream : S} (start : I stream) {α : Type}
    (m : Reading α) (again : Reading α → InputState) (next : α → InputState) :
    (l.pollReading stream m again next).1.output = l.output ∧ I (l.pollReading stream m again next).2 := by
  cases m with
  | done value => exact ⟨rfl, start⟩
  | failed e => exact ⟨rfl, start⟩
  | fill eof n got k => exact ⟨rfl, Reading.poll_keeps reads (.fill eof n got k) start⟩

theorem pollInput_output (reads : KeptByReads I) {l m : Loops} {stream stream' : S} (start : I stream)
    (moved : l.pollInput stream = some (m, stream')) : m.output = l.output ∧ I stream' := by
  unfold pollInput at moved
  split at moved
  · obtain ⟨rfl, rfl⟩ := Prod.mk.inj (Option.some.inj moved)
    exact pollReading_output reads l start _ _ _
  · obtain ⟨rfl, rfl⟩ := Prod.mk.inj (Option.some.inj moved)
    exact pollReading_output reads l start _ _ _
  · obtain ⟨rfl, rfl⟩ := Prod.mk.inj (Option.some.inj moved)
    exact pollReading_output reads l start _ _ _
  · cases moved

end Reads

end Loops

end ServerNaive.Uot
