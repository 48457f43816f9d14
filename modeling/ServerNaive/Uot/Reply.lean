import ServerNaive.Uot.RoundTrip

/-! Who a reply comes from, as the client reads it. The operating system names the sources of a
dual-stack socket in the IPv6 family, and the session writes them back as it is given them. -/
namespace ServerNaive.Uot
open AsyncIo StdNet

/-- The socket of a session: bound to `[::]:0`, or to `0.0.0.0:0`. -/
inductive UdpSocket where
  | dualStack
  | ipv4Only
  deriving DecidableEq

def UdpBehaviour.socket (udp : UdpBehaviour) : Option UdpSocket :=
  match udp.bindDual, udp.bindV4 with
  | .ok (), _ => some .dualStack
  | .error _, .ok () => some .ipv4Only
  | .error _, .error _ => none

/-- The address that `recv_from` gives for a peer. -/
def UdpSocket.reports : UdpSocket → SocketAddr → SocketAddr
  | .dualStack, ⟨.v4 ip, port⟩ => ⟨.v6 ip.toIpv6Mapped, port⟩
  | _, addr => addr

def isIpv6 : IpAddr → Bool
  | .v4 _ => false
  | .v6 _ => true

/-- `read_addr_parser` decodes what starts with `bytes` to something that meets `Q`: it does not fail, and
it ends once it was polled more often than there are bytes and waits. -/
def AddressReads (bytes : Bytes) (Q : String × UInt16 → Prop) : Prop :=
  ∀ {R : Type} [ByteSource R] (r : R) (fuel : Nat) (more : Bytes), ByteSource.rest r = bytes ++ more →
    (readAddrParser fuel (Traced.start r)).Holds (fun got _ => Q got) (fun _ _ => False)
      (fun left => fuel ≤ (bytes ++ more).length + readWaits left.calls)

/-- The same for the address of an answer, over any stream it is written to. -/
def AnswerReads (isConnect : Bool) (answer : Received) (Q : String × UInt16 → Prop) : Prop :=
  ∀ {W : Type} [AsyncWrite W], Obliging W → ∀ (w : W) (fuel : Nat),
    (writeUotPacket answer.source answer.data isConnect fuel (Traced.start w)).Holds
      (fun _ wrote => AddressReads (accepted wrote.calls) Q) (fun _ _ => False)
      (fun wrote => fuel ≤ (packetBytes isConnect answer).length + writeWaits wrote.calls)

/-- An address as `read_addr_parser` names it. -/
def namedAs (addr : SocketAddr) : String × UInt16 := (addr.ip.toString, addr.port)

theorem addressReads_addrBytes {addr : SocketAddr} {after : Bytes} {Q : String × UInt16 → Prop}
    (met : Q (namedAs addr)) : AddressReads (addrBytes addr ++ after) Q := by
  intro R source r fuel more starts
  have parsed := parses_addrBytes addr (after ++ more)
  rw [← List.append_assoc, ← starts] at parsed
  have reads := reads_readAddr addrParser fuel (Traced.start r)
  have pays := prompt_readAddr addrParser fuel (Traced.start r)
  change (readAddr addrParser fuel (Traced.start r)).Holds _ _ _
  cases ran : readAddr addrParser fuel (Traced.start r) with
  | done got left rest =>
      rw [ran] at reads
      obtain ⟨rfl, -⟩ := Prod.mk.inj (Option.some.inj (parsed.symm.trans reads))
      exact met
  | failed e left rest =>
      rw [ran] at reads
      cases parsed.symm.trans reads
  | cut left =>
      rw [ran] at pays
      have total := congrArg List.length starts
      change (fuel : Int) + (0 - ((ByteSource.rest r).length : Int)) ≤
        readWaits left.calls - ((ByteSource.rest left).length : Int) at pays
      change fuel ≤ _
      omega

theorem answerReads_namedAs {answer : Received} {Q : String × UInt16 → Prop}
    (met : Q (namedAs answer.source)) : AnswerReads false answer Q := by
  intro W writer obliging w fuel
  have sends := emits_writeUotPacket obliging false answer fuel (Traced.start w)
  have pays := prompt_writeUotPacket answer.source answer.data false fuel (Traced.start w)
  cases ran : writeUotPacket answer.source answer.data false fuel (Traced.start w) with
  | done value wrote left =>
      rw [ran] at sends
      change accepted wrote.calls = packetBytes false answer at sends
      change AddressReads (accepted wrote.calls) Q
      rw [sends]
      exact addressReads_addrBytes met
  | failed e wrote left =>
      rw [ran] at sends
      exact sends
  | cut wrote =>
      rw [ran] at sends pays
      have short := sends.length_le
      change (fuel : Int) + 0 ≤ writeWaits wrote.calls + (accepted wrote.calls).length at pays
      change _ ≤ (packetBytes false answer).length at short
      change fuel ≤ _
      omega

theorem namedAs_inj {a b : SocketAddr} (same : namedAs a = namedAs b) : a = b := by
  obtain ⟨text, port⟩ := Prod.mk.inj same
  have parsed := congrArg parseIpAddr text
  rw [parseIpAddr_toString, parseIpAddr_toString] at parsed
  obtain ⟨ip, number⟩ := a
  cases Option.some.inj parsed
  cases port
  rfl

/-- Only an IPv4 peer of a dual-stack socket goes by another address. -/
theorem reports_eq_iff (socket : UdpSocket) (dest : SocketAddr) :
    socket.reports dest = dest ↔ (socket = .dualStack → isIpv6 dest.ip = true) := by
  obtain ⟨ip, port⟩ := dest
  cases socket with
  | ipv4Only => exact iff_of_true rfl nofun
  | dualStack =>
      cases ip with
      | v6 ip => exact iff_of_true rfl fun _ => rfl
      | v4 ip =>
          refine iff_of_false ?_ ?_
          · intro same
            cases congrArg SocketAddr.ip same
          · intro all
            cases all rfl

theorem bindDual_of_socket {udp : UdpBehaviour} {socket : UdpSocket} (bound : udp.socket = some socket) :
    udp.bindDual = .ok () ↔ socket = .dualStack := by
  unfold UdpBehaviour.socket at bound
  cases dual : udp.bindDual with
  | ok value =>
      rw [dual] at bound
      cases bound
      exact iff_of_true rfl rfl
  | error e =>
      rw [dual] at bound
      cases v4 : udp.bindV4 with
      | ok value =>
          rw [v4] at bound
          cases bound
          exact iff_of_false nofun nofun
      | error e =>
          rw [v4] at bound
          cases bound

/-- The first version, or a request that does not ask to connect. -/
def PerPacket (version : UotVersion) (wire : Bytes) : Prop := version = .v1 ∨ wire.head? = some 0

theorem PerPacket.unconnected {version : UotVersion} {cache opened : DnsCache} {wire rest : Bytes}
    {fixed : Option Destination} (perPacket : PerPacket version wire)
    (requested : request version cache wire = some (fixed, opened, rest)) : fixed = none := by
  cases version with
  | v1 =>
      cases requested
      rfl
  | v2 =>
      rcases perPacket with first | starts
      · cases first
      · rw [request] at requested
        cases parsed : requestGrammar wire with
        | none =>
            rw [parsed] at requested
            cases requested
        | some got =>
            obtain ⟨isConnect, mid, head, tail⟩ := Grammar.bind_eq_some parsed
            obtain rfl := Grammar.of_u8_eq_some head
            obtain ⟨hostPort, mid, -, ended⟩ := Grammar.bind_eq_some tail
            obtain ⟨host, port⟩ := hostPort
            obtain ⟨same, -⟩ := Grammar.of_pure_eq_some ended
            cases Option.some.inj starts
            obtain ⟨found, after⟩ := got
            cases same
            rw [parsed] at requested
            cases requested
            rfl

/-- A session with an address on each packet. A packet that the client sends to `dest` is decoded and
resolved to it. An answer from there is read under the same name just when the destination is in the IPv6
family or the socket is not the dual-stack one. -/
theorem reply_named_iff {udp : UdpBehaviour} {socket : UdpSocket} (bound : udp.socket = some socket)
    {version : UotVersion} {cache opened : DnsCache} {wire rest : Bytes} {fixed : Option Destination}
    (requested : request version cache wire = some (fixed, opened, rest)) (perPacket : PerPacket version wire)
    (dest : SocketAddr) (answer : Received) (answers : answer.source = socket.reports dest) :
    AddressReads (addrBytes dest) fun asked =>
      resolveHost opened asked.1 asked.2 = (opened, .ok dest) ∧
        AnswerReads fixed.isSome answer fun got =>
          got = asked ↔ (udp.bindDual = .ok () → isIpv6 dest.ip = true) := by
  cases perPacket.unconnected requested
  rw [bindDual_of_socket bound, ← reports_eq_iff, ← List.append_nil (addrBytes dest)]
  refine addressReads_addrBytes ⟨resolveHost_literal opened dest, ?_⟩
  refine answerReads_namedAs ?_
  rw [answers]
  exact ⟨namedAs_inj, congrArg namedAs⟩

/-- An IPv6 resolver, asked through the dual-stack socket by a session of the first version. -/
theorem reply_named_iff_ipv6 :
    AddressReads (addrBytes ⟨.v6 Ipv6Addr.localhost, 53⟩) fun asked =>
      resolveHost publicDns asked.1 asked.2 = (publicDns, .ok ⟨.v6 Ipv6Addr.localhost, 53⟩) ∧
        AnswerReads false ⟨⟨.v6 Ipv6Addr.localhost, 53⟩, [1, 2], by decide⟩ fun got =>
          got = asked ↔ ((.ok () : IoResult Unit) = .ok () → isIpv6 (.v6 Ipv6Addr.localhost) = true) :=
  reply_named_iff (show UdpBehaviour.socket ⟨.ok (), .ok (), fun _ => .ok (), fun _ => .ok 0⟩ = some .dualStack from rfl)
    (show request .v1 publicDns [] = some (none, publicDns, []) from rfl) (.inl rfl) ⟨.v6 Ipv6Addr.localhost, 53⟩
    ⟨⟨.v6 Ipv6Addr.localhost, 53⟩, [1, 2], by decide⟩ rfl

/-- An answer of two bytes from the IPv4 resolver `8.8.8.8`, as the dual-stack socket reports it. -/
def mappedAnswer : Bytes := [0x01, 0, 0, 0, 0, 0, 0, 0, 0, 0, 0, 0xff, 0xff, 8, 8, 8, 8, 0, 53, 0, 2, 1, 2]

/-- The client asks `8.8.8.8` and is answered by `::ffff:8.8.8.8`. -/
theorem reply_misnamed :
    (∃ after left, readAddrParser 30 (PacedReader.mk [0x00, 8, 8, 8, 8, 0, 53, 0, 1, 7] []) =
        .done ("8.8.8.8", 53) after left) ∧
      (∃ wrote left, writeUotPacket (UdpSocket.dualStack.reports ⟨.v4 ⟨8, 8, 8, 8⟩, 53⟩) [1, 2] false 30
          (Traced.start (PacedWriter.mk [])) = .done () wrote left ∧ accepted wrote.calls = mappedAnswer) ∧
      ∃ after left, readAddrParser 30 (PacedReader.mk mappedAnswer []) = .done ("::ffff:8.8.8.8", 53) after left :=
  ⟨⟨⟨[0, 1, 7], []⟩, 27, by decide +kernel⟩, ⟨_, _, rfl, by decide +kernel⟩,
    ⟨[0, 2, 1, 2], []⟩, 27, by decide +kernel⟩

end ServerNaive.Uot
