import ServerNaive.Async.Paced
import ServerNaive.Async.Prompt
import ServerNaive.Uot.Egress
import ServerNaive.Uot.Output

/-! What the output loop writes, read back by the packet reader of the input loop. Both
sides are compared with the bytes of the packets, so neither depends on how the other cuts
the stream. -/
namespace ServerNaive.Uot
open AsyncIo StdNet

section Code

variable {W : Type} [AsyncWrite W]

/-- Successive calls of `write_uot_packet`. -/
def writePackets (isConnect : Bool) : List Received → Task W IoError Unit
  | [] => pure ()
  | p :: ps => do
      writeUotPacket p.source p.data isConnect
      writePackets isConnect ps

end Code

section Reader

variable {R : Type} [AsyncRead R]

def readSource : Bool → Task R IoError (Option (String × UInt16))
  | true => pure none
  | false => do
      let addr ← readAddrParser
      return some addr

/-- What the input loop reads for one packet: its address unless connected, its length and
its payload. -/
def readPacket (isConnect : Bool) : Task R IoError (Option (String × UInt16) × Bytes) := do
  let addr ← readSource isConnect
  let len ← Task.readU16
  let payload ← Task.readExact len.toNat
  return (addr, payload)

def readPackets (isConnect : Bool) : Nat → Task R IoError (List (Option (String × UInt16) × Bytes))
  | 0 => pure []
  | n + 1 => do
      let p ← readPacket isConnect
      let ps ← readPackets isConnect n
      return p :: ps

end Reader

/-! The bytes of a packet. -/

def addrBytes (addr : SocketAddr) : Bytes :=
  match addr.ip with
  | .v4 ip => [0x00] ++ (ip.octets ++ be16 addr.port.toNat)
  | .v6 ip => [0x01] ++ (ipv6Octets ip ++ be16 addr.port.toNat)

def packetBytes (isConnect : Bool) (p : Received) : Bytes :=
  (if isConnect then [] else addrBytes p.source) ++ (be16 p.data.length ++ p.data)

def packetsBytes (isConnect : Bool) (ps : List Received) : Bytes := ps.flatMap (packetBytes isConnect)

/-- The length field can hold the length of a datagram. -/
theorem Received.toNat_length (p : Received) : (UInt16.ofNat p.data.length).toNat = p.data.length := by
  have fits := p.fits
  rw [UInt16.toNat_ofNat', Nat.mod_eq_of_lt (by omega)]

/-- A packet as its reader sees it. -/
def seenAs (isConnect : Bool) (p : Received) : Option (String × UInt16) × Bytes :=
  (if isConnect then none else some (p.source.ip.toString, p.source.port), p.data)

section Writing

variable {W : Type} [AsyncWrite W] (obliging : Obliging W)
include obliging

theorem emits_writeAddrParser (addr : SocketAddr) : Emits (W := W) (writeAddrParser addr) (addrBytes addr) := by
  unfold writeAddrParser addrBytes
  cases addr.ip with
  | v4 ip =>
      exact (emits_writeAll obliging _).bind ((emits_writeAll obliging _).bind (emits_writeAll obliging _))
  | v6 ip =>
      exact (emits_writeAll obliging _).bind ((emits_writeAll obliging _).bind (emits_writeAll obliging _))

theorem emits_writeUotPacket (isConnect : Bool) (p : Received) :
    Emits (W := W) (writeUotPacket p.source p.data isConnect) (packetBytes isConnect p) := by
  have size := p.toNat_length
  have tail : Emits (W := W) (do
      Task.writeU16 (UInt16.ofNat p.data.length)
      Task.writeAll p.data) (be16 p.data.length ++ p.data) := by
    have head := emits_writeAll obliging (be16 (UInt16.ofNat p.data.length).toNat)
    rw [size] at head
    rw [Task.writeU16, size]
    exact head.bind (emits_writeAll obliging _)
  cases isConnect with
  | true => exact tail
  | false => exact (emits_writeAddrParser obliging p.source).bind tail

theorem emits_writePackets (isConnect : Bool) (ps : List Received) :
    Emits (W := W) (writePackets isConnect ps) (packetsBytes isConnect ps) := by
  induction ps with
  | nil => exact emits_pure
  | cons p ps ih => exact (emits_writeUotPacket obliging isConnect p).bind ih

end Writing

theorem prompt_writeUotPacket {W : Type} [AsyncWrite W] (source : SocketAddr) (data : Bytes) (isConnect : Bool) :
    Prompt writeGain (writeUotPacket source data isConnect : Task (Traced W) IoError Unit) := by
  have tail : Prompt writeGain (do
      Task.writeU16 (UInt16.ofNat data.length)
      Task.writeAll data : Task (Traced W) IoError Unit) :=
    (prompt_writeAll _).bind fun _ => prompt_writeAll _
  have addr : Prompt writeGain (writeAddrParser source : Task (Traced W) IoError Unit) := by
    unfold writeAddrParser
    cases source.ip with
    | v4 ip => exact (prompt_writeAll _).bind fun _ => (prompt_writeAll _).bind fun _ => prompt_writeAll _
    | v6 ip => exact (prompt_writeAll _).bind fun _ => (prompt_writeAll _).bind fun _ => prompt_writeAll _
  cases isConnect with
  | true => exact tail
  | false => exact addr.bind fun _ => tail

theorem prompt_writePackets {W : Type} [AsyncWrite W] (isConnect : Bool) (ps : List Received) :
    Prompt writeGain (writePackets isConnect ps : Task (Traced W) IoError Unit) := by
  induction ps with
  | nil => exact prompt_pure _ _
  | cons p ps ih => exact (prompt_writeUotPacket p.source p.data isConnect).bind fun _ => ih

/-! The reader against the same bytes. -/

theorem ofOctets_ipv6Octets (ip : Ipv6Addr) : Ipv6Addr.ofOctets (ipv6Octets ip) = some ip := by
  obtain ⟨segments, size⟩ := ip
  match segments, size with
  | [a, b, c, d, e, f, g, h], _ =>
      -- the octets are taken two by two
      refine congrArg some ((Ipv6Addr.mk.injEq ..).mpr ?_)
      simp only [pair_halves]

theorem parses_addrBytes (addr : SocketAddr) :
    (addrGrammar addrParser).Parses (addrBytes addr) (addr.ip.toString, addr.port) := by
  obtain ⟨ip, port⟩ := addr
  cases ip with
  | v4 ip =>
      refine (Grammar.parses_u8 0x00).bind ?_
      refine (Grammar.parses_exactly (show ip.octets.length = 4 from rfl)).bind ?_
      exact (Grammar.parses_u16 port).map fun port => (octetsText ip.octets, port)
  | v6 ip =>
      have text : ipv6Text (ipv6Octets ip) = ip.toString := by
        rw [ipv6Text, ofOctets_ipv6Octets]
        rfl
      refine (Grammar.parses_u8 0x01).bind ?_
      refine (Grammar.parses_exactly (length_ipv6Octets ip)).bind ?_
      change Grammar.Parses _ _ (ip.toString, port)
      rw [← text]
      exact (Grammar.parses_u16 port).map fun port => (ipv6Text (ipv6Octets ip), port)

def sourceGrammar : Bool → Grammar (Option (String × UInt16))
  | true => pure none
  | false => do
      let addr ← addrGrammar addrParser
      return some addr

def packetGrammar (isConnect : Bool) : Grammar (Option (String × UInt16) × Bytes) := do
  let addr ← sourceGrammar isConnect
  let len ← Grammar.u16
  let payload ← Grammar.exactly len.toNat
  return (addr, payload)

def packetsGrammar (isConnect : Bool) : Nat → Grammar (List (Option (String × UInt16) × Bytes))
  | 0 => pure []
  | n + 1 => do
      let p ← packetGrammar isConnect
      let ps ← packetsGrammar isConnect n
      return p :: ps

theorem parses_packetBytes (isConnect : Bool) (p : Received) :
    (packetGrammar isConnect).Parses (packetBytes isConnect p) (seenAs isConnect p) := by
  have size := p.toNat_length
  have length := Grammar.parses_u16 (UInt16.ofNat p.data.length)
  rw [size] at length
  have source : (sourceGrammar isConnect).Parses (if isConnect then [] else addrBytes p.source)
      (seenAs isConnect p).1 := by
    cases isConnect with
    | true => exact Grammar.parses_pure none
    | false => exact (parses_addrBytes p.source).map some
  exact source.bind (length.bind ((Grammar.parses_exactly size.symm).map fun payload => (_, payload)))

theorem parses_packetsBytes (isConnect : Bool) (ps : List Received) :
    (packetsGrammar isConnect ps.length).Parses (packetsBytes isConnect ps) (ps.map (seenAs isConnect)) := by
  induction ps with
  | nil => exact Grammar.parses_pure []
  | cons p ps ih =>
      exact (parses_packetBytes isConnect p).bind (ih.map fun rest => seenAs isConnect p :: rest)

section Reading

variable {R : Type} [ByteSource R]

theorem reads_readPackets (isConnect : Bool) (n : Nat) :
    Reads (readPackets isConnect n : Task R IoError _) (packetsGrammar isConnect n) := by
  have source : Reads (readSource isConnect : Task R IoError _) (sourceGrammar isConnect) := by
    cases isConnect with
    | true => exact reads_pure none
    | false => exact (reads_readAddr addrParser).bind fun _ => reads_pure _
  have packet : Reads (readPacket isConnect : Task R IoError _) (packetGrammar isConnect) :=
    source.bind fun _ => reads_readU16.bind fun _ => (reads_readExact _).bind fun _ => reads_pure _
  induction n with
  | zero => exact reads_pure []
  | succ n ih => exact packet.bind fun _ => ih.bind fun _ => reads_pure _

theorem prompt_readAddr (codes : AddrCodes) :
    Prompt readGain (readAddr codes : Task (Traced R) IoError (String × UInt16)) := by
  refine prompt_readU8.bind fun ty => ?_
  split_ifs
  · exact (prompt_readExact 4).bind fun ip => prompt_readU16.bind fun port => prompt_pure _ _
  · exact (prompt_readExact 16).bind fun ip => prompt_readU16.bind fun port => prompt_pure _ _
  · refine prompt_readU8.bind fun len => (prompt_readExact _).bind fun domain =>
      prompt_readU16.bind fun port => ?_
    cases fromUtf8 domain with
    | none => exact prompt_fail _ _
    | some domain => exact prompt_pure _ _
  · exact prompt_fail _ _

theorem prompt_readPackets (isConnect : Bool) (n : Nat) :
    Prompt readGain (readPackets isConnect n : Task (Traced R) IoError _) := by
  have source : Prompt readGain (readSource isConnect : Task (Traced R) IoError _) := by
    cases isConnect with
    | true => exact prompt_pure _ none
    | false => exact (prompt_readAddr addrParser).bind fun _ => prompt_pure _ _
  have packet : Prompt readGain (readPacket isConnect : Task (Traced R) IoError _) :=
    source.bind fun _ => prompt_readU16.bind fun _ => (prompt_readExact _).bind fun _ => prompt_pure _ _
  induction n with
  | zero => exact prompt_pure _ []
  | succ n ih => exact packet.bind fun _ => ih.bind fun _ => prompt_pure _ _

end Reading

/-- A printed address is taken as it is; the resolver is not asked. -/
theorem resolveHost_literal (cache : DnsCache) (addr : SocketAddr) :
    resolveHost cache addr.ip.toString addr.port = (cache, .ok addr) := by
  simp only [resolveHost, parseIpAddr_toString]

/-- Any list of packets comes back whole. Written to a stream that takes it bit by bit and
read from one that gives it bit by bit, neither side fails; each of them ends once it was
polled more often than there are bytes and waits. -/
theorem uot_packets_round_trip {W R : Type} [AsyncWrite W] [ByteSource R] (obliging : Obliging W) (w : W)
    (r : R) (isConnect : Bool) (ps : List Received) (writing reading : Nat) :
    (writePackets isConnect ps writing (Traced.start w)).Holds
      (fun _ wrote => ByteSource.rest r = accepted wrote.calls →
        (readPackets isConnect ps.length reading (Traced.start r)).Holds
          (fun got left => got.map Prod.snd = ps.map Received.data ∧ ByteSource.rest left = [] ∧
            (isConnect = false → ∀ cache : DnsCache,
              got.map (fun p => p.1.map fun (host, port) => resolveHost cache host port) =
                ps.map fun p => some (cache, .ok p.source)))
          (fun _ _ => False)
          (fun left => reading ≤ (accepted wrote.calls).length + readWaits left.calls))
      (fun _ _ => False)
      (fun wrote => writing ≤ (packetsBytes isConnect ps).length + writeWaits wrote.calls) := by
  have sends := emits_writePackets obliging isConnect ps writing (Traced.start w)
  have level := prompt_writePackets isConnect ps writing (Traced.start w)
  cases ran : writePackets isConnect ps writing (Traced.start w) with
  | failed e wrote left =>
      rw [ran] at sends
      exact sends
  | cut wrote =>
      rw [ran] at sends level
      have short := sends.length_le
      change (writing : Int) + 0 ≤ writeWaits wrote.calls + (accepted wrote.calls).length at level
      change _ ≤ (packetsBytes isConnect ps).length at short
      change writing ≤ _
      omega
  | done _ wrote left =>
      rw [ran] at sends
      change accepted wrote.calls = packetsBytes isConnect ps at sends
      intro piped
      rw [sends] at piped ⊢
      have parsed := parses_packetsBytes isConnect ps []
      rw [List.append_nil, ← piped] at parsed
      have reads := reads_readPackets isConnect ps.length reading (Traced.start r)
      have pays := prompt_readPackets isConnect ps.length reading (Traced.start r)
      cases back : readPackets isConnect ps.length reading (Traced.start r) with
      | failed e last left =>
          rw [back] at reads
          exact absurd (parsed.symm.trans reads) (by simp only [reduceCtorEq, not_false_eq_true])
      | cut last =>
          rw [back] at pays
          have total := congrArg List.length piped
          change (reading : Int) + (0 - ((ByteSource.rest r).length : Int)) ≤
            readWaits last.calls - ((ByteSource.rest last).length : Int) at pays
          change reading ≤ _
          omega
      | done got last left =>
          rw [back] at reads
          obtain ⟨rfl, none_left⟩ := Prod.mk.inj (Option.some.inj (parsed.symm.trans reads))
          refine ⟨?_, none_left.symm, ?_⟩
          · simp only [List.map_map]
            rfl
          · intro named cache
            subst named
            simp only [List.map_map]
            apply List.map_congr_left
            intro p _
            exact congrArg some (resolveHost_literal cache p.source)

/-- A datagram from an IPv4 peer, an empty one and one from an IPv6 peer. -/
def threePackets : List Received :=
  [⟨⟨.v4 ⟨9, 9, 9, 9⟩, 53⟩, [1, 2, 3], by decide⟩, ⟨⟨.v4 ⟨10, 0, 0, 1⟩, 443⟩, [], by decide⟩,
    ⟨⟨.v6 Ipv6Addr.localhost, 65535⟩, [4], by decide⟩]

theorem uot_packets_round_trip_three :
    (∃ wrote left, writePackets false threePackets 50 (Traced.start (PacedWriter.mk [2, 0, 1])) =
        .done () wrote left ∧ accepted wrote.calls = packetsBytes false threePackets) ∧
      (writePackets false threePackets 50 (Traced.start (PacedWriter.mk [2, 0, 1]))).Holds
        (fun _ wrote => packetsBytes false threePackets = accepted wrote.calls →
          (readPackets false 3 60
              (Traced.start (PacedReader.mk (packetsBytes false threePackets) [0, 1, 3]))).Holds
            (fun got left => got.map Prod.snd = [[1, 2, 3], [], [4]] ∧ ByteSource.rest left = [] ∧
              (false = false → ∀ cache : DnsCache,
                got.map (fun p => p.1.map fun (host, port) => resolveHost cache host port) =
                  threePackets.map fun p => some (cache, .ok p.source)))
            (fun _ _ => False)
            (fun left => 60 ≤ (accepted wrote.calls).length + readWaits left.calls))
        (fun _ _ => False)
        (fun wrote => 50 ≤ (packetsBytes false threePackets).length + writeWaits wrote.calls) :=
  ⟨⟨_, _, rfl, by decide +kernel⟩, uot_packets_round_trip PacedWriter.obliging (PacedWriter.mk [2, 0, 1])
    (PacedReader.mk (packetsBytes false threePackets) [0, 1, 3]) false threePackets 50 60⟩

/-! The input loop of a session that is sent such a stream. -/

/-- Where the input loop sends a packet: to its peer, or back to the address in front of it. -/
def replyTo : Option Destination → Received → Destination
  | some dest, _ => dest
  | none, p => ⟨p.source.ip.toString, p.source.port, p.source⟩

theorem nextDestination_packetBytes (fixed : Option Destination) (cache : DnsCache) (p : Received)
    (wire : Bytes) :
    nextDestination fixed cache ((if fixed.isSome then [] else addrBytes p.source) ++ wire) =
      some (replyTo fixed p, cache, wire) := by
  cases fixed with
  | some dest => rfl
  | none =>
      have parsed := parses_addrBytes p.source wire
      simp only [nextDestination, Option.isSome_none, Bool.false_eq_true, if_false, parsed,
        resolveHost_literal, replyTo]

theorem nextPacket_packetBytes (fixed : Option Destination) (cache : DnsCache) (p : Received) (wire : Bytes) :
    nextPacket fixed cache (packetBytes fixed.isSome p ++ wire) =
      if p.data = [] then .empty cache wire else .carries ⟨replyTo fixed p, p.data⟩ cache wire := by
  have size := p.toNat_length
  have length := Grammar.parses_u16 (UInt16.ofNat p.data.length) (p.data ++ wire)
  have body := Grammar.parses_exactly (n := (UInt16.ofNat p.data.length).toNat) size.symm wire
  have empty_iff : UInt16.ofNat p.data.length = 0 ↔ p.data = [] := by
    rw [← UInt16.toNat_inj, size, UInt16.toNat_zero, List.length_eq_zero_iff]
  rw [size] at length
  rw [packetBytes, List.append_assoc, nextPacket, nextDestination_packetBytes, List.append_assoc]
  simp only [length, empty_iff]
  split_ifs with empty
  · rw [empty]
    rfl
  · rw [body]

/-- The input loop hands every packet that carries data to the socket, in order, and asks the
resolver for none of them. -/
theorem asksFor_packetsBytes {udp : UdpBehaviour} (sends : ∀ n, ∃ k, udp.send n = .ok k)
    (fixed : Option Destination) (sent : List Datagram) (cache : DnsCache) (ps : List Received) :
    asksFor udp fixed sent cache (packetsBytes fixed.isSome ps) =
      sent ++ (ps.filter (·.data ≠ [])).map fun p => ⟨replyTo fixed p, p.data⟩ := by
  induction ps generalizing sent with
  | nil =>
      change sent = _
      simp only [List.filter_nil, List.map_nil, List.append_nil]
  | cons p ps ih =>
      obtain ⟨k, answer⟩ := sends sent.length
      have split : packetsBytes fixed.isSome (p :: ps) = packetBytes fixed.isSome p ++ packetsBytes fixed.isSome ps :=
        List.flatMap_cons
      rw [split, asksFor_step, nextPacket_packetBytes]
      by_cases empty : p.data = []
      · rw [if_pos empty, List.filter_cons_of_neg (by simpa using empty)]
        exact ih sent
      · rw [if_neg empty, List.filter_cons_of_pos (by simpa using empty)]
        simp only [answer, ih, List.map_cons, List.append_assoc, List.cons_append, List.nil_append]

end ServerNaive.Uot
