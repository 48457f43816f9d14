import ServerNaive.Async.Parse
import ServerNaive.Core.Dns

/-! The wire format of UDP over TCP: the magic names, the two address encodings and the
resolution of a named host. -/
namespace ServerNaive.Uot
open AsyncIo StdNet

def magicV2 : String := "sp.v2.udp-over-tcp.arpa"

def magicV1 : String := "sp.udp-over-tcp.arpa"

inductive UotVersion where
  | v1
  | v2
  deriving DecidableEq

def detectUot (host : String) : Option UotVersion :=
  if eqIgnoreAsciiCase host magicV2 then some .v2
  else if eqIgnoreAsciiCase host magicV1 then some .v1
  else none

example : detectUot "SP.v2.UDP-over-tcp.ARPA" = some .v2 ∧ detectUot "sp.udp-over-tcp.arpa." = none := by
  decide

theorem eq_of_toLower_s {c : Char} (lower : c.toLower = 's') : c = 's' ∨ c = 'S' := by
  unfold Char.toLower at lower
  split at lower
  · right
    have value : (c.val.toNat + 32) % 2 ^ 32 = 115 := congrArg (fun x => x.val.toNat) lower
    have small := c.val.toNat_lt
    apply Char.ext
    apply UInt32.toNat_inj.mp
    change c.val.toNat = 83
    omega
  · exact .inl lower

/-- A magic name is a name, in any letter case. -/
theorem literal_of_detectUot {target : Address} {version : UotVersion}
    (magic : detectUot target.host = some version) : target.literal = none := by
  have lowered : target.host.toList.map Char.toLower = magicV2.toList.map Char.toLower ∨
      target.host.toList.map Char.toLower = magicV1.toList.map Char.toLower := by
    unfold detectUot eqIgnoreAsciiCase at magic
    split_ifs at magic with second first
    · exact .inl (eq_of_beq second)
    · exact .inr (eq_of_beq first)
  have starts : ∃ c s, target.host.toList = c :: s ∧ c.toLower = 's' := by
    cases host : target.host.toList with
    | nil =>
        rw [host] at lowered
        rcases lowered with same | same <;> cases same
    | cons c s =>
        rw [host] at lowered
        refine ⟨c, s, rfl, ?_⟩
        rcases lowered with same | same <;> exact (List.cons.inj same).1
  obtain ⟨c, s, host, lower⟩ := starts
  have unparsed : parseIpAddr target.host = none := by
    rcases eq_of_toLower_s lower with rfl | rfl <;>
      exact parseIpAddr_none host (by decide) (by decide) (by decide)
  cases literal : target.literal with
  | none => rfl
  | some ip =>
      rw [Address.parse_host literal] at unparsed
      cases unparsed

/-- The type bytes of an address encoding and the texts of its errors. -/
structure AddrCodes where
  ipv4 : UInt8
  ipv6 : UInt8
  fqdn : UInt8
  invalidFqdn : String
  unknownType : String

def socksaddrSerializer : AddrCodes :=
  ⟨0x01, 0x04, 0x03, "invalid FQDN in UoT request", "unknown SocksaddrSerializer type: 0x"⟩

def addrParser : AddrCodes :=
  ⟨0x00, 0x01, 0x02, "invalid FQDN in UoT packet", "unknown AddrParser type: 0x"⟩

/-- An error made by `anyhow!`. -/
def anyhow (text : String) : IoError := ⟨.other, text⟩

def octetsText (ip : Bytes) : String :=
  (Ipv4Addr.mk (ip.getD 0 0) (ip.getD 1 0) (ip.getD 2 0) (ip.getD 3 0)).toString

/-- The text of sixteen octets; `read_exact` gives no other number of them. -/
def ipv6Text (ip : Bytes) : String := ((Ipv6Addr.ofOctets ip).map Ipv6Addr.toString).getD ""

def fromUtf8 (bs : Bytes) : Option String := String.fromUTF8? ⟨bs.toArray⟩

section Read

variable {R : Type} [AsyncRead R]

def readAddr (codes : AddrCodes) : Task R IoError (String × UInt16) := do
  let ty ← Task.readU8
  if ty = codes.ipv4 then
    let ip ← Task.readExact 4
    let port ← Task.readU16
    return (octetsText ip, port)
  else if ty = codes.ipv6 then
    let ip ← Task.readExact 16
    let port ← Task.readU16
    return (ipv6Text ip, port)
  else if ty = codes.fqdn then
    let len ← Task.readU8
    let domain ← Task.readExact len.toNat
    let port ← Task.readU16
    match fromUtf8 domain with
    | none => Task.fail (anyhow codes.invalidFqdn)
    | some domain => return (domain, port)
  else Task.fail (anyhow (codes.unknownType ++ String.ofList (Nat.toDigits 16 ty.toNat)))

def readSocksAddr : Task R IoError (String × UInt16) := readAddr socksaddrSerializer

def readAddrParser : Task R IoError (String × UInt16) := readAddr addrParser

end Read

section Write

variable {W : Type} [AsyncWrite W]

def ipv6Octets (ip : Ipv6Addr) : Bytes := ip.segments.flatMap fun g => be16 g.toNat

omit [AsyncWrite W] in
@[simp] theorem length_ipv6Octets (ip : Ipv6Addr) : (ipv6Octets ip).length = 16 := by
  simp only [ipv6Octets, List.length_flatMap, length_be16, List.map_const', List.sum_replicate, ip.size]
  rfl

def writeAddrParser (addr : SocketAddr) : Task W IoError Unit :=
  match addr.ip with
  | .v4 ip => do
      Task.writeU8 0x00
      Task.writeAll ip.octets
      Task.writeU16 addr.port
  | .v6 ip => do
      Task.writeU8 0x01
      Task.writeAll (ipv6Octets ip)
      Task.writeU16 addr.port

/-- One packet: the address of its source unless connected, its length and its data. -/
def writeUotPacket (source : SocketAddr) (data : Bytes) (isConnect : Bool) : Task W IoError Unit := do
  if isConnect = false then
    writeAddrParser source
  Task.writeU16 (UInt16.ofNat data.length)
  Task.writeAll data

end Write

/-- A literal is its own address; a name costs one lookup and gives its first address. -/
def resolveHost (cache : DnsCache) (host : String) (port : UInt16) : DnsCache × IoResult SocketAddr :=
  match parseIpAddr host with
  | some ip => (cache, .ok ⟨ip, port⟩)
  | none =>
      match cache.resolveWithPortIter host port with
      | (cache, .error e) => (cache, .error (anyhow ("DNS error for " ++ host ++ ": " ++ cache.errorText e)))
      | (cache, .ok []) => (cache, .error (anyhow ("no address for " ++ host)))
      | (cache, .ok (sa :: _)) => (cache, .ok sa)

/-! The format as a grammar. -/

def addrGrammar (codes : AddrCodes) : Grammar (String × UInt16) := do
  let ty ← Grammar.u8
  if ty = codes.ipv4 then
    let ip ← Grammar.exactly 4
    let port ← Grammar.u16
    return (octetsText ip, port)
  else if ty = codes.ipv6 then
    let ip ← Grammar.exactly 16
    let port ← Grammar.u16
    return (ipv6Text ip, port)
  else if ty = codes.fqdn then
    let len ← Grammar.u8
    let domain ← Grammar.exactly len.toNat
    let port ← Grammar.u16
    match fromUtf8 domain with
    | none => Grammar.never
    | some domain => return (domain, port)
  else Grammar.never

theorem reads_readAddr {R : Type} [ByteSource R] (codes : AddrCodes) :
    Reads (readAddr codes : Task R IoError (String × UInt16)) (addrGrammar codes) := by
  refine reads_readU8.bind fun ty => ?_
  split_ifs
  · exact (reads_readExact 4).bind fun ip => reads_readU16.bind fun port => reads_pure _
  · exact (reads_readExact 16).bind fun ip => reads_readU16.bind fun port => reads_pure _
  · refine reads_readU8.bind fun len => (reads_readExact _).bind fun domain => reads_readU16.bind fun port => ?_
    cases fromUtf8 domain with
    | none => exact reads_fail _
    | some domain => exact reads_pure _
  · exact reads_fail _

theorem takes_addrGrammar (codes : AddrCodes) : (addrGrammar codes).Takes 1 := by
  refine Grammar.Takes.bind (n := 0) Grammar.takes_u8 fun ty => ?_
  have literal (size : Nat) (text : Bytes → String) : Grammar.Takes (do
      let ip ← Grammar.exactly size
      let port ← Grammar.u16
      return (text ip, port)) 0 :=
    Grammar.Takes.weaken ((Grammar.takes_exactly size).bind fun ip =>
      Grammar.takes_u16.bind fun port => Grammar.takes_pure _) (Nat.zero_le _)
  split_ifs
  · exact literal 4 octetsText
  · exact literal 16 ipv6Text
  · refine Grammar.Takes.weaken (Grammar.takes_u8.bind (n := 0) fun len => Grammar.Takes.weaken
      ((Grammar.takes_exactly _).bind (n := 0) fun domain => Grammar.Takes.weaken
        (Grammar.takes_u16.bind (n := 0) fun port => ?_) (Nat.zero_le _)) (Nat.zero_le _)) (Nat.zero_le _)
    cases fromUtf8 domain with
    | none => exact Grammar.takes_never 0
    | some domain => exact Grammar.takes_pure _
  · exact Grammar.takes_never 0

end ServerNaive.Uot
