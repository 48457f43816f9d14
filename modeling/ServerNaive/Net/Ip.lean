import ServerNaive.Async.Bytes

/-! Internet addresses and the classes of them that the standard library names. -/
namespace StdNet
open AsyncIo

structure Ipv4Addr where
  a : UInt8
  b : UInt8
  c : UInt8
  d : UInt8
  deriving DecidableEq

/-- Eight groups of 16 bits. -/
structure Ipv6Addr where
  segments : List UInt16
  size : segments.length = 8
  deriving DecidableEq

inductive IpAddr where
  | v4 (ip : Ipv4Addr)
  | v6 (ip : Ipv6Addr)
  deriving DecidableEq

structure SocketAddr where
  ip : IpAddr
  port : UInt16
  deriving DecidableEq

namespace Ipv4Addr

def octets (ip : Ipv4Addr) : Bytes := [ip.a, ip.b, ip.c, ip.d]

def isLoopback (ip : Ipv4Addr) : Bool := ip.a == 127

def isPrivate (ip : Ipv4Addr) : Bool :=
  ip.a == 10 || (ip.a == 172 && 16 ≤ ip.b && ip.b ≤ 31) || (ip.a == 192 && ip.b == 168)

def isLinkLocal (ip : Ipv4Addr) : Bool := ip.a == 169 && ip.b == 254

def isBroadcast (ip : Ipv4Addr) : Bool := ip.a == 255 && ip.b == 255 && ip.c == 255 && ip.d == 255

def isMulticast (ip : Ipv4Addr) : Bool := 224 ≤ ip.a && ip.a ≤ 239

/-- The group of two octets, high one first. -/
def pair (hi lo : UInt8) : UInt16 := UInt16.ofNat (ofBe16 hi lo)

/-- The address `::ffff:a.b.c.d`. -/
def toIpv6Mapped (ip : Ipv4Addr) : Ipv6Addr :=
  ⟨[0, 0, 0, 0, 0, 0xffff, pair ip.a ip.b, pair ip.c ip.d], rfl⟩

end Ipv4Addr

namespace Ipv6Addr

def ofSegments (l : List UInt16) : Option Ipv6Addr :=
  if size : l.length = 8 then some ⟨l, size⟩ else none

/-- The address of sixteen octets. -/
def ofOctets (octets : Bytes) : Option Ipv6Addr :=
  match octets with
  | [a, b, c, d, e, f, g, h, i, j, k, l, m, n, o, p] =>
      some ⟨[Ipv4Addr.pair a b, Ipv4Addr.pair c d, Ipv4Addr.pair e f, Ipv4Addr.pair g h,
        Ipv4Addr.pair i j, Ipv4Addr.pair k l, Ipv4Addr.pair m n, Ipv4Addr.pair o p], rfl⟩
  | _ => none

def localhost : Ipv6Addr := ⟨[0, 0, 0, 0, 0, 0, 0, 1], rfl⟩

def unspecified : Ipv6Addr := ⟨[0, 0, 0, 0, 0, 0, 0, 0], rfl⟩

def isLoopback (ip : Ipv6Addr) : Bool := ip == localhost

/-- The `i`-th group. -/
def segment (ip : Ipv6Addr) (i : Fin 8) : UInt16 := ip.segments.get (i.cast ip.size.symm)

end Ipv6Addr

end StdNet
