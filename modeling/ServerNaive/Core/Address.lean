import ServerNaive.Net.Text

/-! Targets of a tunnel and the private-address filter. -/
namespace ServerNaive
open StdNet

/-- As `str::eq_ignore_ascii_case`. -/
def eqIgnoreAsciiCase (s t : String) : Bool := s.toList.map Char.toLower == t.toList.map Char.toLower

/-- A target. The source keeps the octets of a literal; they are kept here as the address. -/
inductive Address where
  | ipv4 (ip : Ipv4Addr) (port : UInt16)
  | ipv6 (ip : Ipv6Addr) (port : UInt16)
  | domain (host : String) (port : UInt16)
  deriving DecidableEq

namespace Address

def port : Address → UInt16
  | .ipv4 _ port => port
  | .ipv6 _ port => port
  | .domain _ port => port

def host : Address → String
  | .ipv4 ip _ => ip.toString
  | .ipv6 ip _ => ip.toString
  | .domain host _ => host

/-- The target of an authority `host:port` or `[v6]:port`. -/
def fromAuthority (authority : String) : Option Address :=
  match authority.toList with
  | '[' :: s => match splitFirst ']' s with
      | some (host, ':' :: port) => match parseU16 (trim port), parseIpv6Addr (String.ofList host) with
          | some port, some ip => some (.ipv6 ip port)
          | _, _ => none
      | _ => none
  | s => match splitLast ':' s with
      | none => none
      | some (host, port) => match parseU16 port with
          | none => none
          | some port => match parseIpv4Addr (String.ofList host) with
              | some ip => some (.ipv4 ip port)
              | none => some (.domain (String.ofList host) port)

example : fromAuthority "example.com:443" = some (.domain "example.com" 443) ∧
    fromAuthority "1.2.3.4:80" = some (.ipv4 ⟨1, 2, 3, 4⟩ 80) ∧
    fromAuthority "[::1]:443" = some (.ipv6 Ipv6Addr.localhost 443) ∧
    fromAuthority "example.com:99999" = none ∧ fromAuthority "example.com" = none := by decide +kernel

/-- The address of a literal target. -/
def literal : Address → Option IpAddr
  | .ipv4 ip _ => some (.v4 ip)
  | .ipv6 ip _ => some (.v6 ip)
  | .domain _ _ => none

theorem parse_host {target : Address} {ip : IpAddr} (h : target.literal = some ip) :
    parseIpAddr target.host = some ip := by
  cases target with
  | ipv4 a p =>
      cases h
      exact parseIpAddr_toString (.v4 a)
  | ipv6 a p =>
      cases h
      exact parseIpAddr_toString (.v6 a)
  | domain host p => cases h

end Address

def isPrivateIpv4 (ip : Ipv4Addr) : Bool :=
  ip.isLoopback || ip.isPrivate || ip.isLinkLocal || ip.a == 0 ||
    (ip.a == 100 && ip.b &&& 0xC0 == 64) || (ip.a == 192 && ip.b == 0 && ip.c == 0) ||
    ip.isBroadcast || ip.isMulticast

def isIpv6Ula (ip : Ipv6Addr) : Bool := ip.segment 0 &&& 0xfe00 == 0xfc00

def isIpv6LinkLocal (ip : Ipv6Addr) : Bool := ip.segment 0 &&& 0xffc0 == 0xfe80

def isPrivateIpv6 (ip : Ipv6Addr) : Bool := ip.isLoopback || isIpv6Ula ip || isIpv6LinkLocal ip

/-- The verdict of the classifier of the address's own family. -/
def isPrivateIp : IpAddr → Bool
  | .v4 ip => isPrivateIpv4 ip
  | .v6 ip => isPrivateIpv6 ip

/-- The classifier of the sixth version looks at no embedded address. -/
theorem isPrivateIpv6_mapped (a : Ipv4Addr) : isPrivateIpv6 a.toIpv6Mapped = false := by
  have not_loopback : a.toIpv6Mapped ≠ Ipv6Addr.localhost := by
    intro same
    have sixth : (0xffff : UInt16) = 0 := congrArg (fun ip => ip.segment 5) same
    exact absurd sixth (by decide)
  have differs : a.toIpv6Mapped.isLoopback = false := beq_eq_false_iff_ne.mpr not_loopback
  have first : a.toIpv6Mapped.segment 0 = 0 := rfl
  rw [isPrivateIpv6, isIpv6Ula, isIpv6LinkLocal, differs, first]
  decide

theorem isPrivateIpv6_unspecified : isPrivateIpv6 Ipv6Addr.unspecified = false := by decide

end ServerNaive
