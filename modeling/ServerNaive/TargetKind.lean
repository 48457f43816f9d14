import ServerNaive.Core.Authority
import ServerNaive.Routing

/-! Two views of one target. The private-address check, the resolver and the direct decision look at the variant of
the address; the rules look at what its printed host reads as. -/
namespace ServerNaive
open StdNet

/-- What the variant of a target says of its host. -/
def Address.kind : Address → HostInfo
  | .ipv4 ip _ => .fromIp (.v4 ip)
  | .ipv6 ip _ => .fromIp (.v6 ip)
  | .domain host _ => .fromName host

/-- What `match_host` makes of a host before it asks the rules. -/
def hostInfo (host : String) : HostInfo :=
  match parseIpAddr host with
  | some ip => .fromIp ip
  | none => .fromName host

theorem matchHost_eq (engine : AclEngine) (host : String) (port : UInt16) (protocol : Protocol) :
    engine.matchHost host port protocol =
      (engine.compiled (hostInfo host) protocol port).or (engine.outbounds "direct") := by
  cases read : parseIpAddr host with
  | none =>
      simp only [AclEngine.matchHost, hostInfo, read]
      cases engine.compiled (.fromName host) protocol port <;> rfl
  | some ip =>
      simp only [AclEngine.matchHost, hostInfo, read]
      cases engine.compiled (.fromIp ip) protocol port <;> rfl

/-- The rules see what the other three see. A host that they take for an address is checked, resolved and decided on
as that address, and one that they take for a name is that domain. -/
structure SeenAlike (target : Address) : Prop where
  kind : hostInfo target.host = target.kind
  matched : ∀ (engine : AclEngine) port protocol, engine.matchHost target.host port protocol =
    (engine.compiled target.kind protocol port).or (engine.outbounds "direct")
  checked : ∀ ip, hostInfo target.host = .fromIp ip →
    ∀ cache, checkPrivateAndResolve cache target = (cache, isPrivateIp ip, none)
  resolved : ∀ ip, hostInfo target.host = .fromIp ip →
    ∀ cache, resolveSocketAddr cache target = (cache, .ok ⟨ip, target.port⟩)
  decided : ∀ ip, hostInfo target.host = .fromIp ip →
    ∀ (router : AclRouter) resolved dialer, router.directDecision target resolved dialer = .direct resolved dialer
  named : ∀ name, hostInfo target.host = .fromName name → target = .domain name target.port
  unspelled : ∀ host port, target = .domain host port → parseIpv4Addr host = none ∧ parseIpv6Addr host = none

theorem hostInfo_eq_fromName {host : String} (name : hostInfo host = .fromName host) : parseIpAddr host = none := by
  unfold hostInfo at name
  split at name
  · cases name
  · assumption

theorem hostInfo_of_none {host : String} (unread : parseIpAddr host = none) : hostInfo host = .fromName host := by
  rw [hostInfo, unread]

theorem hostInfo_of_literal {target : Address} {ip : IpAddr} (literal : target.literal = some ip) :
    hostInfo target.host = .fromIp ip := by
  rw [hostInfo, Address.parse_host literal]

theorem seenAlike_of_kind {target : Address} (same : hostInfo target.host = target.kind) : SeenAlike target := by
  refine ⟨same, ?_, ?_, ?_, ?_, ?_, ?_⟩
  · intro engine port protocol
    rw [matchHost_eq, same]
  · intro ip seen cache
    rw [same] at seen
    cases target <;> cases seen <;> rfl
  · intro ip seen cache
    rw [same] at seen
    cases target <;> cases seen <;> rfl
  · intro ip seen router resolved dialer
    rw [same] at seen
    have literal : target.literal.isNone = false := by cases target <;> cases seen <;> rfl
    simp [AclRouter.directDecision, literal]
  · intro name seen
    rw [same] at seen
    cases target <;> cases seen
    rfl
  · rintro host port rfl
    exact (parseIpAddr_eq_none_iff host).mp (hostInfo_eq_fromName same)

theorem seenAlike_literal {target : Address} {ip : IpAddr} (literal : target.literal = some ip) : SeenAlike target := by
  apply seenAlike_of_kind
  rw [hostInfo_of_literal literal]
  cases target <;> cases literal <;> rfl

theorem seenAlike_domain (host : String) (port : UInt16) :
    SeenAlike (.domain host port) ↔ parseIpv4Addr host = none ∧ parseIpv6Addr host = none := by
  constructor
  · intro alike
    exact alike.unspelled host port rfl
  · intro unspelled
    exact seenAlike_of_kind (hostInfo_of_none ((parseIpAddr_eq_none_iff host).mpr unspelled))

/-- A bracket starts no address, so the text before the last colon of a bracketed authority is none. -/
theorem parseIpv6Addr_of_bracket {s host port : Text} (cut : splitLast ':' ('[' :: s) = some (host, port)) :
    parseIpv6Addr (String.ofList host) = none := by
  have whole := (splitLast_eq_some cut).1
  cases host with
  | nil => cases whole
  | cons c host =>
      cases whole
      have unread := parseIpAddr_none (t := String.ofList ('[' :: host)) (String.toList_ofList) (by decide) (by decide)
        (by decide)
      exact ((parseIpAddr_eq_none_iff _).mp unread).2

/-- The two views part on exactly the authorities that spell an address of the sixth version without brackets. -/
theorem target_seen_alike_iff {authority : String} {target : Address}
    (parsed : Address.fromAuthority authority = some target) :
    SeenAlike target ↔ ∀ host port, splitLast ':' authority.toList = some (host, port) →
      parseIpv6Addr (String.ofList host) = none := by
  rcases Address.head?_cases authority.toList with ⟨s, starts⟩ | plain
  · obtain ⟨_, _, number, ip, -, -, -, rfl⟩ := (Address.fromAuthority_bracket starts _).mp parsed
    have literal : Address.literal (.ipv6 ip number) = some (.v6 ip) := rfl
    refine iff_of_true (seenAlike_literal literal) ?_
    intro host port cut
    rw [starts] at cut
    exact parseIpv6Addr_of_bracket cut
  · obtain ⟨host, port, number, cut, -, spelled⟩ := (Address.fromAuthority_plain plain _).mp parsed
    have only : (∀ front back, splitLast ':' authority.toList = some (front, back) →
        parseIpv6Addr (String.ofList front) = none) ↔ parseIpv6Addr (String.ofList host) = none := by
      rw [cut]
      constructor
      · intro every
        exact every host port rfl
      · rintro unread front back ⟨⟩
        exact unread
    rw [only]
    cases four : parseIpv4Addr (String.ofList host) with
    | some ip =>
        rw [four] at spelled
        subst spelled
        have literal : Address.literal (.ipv4 ip number) = some (.v4 ip) := rfl
        exact iff_of_true (seenAlike_literal literal) (parseIpv6Addr_of_ipv4 four)
    | none =>
        rw [four] at spelled
        subst spelled
        change SeenAlike (.domain (String.ofList host) number) ↔ _
        rw [seenAlike_domain, four]
        simp

theorem target_seen_alike_iff_bracketed :
    Address.fromAuthority "[::1]:80" = some (.ipv6 Ipv6Addr.localhost 80) ∧
      SeenAlike (.ipv6 Ipv6Addr.localhost 80) := by
  have parsed : Address.fromAuthority "[::1]:80" = some (.ipv6 Ipv6Addr.localhost 80) := by decide +kernel
  refine ⟨parsed, (target_seen_alike_iff parsed).mpr ?_⟩
  intro host port cut
  have front : splitLast ':' "[::1]:80".toList = some ("[::1]".toList, "80".toList) := by decide
  cases front.symm.trans cut
  decide

/-- A proxy that never answers. -/
def idleProxy : OutboundHandler := .http ⟨fun _ => ⟨[], [], .elapsed⟩⟩

/-- Rules that send loopback to the proxy and leave the rest alone. -/
def loopbackProxied : AclRouter :=
  ⟨⟨fun info _ _ => if info = .fromIp (.v6 Ipv6Addr.localhost) then some idleProxy else none, fun _ => none⟩, true⟩

/-- A resolver that knows no name. -/
def unknownCache : DnsCache := ⟨fun _ host => .error (.notFound host), [], fun _ => ""⟩

/-- Loopback without brackets is checked as a name that no one knows, then matched as loopback and sent to the proxy.
In brackets it is refused. -/
theorem target_seen_apart :
    Address.fromAuthority "::1:80" = some (.domain "::1" 80) ∧
    parseIpv6Addr "::1" = some Ipv6Addr.localhost ∧ hostInfo "::1" = .fromIp (.v6 Ipv6Addr.localhost) ∧
    ¬ SeenAlike (.domain "::1" 80) ∧
    checkPrivateAndResolve unknownCache (.domain "::1" 80) = ({ unknownCache with asked := ["::1"] }, false, none) ∧
    (loopbackProxied.route unknownCache (.domain "::1" 80)).2 = .proxy idleProxy ∧
    (loopbackProxied.route unknownCache (.ipv6 Ipv6Addr.localhost 80)).2 = .reject := by
  have spelled : parseIpv6Addr "::1" = some Ipv6Addr.localhost := by decide
  refine ⟨by decide +kernel, spelled, by decide, ?_, rfl, rfl, rfl⟩
  intro alike
  cases spelled.symm.trans (alike.unspelled "::1" 80 rfl).2

end ServerNaive
