import ServerNaive.Core.Dns

/-! The two routers. What a rule set matches is the engine's own affair, so its compiled
matcher and its dialers are arbitrary. -/
namespace ServerNaive
open AsyncIo StdNet

/-- One address of each family, handed to a dialer instead of a name to resolve. -/
structure ResolveInfo where
  ipv4 : Option Ipv4Addr
  ipv6 : Option Ipv6Addr
  deriving DecidableEq

def ResolveInfo.ips (info : ResolveInfo) : List IpAddr :=
  (info.ipv4.map IpAddr.v4).toList ++ (info.ipv6.map IpAddr.v6).toList

/-- The engine's address type. -/
structure AclAddr where
  host : String
  port : UInt16
  resolveInfo : Option ResolveInfo
  deriving DecidableEq

/-- How a call with a time limit ends. -/
inductive Timed (α : Type) where
  | elapsed
  | done (value : α)

/-- What one `dial_tcp` did: the addresses it tried, the names it looked up by itself,
and how it ended under the caller's time limit. -/
structure DialReport where
  attempts : List SocketAddr
  lookups : List String
  outcome : Timed (Except String Unit)

/-- An outbound of the engine, as its dialing behaviour. -/
structure Dialer where
  dialTcp : AclAddr → DialReport

inductive OutboundHandler where
  | direct (inner : Dialer) (customDial : Bool)
  | socks5 (inner : Dialer) (allowUdp : Bool)
  | http (inner : Dialer)
  | reject (inner : Dialer)

namespace OutboundHandler

def customDialer : OutboundHandler → Option OutboundHandler
  | .direct inner true => some (.direct inner true)
  | _ => none

def dialTcp : OutboundHandler → AclAddr → DialReport
  | .direct inner _, addr => inner.dialTcp addr
  | .socks5 inner _, addr => inner.dialTcp addr
  | .http inner, addr => inner.dialTcp addr
  | .reject inner, addr => inner.dialTcp addr

end OutboundHandler

inductive OutboundType where
  | direct (resolved : Option (List IpAddr)) (dialer : Option OutboundHandler)
  | reject
  | proxy (handler : OutboundHandler)

inductive Protocol where
  | tcp
  | udp
  deriving DecidableEq

inductive HostInfo where
  | fromIp (ip : IpAddr)
  | fromName (name : String)
  deriving DecidableEq

structure AclEngine where
  compiled : HostInfo → Protocol → UInt16 → Option OutboundHandler
  outbounds : String → Option OutboundHandler

def AclEngine.matchHost (engine : AclEngine) (host : String) (port : UInt16) (protocol : Protocol) :
    Option OutboundHandler :=
  let hostInfo := match parseIpAddr host with
    | some ip => .fromIp ip
    | none => .fromName host
  match engine.compiled hostInfo protocol port with
  | some outbound => some outbound
  | none => engine.outbounds "direct"

structure DirectRouter where
  blockPrivateIp : Bool

/-- The routing decision, and the cache it leaves. -/
def DirectRouter.route (router : DirectRouter) (cache : DnsCache) (addr : Address) :
    DnsCache × OutboundType :=
  if router.blockPrivateIp then
    match checkPrivateAndResolve cache addr with
    | (cache, isPrivate, resolved) =>
        if isPrivate then (cache, .reject)
        else if resolved.isNone ∧ addr.literal.isNone then (cache, .reject)
        else (cache, .direct resolved none)
  else (cache, .direct none none)

structure AclRouter where
  engine : AclEngine
  blockPrivateIp : Bool

namespace AclRouter

/-- A direct domain that could not be checked is refused. -/
def directDecision (router : AclRouter) (addr : Address) (resolved : Option (List IpAddr))
    (dialer : Option OutboundHandler) : OutboundType :=
  if router.blockPrivateIp ∧ resolved.isNone ∧ addr.literal.isNone then .reject
  else .direct resolved dialer

def routeAddrWithResolved (router : AclRouter) (addr : Address) (resolved : Option (List IpAddr)) :
    OutboundType :=
  match router.engine.matchHost addr.host addr.port .tcp with
  | some (.direct inner customDial) =>
      router.directDecision addr resolved (OutboundHandler.direct inner customDial).customDialer
  | some (.socks5 inner allowUdp) => .proxy (.socks5 inner allowUdp)
  | some (.http inner) => .proxy (.http inner)
  | some (.reject _) => .reject
  | none => router.directDecision addr resolved none

def route (router : AclRouter) (cache : DnsCache) (addr : Address) : DnsCache × OutboundType :=
  if router.blockPrivateIp then
    match checkPrivateAndResolve cache addr with
    | (cache, isPrivate, ips) =>
        if isPrivate then (cache, .reject) else (cache, router.routeAddrWithResolved addr ips)
  else (cache, router.routeAddrWithResolved addr none)

end AclRouter

/-- A server's router, one of the two implementations of `OutboundRouter`. -/
inductive Router where
  | direct (router : DirectRouter)
  | acl (router : AclRouter)

namespace Router

def blockPrivateIp : Router → Bool
  | .direct router => router.blockPrivateIp
  | .acl router => router.blockPrivateIp

def route : Router → DnsCache → Address → DnsCache × OutboundType
  | .direct router => router.route
  | .acl router => router.route

/-- The rules map a host and port to the reject outbound. -/
def Rejects (router : Router) (host : String) (port : UInt16) (protocol : Protocol) : Prop :=
  match router with
  | .direct _ => False
  | .acl router => ∃ inner, router.engine.matchHost host port protocol = some (.reject inner)

/-- The rules map a host and port to a proxy. -/
def Proxies (router : Router) (host : String) (port : UInt16) (protocol : Protocol) : Prop :=
  match router with
  | .direct _ => False
  | .acl router =>
      (∃ inner allowUdp, router.engine.matchHost host port protocol = some (.socks5 inner allowUdp)) ∨
        ∃ inner, router.engine.matchHost host port protocol = some (.http inner)

end Router

/-- The decision on a target that passed the check. -/
def Router.decide (router : Router) (addr : Address) (resolved : Option (List IpAddr)) : OutboundType :=
  match router with
  | .direct _ => if resolved.isNone ∧ addr.literal.isNone then .reject else .direct resolved none
  | .acl router => router.routeAddrWithResolved addr resolved

/-- With the block on, both routers check first and decide on what the check resolved. -/
theorem route_blocking {router : Router} (block : router.blockPrivateIp = true) (cache : DnsCache)
    (addr : Address) :
    router.route cache addr = ((checkPrivateAndResolve cache addr).1,
      if (checkPrivateAndResolve cache addr).2.1 then .reject
      else router.decide addr (checkPrivateAndResolve cache addr).2.2) := by
  cases router with
  | direct router =>
      change router.blockPrivateIp = true at block
      change router.route cache addr = _
      simp only [DirectRouter.route, block, if_true, Router.decide]
      split_ifs <;> rfl
  | acl router =>
      change router.blockPrivateIp = true at block
      change router.route cache addr = _
      simp only [AclRouter.route, block, if_true, Router.decide]
      split_ifs <;> rfl

theorem route_asked {router : Router} (block : router.blockPrivateIp = true) (cache : DnsCache)
    (addr : Address) :
    (router.route cache addr).1 = { cache with asked := cache.asked ++ checkedNames addr } := by
  rw [route_blocking block, checkPrivateAndResolve_asked]

theorem directDecision_direct {router : AclRouter} {addr : Address} {resolved r : Option (List IpAddr)}
    {dialer d : Option OutboundHandler} (h : router.directDecision addr resolved dialer = .direct r d) :
    r = resolved ∧ d = dialer ∧ (router.blockPrivateIp = true → resolved = none → addr.literal ≠ none) := by
  unfold AclRouter.directDecision at h
  split_ifs at h with closed
  cases h
  refine ⟨rfl, rfl, ?_⟩
  rintro block rfl literal
  exact closed ⟨block, rfl, by rw [literal]; rfl⟩

/-- A direct decision carries what the check resolved, under the block never a domain without
it, and any dialer it names is a direct one. -/
theorem decide_direct {router : Router} {addr : Address} {resolved r : Option (List IpAddr)}
    {d : Option OutboundHandler} (h : router.decide addr resolved = .direct r d) :
    r = resolved ∧ (router.blockPrivateIp = true → resolved = none → addr.literal ≠ none) ∧
      ∀ handler, d = some handler → ∃ inner, handler = .direct inner true := by
  cases router with
  | direct router =>
      change (if _ then _ else _) = _ at h
      split_ifs at h with closed
      cases h
      refine ⟨rfl, ?_, nofun⟩
      rintro _ rfl literal
      exact closed ⟨rfl, by rw [literal]; rfl⟩
  | acl router =>
      change router.routeAddrWithResolved addr resolved = _ at h
      unfold AclRouter.routeAddrWithResolved at h
      split at h
      · rename_i inner customDial _
        obtain ⟨same, dialer, closed⟩ := directDecision_direct h
        refine ⟨same, closed, ?_⟩
        intro handler given
        rw [dialer] at given
        cases customDial with
        | false => cases given
        | true => exact ⟨inner, (Option.some.inj given).symm⟩
      · cases h
      · cases h
      · cases h
      · obtain ⟨same, dialer, closed⟩ := directDecision_direct h
        refine ⟨same, closed, ?_⟩
        intro handler given
        rw [dialer] at given
        cases given

/-- What a direct route says of the target: all that the check looked at is public, and
a domain comes with exactly the answer that was looked at. -/
theorem route_direct {router : Router} {cache cache' : DnsCache} {addr : Address}
    {resolved : Option (List IpAddr)} {dialer : Option OutboundHandler}
    (block : router.blockPrivateIp = true)
    (routed : router.route cache addr = (cache', .direct resolved dialer)) :
    (∀ ip ∈ inspected cache addr, isPrivateIp ip = false) ∧
      (addr.literal = none → resolved = some (inspected cache addr) ∧ inspected cache addr ≠ []) ∧
      (addr.literal ≠ none → resolved = none) ∧
      ∀ handler, dialer = some handler → ∃ inner, handler = .direct inner true := by
  rw [route_blocking block] at routed
  obtain ⟨_, outcome⟩ := Prod.mk.inj routed
  split_ifs at outcome with passed
  replace passed : (checkPrivateAndResolve cache addr).2.1 = false := Bool.not_eq_true _ ▸ passed
  have resolves := checkPrivateAndResolve_resolved cache addr passed
  obtain ⟨same, closed, direct⟩ := decide_direct outcome
  replace closed := closed block
  rw [resolves] at same closed
  rw [checkPrivateAndResolve_private, List.any_eq_false] at passed
  refine ⟨fun ip member => Bool.not_eq_true _ ▸ passed ip member, ?_, ?_, direct⟩
  · intro domain
    have nonempty : inspected cache addr ≠ [] := by
      intro empty
      exact closed (if_neg fun both => both.2 empty) domain
    exact ⟨same.trans (if_pos ⟨domain, nonempty⟩), nonempty⟩
  · intro literal
    exact same.trans (if_neg fun both => literal both.1)

/-! Private addresses in the spelling of the sixth version. -/

/-- `::ffff:a` of a private `a`, which the system connects to `a`, or `::`. -/
def Evasive (ip : Ipv6Addr) : Prop :=
  (∃ a, isPrivateIpv4 a = true ∧ ip = a.toIpv6Mapped) ∨ ip = Ipv6Addr.unspecified

theorem Evasive.unflagged {ip : Ipv6Addr} (h : Evasive ip) : isPrivateIp (.v6 ip) = false := by
  rcases h with ⟨a, _, rfl⟩ | rfl
  · exact isPrivateIpv6_mapped a
  · exact isPrivateIpv6_unspecified

theorem directDecision_open {router : AclRouter} {addr : Address} {resolved : Option (List IpAddr)}
    (settled : router.blockPrivateIp = true → resolved = none → addr.literal ≠ none)
    (dialer : Option OutboundHandler) :
    router.directDecision addr resolved dialer = .direct resolved dialer := by
  unfold AclRouter.directDecision
  rw [if_neg]
  rintro ⟨block, unresolved, domain⟩
  exact settled block (Option.isNone_iff_eq_none.mp unresolved) (Option.isNone_iff_eq_none.mp domain)

theorem routeAddrWithResolved_reject_iff {router : AclRouter} {addr : Address} {resolved : Option (List IpAddr)}
    (settled : router.blockPrivateIp = true → resolved = none → addr.literal ≠ none) :
    router.routeAddrWithResolved addr resolved = .reject ↔
      (Router.acl router).Rejects addr.host addr.port .tcp := by
  change _ ↔ ∃ inner, router.engine.matchHost addr.host addr.port .tcp = some (.reject inner)
  unfold AclRouter.routeAddrWithResolved
  cases router.engine.matchHost addr.host addr.port .tcp with
  | none =>
      simp only [directDecision_open settled]
      exact ⟨nofun, nofun⟩
  | some handler =>
      cases handler with
      | direct inner customDial =>
          simp only [directDecision_open settled]
          exact ⟨nofun, nofun⟩
      | socks5 inner allowUdp => exact ⟨nofun, nofun⟩
      | http inner => exact ⟨nofun, nofun⟩
      | reject inner => exact ⟨fun _ => ⟨inner, rfl⟩, fun _ => rfl⟩

/-- Once the check has passed and settled the target, only a rule rejects it. -/
theorem decide_reject_iff {router : Router} {addr : Address} {resolved : Option (List IpAddr)}
    (settled : resolved = none → addr.literal ≠ none) :
    router.decide addr resolved = .reject ↔ router.Rejects addr.host addr.port .tcp := by
  cases router with
  | direct router =>
      constructor
      · intro rejected
        change (if _ then _ else _) = _ at rejected
        split_ifs at rejected with closed
        exact settled (Option.isNone_iff_eq_none.mp closed.1) (Option.isNone_iff_eq_none.mp closed.2)
      · exact False.elim
  | acl router => exact routeAddrWithResolved_reject_iff fun _ => settled

/-- Under the block a name without an answer gets through to a proxy only. -/
theorem decide_unresolved_iff {router : Router} (block : router.blockPrivateIp = true) {addr : Address}
    (domain : addr.literal = none) :
    router.decide addr none ≠ .reject ↔ router.Proxies addr.host addr.port .tcp := by
  cases router with
  | direct router =>
      have closed : (Router.direct router).decide addr none = .reject := if_pos ⟨rfl, by rw [domain]; rfl⟩
      rw [closed]
      exact ⟨fun other => absurd rfl other, False.elim⟩
  | acl router =>
      have closed (dialer) : router.directDecision addr none dialer = .reject :=
        if_pos ⟨block, rfl, by rw [domain]; rfl⟩
      change router.routeAddrWithResolved addr none ≠ .reject ↔
        (∃ inner allowUdp, router.engine.matchHost addr.host addr.port .tcp = some (.socks5 inner allowUdp)) ∨
          ∃ inner, router.engine.matchHost addr.host addr.port .tcp = some (.http inner)
      unfold AclRouter.routeAddrWithResolved
      cases router.engine.matchHost addr.host addr.port .tcp with
      | none => simp [closed]
      | some handler => cases handler <;> simp [closed]

/-- Without the block nothing is asked, nothing is resolved, and only a rule rejects. -/
theorem route_open {router : Router} (unblocked : router.blockPrivateIp = false) (cache : DnsCache)
    (addr : Address) :
    (router.route cache addr).1 = cache ∧
      ((router.route cache addr).2 = .reject ↔ router.Rejects addr.host addr.port .tcp) ∧
      ∀ resolved dialer, (router.route cache addr).2 = .direct resolved dialer → resolved = none := by
  have off : ¬ router.blockPrivateIp = true := Bool.eq_false_iff.mp unblocked
  cases router with
  | direct router =>
      have routed : (Router.direct router).route cache addr = (cache, .direct none none) := if_neg off
      rw [routed]
      refine ⟨rfl, ⟨nofun, False.elim⟩, ?_⟩
      intro resolved dialer same
      cases same
      rfl
  | acl router =>
      have routed : (Router.acl router).route cache addr = (cache, router.routeAddrWithResolved addr none) :=
        if_neg off
      rw [routed]
      refine ⟨rfl, routeAddrWithResolved_reject_iff fun on => absurd on off, ?_⟩
      intro resolved dialer same
      have decided : (Router.acl router).decide addr none = .direct resolved dialer := same
      exact (decide_direct decided).1

/-- A target that reaches a private address in this spelling, as a literal or in the
answer for its name, is rejected exactly when a rule rejects it or when some other
address of the answer is flagged. -/
theorem evasive_rejected_iff {router : Router} (block : router.blockPrivateIp = true) (cache : DnsCache)
    (target : Address) {ip : Ipv6Addr} (evasive : Evasive ip) (reached : .v6 ip ∈ inspected cache target) :
    (router.route cache target).2 = .reject ↔
      router.Rejects target.host target.port .tcp ∨
        ∃ other ∈ inspected cache target, other ≠ .v6 ip ∧ isPrivateIp other = true := by
  rw [route_blocking block]
  by_cases flagged : (checkPrivateAndResolve cache target).2.1 = true
  · rw [checkPrivateAndResolve_private, List.any_eq_true] at flagged
    obtain ⟨other, member, hit⟩ := flagged
    have differs : other ≠ .v6 ip := by
      rintro rfl
      rw [evasive.unflagged] at hit
      cases hit
    have blocked : (checkPrivateAndResolve cache target).2.1 = true := by
      rw [checkPrivateAndResolve_private, List.any_eq_true]
      exact ⟨other, member, hit⟩
    simp only [blocked, if_true, true_iff]
    exact .inr ⟨other, member, differs, hit⟩
  · have passed : (checkPrivateAndResolve cache target).2.1 = false := Bool.not_eq_true _ ▸ flagged
    have settled : (checkPrivateAndResolve cache target).2.2 = none → target.literal ≠ none := by
      rw [checkPrivateAndResolve_resolved cache target passed]
      intro unresolved domain
      rw [if_pos ⟨domain, List.ne_nil_of_mem reached⟩] at unresolved
      cases unresolved
    have none_flagged : ¬ ∃ other ∈ inspected cache target, other ≠ .v6 ip ∧ isPrivateIp other = true := by
      rintro ⟨other, member, _, hit⟩
      apply flagged
      rw [checkPrivateAndResolve_private, List.any_eq_true]
      exact ⟨other, member, hit⟩
    simp only [passed, Bool.false_eq_true, if_false, none_flagged, or_false]
    exact decide_reject_iff settled

/-- Under the block, the loopback address is refused and its other spelling is not. -/
theorem mapped_loopback_routed :
    let cache : DnsCache := ⟨fun _ _ => .ok [], [], fun _ => ""⟩
    let loopback : Ipv4Addr := ⟨127, 0, 0, 1⟩
    isPrivateIpv4 loopback = true ∧
      ((Router.direct ⟨true⟩).route cache (.ipv4 loopback 80)).2 = .reject ∧
      ((Router.direct ⟨true⟩).route cache (.ipv6 loopback.toIpv6Mapped 80)).2 = .direct none none ∧
      ((Router.direct ⟨true⟩).route cache (.ipv6 Ipv6Addr.unspecified 80)).2 = .direct none none := by
  refine ⟨rfl, rfl, rfl, rfl⟩

/-- A rule set that rejects everything still rejects it. -/
theorem evasive_rejected_by_rule :
    let refuse : OutboundHandler := .reject ⟨fun _ => ⟨[], [], .elapsed⟩⟩
    let router : Router := .acl ⟨⟨fun _ _ _ => some refuse, fun _ => none⟩, true⟩
    (router.route ⟨fun _ _ => .ok [], [], fun _ => ""⟩ (.ipv6 Ipv6Addr.unspecified 80)).2 = .reject :=
  (evasive_rejected_iff rfl _ (.ipv6 Ipv6Addr.unspecified 80) (.inr rfl) List.mem_cons_self).mpr
    (.inl ⟨_, rfl⟩)

end ServerNaive
