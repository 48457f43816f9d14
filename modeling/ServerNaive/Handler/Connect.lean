import ServerNaive.Config
import ServerNaive.Routing

/-! The direct connect path of a tunnel, up to the stream that the relay is given. -/
namespace ServerNaive
open AsyncIo StdNet

def tcpKeepaliveSecs : Nat := 15

structure TcpStream where
  peer : SocketAddr
  nodelay : Bool
  keepalive : Option Nat
  deriving DecidableEq

/-- The world the path runs in: how the `n`-th connection attempt ends within the
timeout, what was asked of the resolver, which addresses were tried, and what was
handed to a custom dialer and looked up by it. -/
structure Dialing where
  attempt : Nat → SocketAddr → Nat → Timed (IoResult Unit)
  cache : DnsCache
  dialed : List SocketAddr
  offered : List AclAddr
  lookups : List String

/-- A path that has not dialled yet. -/
def Dialing.start (attempt : Nat → SocketAddr → Nat → Timed (IoResult Unit)) (cache : DnsCache) : Dialing :=
  ⟨attempt, cache, [], [], []⟩

def Dialing.dial (d : Dialing) (addr : SocketAddr) : Dialing := { d with dialed := d.dialed ++ [addr] }

/-- What the remote end of a tunnel can be. -/
inductive RemoteStream where
  | tcp (stream : TcpStream)
  | dialer
  deriving DecidableEq

def applySocketOpts (s : TcpStream) (tcpNodelay : Bool) : TcpStream :=
  { s with nodelay := s.nodelay || tcpNodelay, keepalive := some tcpKeepaliveSecs }

def connectOne (d : Dialing) (addr : SocketAddr) (tcpNodelay : Bool) (timeout : Nat) :
    Dialing × IoResult TcpStream :=
  match d.attempt d.dialed.length addr timeout with
  | .elapsed => (d.dial addr, .error ⟨.timedOut, "connect timeout"⟩)
  | .done (.error e) => (d.dial addr, .error e)
  | .done (.ok ()) => (d.dial addr, .ok (applySocketOpts ⟨addr, false, none⟩ tcpNodelay))

def connectIpList (port : UInt16) (tcpNodelay : Bool) (timeout : Nat) :
    List IpAddr → Option IoError → Dialing → Dialing × IoResult TcpStream
  | [], lastErr, d => (d, .error (lastErr.getD ⟨.other, "no resolved addresses to connect"⟩))
  | ip :: ips, _, d =>
      match connectOne d ⟨ip, port⟩ tcpNodelay timeout with
      | (d, .ok s) => (d, .ok s)
      | (d, .error e) => connectIpList port tcpNodelay timeout ips (some e) d

def connectDirect (config : ConnConfig) (target : Address) (resolved : Option (List IpAddr))
    (d : Dialing) : Dialing × IoResult TcpStream :=
  match resolved with
  | some (ip :: ips) =>
      connectIpList target.port config.tcpNodelay config.connectTimeout (ip :: ips) none d
  | _ => match resolveSocketAddr d.cache target with
      | (cache, .error e) => ({ d with cache }, .error e)
      | (cache, .ok remote) => connectOne { d with cache } remote config.tcpNodelay config.connectTimeout

/-- Keeps the first address of each family. -/
def ResolveInfo.add (info : ResolveInfo) : IpAddr → ResolveInfo
  | .v4 v4 => if info.ipv4.isNone then { info with ipv4 := some v4 } else info
  | .v6 v6 => if info.ipv6.isNone then { info with ipv6 := some v6 } else info

def resolveInfoFromIps (ips : List IpAddr) : ResolveInfo := ips.foldl ResolveInfo.add ⟨none, none⟩

/-- The address handed to a custom dialer. -/
def dialerAddr (target : Address) (resolved : Option (List IpAddr)) : AclAddr :=
  ⟨target.host, target.port, resolved.map resolveInfoFromIps⟩

def Dialing.through (d : Dialing) (handler : OutboundHandler) (addr : AclAddr) : Dialing :=
  { d with
    dialed := d.dialed ++ (handler.dialTcp addr).attempts
    offered := d.offered ++ [addr]
    lookups := d.lookups ++ (handler.dialTcp addr).lookups }

def handleDirectConnect (config : ConnConfig) (target : Address) (resolved : Option (List IpAddr))
    (dialer : Option OutboundHandler) (d : Dialing) : Dialing × Except String RemoteStream :=
  match dialer with
  | some handler =>
      match (handler.dialTcp (dialerAddr target resolved)).outcome with
      | .elapsed => (d.through handler (dialerAddr target resolved), .error "Direct connect timeout")
      | .done (.error e) =>
          (d.through handler (dialerAddr target resolved), .error ("Direct connect failed: " ++ e))
      | .done (.ok ()) => (d.through handler (dialerAddr target resolved), .ok .dialer)
  | none =>
      match connectDirect config target resolved d with
      | (d, .error e) => (d, .error e.message)
      | (d, .ok s) => (d, .ok (.tcp s))

/-- What is assumed of the engine's direct dialer: given addresses, or a host that is an
address, it tries those only and looks nothing up. -/
structure Dialer.Faithful (dialer : Dialer) : Prop where
  info : ∀ addr info, addr.resolveInfo = some info →
    (∀ sa ∈ (dialer.dialTcp addr).attempts, sa.ip ∈ info.ips) ∧ (dialer.dialTcp addr).lookups = []
  literal : ∀ addr ip, addr.resolveInfo = none → parseIpAddr addr.host = some ip →
    (∀ sa ∈ (dialer.dialTcp addr).attempts, sa.ip = ip) ∧ (dialer.dialTcp addr).lookups = []

theorem connectOne_dialing (d : Dialing) (addr : SocketAddr) (tcpNodelay : Bool) (timeout : Nat) :
    (connectOne d addr tcpNodelay timeout).1 = d.dial addr := by
  unfold connectOne
  split <;> rfl

/-- Only addresses of the list are tried, and nothing is resolved. -/
theorem connectIpList_dialing (port : UInt16) (tcpNodelay : Bool) (timeout : Nat) (ips : List IpAddr)
    (lastErr : Option IoError) (d : Dialing) :
    ∃ tried, tried <+: ips ∧ (connectIpList port tcpNodelay timeout ips lastErr d).1 =
      { d with dialed := d.dialed ++ tried.map fun ip => ⟨ip, port⟩ } := by
  induction ips generalizing lastErr d with
  | nil => exact ⟨[], List.nil_prefix, by simp only [connectIpList, List.map_nil, List.append_nil]⟩
  | cons ip ips ih =>
      rw [connectIpList]
      have one := connectOne_dialing d ⟨ip, port⟩ tcpNodelay timeout
      split
      · rename_i next s connected
        rw [connected] at one
        refine ⟨[ip], (List.prefix_append [ip] ips), ?_⟩
        exact one
      · rename_i next e failed
        rw [failed] at one
        obtain ⟨tried, front, same⟩ := ih (some e) next
        refine ⟨ip :: tried, (List.prefix_cons_inj ip).mpr front, ?_⟩
        rw [same, show next = d.dial ⟨ip, port⟩ from one]
        simp only [Dialing.dial, List.map_cons, List.append_assoc, List.singleton_append]

theorem ResolveInfo.mem_add {info : ResolveInfo} {ip x : IpAddr} (member : x ∈ (info.add ip).ips) :
    x ∈ info.ips ∨ x = ip := by
  obtain ⟨v4, v6⟩ := info
  cases ip with
  | v4 a =>
      cases v4 with
      | none =>
          rcases List.mem_append.mp member with new | old
          · exact .inr (List.mem_singleton.mp new)
          · exact .inl (List.mem_append.mpr (.inr old))
      | some b => exact .inl member
  | v6 a =>
      cases v6 with
      | none =>
          rcases List.mem_append.mp member with old | new
          · exact .inl (List.mem_append.mpr (.inl old))
          · exact .inr (List.mem_singleton.mp new)
      | some b => exact .inl member

theorem ResolveInfo.mem_foldl_add {ips : List IpAddr} {info : ResolveInfo} {x : IpAddr}
    (member : x ∈ (ips.foldl ResolveInfo.add info).ips) : x ∈ info.ips ∨ x ∈ ips := by
  induction ips generalizing info with
  | nil => exact .inl member
  | cons ip ips ih =>
      rcases ih member with kept | later
      · rcases ResolveInfo.mem_add kept with old | rfl
        · exact .inl old
        · exact .inr List.mem_cons_self
      · exact .inr (List.mem_cons_of_mem ip later)

theorem mem_resolveInfoFromIps {ips : List IpAddr} {x : IpAddr}
    (member : x ∈ (resolveInfoFromIps ips).ips) : x ∈ ips := by
  rcases ResolveInfo.mem_foldl_add member with none_yet | given
  · cases none_yet
  · exact given

/-- The target's own literal, or a member of the one answer that the check inspected,
and public by the classifier of its family. -/
def Checked (cache : DnsCache) (target : Address) (ip : IpAddr) : Prop :=
  (target.literal = some ip ∨
    ∃ host port answer, target = .domain host port ∧ cache.next host = .ok answer ∧ ip ∈ answer) ∧
  isPrivateIp ip = false

theorem mem_inspected {cache : DnsCache} {target : Address} {ip : IpAddr}
    (member : ip ∈ inspected cache target) :
    target.literal = some ip ∨
      ∃ host port answer, target = .domain host port ∧ cache.next host = .ok answer ∧ ip ∈ answer := by
  cases target with
  | ipv4 a port => exact .inl (congrArg some (List.mem_singleton.mp member).symm)
  | ipv6 a port => exact .inl (congrArg some (List.mem_singleton.mp member).symm)
  | domain host port =>
      rw [inspected] at member
      cases found : cache.next host with
      | error e =>
          rw [found] at member
          cases member
      | ok answer =>
          rw [found] at member
          exact .inr ⟨host, port, answer, rfl, found, member⟩

theorem literal_mem_inspected {cache : DnsCache} {target : Address} {ip : IpAddr}
    (literal : target.literal = some ip) : ip ∈ inspected cache target := by
  cases target with
  | ipv4 a port => exact List.mem_singleton.mpr (Option.some.inj literal).symm
  | ipv6 a port => exact List.mem_singleton.mpr (Option.some.inj literal).symm
  | domain host port => cases literal

/-- A literal target is its own socket address; the resolver is not asked. -/
theorem resolveSocketAddr_literal {target : Address} {ip : IpAddr} (literal : target.literal = some ip)
    (cache : DnsCache) : resolveSocketAddr cache target = (cache, .ok ⟨ip, target.port⟩) := by
  cases target with
  | ipv4 a port =>
      cases literal
      rfl
  | ipv6 a port =>
      cases literal
      rfl
  | domain host port => cases literal

/-- What the connect path may do after a direct route: only inspected addresses are tried
or handed on, and nothing is resolved again. -/
structure StaysInspected (cache : DnsCache) (target : Address) (start last : Dialing) : Prop where
  dialed : ∀ sa ∈ last.dialed, sa ∈ start.dialed ∨ sa.ip ∈ inspected cache target
  offered : ∀ addr ∈ last.offered, addr ∈ start.offered ∨
    ∀ info, addr.resolveInfo = some info → ∀ ip ∈ info.ips, ip ∈ inspected cache target
  cache : last.cache = start.cache
  lookups : last.lookups = start.lookups

section Direct

variable {cache : DnsCache} {target : Address} {resolved : Option (List IpAddr)}
  (domain : target.literal = none → resolved = some (inspected cache target) ∧ inspected cache target ≠ [])
  (plain : target.literal ≠ none → resolved = none)
include domain plain

theorem connectDirect_staysInspected (config : ConnConfig) (d : Dialing) :
    StaysInspected cache target d (connectDirect config target resolved d).1 := by
  cases literal : target.literal with
  | none =>
      obtain ⟨given, nonempty⟩ := domain literal
      obtain ⟨ip, ips, shape⟩ := List.exists_cons_of_ne_nil nonempty
      obtain ⟨tried, front, same⟩ := connectIpList_dialing target.port config.tcpNodelay
        config.connectTimeout (ip :: ips) none d
      rw [given, shape, connectDirect, same]
      refine ⟨?_, fun addr old => .inl old, rfl, rfl⟩
      intro sa member
      rcases List.mem_append.mp member with old | new
      · exact .inl old
      · obtain ⟨x, inside, rfl⟩ := List.mem_map.mp new
        rw [shape]
        exact .inr (front.subset inside)
  | some ip =>
      rw [plain (by rw [literal]; exact Option.some_ne_none ip), connectDirect,
        resolveSocketAddr_literal literal]
      on_goal 2 => exact nofun
      dsimp only
      rw [connectOne_dialing]
      refine ⟨?_, fun addr old => .inl old, rfl, rfl⟩
      intro sa member
      rcases List.mem_append.mp member with old | new
      · exact .inl old
      · rw [List.mem_singleton.mp new]
        exact .inr (literal_mem_inspected literal)

/-- A faithful dialer tries what it was given, or the literal that its host spells. -/
theorem through_staysInspected {inner : Dialer} (faithful : inner.Faithful) (d : Dialing) :
    StaysInspected cache target d (d.through (.direct inner true) (dialerAddr target resolved)) := by
  have quiet : (∀ sa ∈ (inner.dialTcp (dialerAddr target resolved)).attempts,
        sa.ip ∈ inspected cache target) ∧
      (inner.dialTcp (dialerAddr target resolved)).lookups = [] ∧
      ∀ info, (dialerAddr target resolved).resolveInfo = some info →
        ∀ ip ∈ info.ips, ip ∈ inspected cache target := by
    cases literal : target.literal with
    | none =>
        obtain ⟨given, _⟩ := domain literal
        have info : (dialerAddr target resolved).resolveInfo =
            some (resolveInfoFromIps (inspected cache target)) := by
          rw [given]
          rfl
        obtain ⟨tries, no_lookup⟩ := faithful.info _ _ info
        refine ⟨fun sa member => mem_resolveInfoFromIps (tries sa member), no_lookup, ?_⟩
        intro other same ip member
        rw [info] at same
        cases same
        exact mem_resolveInfoFromIps member
    | some ip =>
        have bare : (dialerAddr target resolved).resolveInfo = none := by
          rw [plain (by rw [literal]; exact Option.some_ne_none ip)]
          rfl
        obtain ⟨tries, no_lookup⟩ := faithful.literal _ ip bare (Address.parse_host literal)
        refine ⟨?_, no_lookup, ?_⟩
        · intro sa member
          rw [tries sa member]
          exact literal_mem_inspected literal
        · intro info same
          rw [bare] at same
          cases same
  obtain ⟨tries, no_lookup, given⟩ := quiet
  refine ⟨?_, ?_, rfl, ?_⟩
  · intro sa member
    rcases List.mem_append.mp member with old | new
    · exact .inl old
    · exact .inr (tries sa new)
  · intro addr member
    rcases List.mem_append.mp member with old | new
    · exact .inl old
    · rw [List.mem_singleton.mp new]
      exact .inr given
  · change d.lookups ++ (inner.dialTcp (dialerAddr target resolved)).lookups = _
    rw [no_lookup, List.append_nil]

theorem handleDirectConnect_staysInspected {dialer : Option OutboundHandler}
    (direct : ∀ handler, dialer = some handler → ∃ inner, handler = .direct inner true)
    (faithful : ∀ inner, dialer = some (.direct inner true) → inner.Faithful)
    (config : ConnConfig) (d : Dialing) :
    StaysInspected cache target d (handleDirectConnect config target resolved dialer d).1 := by
  cases dialer with
  | none =>
      have plainPath := connectDirect_staysInspected domain plain config d
      unfold handleDirectConnect
      dsimp only
      split
      · rename_i same
        rwa [same] at plainPath
      · rename_i same
        rwa [same] at plainPath
  | some handler =>
      obtain ⟨inner, rfl⟩ := direct handler rfl
      have dialed := through_staysInspected domain plain (faithful inner rfl) d
      unfold handleDirectConnect
      dsimp only
      split <;> exact dialed

end Direct

/-- With the block on, whatever the resolver answers from one lookup to the next, the
connect path after a direct route tries and hands on checked addresses only, and the
one lookup of a domain is the one that was checked. -/
theorem direct_dials_checked {router : Router} (block : router.blockPrivateIp = true)
    {cache cache' : DnsCache} {target : Address} {resolved : Option (List IpAddr)}
    {dialer : Option OutboundHandler}
    (routed : router.route cache target = (cache', .direct resolved dialer))
    (faithful : ∀ inner, dialer = some (.direct inner true) → inner.Faithful)
    (config : ConnConfig) (attempt : Nat → SocketAddr → Nat → Timed (IoResult Unit)) :
    let last := (handleDirectConnect config target resolved dialer (.start attempt cache')).1
    (∀ sa ∈ last.dialed, Checked cache target sa.ip) ∧
      (∀ addr ∈ last.offered, ∀ info, addr.resolveInfo = some info →
        ∀ ip ∈ info.ips, Checked cache target ip) ∧
      last.cache.asked = cache.asked ++ checkedNames target ∧ last.lookups = [] := by
  intro last
  obtain ⟨allPublic, domain, plain, direct⟩ := route_direct block routed
  have stays := handleDirectConnect_staysInspected domain plain direct faithful config
    (.start attempt cache')
  have checked {ip : IpAddr} (member : ip ∈ inspected cache target) : Checked cache target ip :=
    ⟨mem_inspected member, allPublic ip member⟩
  have asked : cache' = { cache with asked := cache.asked ++ checkedNames target } := by
    rw [← route_asked block, routed]
  refine ⟨?_, ?_, ?_, stays.lookups⟩
  · intro sa member
    rcases stays.dialed sa member with old | new
    · cases old
    · exact checked new
  · intro addr member info same ip inside
    rcases stays.offered addr member with old | new
    · cases old
    · exact checked (new info same ip inside)
  · rw [stays.cache]
    exact congrArg DnsCache.asked asked

/-- A dialer that tries what it is given, and otherwise the address its host spells. -/
def plainDialer : Dialer :=
  ⟨fun addr =>
    let ips := match addr.resolveInfo with
      | some info => info.ips
      | none => (parseIpAddr addr.host).toList
    ⟨ips.map fun ip => ⟨ip, addr.port⟩, [], .done (.ok ())⟩⟩

theorem plainDialer_faithful : plainDialer.Faithful where
  info addr info given := by
    refine ⟨?_, rfl⟩
    intro sa member
    obtain ⟨ip, inside, rfl⟩ := List.mem_map.mp member
    rwa [given] at inside
  literal addr ip bare spelled := by
    refine ⟨?_, rfl⟩
    intro sa member
    obtain ⟨x, inside, rfl⟩ := List.mem_map.mp member
    rw [bare, spelled] at inside
    exact List.mem_singleton.mp inside

/-- A name that is rebound to the loopback address after the check, on a custom dialer. -/
theorem direct_dials_checked_rebound :
    let rebound : DnsCache := ⟨fun n _ =>
      if n = 0 then .ok [.v4 ⟨9, 9, 9, 9⟩, .v4 ⟨9, 9, 9, 10⟩] else .ok [.v4 ⟨127, 0, 0, 1⟩], [], fun _ => ""⟩
    let last := (handleDirectConnect (.fromCli (.defaults 1)) (.domain "example.com" 443)
      (some [.v4 ⟨9, 9, 9, 9⟩, .v4 ⟨9, 9, 9, 10⟩]) (some (.direct plainDialer true))
      (.start (fun _ _ _ => .elapsed) { rebound with asked := ["example.com"] })).1
    last.dialed = [⟨.v4 ⟨9, 9, 9, 9⟩, 443⟩] ∧ last.cache.asked = ["example.com"] ∧
      ∀ sa ∈ last.dialed, Checked rebound (.domain "example.com" 443) sa.ip := by
  intro rebound last
  have block : (Router.acl ⟨⟨fun _ _ _ => some (.direct plainDialer true), fun _ => none⟩, true⟩).blockPrivateIp =
    true := rfl
  have run := direct_dials_checked block (show Router.route _ rebound (.domain "example.com" 443) = _ from rfl)
    (fun inner same => by cases same; exact plainDialer_faithful) (.fromCli (.defaults 1)) fun _ _ _ => .elapsed
  exact ⟨rfl, run.2.2.1, run.1⟩

end ServerNaive
