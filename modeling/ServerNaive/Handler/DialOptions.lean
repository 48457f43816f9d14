import ServerNaive.Acl
import ServerNaive.Handler.Connect

/-! The options that are in force when the direct path dials: those of the outbound's own dialer, or what
the bare path takes from the server's settings. -/
namespace ServerNaive
open AsyncIo StdNet

/-- The bare path names no family, address or device and never asks for fast open. -/
def bareOptions (conn : ConnConfig) : DirectOptions where
  mode := .auto
  bindIp4 := none
  bindIp6 := none
  bindDevice := none
  fastOpen := false
  timeout := some conn.connectTimeout
  tcpNodelay := conn.tcpNodelay
  tcpKeepalive := some (seconds tcpKeepaliveSecs)

/-- A dial with these options inside another time limit; `builtIn` is the engine's limit where they name none. -/
def DirectOptions.limitedBy (options : DirectOptions) (builtIn limit : Nat) : DirectOptions :=
  { options with timeout := some (min (options.timeout.getD builtIn) limit) }

/-- The options in force when `handleDirectConnect` dials, given those that a handler's dialer applies. -/
def inForce (applied : OutboundHandler → DirectOptions) (builtIn : Nat) (conn : ConnConfig) :
    Option OutboundHandler → DirectOptions
  | some handler => (applied handler).limitedBy builtIn conn.connectTimeout
  | none => bareOptions conn

/-- What is assumed of the engine: the dialer made for an entry applies exactly the options it was made with. -/
def Applies (applied : OutboundHandler → DirectOptions) (os : TestSockets) (entry : OutboundEntry)
    (handler : OutboundHandler) : Prop :=
  ∀ options, directOptions os entry = .ok options → applied handler = options

/-! The bare options are what the bare path does. -/

/-- A stream that is set up as the options say. -/
def TcpStream.SetUp (s : TcpStream) (options : DirectOptions) : Prop :=
  s.nodelay = options.tcpNodelay ∧ s.keepalive.map seconds = options.tcpKeepalive

theorem connectOne_setUp (conn : ConnConfig) {d last : Dialing} {addr : SocketAddr} {timeout : Nat} {s : TcpStream}
    (connected : connectOne d addr conn.tcpNodelay timeout = (last, .ok s)) : s.SetUp (bareOptions conn) := by
  unfold connectOne at connected
  split at connected
  · cases connected
  · cases connected
  · cases connected
    exact ⟨Bool.false_or _, rfl⟩

theorem connectIpList_setUp (conn : ConnConfig) {port : UInt16} {timeout : Nat} {ips : List IpAddr}
    {lastErr : Option IoError} {d last : Dialing} {s : TcpStream}
    (connected : connectIpList port conn.tcpNodelay timeout ips lastErr d = (last, .ok s)) :
    s.SetUp (bareOptions conn) := by
  induction ips generalizing lastErr d with
  | nil => cases connected
  | cons ip ips ih =>
      rw [connectIpList] at connected
      split at connected
      · rename_i next stream one
        cases connected
        exact connectOne_setUp conn one
      · exact ih connected

/-- The stream of the bare path has the bare options, whatever the outbound's config. -/
theorem connectDirect_setUp {conn : ConnConfig} {target : Address} {resolved : Option (List IpAddr)}
    {d last : Dialing} {s : TcpStream} (connected : connectDirect conn target resolved d = (last, .ok s)) :
    s.SetUp (bareOptions conn) := by
  unfold connectDirect at connected
  split at connected
  · exact connectIpList_setUp conn connected
  · split at connected
    · cases connected
    · exact connectOne_setUp conn connected

/-- A world in which every attempt ends as it does within one time limit. -/
def Dialing.limited (d : Dialing) (limit : Nat) : Dialing :=
  { d with attempt := fun n addr _ => d.attempt n addr limit }

theorem connectOne_limited (d : Dialing) (addr : SocketAddr) (tcpNodelay : Bool) (timeout : Nat) :
    connectOne (d.limited timeout) addr tcpNodelay timeout =
      (connectOne d addr tcpNodelay timeout).map (·.limited timeout) id := by
  cases ended : d.attempt d.dialed.length addr timeout with
  | elapsed => simp [connectOne, Dialing.limited, Dialing.dial, ended]
  | done outcome => cases outcome <;> simp [connectOne, Dialing.limited, Dialing.dial, ended]

theorem connectIpList_limited (port : UInt16) (tcpNodelay : Bool) (timeout : Nat) (ips : List IpAddr)
    (lastErr : Option IoError) (d : Dialing) :
    connectIpList port tcpNodelay timeout ips lastErr (d.limited timeout) =
      (connectIpList port tcpNodelay timeout ips lastErr d).map (·.limited timeout) id := by
  induction ips generalizing lastErr d with
  | nil => rfl
  | cons ip ips ih =>
      simp only [connectIpList, connectOne_limited]
      obtain ⟨next, outcome⟩ := connectOne d ⟨ip, port⟩ tcpNodelay timeout
      cases outcome with
      | ok s => rfl
      | error e => exact ih (some e) next

/-- The only time limit that the bare path sets is the server's. -/
theorem connectDirect_limited (conn : ConnConfig) (target : Address) (resolved : Option (List IpAddr)) (d : Dialing) :
    connectDirect conn target resolved (d.limited conn.connectTimeout) =
      (connectDirect conn target resolved d).map (·.limited conn.connectTimeout) id := by
  have cache : (d.limited conn.connectTimeout).cache = d.cache := rfl
  unfold connectDirect
  split
  · exact connectIpList_limited target.port conn.tcpNodelay conn.connectTimeout _ none d
  · rw [cache]
    obtain ⟨left, outcome⟩ := resolveSocketAddr d.cache target
    cases outcome with
    | error e => rfl
    | ok remote => exact connectOne_limited { d with cache := left } remote conn.tcpNodelay conn.connectTimeout

theorem handleDirectConnect_setUp {conn : ConnConfig} {target : Address} {resolved : Option (List IpAddr)}
    {d last : Dialing} {s : TcpStream}
    (connected : handleDirectConnect conn target resolved none d = (last, .ok (.tcp s)))
    (applied : OutboundHandler → DirectOptions) (builtIn : Nat) : s.SetUp (inForce applied builtIn conn none) := by
  simp only [handleDirectConnect] at connected
  split at connected
  · cases connected
  · rename_i next stream dialed
    cases connected
    exact connectDirect_setUp dialed

/-! The options of a dialer are what its path does: it alone dials, under the server's limit. -/

/-- The path with a dialer tries nothing by itself. -/
theorem handleDirectConnect_through (conn : ConnConfig) (target : Address) (resolved : Option (List IpAddr))
    (handler : OutboundHandler) (d : Dialing) :
    (handleDirectConnect conn target resolved (some handler) d).1 = d.through handler (dialerAddr target resolved) := by
  simp only [handleDirectConnect]
  split <;> rfl

/-- When a call under a time limit is ready, given when it would be ready without. -/
def withTimeout (limit : Nat) (ready : Option Nat) : Option Nat := ready.filter (· ≤ limit)

/-- Inside the server's limit a dial gets through exactly if the limit in force lets it. -/
theorem withTimeout_limitedBy (options : DirectOptions) (builtIn limit : Nat) (ready : Option Nat) :
    withTimeout limit (withTimeout (options.timeout.getD builtIn) ready) =
      withTimeout ((options.limitedBy builtIn limit).timeout.getD builtIn) ready := by
  simp only [withTimeout, DirectOptions.limitedBy, Option.getD_some, Option.filter_filter]
  congr 1
  funext t
  simp [Bool.and_comm]

/-! Which path a target takes. -/

theorem route_dialer {router : AclRouter} {cache : DnsCache} {target : Address} {resolved : Option (List IpAddr)}
    {dialer : Option OutboundHandler} {inner : Dialer} {customDial : Bool}
    (matched : router.engine.matchHost target.host target.port .tcp = some (.direct inner customDial))
    (routed : (router.route cache target).2 = .direct resolved dialer) :
    dialer = (OutboundHandler.direct inner customDial).customDialer := by
  have decided {found : Option (List IpAddr)} (same : router.routeAddrWithResolved target found = .direct resolved dialer) :
      dialer = (OutboundHandler.direct inner customDial).customDialer := by
    simp only [AclRouter.routeAddrWithResolved, matched] at same
    exact (directDecision_direct same).2.1
  unfold AclRouter.route at routed
  split at routed
  · obtain ⟨⟨left, isPrivate, found⟩, checked⟩ : ∃ answer, checkPrivateAndResolve cache target = answer := ⟨_, rfl⟩
    rw [checked] at routed
    cases isPrivate with
    | true => cases routed
    | false => exact decided routed
  · exact decided routed

/-- The bare path keeps a stream alive every fifteen seconds, and no config that it serves asks for that. -/
theorem default_not_inEffect (conn : ConnConfig) : ¬ DirectConfig.default.InEffect (bareOptions conn) := by
  intro inEffect
  have different : some (seconds tcpKeepaliveSecs) ≠ someSeconds defaultTcpKeepaliveSecs := by decide
  exact different inEffect.tcpKeepalive

theorem someSeconds_getD {n : Nat} (positive : 0 < n) (builtIn : Nat) : (someSeconds n).getD builtIn = seconds n := by
  rw [someSeconds_pos positive, Option.getD_some]

/-- Under the server's limit the config stays in effect exactly if its own limit is no longer. -/
theorem limitedBy_inEffect_iff {config : DirectConfig} {options : DirectOptions} (asked : config.InEffect options)
    (timeout : options.timeout = someSeconds config.connectTimeoutSecs) (builtIn limit : Nat) :
    config.InEffect (options.limitedBy builtIn limit) ↔ seconds config.connectTimeoutSecs ≤ limit := by
  constructor
  · intro inEffect
    rcases Nat.eq_zero_or_pos config.connectTimeoutSecs with none | positive
    · rw [none]
      exact Nat.zero_le limit
    · have same := Option.some.inj (inEffect.timeout positive)
      rw [timeout, someSeconds_getD positive] at same
      exact min_eq_left_iff.mp same
  · intro within
    refine { asked with timeout := ?_ }
    intro positive
    change some (min (options.timeout.getD builtIn) limit) = _
    rw [timeout, someSeconds_getD positive, min_eq_left within]

/-- The options of an accepted direct outbound are in force on the path that dials for it exactly if they are not
the default ones and its connect timeout, if any, is within the server's. -/
theorem options_in_force_iff {api : OutboundApi} {os : TestSockets} {entry : OutboundEntry} {handler : OutboundHandler}
    (direct : entry.outboundType = "direct") (accepted : OutboundHandler.fromEntry api os entry = .ok handler)
    {applied : OutboundHandler → DirectOptions} (applies : Applies applied os entry handler) (builtIn : Nat)
    (conn : ConnConfig) {router : AclRouter} {cache : DnsCache} {target : Address}
    (matched : router.engine.matchHost target.host target.port .tcp = some handler)
    {resolved : Option (List IpAddr)} {dialer : Option OutboundHandler}
    (routed : (router.route cache target).2 = .direct resolved dialer) :
    (entry.direct.getD .default).InEffect (inForce applied builtIn conn dialer) ↔
      entry.direct.getD .default ≠ .default ∧
        seconds (entry.direct.getD .default).connectTimeoutSecs ≤ conn.connectTimeout := by
  rw [OutboundHandler.fromEntry, if_pos direct] at accepted
  obtain ⟨options, inner, asked, -, rfl⟩ := directFromEntry_ok accepted
  obtain ⟨inEffect, timeout⟩ := directOptions_ok asked
  have selects := customDial_eq_false_iff inEffect timeout
  have path := route_dialer matched routed
  generalize (entry.direct.getD .default) = config at *
  cases custom : options.customDial config.tcpKeepaliveSecs with
  | false =>
      rw [custom] at path
      have plain := selects.mp custom
      rw [path, plain]
      exact ⟨fun held => absurd held (default_not_inEffect conn), fun held => absurd rfl held.1⟩
  | true =>
      have other : config ≠ .default := fun plain => by simp [selects.mpr plain] at custom
      have same := applies options asked
      rw [custom] at path same
      rw [path]
      change config.InEffect ((applied (.direct inner true)).limitedBy builtIn conn.connectTimeout) ↔ _
      rw [same, limitedBy_inEffect_iff inEffect timeout]
      exact ⟨fun within => ⟨other, within⟩, And.right⟩

/-! Outbounds of an engine that takes every option, on a system that binds everything. -/

def obligingApi : OutboundApi where
  direct := fun _ => .ok plainDialer
  socks5 := fun _ => plainDialer
  socks5WithAuth := fun _ _ _ => .ok plainDialer
  http := fun _ => plainDialer
  httpTryNew := fun _ => .ok plainDialer
  httpWithAuth := fun inner _ _ => inner
  reject := plainDialer

def obligingSockets : TestSockets := ⟨true, fun _ => .ok (), fun _ => .ok (), fun _ => .ok ()⟩

def directEntry (config : DirectConfig) : OutboundEntry := ⟨"out", "direct", none, none, some config⟩

/-- Rules that send everything to one outbound. -/
def allTo (handler : OutboundHandler) : AclRouter := ⟨⟨fun _ _ _ => some handler, fun _ => none⟩, false⟩

def timeoutConfig (secs : Nat) : DirectConfig := { DirectConfig.default with connectTimeoutSecs := secs }

/-- What the engine is handed for such a config. -/
def timeoutOptions (secs : Nat) : DirectOptions :=
  ⟨.auto, none, none, none, false, someSeconds secs, true, some (seconds 60)⟩

theorem applies_timeoutOptions (secs : Nat) (handler : OutboundHandler) :
    Applies (fun _ => timeoutOptions secs) obligingSockets (directEntry (timeoutConfig secs)) handler := by
  intro options made
  have same : directOptions obligingSockets (directEntry (timeoutConfig secs)) = .ok (timeoutOptions secs) := rfl
  exact Except.ok.inj (same.symm.trans made)

def silentCache : DnsCache := ⟨fun _ _ => .ok [], [], fun _ => ""⟩

/-- An outbound with a limit of three seconds on a server with five. -/
theorem options_in_force_iff_shorterTimeout :
    OutboundHandler.fromEntry obligingApi obligingSockets (directEntry (timeoutConfig 3)) =
        .ok (.direct plainDialer true) ∧
      (timeoutConfig 3).InEffect (inForce (fun _ => timeoutOptions 3) (seconds 10) (.fromCli (.defaults 1))
        (some (.direct plainDialer true))) := by
  have accepted : OutboundHandler.fromEntry obligingApi obligingSockets (directEntry (timeoutConfig 3)) =
      .ok (.direct plainDialer true) := rfl
  have matched : (allTo (.direct plainDialer true)).engine.matchHost (Address.ipv4 ⟨9, 9, 9, 9⟩ 443).host 443 .tcp =
      some (.direct plainDialer true) := rfl
  have routed : ((allTo (.direct plainDialer true)).route silentCache (.ipv4 ⟨9, 9, 9, 9⟩ 443)).2 =
      .direct none (some (.direct plainDialer true)) := rfl
  refine ⟨accepted, ?_⟩
  exact (options_in_force_iff rfl accepted (applies_timeoutOptions 3 _) (seconds 10) (.fromCli (.defaults 1)) matched
    routed).mpr (by decide)

/-- The default options go to the bare path, which keeps alive after 15 seconds instead of 60, and on a server
without TCP_NODELAY delays; of thirty seconds of an outbound's own timeout the server leaves five. -/
theorem options_not_in_force :
    let conn : ConnConfig := .fromCli (.defaults 1)
    let plain : OutboundHandler := .direct plainDialer false
    let custom : OutboundHandler := .direct plainDialer true
    (OutboundHandler.fromEntry obligingApi obligingSockets (directEntry .default) = .ok plain ∧
      ((allTo plain).route silentCache (.ipv4 ⟨9, 9, 9, 9⟩ 443)).2 = .direct none none ∧
      (inForce (fun _ => timeoutOptions 0) (seconds 10) conn none).tcpKeepalive = some (seconds 15) ∧
      ¬ DirectConfig.default.InEffect (inForce (fun _ => timeoutOptions 0) (seconds 10) conn none) ∧
      (inForce (fun _ => timeoutOptions 0) (seconds 10) { conn with tcpNodelay := false } none).tcpNodelay = false) ∧
    OutboundHandler.fromEntry obligingApi obligingSockets (directEntry (timeoutConfig 30)) = .ok custom ∧
      ((allTo custom).route silentCache (.ipv4 ⟨9, 9, 9, 9⟩ 443)).2 = .direct none (some custom) ∧
      (inForce (fun _ => timeoutOptions 30) (seconds 10) conn (some custom)).timeout = some (seconds 5) ∧
      ¬ (timeoutConfig 30).InEffect (inForce (fun _ => timeoutOptions 30) (seconds 10) conn (some custom)) := by
  intro conn plain custom
  have limit : (inForce (fun _ => timeoutOptions 30) (seconds 10) conn (some custom)).timeout = some (seconds 5) := by
    decide
  refine ⟨⟨rfl, rfl, rfl, default_not_inEffect conn, rfl⟩, rfl, rfl, limit, ?_⟩
  intro inEffect
  have different : some (seconds 5) ≠ some (seconds (timeoutConfig 30).connectTimeoutSecs) := by decide
  exact different (limit.symm.trans (inEffect.timeout (by decide)))

end ServerNaive
