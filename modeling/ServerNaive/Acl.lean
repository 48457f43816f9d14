import ServerNaive.Routing

/-! The outbounds that a rule file declares. What the engine makes of options and addresses is its own
affair, and so is what the operating system says to a test socket. Durations are in nanoseconds. -/
namespace ServerNaive
open AsyncIo StdNet

structure Socks5Config where
  addr : String
  username : Option String
  password : Option String
  allowUdp : Bool

structure HttpConfig where
  addr : String
  username : Option String
  password : Option String
  https : Bool

structure DirectConfig where
  mode : String
  bindIpv4 : Option String
  bindIpv6 : Option String
  bindDevice : Option String
  fastOpen : Bool
  tcpNodelay : Bool
  tcpKeepaliveSecs : Nat
  connectTimeoutSecs : Nat
  deriving DecidableEq

def defaultIpMode : String := "auto"

def defaultTcpNodelay : Bool := true

def defaultTcpKeepaliveSecs : Nat := 60

def DirectConfig.default : DirectConfig where
  mode := defaultIpMode
  bindIpv4 := none
  bindIpv6 := none
  bindDevice := none
  fastOpen := false
  tcpNodelay := defaultTcpNodelay
  tcpKeepaliveSecs := defaultTcpKeepaliveSecs
  connectTimeoutSecs := 0

structure OutboundEntry where
  name : String
  outboundType : String
  socks5 : Option Socks5Config
  http : Option HttpConfig
  direct : Option DirectConfig

inductive DirectMode where
  | auto
  | only4
  | only6
  | prefer46
  | prefer64
  deriving DecidableEq

structure DirectOptions where
  mode : DirectMode
  bindIp4 : Option Ipv4Addr
  bindIp6 : Option Ipv6Addr
  bindDevice : Option String
  fastOpen : Bool
  timeout : Option Nat
  tcpNodelay : Bool
  tcpKeepalive : Option Nat
  deriving DecidableEq

/-- The engine's outbounds: `Direct::with_options`, `Socks5::new`, `Socks5::with_auth`, `Http::new`,
`Http::try_new` with TLS on, `Http::with_auth` and `Reject::new`. -/
structure OutboundApi where
  direct : DirectOptions → Except String Dialer
  socks5 : String → Dialer
  socks5WithAuth : String → String → String → Except String Dialer
  http : String → Dialer
  httpTryNew : String → Except String Dialer
  httpWithAuth : Dialer → String → String → Dialer
  reject : Dialer

/-- The family of a test socket. -/
inductive Domain where
  | ipv4
  | ipv6
  deriving DecidableEq

/-- How the operating system answers to the sockets that only test an option. -/
structure TestSockets where
  linux : Bool
  create : Domain → Except String Unit
  bind : IpAddr → Except String Unit
  bindDevice : String → Except String Unit

def seconds (n : Nat) : Nat := n * 10 ^ 9

/-- A number of seconds of which zero means none. -/
def someSeconds (n : Nat) : Option Nat := if 0 < n then some (seconds n) else none

def parseDirectMode : String → Option DirectMode
  | "auto" => some .auto
  | "4" => some .only4
  | "only4" => some .only4
  | "6" => some .only6
  | "only6" => some .only6
  | "prefer4" => some .prefer46
  | "46" => some .prefer46
  | "prefer6" => some .prefer64
  | "64" => some .prefer64
  | _ => none

def directMode (name mode : String) : Except String DirectMode :=
  match parseDirectMode mode with
  | some m => .ok m
  | none => .error ("Invalid direct mode '" ++ mode ++ "' for outbound '" ++ name ++
      "', valid values: auto, 4, only4, 6, only6, prefer4, 46, prefer6, 64")

/-- The address of `bindIPv4` or `bindIPv6`, if there is one. -/
def bindAddress {α : Type} (field family : String) (parse : String → Option α) :
    Option String → Except String (Option α)
  | none => .ok none
  | some s => match parse s with
      | some ip => .ok (some ip)
      | none => .error ("Invalid " ++ field ++ " '" ++ s ++ "': invalid " ++ family ++ " address syntax")

def withError (text : String) : Except String Unit → Except String Unit
  | .ok () => .ok ()
  | .error e => .error (text ++ e)

def testBind (os : TestSockets) (name field : String) (domain : Domain) : Option IpAddr → Except String Unit
  | none => .ok ()
  | some ip => do
      withError "Failed to create test socket: " (os.create domain)
      withError ("FATAL: outbound '" ++ name ++ "' " ++ field ++ " " ++ ip.toString ++ " failed: ") (os.bind ip)

def testBindDevice (os : TestSockets) (name : String) : Option String → Except String Unit
  | none => .ok ()
  | some device =>
      if os.linux then do
        withError "Failed to create test socket: " (os.create .ipv4)
        withError ("FATAL: outbound '" ++ name ++ "' bindDevice '" ++ device ++ "' failed: ") (os.bindDevice device)
      else .error ("FATAL: outbound '" ++ name ++ "' bindDevice '" ++ device ++ "' is only supported on Linux")

/-- Whether the options need the outbound's own dialer. -/
def DirectOptions.customDial (options : DirectOptions) (tcpKeepaliveSecs : Nat) : Bool :=
  options.bindIp4.isSome || options.bindIp6.isSome || options.bindDevice.isSome || options.mode != .auto ||
    options.fastOpen || !options.tcpNodelay || tcpKeepaliveSecs != defaultTcpKeepaliveSecs || options.timeout.isSome

/-- What the direct arm of `from_entry` hands to the engine; an entry without options has the default ones. -/
def directOptions (os : TestSockets) (entry : OutboundEntry) : Except String DirectOptions := do
  let config := entry.direct.getD .default
  let mode ← directMode entry.name config.mode
  let bindIp4 ← bindAddress "bindIPv4" "IPv4" parseIpv4Addr config.bindIpv4
  let bindIp6 ← bindAddress "bindIPv6" "IPv6" parseIpv6Addr config.bindIpv6
  testBind os entry.name "bindIPv4" .ipv4 (bindIp4.map .v4)
  testBind os entry.name "bindIPv6" .ipv6 (bindIp6.map .v6)
  testBindDevice os entry.name config.bindDevice
  .ok
    { mode, bindIp4, bindIp6
      bindDevice := config.bindDevice
      fastOpen := config.fastOpen
      timeout := someSeconds config.connectTimeoutSecs
      tcpNodelay := config.tcpNodelay
      tcpKeepalive := someSeconds config.tcpKeepaliveSecs }

def directFromEntry (api : OutboundApi) (os : TestSockets) (entry : OutboundEntry) : Except String OutboundHandler := do
  let options ← directOptions os entry
  match api.direct options with
  | .error e => .error ("Invalid direct outbound '" ++ entry.name ++ "': " ++ e)
  | .ok inner => .ok (.direct inner (options.customDial (entry.direct.getD .default).tcpKeepaliveSecs))

def socks5FromEntry (api : OutboundApi) (entry : OutboundEntry) : Except String OutboundHandler :=
  match entry.socks5 with
  | none => .error ("socks5 config required for outbound '" ++ entry.name ++ "'")
  | some config => match config.username, config.password with
      | some username, some password => match api.socks5WithAuth config.addr username password with
          | .error e => .error ("Invalid socks5 outbound '" ++ entry.name ++ "': " ++ e)
          | .ok inner => .ok (.socks5 inner config.allowUdp)
      | _, _ => .ok (.socks5 (api.socks5 config.addr) config.allowUdp)

def httpFromEntry (api : OutboundApi) (entry : OutboundEntry) : Except String OutboundHandler :=
  match entry.http with
  | none => .error ("http config required for outbound '" ++ entry.name ++ "'")
  | some config => match if config.https then api.httpTryNew config.addr else .ok (api.http config.addr) with
      | .error e => .error ("Invalid http outbound '" ++ entry.name ++ "': " ++ e)
      | .ok inner => match config.username, config.password with
          | some username, some password => .ok (.http (api.httpWithAuth inner username password))
          | _, _ => .ok (.http inner)

def OutboundHandler.fromEntry (api : OutboundApi) (os : TestSockets) (entry : OutboundEntry) :
    Except String OutboundHandler :=
  if entry.outboundType = "direct" then directFromEntry api os entry
  else if entry.outboundType = "socks5" then socks5FromEntry api entry
  else if entry.outboundType = "http" then httpFromEntry api entry
  else if entry.outboundType = "reject" then .ok (.reject api.reject)
  else .error ("Unknown outbound type '" ++ entry.outboundType ++ "' for outbound '" ++ entry.name ++ "'")

/-! What an accepted entry asks for. -/

/-- What a connection is dialled with is what the config says; a connect timeout of zero says nothing. -/
structure DirectConfig.InEffect (config : DirectConfig) (dialed : DirectOptions) : Prop where
  mode : parseDirectMode config.mode = some dialed.mode
  bindIp4 : config.bindIpv4.map parseIpv4Addr = dialed.bindIp4.map some
  bindIp6 : config.bindIpv6.map parseIpv6Addr = dialed.bindIp6.map some
  bindDevice : dialed.bindDevice = config.bindDevice
  fastOpen : dialed.fastOpen = config.fastOpen
  tcpNodelay : dialed.tcpNodelay = config.tcpNodelay
  tcpKeepalive : dialed.tcpKeepalive = someSeconds config.tcpKeepaliveSecs
  timeout : 0 < config.connectTimeoutSecs → dialed.timeout = some (seconds config.connectTimeoutSecs)

theorem of_bind_eq_ok {ε α β : Type} {m : Except ε α} {k : α → Except ε β} {b : β} (ran : (m >>= k) = .ok b) :
    ∃ a, m = .ok a ∧ k a = .ok b := by
  cases m with
  | error e => cases ran
  | ok a => exact ⟨a, rfl, ran⟩

theorem directMode_ok {name mode : String} {m : DirectMode} (valid : directMode name mode = .ok m) :
    parseDirectMode mode = some m := by
  unfold directMode at valid
  cases parsed : parseDirectMode mode with
  | none =>
      rw [parsed] at valid
      cases valid
  | some found =>
      rw [parsed] at valid
      cases valid
      rfl

theorem bindAddress_ok {α : Type} {field family : String} {parse : String → Option α} {text : Option String}
    {ip : Option α} (valid : bindAddress field family parse text = .ok ip) : text.map parse = ip.map some := by
  cases text with
  | none =>
      cases valid
      rfl
  | some s =>
      cases parsed : parse s with
      | none =>
          simp only [bindAddress, parsed] at valid
          cases valid
      | some found =>
          simp only [bindAddress, parsed] at valid
          cases valid
          exact congrArg some parsed

theorem someSeconds_pos {n : Nat} (positive : 0 < n) : someSeconds n = some (seconds n) := if_pos positive

theorem someSeconds_eq_none {n : Nat} (absent : someSeconds n = none) : n = 0 := by
  unfold someSeconds at absent
  split_ifs at absent with positive
  exact Nat.eq_zero_of_not_pos positive

/-- The options handed to the engine are those of the config, and name a time limit only if it does. -/
theorem directOptions_ok {os : TestSockets} {entry : OutboundEntry} {options : DirectOptions}
    (valid : directOptions os entry = .ok options) :
    (entry.direct.getD .default).InEffect options ∧
      options.timeout = someSeconds (entry.direct.getD .default).connectTimeoutSecs := by
  obtain ⟨mode, parsedMode, valid⟩ := of_bind_eq_ok valid
  obtain ⟨bindIp4, parsed4, valid⟩ := of_bind_eq_ok valid
  obtain ⟨bindIp6, parsed6, valid⟩ := of_bind_eq_ok valid
  -- The test sockets only say whether to go on.
  obtain ⟨_, _, valid⟩ := of_bind_eq_ok valid
  obtain ⟨_, _, valid⟩ := of_bind_eq_ok valid
  obtain ⟨_, _, valid⟩ := of_bind_eq_ok valid
  cases valid
  exact ⟨⟨directMode_ok parsedMode, bindAddress_ok parsed4, bindAddress_ok parsed6, rfl, rfl, rfl, rfl, someSeconds_pos⟩,
    rfl⟩

theorem directFromEntry_ok {api : OutboundApi} {os : TestSockets} {entry : OutboundEntry} {handler : OutboundHandler}
    (valid : directFromEntry api os entry = .ok handler) :
    ∃ options inner, directOptions os entry = .ok options ∧ api.direct options = .ok inner ∧
      handler = .direct inner (options.customDial (entry.direct.getD .default).tcpKeepaliveSecs) := by
  obtain ⟨options, accepted, valid⟩ := of_bind_eq_ok valid
  cases made : api.direct options with
  | error e =>
      simp only [made] at valid
      cases valid
  | ok inner =>
      simp only [made] at valid
      cases valid
      exact ⟨options, inner, accepted, made, rfl⟩

theorem parseDirectMode_auto {mode : String} (parsed : parseDirectMode mode = some .auto) : mode = defaultIpMode := by
  unfold parseDirectMode at parsed
  split at parsed
  · rfl
  all_goals cases parsed

/-- Only the default config keeps to the bare path. -/
theorem customDial_eq_false_iff {config : DirectConfig} {options : DirectOptions} (asked : config.InEffect options)
    (timeout : options.timeout = someSeconds config.connectTimeoutSecs) :
    options.customDial config.tcpKeepaliveSecs = false ↔ config = .default := by
  constructor
  · intro plain
    simp only [DirectOptions.customDial, Bool.or_eq_false_iff, Option.isSome_eq_false_iff, Option.isNone_iff_eq_none,
      bne_eq_false_iff_eq, Bool.not_eq_false'] at plain
    obtain ⟨⟨⟨⟨⟨⟨⟨no4, no6⟩, noDevice⟩, auto⟩, noFastOpen⟩, nodelay⟩, keepalive⟩, noTimeout⟩ := plain
    have mode := parseDirectMode_auto (asked.mode.trans (congrArg some auto))
    have bind4 := Option.map_eq_none_iff.mp (asked.bindIp4.trans (congrArg (Option.map some) no4))
    have bind6 := Option.map_eq_none_iff.mp (asked.bindIp6.trans (congrArg (Option.map some) no6))
    have device := asked.bindDevice.symm.trans noDevice
    have fastOpen := asked.fastOpen.symm.trans noFastOpen
    have delay := asked.tcpNodelay.symm.trans nodelay
    have limit := someSeconds_eq_none (timeout.symm.trans noTimeout)
    obtain ⟨⟩ := config
    dsimp only at mode bind4 bind6 device fastOpen delay keepalive limit
    subst mode bind4 bind6 device fastOpen delay keepalive limit
    rfl
  · rintro rfl
    have mode : options.mode = .auto := (Option.some.inj asked.mode).symm
    have no4 := Option.map_eq_none_iff.mp asked.bindIp4.symm
    have no6 := Option.map_eq_none_iff.mp asked.bindIp6.symm
    rw [DirectOptions.customDial, mode, no4, no6, asked.bindDevice, asked.fastOpen, asked.tcpNodelay, timeout]
    rfl

end ServerNaive
