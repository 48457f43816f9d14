import ServerNaive.Core.Address

/-! The command line settings that tunnels depend on, and their check. Durations are in
nanoseconds, and paths are kept as text. -/
namespace ServerNaive

structure CliArgs where
  api : String
  node : Nat
  certFile : String
  keyFile : String
  fetchUsersInterval : Nat
  reportTrafficsInterval : Nat
  heartbeatInterval : Nat
  logMode : String
  aclConfFile : Option String
  connIdleTimeout : Nat
  tcpConnectTimeout : Nat
  bufferSize : Nat
  tcpNodelay : Bool

/-- The values of the arguments that are not given; the node has none. -/
def CliArgs.defaults (node : Nat) : CliArgs where
  api := "http://127.0.0.1:8080"
  node := node
  certFile := "/root/.cert/server.crt"
  keyFile := "/root/.cert/server.key"
  fetchUsersInterval := 60 * 10 ^ 9
  reportTrafficsInterval := 100 * 10 ^ 9
  heartbeatInterval := 180 * 10 ^ 9
  logMode := "info"
  aclConfFile := none
  connIdleTimeout := 60 * 10 ^ 9
  tcpConnectTimeout := 5 * 10 ^ 9
  bufferSize := 32 * 1024
  tcpNodelay := true

/-- As `Path::file_name`: the last component, unless it is the parent directory. -/
def fileName (path : List Char) : Option (List Char) :=
  match ((path.splitOn '/').filter fun part => part ≠ [] ∧ part ≠ ['.']).getLast? with
  | some ['.', '.'] => none
  | last => last

/-- As `Path::extension`, with the empty text for none. -/
def extension (path : String) : String :=
  match fileName path.toList with
  | none => ""
  | some name => match (name.splitOn '.').reverse with
      | [] | [_] | [_, []] => ""
      | last :: _ => String.ofList last

def validLogModes : List String := ["trace", "debug", "info", "warn", "error"]

namespace CliArgs

def validateAclConf (onDisk : String → Bool) : Option String → Except String Unit
  | none => .ok ()
  | some path =>
      if !onDisk path then .error ("ACL config file not found: " ++ path)
      else if !eqIgnoreAsciiCase (extension path) "yaml" && !eqIgnoreAsciiCase (extension path) "yml" then
        .error "Invalid ACL config file format: expected .yaml or .yml extension"
      else .ok ()

/-- `validate`, with the paths that exist. -/
def validate (onDisk : String → Bool) (args : CliArgs) : Except String Unit :=
  if args.api.isEmpty then .error "Panel API URL is required (--api)"
  else if args.node = 0 then .error "Node ID must be a positive integer"
  else if args.certFile.isEmpty then .error "TLS certificate file path is required (--cert_file)"
  else if args.keyFile.isEmpty then .error "TLS private key file path is required (--key_file)"
  else if !onDisk args.certFile then .error ("TLS certificate file not found: " ++ args.certFile)
  else if !onDisk args.keyFile then .error ("TLS private key file not found: " ++ args.keyFile)
  else if args.fetchUsersInterval = 0 then .error "fetch_users_interval must be greater than 0"
  else if args.reportTrafficsInterval = 0 then .error "report_traffics_interval must be greater than 0"
  else if args.heartbeatInterval = 0 then .error "heartbeat_interval must be greater than 0"
  -- no letter of another alphabet lowers to one of these words
  else if !validLogModes.any (eqIgnoreAsciiCase args.logMode) then
    .error ("Invalid log_mode '" ++ args.logMode ++ "'. Valid values: trace, debug, info, warn, error")
  else validateAclConf onDisk args.aclConfFile

theorem validate_defaults {onDisk : String → Bool} {node : Nat} (positive : 0 < node)
    (cert : onDisk (defaults node).certFile = true) (key : onDisk (defaults node).keyFile = true) :
    (defaults node).validate onDisk = .ok () := by
  have logs : validLogModes.any (eqIgnoreAsciiCase "info") = true := by decide +kernel
  simp only [defaults] at cert key
  simp [validate, defaults, validateAclConf, positive.ne', cert, key, logs]

end CliArgs

structure ConnConfig where
  idleTimeout : Nat
  connectTimeout : Nat
  bufferSize : Nat
  tcpNodelay : Bool

namespace ConnConfig

def fromCli (cli : CliArgs) : ConnConfig where
  idleTimeout := cli.connIdleTimeout
  connectTimeout := cli.tcpConnectTimeout
  bufferSize := cli.bufferSize
  tcpNodelay := cli.tcpNodelay

def idleTimeoutSecs (config : ConnConfig) : Nat := config.idleTimeout / 10 ^ 9

end ConnConfig

end ServerNaive
