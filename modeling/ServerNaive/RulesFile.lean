import ServerNaive.Config
import ServerNaive.Handler.DialOptions

/-! From the rules file to the router. Files and YAML are given, and so is what the engine makes of the text of
the rules; of the latter two laws are assumed. -/
namespace ServerNaive
open AsyncIo StdNet

structure AclRules where
  inline : List String

structure AclConfig where
  outbounds : List OutboundEntry
  acl : AclRules

/-- Where the engine takes its geo data from. -/
structure AutoGeoLoader where
  dataDir : Option String
  refresh : Bool

/-- The outbounds by their names. -/
abbrev Outbounds : Type := String → Option OutboundHandler

namespace Outbounds

def insert (outbounds : Outbounds) (name : String) (handler : OutboundHandler) : Outbounds :=
  fun other => if other = name then some handler else outbounds other

/-- As `entry(name).or_insert(handler)`. -/
def orInsert (outbounds : Outbounds) (name : String) (handler : OutboundHandler) : Outbounds :=
  match outbounds name with
  | some _ => outbounds
  | none => outbounds.insert name handler

end Outbounds

/-- The engine's own part: its outbounds, `Direct::new`, `parse_rules` and `compile`, which is given the size of
a cache. -/
structure EngineApi (Rule : Type) where
  outbound : OutboundApi
  directNew : Dialer
  parseRules : String → Except String (List Rule)
  compile : List Rule → Outbounds → Nat → AutoGeoLoader →
    Except String (HostInfo → Protocol → UInt16 → Option OutboundHandler)

/-- What is assumed of the engine: rules answer with outbounds that they were compiled with, and the rule
`direct(all)` is good for every target. -/
structure EngineApi.Lawful {Rule : Type} (api : EngineApi Rule) : Prop where
  named : ∀ rules outbounds size geo compiled, api.compile rules outbounds size geo = .ok compiled →
    ∀ host protocol port handler, compiled host protocol port = some handler → ∃ name, outbounds name = some handler
  directAll : ∃ rules, api.parseRules "direct(all)" = .ok rules ∧
    ∀ outbounds size geo handler, outbounds "direct" = some handler → ∃ compiled,
      api.compile rules outbounds size geo = .ok compiled ∧
        ∀ host protocol port, compiled host protocol port = some handler

/-- The files as they are read, and what their text says. -/
structure ConfigFiles where
  onDisk : String → Bool
  read : String → Except String String
  fromYaml : String → Except String AclConfig

/-- The settings that the router is made from. -/
structure ServerConfig where
  aclConfFile : Option String
  dataDir : String
  blockPrivateIp : Bool

def loadAclConfig (files : ConfigFiles) (path : String) : Except String AclConfig := do
  let content ← (files.read path).mapError fun e => "Failed to read ACL config file '" ++ path ++ "': " ++ e
  (files.fromYaml content).mapError fun e => "Failed to parse ACL config file '" ++ path ++ "': " ++ e

section Engine

variable {Rule : Type} (api : EngineApi Rule) (os : TestSockets)

/-- The loop over the entries: a later one replaces an earlier one of its name. -/
def loadOutbounds : List OutboundEntry → Outbounds → Except String Outbounds
  | [], outbounds => .ok outbounds
  | entry :: entries, outbounds => do
      let handler ← OutboundHandler.fromEntry api.outbound os entry
      loadOutbounds entries (outbounds.insert entry.name handler)

def withDefaults (outbounds : Outbounds) : Outbounds :=
  (outbounds.orInsert "reject" (.reject api.outbound.reject)).orInsert "direct" (.direct api.directNew false)

/-- The rules in force: everything goes out directly when there are none. -/
def AclConfig.rules (config : AclConfig) : List String :=
  if config.acl.inline.isEmpty then ["direct(all)"] else config.acl.inline

def AclEngine.new (config : AclConfig) (dataDir : Option String) (refreshGeodata : Bool) : Except String AclEngine := do
  let declared ← loadOutbounds api os config.outbounds fun _ => none
  let outbounds := withDefaults api declared
  let rules ← (api.parseRules ("\n".intercalate config.rules)).mapError ("Failed to parse ACL rules: " ++ ·)
  let compiled ← (api.compile rules outbounds 4096 ⟨dataDir, refreshGeodata⟩).mapError
    ("Failed to compile ACL rules: " ++ ·)
  .ok ⟨compiled, outbounds⟩

def buildRouter (files : ConfigFiles) (config : ServerConfig) (refreshGeodata : Bool) : Except String Router :=
  match config.aclConfFile with
  | none => .ok (.direct ⟨config.blockPrivateIp⟩)
  | some path =>
      if !files.onDisk path then .error ("ACL config file not found: " ++ path)
      else if !eqIgnoreAsciiCase (extension path) "yaml" && !eqIgnoreAsciiCase (extension path) "yml" then
        .error "Invalid ACL config file format: expected .yaml or .yml"
      else do
        let acl ← loadAclConfig files path
        let engine ← AclEngine.new api os acl (some config.dataDir) refreshGeodata
        .ok (.acl ⟨engine, config.blockPrivateIp⟩)

end Engine

/-- The entry that a name stands for. -/
def lastNamed (entries : List OutboundEntry) (name : String) : Option OutboundEntry :=
  entries.reverse.find? (·.name = name)

/-- What a file makes of a name: the last entry of that name, or a built-in outbound where there is none. -/
inductive AclConfig.Declares {Rule : Type} (api : EngineApi Rule) (os : TestSockets) (config : AclConfig) :
    String → OutboundHandler → Prop
  | entry {name : String} {entry : OutboundEntry} {handler : OutboundHandler}
      (last : lastNamed config.outbounds name = some entry)
      (accepted : OutboundHandler.fromEntry api.outbound os entry = .ok handler) : Declares api os config name handler
  | reject (free : lastNamed config.outbounds "reject" = none) :
      Declares api os config "reject" (.reject api.outbound.reject)
  | direct (free : lastNamed config.outbounds "direct" = none) :
      Declares api os config "direct" (.direct api.directNew false)

theorem lastNamed_cons (entry : OutboundEntry) (entries : List OutboundEntry) (name : String) :
    lastNamed (entry :: entries) name =
      (lastNamed entries name).or (if entry.name = name then some entry else none) := by
  simp [lastNamed, List.find?_append, List.find?_singleton]

theorem lastNamed_eq_none {entries : List OutboundEntry} {name : String}
    (absent : ∀ entry ∈ entries, entry.name ≠ name) : lastNamed entries name = none := by
  simpa [lastNamed] using absent

section Loading

variable {Rule : Type} {api : EngineApi Rule} {os : TestSockets}

/-- What the loop leaves under a name. -/
theorem loadOutbounds_ok {entries : List OutboundEntry} {start loaded : Outbounds}
    (ran : loadOutbounds api os entries start = .ok loaded) (name : String) :
    (∀ entry, lastNamed entries name = some entry → ∃ handler,
        OutboundHandler.fromEntry api.outbound os entry = .ok handler ∧ loaded name = some handler) ∧
      (lastNamed entries name = none → loaded name = start name) := by
  induction entries generalizing start with
  | nil =>
      cases ran
      exact ⟨(fun entry found => by cases found), fun _ => rfl⟩
  | cons entry entries ih =>
      obtain ⟨handler, accepted, rest⟩ := of_bind_eq_ok ran
      obtain ⟨later, kept⟩ := ih rest
      rw [lastNamed_cons]
      cases found : lastNamed entries name with
      | some other =>
          refine ⟨?_, (fun absent => by cases absent)⟩
          rintro _ ⟨⟩
          exact later other found
      | none =>
          replace kept := kept found
          by_cases same : entry.name = name
          · rw [if_pos same]
            refine ⟨?_, (fun absent => by cases absent)⟩
            rintro _ ⟨⟩
            exact ⟨handler, accepted, kept.trans (if_pos same.symm)⟩
          · rw [if_neg same]
            exact ⟨(fun other wrong => by cases wrong), fun _ => kept.trans (if_neg (Ne.symm same))⟩

/-- The loop gets through exactly if every entry is accepted. -/
theorem loadOutbounds_runs_iff (entries : List OutboundEntry) (start : Outbounds) :
    (∃ loaded, loadOutbounds api os entries start = .ok loaded) ↔
      ∀ entry ∈ entries, ∃ handler, OutboundHandler.fromEntry api.outbound os entry = .ok handler := by
  induction entries generalizing start with
  | nil => exact ⟨fun _ entry member => absurd member List.not_mem_nil, fun _ => ⟨start, rfl⟩⟩
  | cons entry entries ih =>
      rw [List.forall_mem_cons]
      constructor
      · rintro ⟨loaded, ran⟩
        obtain ⟨handler, accepted, rest⟩ := of_bind_eq_ok ran
        exact ⟨⟨handler, accepted⟩, (ih _).mp ⟨loaded, rest⟩⟩
      · rintro ⟨⟨handler, accepted⟩, others⟩
        obtain ⟨loaded, rest⟩ := (ih (start.insert entry.name handler)).mpr others
        refine ⟨loaded, ?_⟩
        rw [loadOutbounds, accepted]
        exact rest

theorem Outbounds.orInsert_apply (outbounds : Outbounds) (name other : String) (handler : OutboundHandler) :
    outbounds.orInsert name handler other =
      (outbounds other).or (if other = name then some handler else none) := by
  unfold Outbounds.orInsert
  cases taken : outbounds name with
  | some present =>
      by_cases same : other = name
      · subst same
        simp [taken]
      · simp [same]
  | none =>
      by_cases same : other = name
      · subst same
        simp [taken, Outbounds.insert]
      · simp [same, Outbounds.insert]

theorem withDefaults_apply (api : EngineApi Rule) (loaded : Outbounds) (name : String) :
    withDefaults api loaded name = ((loaded name).or
      (if name = "reject" then some (.reject api.outbound.reject) else none)).or
        (if name = "direct" then some (.direct api.directNew false) else none) := by
  rw [withDefaults, Outbounds.orInsert_apply, Outbounds.orInsert_apply]

/-- What the engine has under a name is what the file declares it to be. -/
theorem withDefaults_declares_iff {config : AclConfig} {loaded : Outbounds} {name : String} {handler : OutboundHandler}
    (ran : loadOutbounds api os config.outbounds (fun _ => none) = .ok loaded) :
    withDefaults api loaded name = some handler ↔ config.Declares api os name handler := by
  obtain ⟨declared, free⟩ := loadOutbounds_ok ran name
  rw [withDefaults_apply]
  constructor
  · intro found
    cases last : lastNamed config.outbounds name with
    | some entry =>
        obtain ⟨own, accepted, present⟩ := declared entry last
        rw [present] at found
        cases found
        exact .entry last accepted
    | none =>
        rw [free last, Option.none_or] at found
        by_cases rejects : name = "reject"
        · subst rejects
          cases found
          exact .reject last
        · by_cases directs : name = "direct"
          · subst directs
            cases found
            exact .direct last
          · rw [if_neg rejects, if_neg directs] at found
            cases found
  · intro declares
    cases declares with
    | entry last accepted =>
        obtain ⟨own, same, present⟩ := declared _ last
        rw [present, Except.ok.inj (accepted.symm.trans same)]
        rfl
    | reject last =>
        rw [free last]
        rfl
    | direct last =>
        rw [free last]
        rfl

/-- There always is a direct outbound. -/
theorem withDefaults_direct (api : EngineApi Rule) (loaded : Outbounds) :
    ∃ handler, withDefaults api loaded "direct" = some handler := by
  rw [withDefaults_apply, if_pos rfl]
  cases (loaded "direct").or _ with
  | none => exact ⟨_, rfl⟩
  | some handler => exact ⟨handler, rfl⟩

theorem of_mapError_eq_ok {ε ε' α : Type} {f : ε → ε'} {m : Except ε α} {a : α} (ran : m.mapError f = .ok a) :
    m = .ok a := by
  cases m with
  | error e => cases ran
  | ok b => exact congrArg Except.ok (Except.ok.inj ran)

variable {config : AclConfig} {dataDir : Option String} {refreshGeodata : Bool} {engine : AclEngine}

/-- What an engine is made of. -/
theorem AclEngine.new_ok (made : AclEngine.new api os config dataDir refreshGeodata = .ok engine) :
    ∃ loaded rules, loadOutbounds api os config.outbounds (fun _ => none) = .ok loaded ∧
      api.parseRules ("\n".intercalate config.rules) = .ok rules ∧
      api.compile rules (withDefaults api loaded) 4096 ⟨dataDir, refreshGeodata⟩ = .ok engine.compiled ∧
      engine.outbounds = withDefaults api loaded := by
  obtain ⟨loaded, ran, made⟩ := of_bind_eq_ok made
  obtain ⟨rules, parsed, made⟩ := of_bind_eq_ok made
  obtain ⟨compiled, accepted, made⟩ := of_bind_eq_ok made
  cases made
  exact ⟨loaded, rules, ran, of_mapError_eq_ok parsed, of_mapError_eq_ok accepted, rfl⟩

/-- A file without rules has the one rule. -/
theorem AclConfig.rules_of_nil (unruled : config.acl.inline = []) : "\n".intercalate config.rules = "direct(all)" := by
  rw [AclConfig.rules, unruled]
  rfl

/-- Every target is answered for, by an outbound that the file declares. -/
theorem AclEngine.matchHost_declares (lawful : api.Lawful)
    (made : AclEngine.new api os config dataDir refreshGeodata = .ok engine) (host : String) (port : UInt16)
    (protocol : Protocol) :
    ∃ name handler, engine.matchHost host port protocol = some handler ∧ config.Declares api os name handler := by
  obtain ⟨loaded, rules, ran, -, compiled, outbounds⟩ := AclEngine.new_ok made
  obtain ⟨direct, present⟩ := withDefaults_direct api loaded
  unfold AclEngine.matchHost
  dsimp only
  split
  · rename_i handler matched
    obtain ⟨name, found⟩ := lawful.named _ _ _ _ _ compiled _ _ _ _ matched
    exact ⟨name, handler, rfl, (withDefaults_declares_iff ran).mp found⟩
  · rw [outbounds, present]
    exact ⟨"direct", direct, rfl, (withDefaults_declares_iff ran).mp present⟩

/-- Without rules every target gets the direct outbound. -/
theorem AclEngine.matchHost_unruled (lawful : api.Lawful)
    (made : AclEngine.new api os config dataDir refreshGeodata = .ok engine) (unruled : config.acl.inline = []) :
    ∃ handler, config.Declares api os "direct" handler ∧
      ∀ host port protocol, engine.matchHost host port protocol = some handler := by
  obtain ⟨loaded, rules, ran, parsed, compiled, -⟩ := AclEngine.new_ok made
  obtain ⟨direct, present⟩ := withDefaults_direct api loaded
  obtain ⟨only, parses, all⟩ := lawful.directAll
  rw [AclConfig.rules_of_nil unruled, parses] at parsed
  cases parsed
  obtain ⟨answers, accepted, answered⟩ := all _ 4096 ⟨dataDir, refreshGeodata⟩ _ present
  rw [accepted] at compiled
  refine ⟨direct, (withDefaults_declares_iff ran).mp present, ?_⟩
  intro host port protocol
  unfold AclEngine.matchHost
  dsimp only
  rw [← Except.ok.inj compiled, answered]

/-- Without rules an engine is made exactly if every entry is accepted. -/
theorem AclEngine.new_runs_iff (lawful : api.Lawful) (dataDir : Option String) (refreshGeodata : Bool)
    (unruled : config.acl.inline = []) :
    (∃ engine, AclEngine.new api os config dataDir refreshGeodata = .ok engine) ↔
      ∀ entry ∈ config.outbounds, ∃ handler, OutboundHandler.fromEntry api.outbound os entry = .ok handler := by
  rw [← loadOutbounds_runs_iff config.outbounds fun _ => none]
  constructor
  · rintro ⟨engine, made⟩
    obtain ⟨loaded, rules, ran, -⟩ := AclEngine.new_ok made
    exact ⟨loaded, ran⟩
  · rintro ⟨loaded, ran⟩
    obtain ⟨direct, present⟩ := withDefaults_direct api loaded
    obtain ⟨only, parses, all⟩ := lawful.directAll
    obtain ⟨answers, accepted, -⟩ := all _ 4096 ⟨dataDir, refreshGeodata⟩ _ present
    refine ⟨⟨answers, withDefaults api loaded⟩, ?_⟩
    rw [AclEngine.new, ran, AclConfig.rules_of_nil unruled, parses]
    change (api.compile only (withDefaults api loaded) 4096 ⟨dataDir, refreshGeodata⟩).mapError _ >>= _ = _
    rw [accepted]
    rfl

end Loading

/-- A router whose rules send everything to the plain direct outbound is the direct router. -/
theorem route_of_plain {router : AclRouter} {inner : Dialer}
    (always : ∀ host port, router.engine.matchHost host port .tcp = some (.direct inner false)) (cache : DnsCache)
    (target : Address) :
    router.route cache target = (DirectRouter.mk router.blockPrivateIp).route cache target := by
  have decided (resolved : Option (List IpAddr)) :
      router.routeAddrWithResolved target resolved = router.directDecision target resolved none := by
    rw [AclRouter.routeAddrWithResolved, always]
    rfl
  unfold AclRouter.route DirectRouter.route
  cases block : router.blockPrivateIp with
  | false => simp [decided, AclRouter.directDecision, block]
  | true =>
      simp only [decided, AclRouter.directDecision, block, if_true, true_and]
      split_ifs <;> rfl

/-- How a file governs the router that is made from it: its rules are compiled over its outbounds. -/
structure AclConfig.Governs {Rule : Type} (api : EngineApi Rule) (os : TestSockets) (geo : AutoGeoLoader)
    (acl : AclConfig) (router : AclRouter) : Prop where
  compiled : ∃ rules, api.parseRules ("\n".intercalate acl.rules) = .ok rules ∧
    api.compile rules router.engine.outbounds 4096 geo = .ok router.engine.compiled
  outbounds : ∀ name handler, router.engine.outbounds name = some handler ↔ acl.Declares api os name handler
  declared : ∀ host port protocol, ∃ name handler,
    router.engine.matchHost host port protocol = some handler ∧ acl.Declares api os name handler
  unruled : acl.acl.inline = [] → ∃ handler, acl.Declares api os "direct" handler ∧
    ∀ host port protocol, router.engine.matchHost host port protocol = some handler
  plain : acl.acl.inline = [] → (∀ entry ∈ acl.outbounds, entry.name ≠ "direct") →
    ∀ cache target, router.route cache target = (DirectRouter.mk router.blockPrivateIp).route cache target

theorem AclConfig.Declares.plain {Rule : Type} {api : EngineApi Rule} {os : TestSockets} {acl : AclConfig}
    {name : String} {handler : OutboundHandler} (h : acl.Declares api os name handler) (direct : name = "direct")
    (free : lastNamed acl.outbounds name = none) : handler = .direct api.directNew false := by
  cases h with
  | entry last accepted =>
      rw [free] at last
      cases last
  | reject _ => exact absurd direct (by decide)
  | direct _ => rfl

section Router

variable {Rule : Type} {api : EngineApi Rule} {os : TestSockets} {files : ConfigFiles} {config : ServerConfig}
  {path : String} {refreshGeodata : Bool} {acl : AclConfig}

theorem AclEngine.new_governs (lawful : api.Lawful) {dataDir : Option String} {engine : AclEngine}
    (made : AclEngine.new api os acl dataDir refreshGeodata = .ok engine) (block : Bool) :
    acl.Governs api os ⟨dataDir, refreshGeodata⟩ ⟨engine, block⟩ where
  compiled := by
    obtain ⟨loaded, rules, -, parsed, compiled, outbounds⟩ := AclEngine.new_ok made
    rw [← outbounds] at compiled
    exact ⟨rules, parsed, compiled⟩
  outbounds name handler := by
    obtain ⟨loaded, rules, ran, -, -, outbounds⟩ := AclEngine.new_ok made
    rw [outbounds]
    exact withDefaults_declares_iff ran
  declared := AclEngine.matchHost_declares lawful made
  unruled := AclEngine.matchHost_unruled lawful made
  plain unruled absent := by
    obtain ⟨handler, declared, always⟩ := AclEngine.matchHost_unruled lawful made unruled
    have builtIn := declared.plain rfl (lastNamed_eq_none absent)
    subst builtIn
    exact route_of_plain fun host port => always host port .tcp

/-- The paths that are taken for rules files. -/
def IsYaml (path : String) : Prop :=
  eqIgnoreAsciiCase (extension path) "yaml" = true ∨ eqIgnoreAsciiCase (extension path) "yml" = true

/-- With a path given, the router is that of the file, or there is none. -/
theorem buildRouter_ok_iff (given : config.aclConfFile = some path) {router : Router} :
    buildRouter api os files config refreshGeodata = .ok router ↔
      files.onDisk path = true ∧ IsYaml path ∧ ∃ acl engine, loadAclConfig files path = .ok acl ∧
        AclEngine.new api os acl (some config.dataDir) refreshGeodata = .ok engine ∧
        router = .acl ⟨engine, config.blockPrivateIp⟩ := by
  have refused : (!eqIgnoreAsciiCase (extension path) "yaml" && !eqIgnoreAsciiCase (extension path) "yml") = true ↔
      ¬ IsYaml path := by
    simp [IsYaml, not_or]
  unfold buildRouter
  rw [given]
  dsimp only
  cases files.onDisk path with
  | false => simp
  | true =>
      by_cases yaml : IsYaml path
      · rw [Bool.not_true, if_neg Bool.false_ne_true, if_neg fun other => refused.mp other yaml]
        constructor
        · intro built
          obtain ⟨acl, loaded, built⟩ := of_bind_eq_ok built
          obtain ⟨engine, made, built⟩ := of_bind_eq_ok built
          exact ⟨rfl, yaml, acl, engine, loaded, made, (Except.ok.inj built).symm⟩
        · rintro ⟨-, -, acl, engine, loaded, made, rfl⟩
          rw [loaded]
          change AclEngine.new api os acl (some config.dataDir) refreshGeodata >>= _ = _
          rw [made]
          rfl
      · rw [Bool.not_true, if_neg Bool.false_ne_true, if_pos (refused.mpr yaml)]
        exact ⟨(fun wrong => by cases wrong), fun held => absurd held.2.1 yaml⟩

/-- A router that was made from a rules file has the rules of the file, compiled over the outbounds that the
file declares, and answers with those only; a file without rules makes a router whenever its outbounds are
accepted. -/
theorem rules_file_exact (lawful : api.Lawful) (os : TestSockets) (files : ConfigFiles)
    (given : config.aclConfFile = some path) (refreshGeodata : Bool) :
    (∀ router, buildRouter api os files config refreshGeodata = .ok router → ∃ acl engine,
      loadAclConfig files path = .ok acl ∧ router = .acl ⟨engine, config.blockPrivateIp⟩ ∧
        acl.Governs api os ⟨some config.dataDir, refreshGeodata⟩ ⟨engine, config.blockPrivateIp⟩) ∧
    ∀ acl, files.onDisk path = true → IsYaml path → loadAclConfig files path = .ok acl → acl.acl.inline = [] →
      ((∃ router, buildRouter api os files config refreshGeodata = .ok router) ↔
        ∀ entry ∈ acl.outbounds, ∃ handler, OutboundHandler.fromEntry api.outbound os entry = .ok handler) := by
  constructor
  · intro router built
    obtain ⟨-, -, acl, engine, loaded, made, same⟩ := (buildRouter_ok_iff given).mp built
    exact ⟨acl, engine, loaded, same, AclEngine.new_governs lawful made config.blockPrivateIp⟩
  · intro acl present yaml loaded unruled
    rw [← AclEngine.new_runs_iff lawful (some config.dataDir) refreshGeodata unruled]
    constructor
    · rintro ⟨router, built⟩
      obtain ⟨-, -, other, engine, same, made, -⟩ := (buildRouter_ok_iff given).mp built
      rw [loaded] at same
      cases same
      exact ⟨engine, made⟩
    · rintro ⟨engine, made⟩
      exact ⟨_, (buildRouter_ok_iff given).mpr ⟨present, yaml, acl, engine, loaded, made, rfl⟩⟩

end Router

/-- An engine that takes every list of rules for `direct(all)`. -/
def directOnlyApi : EngineApi Unit where
  outbound := obligingApi
  directNew := plainDialer
  parseRules := fun _ => .ok [()]
  compile := fun _ outbounds _ _ => .ok fun _ _ _ => outbounds "direct"

theorem directOnlyApi_lawful : directOnlyApi.Lawful where
  named := by
    rintro rules outbounds size geo compiled ⟨⟩ host protocol port handler found
    exact ⟨"direct", found⟩
  directAll := by
    refine ⟨[()], rfl, ?_⟩
    intro outbounds size geo handler present
    exact ⟨_, rfl, fun _ _ _ => present⟩

/-- A file that declares a proxy twice and has no rules. -/
def unusedProxy : AclConfig where
  outbounds := [⟨"warp", "socks5", some ⟨"127.0.0.1:40000", none, none, true⟩, none, none⟩,
    ⟨"warp", "http", none, some ⟨"127.0.0.1:8080", none, none, false⟩, none⟩]
  acl := ⟨[]⟩

def unusedProxyFiles : ConfigFiles := ⟨fun _ => true, fun _ => .ok "", fun _ => .ok unusedProxy⟩

def unusedProxyConfig : ServerConfig := ⟨some "acl.yaml", "data", true⟩

theorem rules_file_exact_unusedProxy :
    ∃ engine, buildRouter directOnlyApi obligingSockets unusedProxyFiles unusedProxyConfig false =
        .ok (.acl ⟨engine, true⟩) ∧
      ∀ cache target, (AclRouter.mk engine true).route cache target = (DirectRouter.mk true).route cache target := by
  have given : unusedProxyConfig.aclConfFile = some "acl.yaml" := rfl
  have yaml : IsYaml "acl.yaml" := .inl (by decide +kernel)
  have accepted : ∀ entry ∈ unusedProxy.outbounds, ∃ handler,
      OutboundHandler.fromEntry directOnlyApi.outbound obligingSockets entry = .ok handler := by
    intro entry member
    rcases List.mem_cons.mp member with rfl | later
    · exact ⟨_, rfl⟩
    · rw [List.mem_singleton.mp later]
      exact ⟨_, rfl⟩
  have absent : ∀ entry ∈ unusedProxy.outbounds, entry.name ≠ "direct" := by decide
  obtain ⟨governed, runs⟩ := rules_file_exact directOnlyApi_lawful obligingSockets unusedProxyFiles given false
  obtain ⟨router, built⟩ := (runs unusedProxy rfl yaml rfl rfl).mpr accepted
  obtain ⟨acl, engine, loaded, rfl, governs⟩ := governed router built
  cases loaded
  exact ⟨engine, built, governs.plain rfl absent⟩

end ServerNaive
