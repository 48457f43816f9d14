import ServerNaive.Handler.TunnelRecords

/-! The gate in front of a tunnel, on both backends: who is let through, what a tunnel then
does and for whom, and what a refused request leaves behind. -/
namespace ServerNaive
open AsyncIo StdNet

/-! What a tunnel dials. -/

/-- The literal of a target, or a member of some answer of the resolver for its name. -/
def AnswersFor (answer : Nat → String → Except DnsError (List IpAddr)) (target : Address) (ip : IpAddr) :
    Prop :=
  target.literal = some ip ∨
    ∃ n host port ips, target = .domain host port ∧ answer n host = .ok ips ∧ ip ∈ ips

/-- The engine's address names the target. -/
def NamesTarget (target : Address) (addr : AclAddr) : Prop :=
  addr.host = target.host ∧ addr.port = target.port

/-- Whom the tunnel of an outbound hands its target to, and as which address, unless it dials by itself. -/
def OutboundType.handsOver (target : Address) : OutboundType → Option (OutboundHandler × AclAddr)
  | .direct resolved (some handler) => some (handler, dialerAddr target resolved)
  | .proxy handler => some (handler, dialerAddr target none)
  | _ => none

/-- What the tunnel of an outbound may dial: what its handler tries when it is given the target, or
without a handler an address of the target at its port. -/
def Reaches (answer : Nat → String → Except DnsError (List IpAddr)) (outbound : OutboundType) (target : Address)
    (sa : SocketAddr) : Prop :=
  match outbound.handsOver target with
  | some (handler, addr) => sa ∈ (handler.dialTcp addr).attempts
  | none => sa.port = target.port ∧ AnswersFor answer target sa.ip

/-- All that was dialled is the target, or was tried by the outbound's own handler, and only that handler
was offered anything, which names the target. -/
structure DialsTarget (answer : Nat → String → Except DnsError (List IpAddr)) (outbound : OutboundType)
    (target : Address) (d : Dialing) : Prop where
  dialed : ∀ sa ∈ d.dialed, Reaches answer outbound target sa
  offered : ∀ addr ∈ d.offered,
    NamesTarget target addr ∧ ∃ handler, outbound.handsOver target = some (handler, addr)

section Dials

variable {answer : Nat → String → Except DnsError (List IpAddr)} {outbound : OutboundType} {target : Address}
  {d : Dialing}

theorem reaches_own (own : outbound.handsOver target = none) {sa : SocketAddr} (port : sa.port = target.port)
    (answers : AnswersFor answer target sa.ip) : Reaches answer outbound target sa := by
  rw [Reaches, own]
  exact ⟨port, answers⟩

theorem DialsTarget.dial (h : DialsTarget answer outbound target d) {sa : SocketAddr}
    (reaches : Reaches answer outbound target sa) : DialsTarget answer outbound target (d.dial sa) where
  dialed := List.forall_mem_append.mpr ⟨h.dialed, List.forall_mem_singleton.mpr reaches⟩
  offered := h.offered

theorem DialsTarget.through (h : DialsTarget answer outbound target d) {handler : OutboundHandler} {addr : AclAddr}
    (handed : outbound.handsOver target = some (handler, addr)) (names : NamesTarget target addr) :
    DialsTarget answer outbound target (d.through handler addr) where
  dialed := by
    refine List.forall_mem_append.mpr ⟨h.dialed, fun sa tried => ?_⟩
    rw [Reaches, handed]
    exact tried
  offered := List.forall_mem_append.mpr ⟨h.offered, List.forall_mem_singleton.mpr ⟨names, handler, handed⟩⟩

theorem DialsTarget.ask (h : DialsTarget answer outbound target d) (cache : DnsCache) :
    DialsTarget answer outbound target { d with cache } :=
  ⟨h.dialed, h.offered⟩

theorem connectIpList_dialsTarget (own : outbound.handsOver target = none) {ips : List IpAddr}
    (given : ∀ ip ∈ ips, AnswersFor answer target ip) (tcpNodelay : Bool) (timeout : Nat) (lastErr : Option IoError)
    (h : DialsTarget answer outbound target d) :
    DialsTarget answer outbound target (connectIpList target.port tcpNodelay timeout ips lastErr d).1 := by
  obtain ⟨tried, front, same⟩ := connectIpList_dialing target.port tcpNodelay timeout ips lastErr d
  rw [same]
  constructor
  · intro sa member
    rcases List.mem_append.mp member with old | new
    · exact h.dialed sa old
    · obtain ⟨ip, among, rfl⟩ := List.mem_map.mp new
      exact reaches_own own rfl (given ip (front.subset among))
  · exact h.offered

theorem resolveSocketAddr_answersFor {cache : DnsCache} {sa : SocketAddr}
    (found : (resolveSocketAddr cache target).2 = .ok sa) :
    sa.port = target.port ∧ AnswersFor cache.answer target sa.ip := by
  cases target with
  | ipv4 ip port =>
      cases found
      exact ⟨rfl, .inl rfl⟩
  | ipv6 ip port =>
      cases found
      exact ⟨rfl, .inl rfl⟩
  | domain host port =>
      rw [resolveSocketAddr, DnsCache.resolveWithPortIter] at found
      cases answered : cache.next host with
      | error e =>
          rw [answered] at found
          cases found
      | ok ips =>
          rw [answered] at found
          cases ips with
          | nil => cases found
          | cons ip ips =>
              cases found
              exact ⟨rfl, .inr ⟨_, host, port, ip :: ips, rfl, answered, List.mem_cons_self⟩⟩

theorem connectDirect_dialsTarget (own : outbound.handsOver target = none) {resolved : Option (List IpAddr)}
    (given : ∀ ips, resolved = some ips → ∀ ip ∈ ips, AnswersFor d.cache.answer target ip)
    (config : ConnConfig) (h : DialsTarget d.cache.answer outbound target d) :
    DialsTarget d.cache.answer outbound target (connectDirect config target resolved d).1 := by
  unfold connectDirect
  split
  · exact connectIpList_dialsTarget own (given _ rfl) _ _ none h
  · split
    · exact h.ask _
    · rename_i cache remote found
      rw [connectOne_dialing]
      obtain ⟨port, answers⟩ := resolveSocketAddr_answersFor (congrArg Prod.snd found)
      exact (h.ask cache).dial (reaches_own own port answers)

theorem handleDirectConnect_dialsTarget {resolved : Option (List IpAddr)}
    (given : ∀ ips, resolved = some ips → ∀ ip ∈ ips, AnswersFor d.cache.answer target ip)
    (config : ConnConfig) (dialer : Option OutboundHandler)
    (h : DialsTarget d.cache.answer (.direct resolved dialer) target d) :
    DialsTarget d.cache.answer (.direct resolved dialer) target
      (handleDirectConnect config target resolved dialer d).1 := by
  cases dialer with
  | none =>
      have direct := connectDirect_dialsTarget rfl given config h
      unfold handleDirectConnect
      dsimp only
      split <;> (rename_i ran; rw [ran] at direct; exact direct)
  | some handler =>
      unfold handleDirectConnect
      dsimp only
      split <;> exact h.through rfl ⟨rfl, rfl⟩

theorem connectProxy_dialsTarget (handler : OutboundHandler) (h : DialsTarget answer (.proxy handler) target d) :
    DialsTarget answer (.proxy handler) target (connectProxy target handler d).1 := by
  unfold connectProxy
  split <;> exact h.through rfl ⟨rfl, rfl⟩

end Dials

theorem route_answer (router : Router) (cache : DnsCache) (target : Address) :
    (router.route cache target).1.answer = cache.answer := by
  cases block : router.blockPrivateIp with
  | true => rw [route_asked block]
  | false => rw [(route_open block cache target).1]

/-- What a direct route comes with is an answer for the target. -/
theorem route_answersFor {router : Router} {cache cache' : DnsCache} {target : Address}
    {resolved : Option (List IpAddr)} {dialer : Option OutboundHandler}
    (routed : router.route cache target = (cache', .direct resolved dialer)) :
    ∀ ips, resolved = some ips → ∀ ip ∈ ips, AnswersFor cache.answer target ip := by
  intro ips given ip member
  cases block : router.blockPrivateIp with
  | true =>
      obtain ⟨_, domain, plain, _⟩ := route_direct block routed
      by_cases literal : target.literal = none
      · cases (domain literal).1.symm.trans given
        rcases mem_inspected member with spelled | ⟨host, port, answer, named, answered, inside⟩
        · exact .inl spelled
        · exact .inr ⟨_, host, port, answer, named, answered, inside⟩
      · cases (plain literal).symm.trans given
  | false =>
      have unresolved := (route_open block cache target).2.2 resolved dialer (congrArg Prod.snd routed)
      cases unresolved.symm.trans given

/-! What a tunnel leaves in the ledger. -/

def Written.status : Written → Option Nat
  | .head status _ _ => some status
  | .body _ _ => none

/-- The statuses of the response heads, in order. -/
def Ledger.heads (l : Ledger) : List Nat := l.written.filterMap Written.status

/-- Nothing was registered, recorded, moved, dialled or opened. -/
structure Untouched (l : Ledger) : Prop where
  registered : l.registered = []
  requests : l.requests = []
  uploads : l.uploads = []
  downloads : l.downloads = []
  uotStreams : l.uotStreams = []
  dialed : l.dialing.dialed = []
  offered : l.dialing.offered = []
  udpBinds : l.udpBinds = 0
  toRemote : l.toRemote = []
  toClient : l.toClient = []

/-- `l` is `before` with traffic of one user and dials of one target. -/
structure Serves (answer : Nat → String → Except DnsError (List IpAddr)) (outbound : OutboundType)
    (target : Address) (user : UserId) (before l : Ledger) : Prop where
  written : l.written = before.written
  registered : l.registered = before.registered
  requests : l.requests = before.requests
  uotStreams : l.uotStreams = before.uotStreams
  uploads : ∀ r ∈ l.uploads, r.1 = user
  downloads : ∀ r ∈ l.downloads, r.1 = user
  dials : DialsTarget answer outbound target l.dialing

section Serving

variable {answer : Nat → String → Except DnsError (List IpAddr)} {outbound : OutboundType} {target : Address}
  {user : UserId} {before l : Ledger}

theorem Serves.asked (h : Serves answer outbound target user before l) (cache : DnsCache) :
    Serves answer outbound target user before (l.asked cache) :=
  { h with dials := h.dials.ask cache }

theorem Serves.record (h : Serves answer outbound target user before l) (uploads downloads : List Nat) :
    Serves answer outbound target user before (l.record user uploads downloads) :=
  { h with
    uploads := List.forall_mem_append.mpr ⟨h.uploads, List.forall_mem_map.mpr fun _ _ => rfl⟩
    downloads := List.forall_mem_append.mpr ⟨h.downloads, List.forall_mem_map.mpr fun _ _ => rfl⟩ }

theorem Serves.moved (h : Serves answer outbound target user before l) (traffic : List Nat × List Nat) :
    Serves answer outbound target user before (l.moved traffic) :=
  { h with }

theorem Serves.bindUdp (h : Serves answer outbound target user before l) (udp : Uot.UdpBehaviour) :
    Serves answer outbound target user before (l.bindUdp udp) :=
  { h with }

theorem Serves.dialing (h : Serves answer outbound target user before l) {d : Dialing}
    (dials : DialsTarget answer outbound target d) :
    Serves answer outbound target user before { l with dialing := d } :=
  { h with dials }

variable {T B : Type} [AsyncRead T] [AsyncWrite T]

theorem handleUotStream_serves (world : World T B) (version : Uot.UotVersion)
    (client : NaivePaddedTransport T) (h : Serves answer outbound target user before l) :
    Serves answer outbound target user before (handleUotStream world user version client l).1 := by
  unfold handleUotStream
  split
  · exact h.asked _
  · exact h.asked _
  · split
    · exact h.asked _
    · exact (h.asked _).bindUdp world.udp
    · exact ((((h.asked _).bindUdp world.udp).asked _).record _ _).moved _

variable [AsyncRead B] [AsyncWrite B]

theorem relayConnected_serves (server : Server) (world : World T B) (client : NaivePaddedTransport T)
    {connected : Dialing × Except String RemoteStream} (dials : DialsTarget answer outbound target connected.1)
    (h : Serves answer outbound target user before l) :
    Serves answer outbound target user before (relayConnected server world user client connected l).1 := by
  unfold relayConnected
  split
  · exact h.dialing dials
  · exact ((h.dialing dials).record _ _).moved _

/-- The ledger at the entry of the tunnel: a registration and a request of its user. -/
def entered (target : Address) (user : UserId) (l : Ledger) : Ledger :=
  { l.admitUser user with
    uotStreams := l.uotStreams ++ ((Uot.detectUot target.host).map fun version => (user, version)).toList }

theorem processTunnel_serves (server : Server) (world : World T B) (client : NaivePaddedTransport T)
    (uploads : ∀ r ∈ l.uploads, r.1 = user) (downloads : ∀ r ∈ l.downloads, r.1 = user)
    (dials : DialsTarget l.dialing.cache.answer outbound target l.dialing)
    (given : ∀ resolved dialer, outbound = .direct resolved dialer →
      ∀ ips, resolved = some ips → ∀ ip ∈ ips, AnswersFor l.dialing.cache.answer target ip) :
    Serves l.dialing.cache.answer outbound target user (entered target user l)
      (processTunnel server world target user outbound client l).1 := by
  have start : Serves l.dialing.cache.answer outbound target user (entered target user l) (entered target user l) :=
    ⟨rfl, rfl, rfl, rfl, uploads, downloads, dials⟩
  unfold processTunnel Uot.processTunnel
  cases detected : Uot.detectUot target.host with
  | some version =>
      have same : entered target user l =
          { l.admitUser user with uotStreams := l.uotStreams ++ [(user, version)] } := by
        rw [entered, detected]
        rfl
      rw [same] at start ⊢
      exact handleUotStream_serves world version client start
  | none =>
      have same : entered target user l = l.admitUser user := by
        rw [entered, detected]
        simp [Ledger.admitUser]
      rw [same] at start ⊢
      cases outbound with
      | direct resolved dialer =>
          exact relayConnected_serves server world client
            (handleDirectConnect_dialsTarget (given resolved dialer rfl) server.config dialer dials) start
      | proxy handler =>
          exact relayConnected_serves server world client (connectProxy_dialsTarget handler dials) start
      | reject => exact start

end Serving

/-! The status that answers a request. -/

def RequestView.target (view : RequestView) : Option Address := view.authority.bind Address.fromAuthority

/-- The user that the text of a credentials header belongs to. -/
def Server.userOf (server : Server) (value : String) : Option UserId :=
  match parseBasicAuth server.base64 value with
  | .error _ => none
  | .ok credential => server.authenticate credential

def RequestView.user (server : Server) (view : RequestView) : Option UserId :=
  view.authorization.bind server.userOf

theorem admits_iff {server : Server} {view : RequestView} {target : Address} {user : UserId} :
    Admits server view target user ↔ view.isConnect = true ∧ view.padding ≠ none ∧
      view.target = some target ∧ view.user server = some user := by
  constructor
  · rintro ⟨connect, padding, ⟨authority, given, found⟩, ⟨value, credential, shown, decoded, known⟩⟩
    refine ⟨connect, padding, ?_, ?_⟩
    · rw [RequestView.target, given]
      exact found
    · rw [RequestView.user, shown, Option.bind_some, Server.userOf, decoded]
      exact known
  · rintro ⟨connect, padding, aimed, known⟩
    obtain ⟨authority, given, found⟩ := Option.bind_eq_some_iff.mp aimed
    obtain ⟨value, shown, authenticated⟩ := Option.bind_eq_some_iff.mp known
    unfold Server.userOf at authenticated
    split at authenticated
    · cases authenticated
    · rename_i credential decoded
      exact ⟨connect, padding, ⟨authority, given, found⟩, ⟨value, credential, shown, decoded, authenticated⟩⟩

/-- The status of the first check that fails, or 200; a request without a usable authority has
none. -/
def statusOf (server : Server) (cache : DnsCache) (view : RequestView) : Option Nat :=
  if view.isConnect = false then some 405
  else if view.padding = none then some 400
  else match view.target, view.user server with
    | none, _ => none
    | some _, none => some 407
    | some target, some _ => match (server.router.route cache target).2 with
        | .reject => some 403
        | _ => some 200

theorem statusOf_refused {server : Server} {backend : Backend} {peer : SocketAddr} {view : RequestView}
    {refusal : Refusal} (refused : checkRequest server backend peer view = .error refusal) (cache : DnsCache) :
    statusOf server cache view = refusal.status := by
  unfold checkRequest at refused
  unfold statusOf
  split_ifs at refused ⊢ with other bare
  · cases refused
    rfl
  · cases refused
    rfl
  · split at refused
    · rename_i missing
      cases refused
      have untargeted : view.target = none := by rw [RequestView.target, missing, Option.bind_none]
      simp only [untargeted]
    · rename_i authority given
      have named : view.target = Address.fromAuthority authority := by
        rw [RequestView.target, given, Option.bind_some]
      split at refused
      · rename_i malformed
        cases refused
        simp only [named, malformed]
      · rename_i target found
        -- every refusal that is left is one of the credentials
        suffices nobody : view.user server = none ∧ refusal.status = some 407 by
          simp only [named, found, nobody.1, nobody.2]
        split at refused
        · rename_i unshown
          cases refused
          exact ⟨by rw [RequestView.user, unshown, Option.bind_none], rfl⟩
        · rename_i value shown
          have read : view.user server = server.userOf value := by
            rw [RequestView.user, shown, Option.bind_some]
          split at refused
          · rename_i e undecoded
            cases refused
            exact ⟨by rw [read, Server.userOf, undecoded], rfl⟩
          · rename_i credential decoded
            split at refused
            · rename_i unknown
              cases refused
              refine ⟨?_, rfl⟩
              rw [read, Server.userOf, decoded]
              exact unknown
            · cases refused

theorem statusOf_admitted {server : Server} {view : RequestView} {target : Address} {user : UserId}
    (admitted : Admits server view target user) (cache : DnsCache) :
    statusOf server cache view = match (server.router.route cache target).2 with
      | .reject => some 403
      | _ => some 200 := by
  obtain ⟨connect, padding, aimed, known⟩ := admits_iff.mp admitted
  rw [statusOf, if_neg (by rw [connect]; exact Bool.noConfusion), if_neg padding, aimed, known]

theorem statusOf_ok {server : Server} {cache : DnsCache} {view : RequestView}
    (ok : statusOf server cache view = some 200) :
    ∃ target user, Admits server view target user ∧ (server.router.route cache target).2 ≠ .reject := by
  unfold statusOf at ok
  split_ifs at ok with other bare
  · cases ok
  · cases ok
  · split at ok
    · cases ok
    · cases ok
    · rename_i target user aimed known
      refine ⟨target, user, admits_iff.mpr ⟨Bool.not_eq_false _ ▸ other, bare, aimed, known⟩, ?_⟩
      intro rejected
      rw [rejected] at ok
      cases ok

/-- What the gate needs of a backend: a status is one head, and a padding value fits in one. -/
structure Backend.Plain (backend : Backend) : Prop where
  status : ∀ status, (backend.sendStatus status).filterMap Written.status = [status]
  fits : ∀ rng, backend.unfit (generatePaddingHeader rng).2 = none

theorem pingoraBackend_plain (headerError : String) : (pingoraBackend headerError).Plain where
  status _ := rfl
  fits rng := if_pos (generatePaddingHeader_visible rng)

theorem quicheBackend_plain : quicheBackend.Plain where
  status _ := rfl
  fits _ := rfl

/-! The gate. -/

/-- A tunnel that ran: one registration and one request of its user, all records under that user and of
what was moved, all that a datagram session moved among them, and no dial but of the target by the
outbound of its route. -/
structure Served (answer : Nat → String → Except DnsError (List IpAddr)) (outbound : OutboundType)
    (target : Address) (user : UserId) (l : Ledger) : Prop where
  registered : l.registered = [user]
  requests : l.requests = [user]
  uotStreams : l.uotStreams = ((Uot.detectUot target.host).map fun version => (user, version)).toList
  uploads : ∀ r ∈ l.uploads, r.1 = user
  downloads : ∀ r ∈ l.downloads, r.1 = user
  covered : l.Covered
  datagrams : ∀ version, Uot.detectUot target.host = some version →
    l.Itemised ∧ l.dialing.dialed = [] ∧ l.dialing.offered = []
  dials : DialsTarget answer outbound target l.dialing

/-- How a request can end, by the checks it passes and by whether its 200 could be written. -/
inductive Ending (server : Server) (sent : Except String Unit) (cache : DnsCache) (view : RequestView)
    (l : Ledger) : Prop
  | refused (unadmitted : ∀ target user, ¬ Admits server view target user) (untouched : Untouched l)
  | rejected (target : Address) (user : UserId) (admitted : Admits server view target user)
      (routed : (server.router.route cache target).2 = .reject) (untouched : Untouched l)
  | unsent (target : Address) (user : UserId) (admitted : Admits server view target user)
      (routed : (server.router.route cache target).2 ≠ .reject) (failed : sent ≠ .ok ()) (untouched : Untouched l)
  | served (target : Address) (user : UserId) (admitted : Admits server view target user)
      (routed : (server.router.route cache target).2 ≠ .reject)
      (served : Served cache.answer (server.router.route cache target).2 target user l)

/-- A ledger in which only the resolver was asked and something was written. -/
theorem untouched_written (attempt : Nat → SocketAddr → Nat → Timed (IoResult Unit)) (cache : DnsCache)
    (written : List Written) : Untouched ((Ledger.start (.start attempt cache)).write written) :=
  ⟨rfl, rfl, rfl, rfl, rfl, rfl, rfl, rfl, rfl, rfl⟩

theorem Admits.unique {server : Server} {view : RequestView} {target target' : Address} {user user' : UserId}
    (h : Admits server view target user) (h' : Admits server view target' user') :
    target' = target ∧ user' = user := by
  obtain ⟨_, _, aimed, known⟩ := admits_iff.mp h
  obtain ⟨_, _, aimed', known'⟩ := admits_iff.mp h'
  exact ⟨Option.some.inj (aimed'.symm.trans aimed), Option.some.inj (known'.symm.trans known)⟩

section Gate

variable {T B : Type} [AsyncRead T] [AsyncWrite T] [AsyncRead B] [AsyncWrite B]

/-- The ledger with which a tunnel starts. -/
def opened (attempt : Nat → SocketAddr → Nat → Timed (IoResult Unit)) (cache : DnsCache) (written : List Written) :
    Ledger :=
  (Ledger.start (.start attempt cache)).write written

theorem opened_fresh (attempt : Nat → SocketAddr → Nat → Timed (IoResult Unit)) (cache : DnsCache)
    (written : List Written) : (opened attempt cache written).Fresh :=
  ⟨rfl, rfl, rfl, rfl⟩

theorem processTunnel_served (server : Server) (world : World T B) (target : Address) (user : UserId)
    {cache cache' : DnsCache} {outbound : OutboundType}
    (routed : server.router.route cache target = (cache', outbound)) (client : NaivePaddedTransport T)
    (attempt : Nat → SocketAddr → Nat → Timed (IoResult Unit)) (written : List Written) :
    let last := (processTunnel server world target user outbound client (opened attempt cache' written)).1
    last.heads = (opened attempt cache' written).heads ∧ Served cache.answer outbound target user last := by
  intro last
  have fresh := opened_fresh attempt cache' written
  have same : cache'.answer = cache.answer := by
    rw [← route_answer server.router cache target, routed]
  have serves : Serves cache'.answer outbound target user (entered target user (opened attempt cache' written))
      last := by
    apply processTunnel_serves (l := opened attempt cache' written) server world client nofun nofun ⟨nofun, nofun⟩
    intro resolved dialer direct
    subst direct
    have given := route_answersFor routed
    rw [← same] at given
    exact given
  rw [same] at serves
  constructor
  · rw [Ledger.heads, serves.written]
    rfl
  · exact {
      registered := serves.registered
      requests := serves.requests
      uotStreams := serves.uotStreams
      uploads := serves.uploads
      downloads := serves.downloads
      covered := processTunnel_covered server world user client target outbound fresh
      datagrams := fun _ magic => processTunnel_datagrams server world user client target outbound fresh magic rfl rfl
      dials := serves.dials }

variable {server : Server} {backend : Backend} {peer : SocketAddr} {view : RequestView} {l : Ledger}

theorem handleRequest_refused (world : World T B) {refusal : Refusal}
    (refused : checkRequest server backend peer view = .error refusal) :
    handleRequest server world backend peer view l =
      (l.write (refusal.status.elim [] backend.sendStatus), some (.error refusal.text)) := by
  rw [handleRequest, refused]

theorem handleRequest_rejected (world : World T B) {target : Address} {user : UserId} {cache : DnsCache}
    (passed : checkRequest server backend peer view = .ok (target, user))
    (routed : server.router.route l.dialing.cache target = (cache, .reject)) :
    handleRequest server world backend peer view l =
      ((l.asked cache).write (backend.sendStatus 403), some (.ok ())) := by
  simp only [handleRequest, passed, routed]

/-- Past the route there is a 200, and behind it the tunnel. -/
theorem handleRequest_admitted (world : World T B) {target : Address} {user : UserId} {cache : DnsCache}
    {outbound : OutboundType} (plain : backend.Plain)
    (passed : checkRequest server backend peer view = .ok (target, user))
    (routed : server.router.route l.dialing.cache target = (cache, outbound)) (other : outbound ≠ .reject) :
    ∃ padding, handleRequest server world backend peer view l = match world.sentHead with
      | .error e => ((l.asked cache).write [.head 200 [("padding", padding)] false],
          some (.error (backend.unsent ++ e)))
      | .ok () => processTunnel server world target user outbound
          (.new world.inner (generatePaddingHeader world.rng).1)
          ((l.asked cache).write [.head 200 [("padding", padding)] false]) := by
  refine ⟨(generatePaddingHeader world.rng).2, ?_⟩
  cases outbound with
  | reject => exact absurd rfl other
  | direct resolved dialer =>
      cases sent : world.sentHead with
      | error e => simp only [handleRequest, passed, routed, plain.fits, sent]
      | ok u => simp only [handleRequest, passed, routed, plain.fits, sent]
  | proxy handler =>
      cases sent : world.sentHead with
      | error e => simp only [handleRequest, passed, routed, plain.fits, sent]
      | ok u => simp only [handleRequest, passed, routed, plain.fits, sent]

theorem handleRequest_ending (world : World T B) (plain : backend.Plain)
    (attempt : Nat → SocketAddr → Nat → Timed (IoResult Unit)) (cache : DnsCache) :
    (handleRequest server world backend peer view (.start (.start attempt cache))).1.heads =
        (statusOf server cache view).toList ∧
      Ending server world.sentHead cache view
        (handleRequest server world backend peer view (.start (.start attempt cache))).1 := by
  cases checked : checkRequest server backend peer view with
  | error refusal =>
      rw [handleRequest_refused world checked, statusOf_refused checked]
      constructor
      · cases refusal.status with
        | none => rfl
        | some status => exact plain.status status
      · refine .refused ?_ (untouched_written attempt cache _)
        intro target user admitted
        rw [checkRequest_ok_iff.mpr admitted] at checked
        cases checked
  | ok passed =>
      obtain ⟨target, user⟩ := passed
      have admitted := checkRequest_ok_iff.mp checked
      rw [statusOf_admitted admitted]
      rcases routed : server.router.route cache target with ⟨cache', outbound⟩
      by_cases rejects : outbound = .reject
      · subst rejects
        rw [handleRequest_rejected world checked routed]
        exact ⟨plain.status 403, .rejected target user admitted (congrArg Prod.snd routed)
          (untouched_written attempt cache' _)⟩
      · have open_route : (server.router.route cache target).2 ≠ .reject := by
          rw [routed]
          exact rejects
        have ok_status : (match outbound with
            | .reject => some 403
            | _ => some 200) = some 200 := by
          cases outbound with
          | reject => exact absurd rfl rejects
          | direct resolved dialer => rfl
          | proxy handler => rfl
        obtain ⟨padding, ran⟩ :=
          handleRequest_admitted (l := .start (.start attempt cache)) world plain checked routed rejects
        rw [ran, ok_status]
        cases sent : world.sentHead with
        | error e =>
            exact ⟨rfl, .unsent target user admitted open_route nofun (untouched_written attempt cache' _)⟩
        | ok done =>
            obtain ⟨heads, served⟩ := processTunnel_served server world target user routed
              (.new world.inner (generatePaddingHeader world.rng).1) attempt [.head 200 [("padding", padding)] false]
            refine ⟨heads, .served target user admitted open_route ?_⟩
            rw [routed]
            exact served

theorem processH2RequestPingora_ending (server : Server) (world : World T B) (peer : SocketAddr) (req : H2Request)
    (attempt : Nat → SocketAddr → Nat → Timed (IoResult Unit)) (cache : DnsCache) :
    (processH2RequestPingora server world peer req (.start (.start attempt cache))).1.heads =
        (statusOf server cache req.view).toList ∧
      Ending server world.sentHead cache req.view
        (processH2RequestPingora server world peer req (.start (.start attempt cache))).1 :=
  handleRequest_ending world (pingoraBackend_plain server.headerError) attempt cache

theorem processH3RequestQuiche_ending (server : Server) (world : World T B) (peer : SocketAddr) (req : H3Request)
    (attempt : Nat → SocketAddr → Nat → Timed (IoResult Unit)) (cache : DnsCache) :
    (processH3RequestQuiche server world peer req (.start (.start attempt cache))).1.heads =
        (statusOf server cache req.view).toList ∧
      Ending server world.sentHead cache req.view
        (processH3RequestQuiche server world peer req (.start (.start attempt cache))).1 :=
  handleRequest_ending world quicheBackend_plain attempt cache

/-- A request that was served and has returned has recorded all that its tunnel moved, unless a kick found
bytes that the relay of the tunnel had moved. -/
def RecordsUnlessKicked (server : Server) (world : World T B) (attempt : Nat → SocketAddr → Nat → Timed (IoResult Unit))
    (cache : DnsCache) (view : RequestView) (ran : Ledger × Returned) : Prop :=
  ∀ target user, Admits server view target user → (server.router.route cache target).2 ≠ .reject →
    world.sentHead = .ok () → ran.2 ≠ none →
      (ran.1.AllRecorded ↔ TunnelSpared server world target (server.router.route cache target).2
        (.new world.inner (generatePaddingHeader world.rng).1) (.start attempt (server.router.route cache target).1))

theorem handleRequest_records (world : World T B) (plain : backend.Plain)
    (attempt : Nat → SocketAddr → Nat → Timed (IoResult Unit)) (cache : DnsCache) :
    RecordsUnlessKicked server world attempt cache view
      (handleRequest server world backend peer view (.start (.start attempt cache))) := by
  intro target user admitted routed sent returned
  obtain ⟨padding, ran⟩ := handleRequest_admitted (l := .start (.start attempt cache)) world plain
    (checkRequest_ok_iff.mpr admitted) rfl routed
  rw [sent] at ran
  rw [ran] at returned ⊢
  exact processTunnel_recorded_iff server world user _ target _
    (opened_fresh attempt _ [.head 200 [("padding", padding)] false]) returned

end Gate

/-- What the gate promises of the ledger that a request leaves: a 200 or any other trace of a
tunnel only for a request that passes every check, and then all of it for the user that the
credentials belong to and for the target that was routed, by the outbound of that route. -/
structure Gated (server : Server) (sent : Except String Unit) (cache : DnsCache) (view : RequestView)
    (l : Ledger) : Prop where
  opens : 200 ∈ l.heads ∨ ¬ Untouched l →
    ∃ target user, Admits server view target user ∧ (server.router.route cache target).2 ≠ .reject
  serves : ∀ target user, Admits server view target user → (server.router.route cache target).2 ≠ .reject →
    sent = .ok () → Served cache.answer (server.router.route cache target).2 target user l

theorem Ending.gated {server : Server} {sent : Except String Unit} {cache : DnsCache} {view : RequestView}
    {l : Ledger} (h : Ending server sent cache view l) (heads : l.heads = (statusOf server cache view).toList) :
    Gated server sent cache view l := by
  have answered (ok : 200 ∈ l.heads) :
      ∃ target user, Admits server view target user ∧ (server.router.route cache target).2 ≠ .reject := by
    rw [heads, Option.mem_toList] at ok
    exact statusOf_ok ok
  cases h with
  | refused unadmitted untouched =>
      refine ⟨fun trace => trace.elim answered (absurd untouched), ?_⟩
      intro target user admitted
      exact absurd admitted (unadmitted target user)
  | rejected target user admitted routed untouched =>
      refine ⟨fun trace => trace.elim answered (absurd untouched), ?_⟩
      intro target' user' admitted' other
      obtain ⟨rfl, rfl⟩ := admitted.unique admitted'
      exact absurd routed other
  | unsent target user admitted routed failed untouched =>
      exact ⟨fun _ => ⟨target, user, admitted, routed⟩, fun _ _ _ _ ok => absurd ok failed⟩
  | served target user admitted routed served =>
      refine ⟨fun _ => ⟨target, user, admitted, routed⟩, ?_⟩
      intro target' user' admitted' _ _
      obtain ⟨rfl, rfl⟩ := admitted.unique admitted'
      exact served

/-- The admission gate of both handlers, for every request that can reach either: what it lets through, for
whom, and when all of that user's traffic is recorded. -/
theorem admission_gate {T B : Type} [AsyncRead T] [AsyncWrite T] [AsyncRead B] [AsyncWrite B] (server : Server)
    (world : World T B) (peer : SocketAddr) (attempt : Nat → SocketAddr → Nat → Timed (IoResult Unit))
    (cache : DnsCache) :
    (∀ req : H2Request,
      let ran := processH2RequestPingora server world peer req (.start (.start attempt cache))
      Gated server world.sentHead cache req.view ran.1 ∧
        RecordsUnlessKicked server world attempt cache req.view ran) ∧
    (∀ req : H3Request,
      let ran := processH3RequestQuiche server world peer req (.start (.start attempt cache))
      Gated server world.sentHead cache req.view ran.1 ∧
        RecordsUnlessKicked server world attempt cache req.view ran) := by
  constructor
  · intro req
    obtain ⟨heads, ending⟩ := processH2RequestPingora_ending server world peer req attempt cache
    exact ⟨ending.gated heads, handleRequest_records world (pingoraBackend_plain server.headerError) attempt cache⟩
  · intro req
    obtain ⟨heads, ending⟩ := processH3RequestQuiche_ending server world peer req attempt cache
    exact ⟨ending.gated heads, handleRequest_records world quicheBackend_plain attempt cache⟩

/-- A client that sends nothing, and a tunnel that is never polled. -/
def quietWorld : World Scripted Scripted where
  inner := ⟨[], []⟩
  rng := ⟨fun _ => 0, 0⟩
  remote _ := ⟨[], []⟩
  sentHead := .ok ()
  start := 0
  turns := []
  closing := (0, 0)
  udp := Uot.openUdp
  polls := 0
  events := []
  writing := 0

/-- One user, whose credentials are `:u`. -/
def oneUserServer (router : Router) : Server where
  authenticate credential := if credential = "u" then some 1 else none
  router
  config := ⟨300, 10, 8192, true⟩
  base64 text := if text = "OnU=" then .ok (utf8 ":u") else .error "Invalid padding"
  headerError := "invalid header value"

/-- The request of the one user for a literal address, on either backend. -/
def literalH2 : H2Request :=
  ⟨"CONNECT", some "9.9.9.9:443", [("padding", utf8 "~"), ("proxy-authorization", utf8 "Basic OnU=")]⟩

def literalH3 : H3Request :=
  ⟨[(utf8 ":method", utf8 "CONNECT"), (utf8 ":authority", utf8 "9.9.9.9:443"), (utf8 "padding", utf8 "~"),
    (utf8 "proxy-authorization", utf8 "Basic OnU=")]⟩

def literalServer : Server := { oneUserServer (.direct ⟨false⟩) with config := smallBuffer }

/-- The client sends one frame of three bytes, and what else it does. -/
def frameWorld (more : List (PollResult Bytes)) (remote : Scripted) (turns : List Turn) : World Scripted Scripted :=
  { quietWorld with
    inner := ⟨.ready (.ok [0, 3, 0, 7, 8, 9]) :: more, []⟩
    remote := fun _ => remote
    turns
    closing := (1, 1) }

/-- Every address can be connected to. -/
def reachable : Dialing := .start (fun _ _ _ => .done (.ok ())) Uot.publicDns

/-- What it comes to on either backend. -/
def literalRunH2 (world : World Scripted Scripted) : Ledger × Returned :=
  processH2RequestPingora literalServer world ⟨.v4 ⟨9, 9, 9, 9⟩, 5000⟩ literalH2 (.start reachable)

def literalRunH3 (world : World Scripted Scripted) : Ledger × Returned :=
  processH3RequestQuiche literalServer world ⟨.v4 ⟨9, 9, 9, 9⟩, 5000⟩ literalH3 (.start reachable)

/-- A proxy that cannot be reached, and rules that send everything to it. -/
def deadProxy : OutboundHandler := .http ⟨fun _ => ⟨[⟨.v4 ⟨192, 0, 2, 7⟩, 8080⟩], [], .elapsed⟩⟩

def proxyServer : Server := oneUserServer (.acl ⟨⟨fun _ _ _ => some deadProxy, fun _ => none⟩, false⟩)

def proxiedRun : Ledger × Returned :=
  processH2RequestPingora proxyServer quietWorld ⟨.v4 ⟨9, 9, 9, 9⟩, 5000⟩ literalH2 (.start reachable)

theorem literal_admitted :
    Admits literalServer literalH2.view (.ipv4 ⟨9, 9, 9, 9⟩ 443) 1 ∧
      Admits literalServer literalH3.view (.ipv4 ⟨9, 9, 9, 9⟩ 443) 1 ∧
      Admits proxyServer literalH2.view (.ipv4 ⟨9, 9, 9, 9⟩ 443) 1 :=
  ⟨admits_iff.mpr (by decide +kernel), admits_iff.mpr (by decide +kernel), admits_iff.mpr (by decide +kernel)⟩

/-- Both ends close after their bytes. -/
def bothClose : World Scripted Scripted := frameWorld [.ready (.ok [])] twoBytes [⟨9, 0, false, true⟩]

/-- The one user is charged for the bytes of both directions. -/
def ChargedForAll (ran : Ledger × Returned) : Prop :=
  (ran.1.heads = [200] ∧ ran.2.isSome ∧ ran.1.uploads = [(1, 3)] ∧ ran.1.downloads = [(1, 2)] ∧
      ran.1.dialing.dialed = [⟨.v4 ⟨9, 9, 9, 9⟩, 443⟩]) ∧ ran.1.AllRecorded

instance (ran : Ledger × Returned) : Decidable (ChargedForAll ran) := inferInstanceAs (Decidable (_ ∧ _))

/-- Such a tunnel dials the target itself; one that is sent to the proxy leaves that to the proxy. -/
theorem admission_gate_served :
    (ChargedForAll (literalRunH2 bothClose) ∧ ChargedForAll (literalRunH3 bothClose)) ∧
      Served Uot.publicDns.answer (.direct none none) (.ipv4 ⟨9, 9, 9, 9⟩ 443) 1 (literalRunH2 bothClose).1 ∧
      Served Uot.publicDns.answer (.direct none none) (.ipv4 ⟨9, 9, 9, 9⟩ 443) 1 (literalRunH3 bothClose).1 ∧
      TunnelSpared literalServer bothClose (.ipv4 ⟨9, 9, 9, 9⟩ 443) (.direct none none)
        (.new bothClose.inner (generatePaddingHeader bothClose.rng).1) reachable ∧
      (proxiedRun.1.dialing.dialed = [⟨.v4 ⟨192, 0, 2, 7⟩, 8080⟩] ∧
        proxiedRun.1.dialing.offered.map (fun addr => (addr.host, addr.port)) = [("9.9.9.9", 443)]) ∧
      Served Uot.publicDns.answer (.proxy deadProxy) (.ipv4 ⟨9, 9, 9, 9⟩ 443) 1 proxiedRun.1 := by
  have charged : ChargedForAll (literalRunH2 bothClose) ∧ ChargedForAll (literalRunH3 bothClose) := by decide +kernel
  obtain ⟨first, second⟩ := admission_gate literalServer bothClose ⟨.v4 ⟨9, 9, 9, 9⟩, 5000⟩
    (fun _ _ _ => .done (.ok ())) Uot.publicDns
  obtain ⟨gated, records⟩ := first literalH2
  obtain ⟨gated', -⟩ := second literalH3
  obtain ⟨third, -⟩ := admission_gate proxyServer quietWorld ⟨.v4 ⟨9, 9, 9, 9⟩, 5000⟩
    (fun _ _ _ => .done (.ok ())) Uot.publicDns
  obtain ⟨admitted, admitted', proxied⟩ := literal_admitted
  have direct : OutboundType.direct none none ≠ .reject := OutboundType.noConfusion
  have proxy : OutboundType.proxy deadProxy ≠ .reject := OutboundType.noConfusion
  have returned : (literalRunH2 bothClose).2 ≠ none := Option.isSome_iff_ne_none.mp charged.1.1.2.1
  exact ⟨charged, gated.serves _ _ admitted direct rfl, gated'.serves _ _ admitted' direct rfl,
    (records _ _ admitted direct rfl returned).mp charged.1.2, by decide +kernel,
    (third literalH2).1.serves _ _ proxied proxy rfl⟩

/-- The client stays, three bytes are relayed, and the token fires. -/
def kickedMidway : World Scripted Scripted :=
  frameWorld [] ⟨[], []⟩ [⟨9, 0, false, false⟩, ⟨9, 1, true, true⟩]

/-- The remote end has bytes of the one user that nobody is charged for. -/
def ChargedForNone (ran : Ledger × Returned) : Prop :=
  ran.1.heads = [200] ∧ ran.1.registered = [1] ∧ ran.2.isSome ∧ ran.1.toRemote = [3] ∧ ran.1.uploads = [] ∧
    ¬ ran.1.AllRecorded

instance (ran : Ledger × Returned) : Decidable (ChargedForNone ran) := inferInstanceAs (Decidable (_ ∧ _))

theorem kicked_tunnel_unrecorded :
    ChargedForNone (literalRunH2 kickedMidway) ∧ ChargedForNone (literalRunH3 kickedMidway) := by
  decide +kernel

end ServerNaive
