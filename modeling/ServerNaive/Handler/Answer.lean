import ServerNaive.Async.Paced
import ServerNaive.Handler.Admission

/-! One request given to both backends, and the status that each answers with. -/
namespace ServerNaive
open AsyncIo StdNet

theorem utf8_injective {s t : String} (same : utf8 s = utf8 t) : s = t := by
  apply String.toByteArray_inj.mp
  apply ByteArray.ext
  exact Array.toList_inj.mp same

@[simp] theorem utf8_inj {s t : String} : utf8 s = utf8 t ↔ s = t := ⟨utf8_injective, congrArg utf8⟩

theorem fromUtf8_utf8 (s : String) : Uot.fromUtf8 (utf8 s) = some s := by
  have whole : (⟨(utf8 s).toArray⟩ : ByteArray) = s.toByteArray := by
    apply ByteArray.ext
    exact Array.toArray_toList
  rw [Uot.fromUtf8, whole]
  exact dif_pos s.isValidUTF8

/-- A request apart from its wire form. Header names are in lower case, and none is a
pseudo-header. -/
structure Request where
  method : String
  authority : Option String
  headers : List (String × Bytes)
  lower : ∀ h ∈ headers, h.1.toList.any Char.isUpper = false
  regular : ∀ h ∈ headers, h.1.toList.head? ≠ some ':'

namespace Request

def toH2 (r : Request) : H2Request := ⟨r.method, r.authority, r.headers⟩

def toH3 (r : Request) : H3Request where
  headers := (utf8 ":method", utf8 r.method) ::
    ((r.authority.map fun text => (utf8 ":authority", utf8 text)).toList ++
      r.headers.map fun h => (utf8 h.1, h.2))

/-- The first value of a header. -/
def get (r : Request) (name : String) : Option Bytes := (r.headers.find? fun h => h.1 = name).map Prod.snd

/-- The user that the credentials belong to when they are read as UTF-8 text. -/
def user (server : Server) (r : Request) : Option UserId :=
  ((r.get "proxy-authorization").bind Uot.fromUtf8).bind server.userOf

/-- No byte of the credentials is outside visible ASCII. -/
def Plain (r : Request) : Prop :=
  ∀ value, r.get "proxy-authorization" = some value → value.all (fun b => isVisibleAscii b.toNat) = true

theorem find_method (r : Request) : r.toH3.find ":method" = some (utf8 r.method) := by
  simp [H3Request.find, toH3]

/-- The regular headers behind the pseudo-headers. -/
theorem find_headers (headers : List (String × Bytes)) (name : String) :
    ((headers.map fun h => (utf8 h.1, h.2)).find? fun h => h.1 = utf8 name).map Prod.snd =
      (headers.find? fun h => h.1 = name).map Prod.snd := by
  rw [List.find?_map]
  simp [Function.comp_def]

theorem find_regular (r : Request) {name : String} (method : name ≠ ":method") (authority : name ≠ ":authority") :
    r.toH3.find name = r.get name := by
  unfold H3Request.find toH3 get
  rw [← find_headers]
  cases r.authority with
  | none => simp [method.symm]
  | some text => simp [method.symm, authority.symm]

theorem find_authority (r : Request) : r.toH3.find ":authority" = r.authority.map utf8 := by
  unfold H3Request.find toH3
  cases r.authority with
  | some text => simp
  | none =>
      have absent : (r.headers.find? fun h => h.1 = ":authority") = none := by
        rw [List.find?_eq_none]
        intro h member same
        apply r.regular h member
        rw [of_decide_eq_true same]
        rfl
      have behind := find_headers r.headers ":authority"
      rw [absent] at behind
      simpa using behind

end Request

/-- The checks of a request, in their order. -/
inductive Check where
  | method
  | padding
  | authority
  | credentials
  | route
  deriving DecidableEq

/-- The first check that a request fails when its credentials are those of `user`. -/
def Request.firstFailing (server : Server) (cache : DnsCache) (r : Request) (user : Option UserId) :
    Option Check :=
  if r.method ≠ "CONNECT" then some .method
  else if r.get "padding" = none then some .padding
  else match r.authority.bind Address.fromAuthority, user with
    | none, _ => some .authority
    | some _, none => some .credentials
    | some target, some _ => match (server.router.route cache target).2 with
        | .reject => some .route
        | _ => none

/-- A 4xx for a check that failed, 200 when none did. -/
def Fits : Option Check → Nat → Prop
  | none, status => status = 200
  | some _, status => 400 ≤ status ∧ status < 500

/-- What the code answers after a check. -/
def Check.status : Option Check → Option Nat
  | none => some 200
  | some .method => some 405
  | some .padding => some 400
  | some .authority => none
  | some .credentials => some 407
  | some .route => some 403

theorem Check.status_fits {check : Option Check} {status : Nat} (answered : Check.status check = some status) :
    Fits check status := by
  rcases check with _ | check
  · exact (Option.some.inj answered).symm
  · cases check <;> cases answered <;> exact ⟨by decide, by decide⟩

theorem statusOf_eq {server : Server} {cache : DnsCache} {r : Request} {view : RequestView}
    (connect : view.isConnect = decide (r.method = "CONNECT")) (padding : view.padding = r.get "padding")
    (target : view.target = r.authority.bind Address.fromAuthority) :
    statusOf server cache view = Check.status (r.firstFailing server cache (view.user server)) := by
  unfold statusOf Request.firstFailing
  rw [connect, padding, target]
  by_cases method : r.method = "CONNECT"
  · by_cases bare : r.get "padding" = none
    · simp [method, bare, Check.status]
    · simp only [method, bare, decide_true, Bool.true_eq_false, if_false, ne_eq, not_true_eq_false]
      cases r.authority.bind Address.fromAuthority with
      | none => rfl
      | some aimed =>
          cases view.user server with
          | none => rfl
          | some user =>
              dsimp only
              cases (server.router.route cache aimed).2 <;> rfl
  · simp [method, Check.status]

theorem statusOf_toH2 (server : Server) (cache : DnsCache) (r : Request) :
    statusOf server cache r.toH2.view =
      Check.status (r.firstFailing server cache (r.toH2.view.user server)) :=
  statusOf_eq rfl rfl rfl

theorem statusOf_toH3 (server : Server) (cache : DnsCache) (r : Request) :
    statusOf server cache r.toH3.view = Check.status (r.firstFailing server cache (r.user server)) := by
  have same : r.toH3.view.user server = r.user server := by
    change ((r.toH3.find "proxy-authorization").bind Uot.fromUtf8).bind server.userOf = _
    rw [r.find_regular (by decide) (by decide)]
    rfl
  rw [← same]
  apply statusOf_eq
  · simp [H3Request.view, r.find_method]
  · exact r.find_regular (by decide) (by decide)
  · rw [RequestView.target, H3Request.view, r.find_authority]
    cases r.authority with
    | none => rfl
    | some text => simp [fromUtf8_utf8]

/-- The first backend reads no credentials but plain ones. -/
theorem user_toH2_plain {server : Server} {r : Request} (plain : r.Plain) :
    r.toH2.view.user server = r.user server := by
  change ((r.get "proxy-authorization").bind headerToStr).bind server.userOf = r.user server
  unfold Request.user
  cases shown : r.get "proxy-authorization" with
  | none => rfl
  | some value =>
      have visible : headerToStr value = Uot.fromUtf8 value := if_pos (plain value shown)
      rw [Option.bind_some, Option.bind_some, visible]

theorem user_toH2_other {server : Server} {r : Request} (other : ¬ r.Plain) :
    r.toH2.view.user server = none := by
  unfold Request.Plain at other
  push Not at other
  obtain ⟨value, shown, unreadable⟩ := other
  change ((r.get "proxy-authorization").bind headerToStr).bind server.userOf = none
  have nothing : headerToStr value = none := if_neg unreadable
  rw [shown, Option.bind_some, nothing, Option.bind_none]

/-- Both backends write one head, with the same status, and it fits the first check that the
request fails. -/
def AnsweredAlike (server : Server) (cache : DnsCache) (r : Request) (h2 h3 : Ledger) : Prop :=
  ∃ status, h2.heads = [status] ∧ h3.heads = [status] ∧
    Fits (r.firstFailing server cache (r.user server)) status

/-- The target parses, and either both backends read the credentials or they are nobody's. -/
def Request.Readable (server : Server) (r : Request) : Prop :=
  r.authority.bind Address.fromAuthority ≠ none ∧ (r.Plain ∨ r.user server = none)

/-- The checks that come behind the method and the padding. -/
theorem firstFailing_connect (server : Server) (cache : DnsCache) {r : Request} (connect : r.method = "CONNECT")
    (padded : r.get "padding" ≠ none) {target : Address} (aimed : r.authority.bind Address.fromAuthority = some target) :
    r.firstFailing server cache none = some .credentials ∧
      ∀ user, r.firstFailing server cache (some user) ≠ some .credentials := by
  unfold Request.firstFailing
  rw [if_neg (not_not.mpr connect), if_neg padded, aimed]
  refine ⟨rfl, ?_⟩
  intro user
  rw [if_neg (not_not.mpr connect), if_neg padded]
  dsimp only
  cases (server.router.route cache target).2 <;> exact nofun

/-- Once the target parses there is an answer. -/
theorem status_answered (server : Server) (cache : DnsCache) {r : Request} {target : Address}
    (aimed : r.authority.bind Address.fromAuthority = some target) (user : Option UserId) :
    ∃ status, Check.status (r.firstFailing server cache user) = some status := by
  unfold Request.firstFailing
  rw [aimed]
  split_ifs
  · exact ⟨405, rfl⟩
  · exact ⟨400, rfl⟩
  · cases user with
    | none => exact ⟨407, rfl⟩
    | some user =>
        dsimp only
        cases (server.router.route cache target).2 with
        | reject => exact ⟨403, rfl⟩
        | direct resolved dialer => exact ⟨200, rfl⟩
        | proxy handler => exact ⟨200, rfl⟩

theorem Check.status_credentials {check : Option Check} (same : Check.status check = some 407) :
    check = some .credentials := by
  rcases check with _ | check
  · cases same
  · cases check <;> first | rfl | cases same

/-- Behind the first two checks, the readings of the credentials have to agree on the user. -/
theorem status_agree_iff {server : Server} {cache : DnsCache} {r : Request} (connect : r.method = "CONNECT")
    (padded : r.get "padding" ≠ none) :
    (∃ status, Check.status (r.firstFailing server cache (r.toH2.view.user server)) = some status ∧
      Check.status (r.firstFailing server cache (r.user server)) = some status) ↔ r.Readable server := by
  unfold Request.Readable
  cases aimed : r.authority.bind Address.fromAuthority with
  | none => simp [Request.firstFailing, connect, padded, aimed, Check.status]
  | some target =>
      obtain ⟨status, answered⟩ := status_answered server cache aimed (r.user server)
      constructor
      · rintro ⟨status, first, second⟩
        refine ⟨Option.some_ne_none target, ?_⟩
        by_contra unread
        obtain ⟨other, someone⟩ := not_or.mp unread
        obtain ⟨user, known⟩ := Option.ne_none_iff_exists'.mp someone
        obtain ⟨refused, passed⟩ := firstFailing_connect server cache connect padded aimed
        -- only the second backend knows the user, so only the first answers 407
        rw [user_toH2_other other, refused] at first
        rw [known, ← first] at second
        exact passed user (Check.status_credentials second)
      · rintro ⟨_, plain | nobody⟩
        · rw [user_toH2_plain plain]
          exact ⟨status, answered, answered⟩
        · have neither : r.toH2.view.user server = r.user server := by
            by_cases plain : r.Plain
            · exact user_toH2_plain plain
            · rw [user_toH2_other plain, nobody]
          rw [neither]
          exact ⟨status, answered, answered⟩

section Both

variable {T B T' B' : Type} [AsyncRead T] [AsyncWrite T] [AsyncRead B] [AsyncWrite B] [AsyncRead T']
  [AsyncWrite T'] [AsyncRead B'] [AsyncWrite B']

theorem answeredAlike_status_iff {server : Server} {cache : DnsCache} {r : Request} {h2 h3 : Ledger}
    (first : h2.heads = (statusOf server cache r.toH2.view).toList)
    (second : h3.heads = (statusOf server cache r.toH3.view).toList) :
    AnsweredAlike server cache r h2 h3 ↔ ∃ status,
      Check.status (r.firstFailing server cache (r.toH2.view.user server)) = some status ∧
        Check.status (r.firstFailing server cache (r.user server)) = some status := by
  unfold AnsweredAlike
  rw [first, second, statusOf_toH2, statusOf_toH3]
  simp only [Option.toList_eq_singleton_iff]
  constructor
  · rintro ⟨status, left, right, _⟩
    exact ⟨status, left, right⟩
  · rintro ⟨status, left, right⟩
    exact ⟨status, left, right, Check.status_fits right⟩

/-- Every request is answered, and alike, exactly when it fails one of the first two checks or
is readable. -/
theorem answered_alike_iff (server : Server) (world : World T B) (world' : World T' B') (peer : SocketAddr)
    (attempt : Nat → SocketAddr → Nat → Timed (IoResult Unit)) (cache : DnsCache) (r : Request) :
    AnsweredAlike server cache r
        (processH2RequestPingora server world peer r.toH2 (.start (.start attempt cache))).1
        (processH3RequestQuiche server world' peer r.toH3 (.start (.start attempt cache))).1 ↔
      r.method ≠ "CONNECT" ∨ r.get "padding" = none ∨ r.Readable server := by
  rw [answeredAlike_status_iff (processH2RequestPingora_ending server world peer r.toH2 attempt cache).1
    (processH3RequestQuiche_ending server world' peer r.toH3 attempt cache).1]
  by_cases connect : r.method = "CONNECT"
  · by_cases bare : r.get "padding" = none
    · simp [Request.firstFailing, bare, connect, Check.status]
    · rw [status_agree_iff connect bare]
      simp only [connect, bare, ne_eq, not_true_eq_false, false_or]
  · simp [Request.firstFailing, connect, Check.status]

end Both

def connectRequest (authority : String) (credentials : Bytes) : Request where
  method := "CONNECT"
  authority := some authority
  headers := [("padding", utf8 "~"), ("proxy-authorization", credentials)]
  lower := by simp
  regular := by simp

/-- A target without a port is not answered at all, and a no-break space behind the credentials
is refused by the first backend only. -/
theorem answers_missing_and_apart :
    let h2 (r : Request) := (processH2RequestPingora (oneUserServer (.direct ⟨false⟩)) quietWorld
      ⟨.v4 ⟨9, 9, 9, 9⟩, 5000⟩ r.toH2 (.start (.start (fun _ _ _ => .elapsed) Uot.publicDns))).1
    let h3 (r : Request) := (processH3RequestQuiche (oneUserServer (.direct ⟨false⟩)) quietWorld
      ⟨.v4 ⟨9, 9, 9, 9⟩, 5000⟩ r.toH3 (.start (.start (fun _ _ _ => .elapsed) Uot.publicDns))).1
    let portless := connectRequest "example.com" (utf8 "Basic OnU=")
    let spaced := connectRequest "example.com:443" (utf8 "Basic OnU=" ++ [0xC2, 0xA0])
    ((h2 portless).heads = [] ∧ (h3 portless).heads = []) ∧
      (h2 spaced).heads = [407] ∧ (h3 spaced).heads = [200] ∧
      ∀ r ∈ [portless, spaced],
        ¬ AnsweredAlike (oneUserServer (.direct ⟨false⟩)) Uot.publicDns r (h2 r) (h3 r) := by
  intro h2 h3 portless spaced
  have first (r) : (h2 r).heads = (statusOf (oneUserServer (.direct ⟨false⟩)) Uot.publicDns r.toH2.view).toList :=
    (processH2RequestPingora_ending _ quietWorld _ _ _ _).1
  have second (r) : (h3 r).heads = (statusOf (oneUserServer (.direct ⟨false⟩)) Uot.publicDns r.toH3.view).toList :=
    (processH3RequestQuiche_ending _ quietWorld _ _ _ _).1
  have unanswered : (h2 portless).heads = [] ∧ (h3 portless).heads = [] := by
    rw [first, second]
    decide +kernel
  have refused : (h2 spaced).heads = [407] := by
    rw [first]
    decide +kernel
  have served : (h3 spaced).heads = [200] := by
    rw [second]
    decide +kernel
  refine ⟨unanswered, refused, served, ?_⟩
  intro r member
  rintro ⟨status, left, right, _⟩
  rcases List.mem_pair.mp member with rfl | rfl
  · cases unanswered.1.symm.trans left
  · cases refused.symm.trans left
    cases served.symm.trans right

/-! A magic name is routed like any other name before it is recognised. -/

/-- The request is answered 200, and its stream handed to the datagram handler. -/
def HandedToUot (sent : Except String Unit) (user : UserId) (version : Uot.UotVersion) (l : Ledger) : Prop :=
  l.heads = [200] ∧ (sent = .ok () → l.uotStreams = [(user, version)])

/-- The block is off, or the answer for the name holds no private address and is not empty
unless a rule sends the name to a proxy. -/
def PassesGuard (router : Router) (cache : DnsCache) (target : Address) : Prop :=
  router.blockPrivateIp = false ∨
    (∀ ip ∈ inspected cache target, isPrivateIp ip = false) ∧
      (inspected cache target ≠ [] ∨ router.Proxies target.host target.port .tcp)

theorem route_passes_iff {router : Router} (cache : DnsCache) {target : Address} (domain : target.literal = none)
    (permitted : ¬ router.Rejects target.host target.port .tcp) :
    (router.route cache target).2 ≠ .reject ↔ PassesGuard router cache target := by
  cases block : router.blockPrivateIp with
  | false =>
      have only_rules := (route_open block cache target).2.1
      exact ⟨fun _ => .inl block, fun _ rejected => permitted (only_rules.mp rejected)⟩
  | true =>
      unfold PassesGuard
      rw [route_blocking block]
      by_cases flagged : (checkPrivateAndResolve cache target).2.1 = true
      · have hit := flagged
        rw [checkPrivateAndResolve_private, List.any_eq_true] at hit
        obtain ⟨ip, member, is_private⟩ := hit
        simp only [flagged, if_true, ne_eq, not_true_eq_false, block, Bool.true_eq_false, false_or, false_iff]
        rintro ⟨clear, _⟩
        rw [clear ip member] at is_private
        cases is_private
      · have passed : (checkPrivateAndResolve cache target).2.1 = false := Bool.not_eq_true _ ▸ flagged
        have clear : ∀ ip ∈ inspected cache target, isPrivateIp ip = false := by
          rw [checkPrivateAndResolve_private, List.any_eq_false] at passed
          exact fun ip member => Bool.not_eq_true _ ▸ passed ip member
        simp only [passed, Bool.false_eq_true, if_false, block, Bool.true_eq_false, false_or]
        rw [checkPrivateAndResolve_resolved cache target passed]
        by_cases empty : inspected cache target = []
        · rw [if_neg fun both => both.2 empty, decide_unresolved_iff block domain]
          exact ⟨fun proxied => ⟨clear, .inr proxied⟩, fun passes => passes.2.resolve_left (not_not.mpr empty)⟩
        · have settled : some (inspected cache target) = none → target.literal ≠ none := fun same => by cases same
          rw [if_pos ⟨domain, empty⟩, ne_eq, decide_reject_iff settled]
          exact ⟨fun _ => ⟨clear, .inl empty⟩, fun _ => permitted⟩

theorem Ending.handedToUot_iff {server : Server} {sent : Except String Unit} {cache : DnsCache}
    {view : RequestView} {l : Ledger} {target : Address} {user : UserId} {version : Uot.UotVersion}
    (ending : Ending server sent cache view l) (heads : l.heads = (statusOf server cache view).toList)
    (admitted : Admits server view target user) (magic : Uot.detectUot target.host = some version) :
    HandedToUot sent user version l ↔ (server.router.route cache target).2 ≠ .reject := by
  rw [statusOf_admitted admitted] at heads
  constructor
  · rintro ⟨answered, _⟩ rejected
    rw [rejected] at heads
    cases heads.symm.trans answered
  · intro routed
    have answered : l.heads = [200] := by
      rw [heads]
      cases outbound : (server.router.route cache target).2 with
      | reject => exact absurd outbound routed
      | direct resolved dialer => rfl
      | proxy handler => rfl
    refine ⟨answered, ?_⟩
    intro ok
    have served := (ending.gated (by rw [heads, statusOf_admitted admitted])).serves target user admitted routed ok
    rw [served.uotStreams, magic]
    rfl

/-- A request for a magic name that no rule rejects reaches the datagram handler exactly when
the name passes the guard that is meant for hosts to connect to. -/
theorem uot_reachable_iff {T B : Type} [AsyncRead T] [AsyncWrite T] [AsyncRead B] [AsyncWrite B] (server : Server)
    (world : World T B) (peer : SocketAddr) (attempt : Nat → SocketAddr → Nat → Timed (IoResult Unit))
    (cache : DnsCache) {target : Address} {version : Uot.UotVersion}
    (magic : Uot.detectUot target.host = some version)
    (permitted : ¬ server.router.Rejects target.host target.port .tcp) (user : UserId) :
    (∀ req : H2Request, Admits server req.view target user →
      (HandedToUot world.sentHead user version
        (processH2RequestPingora server world peer req (.start (.start attempt cache))).1 ↔
          PassesGuard server.router cache target)) ∧
    (∀ req : H3Request, Admits server req.view target user →
      (HandedToUot world.sentHead user version
        (processH3RequestQuiche server world peer req (.start (.start attempt cache))).1 ↔
          PassesGuard server.router cache target)) := by
  have guarded := route_passes_iff cache (Uot.literal_of_detectUot magic) permitted
  constructor
  · intro req admitted
    obtain ⟨heads, ending⟩ := processH2RequestPingora_ending server world peer req attempt cache
    rw [ending.handedToUot_iff heads admitted magic, guarded]
  · intro req admitted
    obtain ⟨heads, ending⟩ := processH3RequestQuiche_ending server world peer req attempt cache
    rw [ending.handedToUot_iff heads admitted magic, guarded]

/-- The request of the one user for datagrams, in mixed letter case. -/
def uotRequest : Request := connectRequest "SP.v2.udp-over-tcp.ARPA:443" (utf8 "Basic OnU=")

def uotTarget : Address := .domain "SP.v2.udp-over-tcp.ARPA" 443

theorem uotRequest_admitted (router : Router) :
    Admits (oneUserServer router) uotRequest.toH2.view uotTarget 1 ∧
      Admits (oneUserServer router) uotRequest.toH3.view uotTarget 1 := by
  have first : Admits (oneUserServer (.direct ⟨false⟩)) uotRequest.toH2.view uotTarget 1 :=
    admits_iff.mpr (by decide +kernel)
  have second : Admits (oneUserServer (.direct ⟨false⟩)) uotRequest.toH3.view uotTarget 1 :=
    admits_iff.mpr (by decide +kernel)
  exact ⟨⟨first.connect, first.padding, first.target, first.user⟩,
    ⟨second.connect, second.padding, second.target, second.user⟩⟩

/-- With a public answer for the name the request gets through. -/
theorem uot_reachable_public :
    HandedToUot (.ok ()) 1 .v2 (processH2RequestPingora (oneUserServer (.direct ⟨true⟩)) quietWorld
        ⟨.v4 ⟨9, 9, 9, 9⟩, 5000⟩ uotRequest.toH2 (.start (.start (fun _ _ _ => .elapsed) Uot.publicDns))).1 ∧
      HandedToUot (.ok ()) 1 .v2 (processH3RequestQuiche (oneUserServer (.direct ⟨true⟩)) quietWorld
        ⟨.v4 ⟨9, 9, 9, 9⟩, 5000⟩ uotRequest.toH3 (.start (.start (fun _ _ _ => .elapsed) Uot.publicDns))).1 := by
  have passes : PassesGuard (.direct ⟨true⟩) Uot.publicDns uotTarget := .inr ⟨by decide, .inl (by decide)⟩
  obtain ⟨first, second⟩ := uot_reachable_iff (oneUserServer (.direct ⟨true⟩)) quietWorld
    ⟨.v4 ⟨9, 9, 9, 9⟩, 5000⟩ (fun _ _ _ => .elapsed) Uot.publicDns
    (show Uot.detectUot uotTarget.host = some .v2 by decide) id 1
  exact ⟨(first _ (uotRequest_admitted _).1).mpr passes, (second _ (uotRequest_admitted _).2).mpr passes⟩

/-- Without one it is refused: the name is not registered, and the guard takes it for a host. -/
theorem uot_refused_unresolved :
    let nxdomain : DnsCache := ⟨fun _ host => .error (.notFound host), [], fun _ => ""⟩
    let server := oneUserServer (.direct ⟨true⟩)
    let h2 := (processH2RequestPingora server quietWorld ⟨.v4 ⟨9, 9, 9, 9⟩, 5000⟩ uotRequest.toH2
      (.start (.start (fun _ _ _ => .elapsed) nxdomain))).1
    let h3 := (processH3RequestQuiche server quietWorld ⟨.v4 ⟨9, 9, 9, 9⟩, 5000⟩ uotRequest.toH3
      (.start (.start (fun _ _ _ => .elapsed) nxdomain))).1
    Admits server uotRequest.toH2.view uotTarget 1 ∧ Admits server uotRequest.toH3.view uotTarget 1 ∧
      Uot.detectUot uotTarget.host = some .v2 ∧ ¬ server.router.Rejects uotTarget.host uotTarget.port .tcp ∧
      (h2.heads = [403] ∧ h2.uotStreams = []) ∧ (h3.heads = [403] ∧ h3.uotStreams = []) := by
  intro nxdomain server h2 h3
  obtain ⟨first, second⟩ := uotRequest_admitted (.direct ⟨true⟩)
  refine ⟨first, second, by decide, id, ?_, ?_⟩
  · decide +kernel
  · decide +kernel

end ServerNaive
