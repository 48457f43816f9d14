import ServerNaive.Core.PrivateBlocks
import ServerNaive.Handler.Connect

/-! The direct path with the private-address block on, from the route to the stream: which targets are
refused, and which of the addresses of a target that is not refused the tunnel ends up with. -/
namespace ServerNaive
open AsyncIo StdNet

/-- The `n`-th attempt of a path connects to the address in time. -/
def Reached (attempt : Nat → SocketAddr → Nat → Timed (IoResult Unit)) (timeout n : Nat) (sa : SocketAddr) : Prop :=
  attempt n sa timeout = .done (.ok ())

/-- How trying addresses in turn ends, with the first attempt numbered `start`: with the first of them that
is reached, and no other one tried after it, or with all of them tried in vain. -/
inductive TriedInTurn (attempt : Nat → SocketAddr → Nat → Timed (IoResult Unit)) (timeout start : Nat)
    (candidates tried : List SocketAddr) : Option SocketAddr → Prop
  | reached {before after : List SocketAddr} {sa : SocketAddr} (split : candidates = before ++ sa :: after)
      (missed : ∀ i other, before[i]? = some other → ¬ Reached attempt timeout (start + i) other)
      (hit : Reached attempt timeout (start + before.length) sa) (stops : tried = before ++ [sa]) :
      TriedInTurn attempt timeout start candidates tried (some sa)
  | missed (missed : ∀ i other, candidates[i]? = some other → ¬ Reached attempt timeout (start + i) other)
      (all : tried = candidates) : TriedInTurn attempt timeout start candidates tried none

/-- The peer of a stream, if there is one. -/
def connectedTo {ε : Type} : Except ε TcpStream → Option SocketAddr
  | .ok s => some s.peer
  | .error _ => none

section Turns

variable {attempt : Nat → SocketAddr → Nat → Timed (IoResult Unit)} {timeout start : Nat}

theorem TriedInTurn.cons {sa : SocketAddr} {rest tried : List SocketAddr} {out : Option SocketAddr}
    (missed : ¬ Reached attempt timeout start sa) (h : TriedInTurn attempt timeout (start + 1) rest tried out) :
    TriedInTurn attempt timeout start (sa :: rest) (sa :: tried) out := by
  have shifted {others : List SocketAddr}
      (later : ∀ i other, others[i]? = some other → ¬ Reached attempt timeout (start + 1 + i) other) :
      ∀ i other, (sa :: others)[i]? = some other → ¬ Reached attempt timeout (start + i) other := by
    intro i other found
    cases i with
    | zero =>
        cases found
        exact missed
    | succ i =>
        have here := later i other found
        rwa [Nat.add_right_comm] at here
  cases h with
  | reached split passed hit stops =>
      rename_i before after hitAt
      subst split stops
      have split : sa :: (before ++ hitAt :: after) = (sa :: before) ++ hitAt :: after := rfl
      refine .reached split (shifted passed) ?_ rfl
      rwa [List.length_cons, Nat.add_comm before.length, ← Nat.add_assoc]
  | missed none_hit all => exact .missed (shifted none_hit) (congrArg (sa :: ·) all)

/-- What one attempt under the time limit comes to. -/
def attemptResult : Timed (IoResult Unit) → IoResult Unit
  | .elapsed => .error ⟨.timedOut, "connect timeout"⟩
  | .done result => result

theorem reached_iff {n : Nat} {sa : SocketAddr} :
    Reached attempt timeout n sa ↔ attemptResult (attempt n sa timeout) = .ok () := by
  unfold Reached
  cases attempt n sa timeout with
  | elapsed => exact ⟨(fun h => by cases h), (fun h => by cases h)⟩
  | done result =>
      constructor
      · intro ended
        exact Timed.done.inj ended
      · intro ended
        exact congrArg Timed.done ended

theorem connectOne_eq (d : Dialing) (sa : SocketAddr) (tcpNodelay : Bool) :
    connectOne d sa tcpNodelay timeout = (d.dial sa,
      (attemptResult (d.attempt d.dialed.length sa timeout)).map fun _ => ⟨sa, tcpNodelay, some tcpKeepaliveSecs⟩) := by
  unfold connectOne
  -- each of the three ends is what `attemptResult` makes of it
  split <;> rename_i ended <;> rw [ended] <;> rfl

end Turns

section List

variable (port : UInt16) (tcpNodelay : Bool) {timeout : Nat} {ip : IpAddr} {d : Dialing}

theorem connectIpList_hit (ips : List IpAddr) (lastErr : Option IoError)
    (ended : attemptResult (d.attempt d.dialed.length ⟨ip, port⟩ timeout) = .ok ()) :
    connectIpList port tcpNodelay timeout (ip :: ips) lastErr d =
      (d.dial ⟨ip, port⟩, .ok ⟨⟨ip, port⟩, tcpNodelay, some tcpKeepaliveSecs⟩) := by
  rw [connectIpList, connectOne_eq, ended]
  rfl

theorem connectIpList_miss {e : IoError} (ips : List IpAddr) (lastErr : Option IoError)
    (ended : attemptResult (d.attempt d.dialed.length ⟨ip, port⟩ timeout) = .error e) :
    connectIpList port tcpNodelay timeout (ip :: ips) lastErr d =
      connectIpList port tcpNodelay timeout ips (some e) (d.dial ⟨ip, port⟩) := by
  rw [connectIpList, connectOne_eq, ended]
  rfl

/-- A list of one address is that address alone. -/
theorem connectIpList_singleton (timeout : Nat) (ip : IpAddr) (d : Dialing) :
    connectIpList port tcpNodelay timeout [ip] none d = connectOne d ⟨ip, port⟩ tcpNodelay timeout := by
  rw [connectOne_eq]
  cases ended : attemptResult (d.attempt d.dialed.length ⟨ip, port⟩ timeout) with
  | ok done => exact connectIpList_hit port tcpNodelay [] none ended
  | error e => exact connectIpList_miss port tcpNodelay [] none ended

/-- The addresses are tried in their order and the first that answers is taken. -/
theorem connectIpList_inTurn (timeout : Nat) (ips : List IpAddr) (lastErr : Option IoError) (d : Dialing) :
    ∃ tried, (connectIpList port tcpNodelay timeout ips lastErr d).1 = { d with dialed := d.dialed ++ tried } ∧
      TriedInTurn d.attempt timeout d.dialed.length (ips.map fun ip => ⟨ip, port⟩) tried
        (connectedTo (connectIpList port tcpNodelay timeout ips lastErr d).2) := by
  induction ips generalizing lastErr d with
  | nil =>
      refine ⟨[], ?_, .missed ?_ rfl⟩
      · simp only [connectIpList, List.append_nil]
      · intro i other found
        cases found
  | cons ip ips ih =>
      rw [List.map_cons]
      cases ended : attemptResult (d.attempt d.dialed.length ⟨ip, port⟩ timeout) with
      | ok done =>
          rw [connectIpList_hit port tcpNodelay ips lastErr ended]
          refine ⟨[⟨ip, port⟩], rfl, .reached (List.nil_append _).symm ?_ (reached_iff.mpr ended) rfl⟩
          intro i other found
          cases found
      | error e =>
          rw [connectIpList_miss port tcpNodelay ips lastErr ended]
          obtain ⟨tried, same, later⟩ := ih (some e) (d.dial ⟨ip, port⟩)
          have missed : ¬ Reached d.attempt timeout d.dialed.length ⟨ip, port⟩ := by
            rw [reached_iff, ended]
            intro h
            cases h
          have next : (d.dial ⟨ip, port⟩).dialed.length = d.dialed.length + 1 := List.length_append
          rw [next] at later
          refine ⟨⟨ip, port⟩ :: tried, ?_, later.cons missed⟩
          rw [same]
          simp only [Dialing.dial, List.append_assoc, List.singleton_append]

theorem connectIpList_stream {ips : List IpAddr} {lastErr : Option IoError} {s : TcpStream}
    (connected : (connectIpList port tcpNodelay timeout ips lastErr d).2 = .ok s) :
    s = ⟨s.peer, tcpNodelay, some tcpKeepaliveSecs⟩ := by
  induction ips generalizing lastErr d with
  | nil => cases connected
  | cons ip ips ih =>
      cases ended : attemptResult (d.attempt d.dialed.length ⟨ip, port⟩ timeout) with
      | ok done =>
          rw [connectIpList_hit port tcpNodelay ips lastErr ended] at connected
          cases connected
          rfl
      | error e =>
          rw [connectIpList_miss port tcpNodelay ips lastErr ended] at connected
          exact ih connected

/-- When no address answers, the error is the one of the last attempt. -/
theorem connectIpList_error {ips : List IpAddr} {lastErr : Option IoError} {e : IoError} {last : IpAddr}
    (failed : (connectIpList port tcpNodelay timeout ips lastErr d).2 = .error e)
    (ends : ips.getLast? = some last) :
    attemptResult (d.attempt (d.dialed.length + (ips.length - 1)) ⟨last, port⟩ timeout) = .error e := by
  induction ips generalizing lastErr d with
  | nil => cases ends
  | cons ip ips ih =>
      cases ended : attemptResult (d.attempt d.dialed.length ⟨ip, port⟩ timeout) with
      | ok done =>
          rw [connectIpList_hit port tcpNodelay ips lastErr ended] at failed
          cases failed
      | error first =>
          rw [connectIpList_miss port tcpNodelay ips lastErr ended] at failed
          -- the number of the last attempt counts from the first one, whose turn is over
          cases ips with
          | nil =>
              cases failed
              cases ends
              exact ended
          | cons next rest =>
              rw [List.getLast?_cons_cons] at ends
              have later := ih failed ends
              simp only [Dialing.dial, List.length_append, List.length_cons, List.length_nil,
                Nat.add_sub_cancel] at later ⊢
              rwa [Nat.add_comm rest.length, ← Nat.add_assoc]

end List

section Route

variable {router : Router} {cache : DnsCache} {target : Address} {resolved : Option (List IpAddr)}

/-- After a plain direct route, the two ways to connect are one: the inspected addresses in turn. -/
theorem connectDirect_inspected
    (domain : target.literal = none → resolved = some (inspected cache target) ∧ inspected cache target ≠ [])
    (plain : target.literal ≠ none → resolved = none) (config : ConnConfig) (d : Dialing) :
    connectDirect config target resolved d =
      connectIpList target.port config.tcpNodelay config.connectTimeout (inspected cache target) none d := by
  cases literal : target.literal with
  | none =>
      obtain ⟨given, nonempty⟩ := domain literal
      obtain ⟨ip, ips, shape⟩ := List.exists_cons_of_ne_nil nonempty
      rw [given, shape]
      rfl
  | some ip =>
      have spelled : inspected cache target = [ip] := by
        cases target with
        | ipv4 a port => exact congrArg (fun ip => [ip]) (Option.some.inj literal)
        | ipv6 a port => exact congrArg (fun ip => [ip]) (Option.some.inj literal)
        | domain host port => cases literal
      have bare : resolved = none := plain (by rw [literal]; exact Option.some_ne_none ip)
      rw [spelled, connectIpList_singleton]
      simp only [bare, connectDirect, resolveSocketAddr_literal literal]

/-- Only a domain can be without an address to inspect. -/
theorem literal_of_inspected_nil (empty : inspected cache target = []) : target.literal = none := by
  cases target with
  | ipv4 ip port => cases empty
  | ipv6 ip port => cases empty
  | domain host port => rfl

/-- With the block on, a target is refused for an address in a private block, for a name that has no
address and that no rule sends to a proxy, or by a rule, and for nothing else. -/
theorem route_reject_iff (block : router.blockPrivateIp = true) (cache : DnsCache) (target : Address) :
    (router.route cache target).2 = .reject ↔
      (∃ ip ∈ inspected cache target, InPrivateBlock ip) ∨
        (inspected cache target = [] ∧ ¬ router.Proxies target.host target.port .tcp) ∨
        (inspected cache target ≠ [] ∧ router.Rejects target.host target.port .tcp) := by
  have flags : (checkPrivateAndResolve cache target).2.1 = true ↔ ∃ ip ∈ inspected cache target, InPrivateBlock ip := by
    rw [checkPrivateAndResolve_private, List.any_eq_true]
    simp only [isPrivateIp_iff]
  rw [route_blocking block]
  by_cases flagged : (checkPrivateAndResolve cache target).2.1 = true
  · rw [if_pos flagged]
    exact ⟨fun _ => .inl (flags.mp flagged), fun _ => rfl⟩
  · rw [if_neg flagged, checkPrivateAndResolve_resolved cache target (Bool.not_eq_true _ ▸ flagged), ← flags]
    by_cases empty : inspected cache target = []
    · have unanswered := decide_unresolved_iff block (literal_of_inspected_nil empty)
      rw [if_neg fun both => both.2 empty, ← unanswered, ne_eq, not_not]
      simp only [flagged, Bool.false_eq_true, empty, ne_eq, not_true_eq_false, true_and, false_and, false_or, or_false]
    · have settled : (if target.literal = none ∧ inspected cache target ≠ [] then some (inspected cache target)
          else none) = none → target.literal ≠ none := by
        intro unresolved domain
        rw [if_pos ⟨domain, empty⟩] at unresolved
        cases unresolved
      rw [decide_reject_iff settled]
      simp only [flagged, Bool.false_eq_true, empty, ne_eq, not_false_eq_true, true_and, false_and, false_or]

/-- How the plain direct path ends: connected to `sa` with the options of the server, or with the text of
the error of the last attempt. -/
inductive DialEnds (attempt : Nat → SocketAddr → Nat → Timed (IoResult Unit)) (config : ConnConfig)
    (candidates : List SocketAddr) : Option SocketAddr → Except String RemoteStream → Prop
  | connected (sa : SocketAddr) :
      DialEnds attempt config candidates (some sa) (.ok (.tcp ⟨sa, config.tcpNodelay, some tcpKeepaliveSecs⟩))
  | failed (last : SocketAddr) {e : IoError} (ends : candidates.getLast? = some last)
      (reason : attemptResult (attempt (candidates.length - 1) last config.connectTimeout) = .error e) :
      DialEnds attempt config candidates none (.error e.message)

/-- With the block on, whatever the resolver answers and however the attempts end. A target is refused
exactly for an address in a private block, for want of an address or by a rule. A target that goes out
directly has its inspected addresses tried in their order: the tunnel is given the first that answers, no
later one is tried, and the failure of all of them is reported as the failure of the last. -/
theorem guarded_direct_exact (block : router.blockPrivateIp = true) (cache : DnsCache) (target : Address)
    (config : ConnConfig) (attempt : Nat → SocketAddr → Nat → Timed (IoResult Unit)) :
    ((router.route cache target).2 = .reject ↔
      (∃ ip ∈ inspected cache target, InPrivateBlock ip) ∨
        (inspected cache target = [] ∧ ¬ router.Proxies target.host target.port .tcp) ∨
        (inspected cache target ≠ [] ∧ router.Rejects target.host target.port .tcp)) ∧
      ∀ resolved, (router.route cache target).2 = .direct resolved none →
        let out := handleDirectConnect config target resolved none (.start attempt (router.route cache target).1)
        let candidates := (inspected cache target).map fun ip => ⟨ip, target.port⟩
        ∃ outcome, TriedInTurn attempt config.connectTimeout 0 candidates out.1.dialed outcome ∧
          DialEnds attempt config candidates outcome out.2 := by
  refine ⟨route_reject_iff block cache target, ?_⟩
  intro resolved direct out candidates
  have routed : router.route cache target = ((router.route cache target).1, .direct resolved none) :=
    Prod.ext rfl direct
  obtain ⟨_, domain, plain, _⟩ := route_direct block routed
  have nonempty : inspected cache target ≠ [] := by
    intro empty
    exact (domain (literal_of_inspected_nil empty)).2 empty
  obtain ⟨last, shape⟩ := Option.isSome_iff_exists.mp (List.getLast?_isSome.mpr nonempty)
  have path := connectDirect_inspected domain plain config (.start attempt (router.route cache target).1)
  obtain ⟨tried, dialed, inTurn⟩ := connectIpList_inTurn target.port config.tcpNodelay config.connectTimeout
    (inspected cache target) none (.start attempt (router.route cache target).1)
  cases ended : connectIpList target.port config.tcpNodelay config.connectTimeout (inspected cache target) none
    (.start attempt (router.route cache target).1) with
  | mk left result =>
      rw [ended] at dialed inTurn
      change left = _ at dialed
      cases result with
      | ok s =>
          have out_eq : out = (left, .ok (.tcp s)) := by
            simp only [out, handleDirectConnect, path, ended]
          have options := connectIpList_stream target.port config.tcpNodelay (congrArg Prod.snd ended)
          rw [out_eq, dialed, options]
          exact ⟨some s.peer, inTurn, .connected s.peer⟩
      | error e =>
          have out_eq : out = (left, .error e.message) := by
            simp only [out, handleDirectConnect, path, ended]
          have reason := connectIpList_error target.port config.tcpNodelay (congrArg Prod.snd ended) shape
          rw [out_eq, dialed]
          refine ⟨none, inTurn, .failed ⟨last, target.port⟩ ?_ ?_⟩
          · rw [List.getLast?_map, shape]
            rfl
          · simpa only [candidates, List.length_map, Dialing.start, List.length_nil, Nat.zero_add] using reason

/-- A name with two addresses, of which the first is dead. -/
def deadFirst : DnsCache := ⟨fun _ _ => .ok [.v4 ⟨9, 9, 9, 9⟩, .v4 ⟨9, 9, 9, 10⟩], [], fun _ => ""⟩

def secondAnswers (n : Nat) (_ : SocketAddr) (_ : Nat) : Timed (IoResult Unit) :=
  if n = 0 then .elapsed else .done (.ok ())

theorem guarded_direct_exact_deadFirst :
    let router : Router := .direct ⟨true⟩
    let config : ConnConfig := .fromCli (.defaults 1)
    let out := handleDirectConnect config (.domain "example.com" 443) (some [.v4 ⟨9, 9, 9, 9⟩, .v4 ⟨9, 9, 9, 10⟩]) none
      (.start secondAnswers (router.route deadFirst (.domain "example.com" 443)).1)
    (router.route deadFirst (.ipv4 ⟨100, 100, 0, 1⟩ 80)).2 = .reject ∧
      out.2 = .ok (.tcp ⟨⟨.v4 ⟨9, 9, 9, 10⟩, 443⟩, config.tcpNodelay, some tcpKeepaliveSecs⟩) ∧
      ∃ outcome, TriedInTurn secondAnswers config.connectTimeout 0
          [⟨.v4 ⟨9, 9, 9, 9⟩, 443⟩, ⟨.v4 ⟨9, 9, 9, 10⟩, 443⟩] out.1.dialed outcome ∧
        DialEnds secondAnswers config [⟨.v4 ⟨9, 9, 9, 9⟩, 443⟩, ⟨.v4 ⟨9, 9, 9, 10⟩, 443⟩] outcome out.2 := by
  intro router config out
  have block : router.blockPrivateIp = true := rfl
  have shared : InPrivateBlock (.v4 ⟨100, 100, 0, 1⟩) := by decide
  have refused := (guarded_direct_exact block deadFirst (.ipv4 ⟨100, 100, 0, 1⟩ 80) config secondAnswers).1.mpr
    (.inl ⟨_, List.mem_singleton.mpr rfl, shared⟩)
  have dialled := (guarded_direct_exact block deadFirst (.domain "example.com" 443) config secondAnswers).2 _ rfl
  exact ⟨refused, rfl, dialled⟩

end Route

end ServerNaive
