import ServerNaive.Async.Paced
import ServerNaive.Uot.Session

/-! Where a UDP-over-TCP tunnel sends. The router is asked once, for the magic name; the
destinations come later, inside the tunnel, and no one is asked about them. -/
namespace ServerNaive.Uot
open AsyncIo StdNet

/-- What `process_tunnel` does with a registered tunnel. -/
inductive Tunnel where
  | uot (version : UotVersion)
  | direct (resolved : Option (List IpAddr)) (dialer : Option OutboundHandler)
  | proxy (handler : OutboundHandler)

/-- The dispatch of `process_tunnel`; a rejected tunnel does not get there. -/
def processTunnel (target : Address) (outbound : OutboundType) : Option Tunnel :=
  match detectUot target.host with
  | some version => some (.uot version)
  | none => match outbound with
      | .direct resolved dialer => some (.direct resolved dialer)
      | .proxy handler => some (.proxy handler)
      | .reject => none

/-- The tunnel that an authenticated request opens, and the resolver after routing it. -/
def openTunnel (router : Router) (cache : DnsCache) (target : Address) : DnsCache × Option Tunnel :=
  match router.route cache target with
  | (cache, .reject) => (cache, none)
  | (cache, outbound) => (cache, processTunnel target outbound)

/-- The request at the head of a stream. -/
def requestGrammar : Grammar (UInt8 × String × UInt16) := do
  let isConnect ← Grammar.u8
  let (host, port) ← addrGrammar socksaddrSerializer
  return (isConnect, host, port)

def request (version : UotVersion) (cache : DnsCache) (wire : Bytes) :
    Option (Option Destination × DnsCache × Bytes) :=
  match version with
  | .v1 => some (none, cache, wire)
  | .v2 => match requestGrammar wire with
      | none => none
      | some ((isConnect, host, port), wire) =>
          if isConnect ≠ 0 then match resolveHost cache host port with
            | (_, .error _) => none
            | (cache, .ok addr) => some (some ⟨host, port, addr⟩, cache, wire)
          else some (none, cache, wire)

/-- The socket can be had and, if it has to be, connected. -/
def UdpBehaviour.opens (udp : UdpBehaviour) (fixed : Option Destination) : Bool :=
  (udp.bindDual.isOk || udp.bindV4.isOk) && fixed.all fun dest => (udp.connect dest.addr).isOk

/-- All the datagrams that a client's stream asks for. -/
def egress (udp : UdpBehaviour) (version : UotVersion) (cache : DnsCache) (wire : Bytes) : List Datagram :=
  match request version cache wire with
  | none => []
  | some (fixed, cache, wire) => if udp.opens fixed then asksFor udp fixed [] cache wire else []

def Session.start {R : Type} (reader : R) (cache : DnsCache) : Session R := ⟨reader, cache, [], []⟩

section Run

variable {R : Type} [ByteSource R]

theorem reads_readRequestHead : Reads (readRequestHead : Task R IoError _) requestGrammar :=
  reads_readU8.bind fun _ => (reads_readAddr socksaddrSerializer).bind fun _ => reads_pure _

theorem readRequest_holds (version : UotVersion) (fuel : Nat) (s : Session R) :
    (readRequest version fuel s).Holds
      (fun fixed t => t.sent = s.sent ∧
        request version s.cache (ByteSource.rest s.reader) = some (fixed, t.cache, ByteSource.rest t.reader))
      (fun _ t => t.sent = s.sent ∧ request version s.cache (ByteSource.rest s.reader) = none)
      (fun t => t.sent = s.sent) := by
  cases version with
  | v1 => exact Task.holds_pure ⟨rfl, rfl⟩
  | v2 =>
      apply Task.holds_bind
      refine (onReader_holds reads_readRequestHead fuel s).imp ?_ ?_ ?_
      · rintro ⟨isConnect, host, port⟩ t ⟨only, parsed⟩ left
        have sent : t.sent = s.sent := by rw [only]
        have cache : t.cache = s.cache := by rw [only]
        rw [request, parsed]
        dsimp only
        by_cases connected : isConnect ≠ 0
        · rw [if_pos connected, if_pos connected]
          apply Task.holds_bind
          refine (resolve_holds host port left t).imp ?_ ?_ ?_
          · rintro dest u ⟨same, shape, found⟩ left
            rw [cache] at same found
            apply Task.holds_pure
            refine ⟨by rw [same]; exact sent, ?_⟩
            rw [same, resolveHost_eq found]
            dsimp only
            rw [← shape]
          · rintro e u ⟨same, failed⟩
            rw [cache] at failed
            refine ⟨by rw [same]; exact sent, ?_⟩
            rw [resolveHost_eq failed]
          · rintro u rfl
            exact sent
        · rw [if_neg connected, if_neg connected]
          exact Task.holds_pure ⟨sent, by rw [cache]⟩
      · rintro e t ⟨only, unmatched⟩
        refine ⟨by rw [only], ?_⟩
        rw [request, unmatched]
      · intro t only
        rw [only]

omit [ByteSource R] in
theorem openSocket_holds (udp : UdpBehaviour) (fixed : Option Destination) (fuel : Nat) (s : Session R) :
    (openSocket udp fixed fuel s).Holds (fun _ t => t = s ∧ udp.opens fixed = true)
      (fun _ t => t = s ∧ udp.opens fixed = false) (fun t => t = s) := by
  apply Task.holds_bind
  refine Task.holds_tick rfl ?_
  intro left
  unfold UdpBehaviour.opens
  cases dual : udp.bindDual with
  | error e =>
      cases v4 : udp.bindV4 with
      | error e => exact Task.holds_fail ⟨rfl, rfl⟩
      | ok u =>
          cases fixed with
          | none => exact Task.holds_pure ⟨rfl, rfl⟩
          | some dest =>
              cases connected : udp.connect dest.addr with
              | error e =>
                  simp only [connected]
                  exact Task.holds_fail ⟨rfl, by simp only [Option.all_some, connected]; rfl⟩
              | ok u =>
                  simp only [connected]
                  exact Task.holds_pure ⟨rfl, by simp only [Option.all_some, connected]; rfl⟩
  | ok u =>
      cases fixed with
      | none => exact Task.holds_pure ⟨rfl, rfl⟩
      | some dest =>
          cases connected : udp.connect dest.addr with
          | error e =>
              simp only [connected]
              exact Task.holds_fail ⟨rfl, by simp only [Option.all_some, connected]; rfl⟩
          | ok u =>
              simp only [connected]
              exact Task.holds_pure ⟨rfl, by simp only [Option.all_some, connected]; rfl⟩

/-- A session hands over what the client's stream asks for, in order, and all of it
unless it is stopped. -/
theorem handleUotInput_holds (udp : UdpBehaviour) (version : UotVersion) (fuel : Nat) (reader : R)
    (cache : DnsCache) :
    (handleUotInput udp version fuel (.start reader cache)).Holds (fun _ _ => False)
      (fun _ t => t.sent = egress udp version cache (ByteSource.rest reader))
      (fun t => t.sent <+: egress udp version cache (ByteSource.rest reader)) := by
  apply Task.holds_bind
  refine (readRequest_holds version fuel (.start reader cache)).imp ?_ ?_ ?_
  · rintro fixed t ⟨sent, parsed⟩ left
    have asks : egress udp version cache (ByteSource.rest reader) =
        if udp.opens fixed then asksFor udp fixed [] t.cache (ByteSource.rest t.reader) else [] := by
      rw [egress, show request version cache (ByteSource.rest reader) = _ from parsed]
    apply Task.holds_bind
    refine (openSocket_holds udp fixed left t).imp ?_ ?_ ?_
    · rintro _ u ⟨rfl, opened⟩ left
      rw [asks, if_pos opened, ← show u.sent = [] from sent]
      exact inputLoop_holds udp fixed left u
    · rintro e u ⟨rfl, closed⟩
      rw [asks, closed]
      exact sent
    · rintro u rfl
      rw [sent]
      exact List.nil_prefix
  · rintro e t ⟨sent, unmatched⟩
    rw [egress, show request version cache (ByteSource.rest reader) = _ from unmatched]
    exact sent
  · intro t sent
    rw [sent]
    exact List.nil_prefix

end Run

/-! The policy. -/

/-- What the TCP path enforces: a public address, and a host and port that no rule
rejects, here for UDP. -/
def Permitted (router : Router) (dest : Destination) : Prop :=
  isPrivateIp dest.addr.ip = false ∧ ¬ router.Rejects dest.host dest.port .udp

/-- The datagrams that the tunnel of one request has handed over after `fuel` polls. -/
def tunnelSends {R : Type} [AsyncRead R] (router : Router) (cache : DnsCache) (target : Address)
    (udp : UdpBehaviour) (reader : R) (fuel : Nat) : List Datagram :=
  match openTunnel router cache target with
  | (cache, some (.uot version)) => (handleUotInput udp version fuel (.start reader cache)).state.sent
  | _ => []

/-- The datagrams that the client's stream asks that tunnel for. -/
def tunnelAsked (router : Router) (cache : DnsCache) (target : Address) (udp : UdpBehaviour)
    (wire : Bytes) : List Datagram :=
  match openTunnel router cache target with
  | (cache, some (.uot version)) => egress udp version cache wire
  | _ => []

/-- The tunnel has come to its end by itself, or there is none. -/
def TunnelEnded {R : Type} [AsyncRead R] (router : Router) (cache : DnsCache) (target : Address)
    (udp : UdpBehaviour) (reader : R) (fuel : Nat) : Prop :=
  match openTunnel router cache target with
  | (cache, some (.uot version)) => ∀ s, handleUotInput udp version fuel (.start reader cache) ≠ .cut s
  | _ => True

theorem tunnelSends_asked {R : Type} [ByteSource R] (router : Router) (cache : DnsCache)
    (target : Address) (udp : UdpBehaviour) (reader : R) (fuel : Nat) :
    tunnelSends router cache target udp reader fuel <+:
        tunnelAsked router cache target udp (ByteSource.rest reader) ∧
      (TunnelEnded router cache target udp reader fuel →
        tunnelSends router cache target udp reader fuel =
          tunnelAsked router cache target udp (ByteSource.rest reader)) := by
  unfold tunnelSends tunnelAsked TunnelEnded
  split
  · rename_i cache' version _
    have holds := handleUotInput_holds udp version fuel reader cache'
    cases ran : handleUotInput udp version fuel (.start reader cache') with
    | done value s left =>
        rw [ran] at holds
        exact holds.elim
    | failed e s left =>
        rw [ran] at holds
        change s.sent = _ at holds
        exact ⟨by rw [← holds]; exact List.prefix_refl _, fun _ => holds⟩
    | cut s =>
        rw [ran] at holds
        exact ⟨holds, fun ended => absurd rfl (ended s)⟩
  · exact ⟨List.prefix_refl _, fun _ => rfl⟩

/-- Nothing in the tunnel checks a destination: as long as the client names permitted
ones every datagram goes to a permitted one, and a tunnel that ran to its end has kept
the policy exactly when the client did. -/
theorem uot_egress_permitted {R : Type} [ByteSource R] (router : Router) (cache : DnsCache)
    (target : Address) (udp : UdpBehaviour) (reader : R) :
    ((∀ d ∈ tunnelAsked router cache target udp (ByteSource.rest reader), Permitted router d.dest) →
      ∀ fuel, ∀ d ∈ tunnelSends router cache target udp reader fuel, Permitted router d.dest) ∧
    ∀ fuel, TunnelEnded router cache target udp reader fuel →
      ((∀ d ∈ tunnelSends router cache target udp reader fuel, Permitted router d.dest) ↔
        ∀ d ∈ tunnelAsked router cache target udp (ByteSource.rest reader), Permitted router d.dest) := by
  constructor
  · intro asked fuel d member
    exact asked d ((tunnelSends_asked router cache target udp reader fuel).1.subset member)
  · intro fuel ended
    rw [(tunnelSends_asked router cache target udp reader fuel).2 ended]

/-- A socket that accepts everything. -/
def openUdp : UdpBehaviour := ⟨.ok (), .ok (), fun _ => .ok (), fun _ => .ok 1⟩

/-- The magic name resolves to a public address, so the tunnel opens under the block. -/
def publicDns : DnsCache := ⟨fun _ _ => .ok [.v4 ⟨9, 9, 9, 9⟩], [], fun _ => ""⟩

/-- Rules that reject UDP to port 443, as the module's own example has it. -/
def rejectQuic : AclEngine where
  compiled _ protocol port :=
    if protocol = .udp ∧ port = 443 then some (.reject ⟨fun _ => ⟨[], [], .elapsed⟩⟩) else none
  outbounds _ := none

/-- A connected session to the loopback address, and a packet to a rejected port. -/
theorem uot_reaches_loopback :
    (tunnelSends (.direct ⟨true⟩) publicDns (.domain magicV2 443) openUdp
        (PacedReader.mk [1, 0x01, 127, 0, 0, 1, 0, 53, 0, 1, 7] []) 20).map (fun d => d.dest.addr) =
      [⟨.v4 ⟨127, 0, 0, 1⟩, 53⟩] ∧
    isPrivateIp (.v4 ⟨127, 0, 0, 1⟩) = true ∧
    (tunnelSends (.acl ⟨rejectQuic, true⟩) publicDns (.domain magicV1 443) openUdp
        (PacedReader.mk [0x00, 9, 9, 9, 9, 1, 187, 0, 1, 7] []) 20).map Datagram.dest =
      [⟨"9.9.9.9", 443, ⟨.v4 ⟨9, 9, 9, 9⟩, 443⟩⟩] ∧
    (Router.acl ⟨rejectQuic, true⟩).Rejects "9.9.9.9" 443 .udp := by
  refine ⟨by decide +kernel, by decide, by decide +kernel, ?_⟩
  exact ⟨_, rfl⟩

end ServerNaive.Uot
