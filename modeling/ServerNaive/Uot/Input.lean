import ServerNaive.Async.Credit
import ServerNaive.Uot.Egress
import ServerNaive.Uot.RoundTrip

/-! The input side of a session against its grammar, for any stream and any chunking of it: what it
sends is what the stream asks for, and it gets to the end of it. -/
namespace ServerNaive.Uot
open AsyncIo StdNet

/-! The grammar of an address, form by form. -/

inductive AddrForm (codes : AddrCodes) : Bytes → String → UInt16 → Prop
  | ipv4 (ip : Ipv4Addr) (port : UInt16) :
      AddrForm codes (codes.ipv4 :: (ip.octets ++ be16 port.toNat)) ip.toString port
  | ipv6 (ip : Ipv6Addr) (port : UInt16) :
      AddrForm codes (codes.ipv6 :: (ipv6Octets ip ++ be16 port.toNat)) ip.toString port
  | fqdn (len : UInt8) {domain : Bytes} {name : String} (size : domain.length = len.toNat)
      (text : fromUtf8 domain = some name) (port : UInt16) :
      AddrForm codes (codes.fqdn :: len :: (domain ++ be16 port.toNat)) name port

/-- No two forms have the same type byte. -/
def AddrCodes.Distinct (codes : AddrCodes) : Prop :=
  codes.ipv4 ≠ codes.ipv6 ∧ codes.ipv4 ≠ codes.fqdn ∧ codes.ipv6 ≠ codes.fqdn

theorem ipv4_of_octets {bs : Bytes} (size : bs.length = 4) :
    ∃ ip : Ipv4Addr, ip.octets = bs ∧ octetsText bs = ip.toString := by
  match bs, size with
  | [a, b, c, d], _ => exact ⟨⟨a, b, c, d⟩, rfl, rfl⟩

theorem ipv6_of_octets {bs : Bytes} (size : bs.length = 16) :
    ∃ ip : Ipv6Addr, ipv6Octets ip = bs ∧ ipv6Text bs = ip.toString := by
  match bs, size with
  | [a, b, c, d, e, f, g, h, i, j, k, l, m, n, o, p], _ =>
      refine ⟨_, ?_, rfl⟩
      simp only [ipv6Octets, List.flatMap_cons, List.flatMap_nil, Ipv4Addr.pair, be16_ofBe16, List.cons_append,
        List.nil_append]

/-- Octets of an address and a port behind them. -/
theorem of_octets_eq_some {n : Nat} {text : Bytes → String} {wire rest : Bytes} {host : String} {port : UInt16}
    (parsed : (do
      let ip ← Grammar.exactly n
      let port ← Grammar.u16
      return (text ip, port) : Grammar (String × UInt16)) wire = some ((host, port), rest)) :
    ∃ bs, bs.length = n ∧ text bs = host ∧ wire = bs ++ (be16 port.toNat ++ rest) := by
  obtain ⟨ip, mid, octets, tail⟩ := Grammar.bind_eq_some parsed
  obtain ⟨size, rfl⟩ := Grammar.of_exactly_eq_some octets
  obtain ⟨number, mid, digits, ended⟩ := Grammar.bind_eq_some tail
  obtain rfl := Grammar.of_u16_eq_some digits
  obtain ⟨same, rfl⟩ := Grammar.of_pure_eq_some ended
  cases same
  exact ⟨ip, size, rfl, rfl⟩

/-- An address is read just when the stream starts with one of its three forms. -/
theorem addrGrammar_iff {codes : AddrCodes} (distinct : codes.Distinct) (wire rest : Bytes) (host : String)
    (port : UInt16) : addrGrammar codes wire = some ((host, port), rest) ↔
      ∃ bs, AddrForm codes bs host port ∧ wire = bs ++ rest := by
  constructor
  · intro parsed
    obtain ⟨ty, mid, first, branch⟩ := Grammar.bind_eq_some parsed
    obtain rfl := Grammar.of_u8_eq_some first
    split_ifs at branch with ipv4 ipv6 fqdn
    · obtain ⟨octets, size, same, rfl⟩ := of_octets_eq_some branch
      obtain ⟨addr, rfl, text⟩ := ipv4_of_octets size
      rw [text] at same
      cases same
      refine ⟨_, .ipv4 addr port, ?_⟩
      rw [ipv4, List.cons_append, List.append_assoc]
    · obtain ⟨octets, size, same, rfl⟩ := of_octets_eq_some branch
      obtain ⟨addr, rfl, text⟩ := ipv6_of_octets size
      rw [text] at same
      cases same
      refine ⟨_, .ipv6 addr port, ?_⟩
      rw [ipv6, List.cons_append, List.append_assoc]
    · obtain ⟨len, mid, count, tail⟩ := Grammar.bind_eq_some branch
      obtain rfl := Grammar.of_u8_eq_some count
      obtain ⟨domain, mid, letters, after⟩ := Grammar.bind_eq_some tail
      obtain ⟨size, rfl⟩ := Grammar.of_exactly_eq_some letters
      obtain ⟨number, mid, digits, ended⟩ := Grammar.bind_eq_some after
      obtain rfl := Grammar.of_u16_eq_some digits
      cases text : fromUtf8 domain with
      | none =>
          rw [text] at ended
          cases ended
      | some name =>
          rw [text] at ended
          obtain ⟨same, rfl⟩ := Grammar.of_pure_eq_some ended
          cases same
          refine ⟨_, .fqdn len size text port, ?_⟩
          rw [fqdn, List.cons_append, List.cons_append, List.append_assoc]
    · cases branch
  · rintro ⟨bs, form, rfl⟩
    obtain ⟨four, four', six⟩ := distinct
    suffices read : (addrGrammar codes).Parses bs (host, port) from read rest
    cases form with
    | ipv4 ip port =>
        change Grammar.Parses _ ([codes.ipv4] ++ _) (octetsText ip.octets, port)
        refine (Grammar.parses_u8 codes.ipv4).bind ?_
        rw [if_pos rfl]
        refine (Grammar.parses_exactly (show ip.octets.length = 4 from rfl)).bind ?_
        exact (Grammar.parses_u16 port).map fun port => (octetsText ip.octets, port)
    | ipv6 ip port =>
        have text : ipv6Text (ipv6Octets ip) = ip.toString := by
          rw [ipv6Text, ofOctets_ipv6Octets]
          rfl
        change Grammar.Parses _ ([codes.ipv6] ++ _) _
        refine (Grammar.parses_u8 codes.ipv6).bind ?_
        rw [if_neg four.symm, if_pos rfl, ← text]
        refine (Grammar.parses_exactly (length_ipv6Octets ip)).bind ?_
        exact (Grammar.parses_u16 port).map fun port => (ipv6Text (ipv6Octets ip), port)
    | @fqdn len domain name size text port =>
        change Grammar.Parses _ ([codes.fqdn] ++ ([len] ++ _)) _
        refine (Grammar.parses_u8 codes.fqdn).bind ?_
        rw [if_neg four'.symm, if_neg six.symm, if_pos rfl]
        refine (Grammar.parses_u8 len).bind ((Grammar.parses_exactly size).bind ?_)
        simp only [text]
        exact (Grammar.parses_u16 port).map fun port => (host, port)

/-! Every byte pays for its own poll and for one more, so a session is never stuck. -/

section Credit

variable {R : Type} [ByteSource R]

def Session.credit (s : Session (Traced R)) : Int := readCredit s.reader

theorem earns_readAddr (codes : AddrCodes) :
    Earns readCredit 1 (readAddr codes : Task (Traced R) IoError (String × UInt16)) := by
  -- the type byte pays; what follows costs nothing
  refine (earns_readU8.bind (k := 0) (fun ty => ?_) (.inr le_rfl)).weaken le_rfl
  have literal (size : Nat) (text : Bytes → String) : Earns readCredit 0
      (do let ip ← Task.readExact size
          let port ← Task.readU16
          return (text ip, port) : Task (Traced R) IoError (String × UInt16)) := by
    refine ((earns_readExact size).bind (fun ip => ?_) (.inl (Int.natCast_nonneg size))).weaken
      (Int.add_nonneg (Int.natCast_nonneg size) le_rfl)
    exact (earns_readU16.bind (fun port => earns_pure _) (.inr le_rfl)).weaken (by omega)
  split_ifs
  · exact literal 4 octetsText
  · exact literal 16 ipv6Text
  · refine (earns_readU8.bind (k := 0) (fun len => ?_) (.inr le_rfl)).weaken (by omega)
    refine ((earns_readExact len.toNat).bind (k := 0) (fun domain => ?_) (.inr le_rfl)).weaken (by omega)
    refine (earns_readU16.bind (k := 0) (fun port => ?_) (.inr le_rfl)).weaken (by omega)
    cases fromUtf8 domain with
    | none => exact earns_fail _ _
    | some name => exact earns_pure _
  · exact earns_fail _ _

theorem earns_onReader {α : Type} {k : Int} {m : Task (Traced R) IoError α} (earns : Earns readCredit k m) :
    Earns Session.credit k (onReader m) :=
  earns_on (fun _ _ => rfl) earns

/-- Looking a name up and sending a datagram cost a poll. -/
theorem earns_resolve (host : String) (port : UInt16) :
    Earns Session.credit (-1) (resolve host port : Task (Session (Traced R)) IoError Destination) := by
  refine earns_tick.bind (k := 0) (fun _ fuel s => ?_) (.inr le_rfl)
  cases resolveHost s.cache host port with
  | mk cache outcome =>
      cases outcome with
      | ok addr => exact ⟨le_rfl, by rw [Int.add_zero]; exact le_rfl⟩
      | error e => exact trivial

theorem earns_sendTo (udp : UdpBehaviour) (dest : Destination) (payload : Bytes) :
    Earns Session.credit (-1) (sendTo udp dest payload : Task (Session (Traced R)) IoError Nat) := by
  refine earns_tick.bind (k := 0) (fun _ fuel s => ?_) (.inr le_rfl)
  cases udp.send s.sent.length with
  | ok n => exact ⟨le_rfl, by rw [Int.add_zero]; exact le_rfl⟩
  | error e => exact trivial

theorem earns_recordUpload (n : Nat) :
    Earns Session.credit 0 (recordUpload n : Task (Session (Traced R)) IoError Unit) :=
  earns_modify fun _ => rfl

theorem earns_chooseDestination (fixed : Option Destination) :
    Earns Session.credit 0 (chooseDestination fixed : Task (Session (Traced R)) IoError Destination) := by
  cases fixed with
  | some dest => exact earns_pure dest
  | none =>
      exact (earns_onReader (earns_readAddr addrParser)).bind (fun named => earns_resolve named.1 named.2)
        (.inr (by omega))

theorem earns_inputPacket (udp : UdpBehaviour) (fixed : Option Destination) :
    Earns Session.credit 1 (inputPacket udp fixed : Task (Session (Traced R)) IoError Unit) := by
  refine ((earns_chooseDestination fixed).bind (k := 1) (fun dest => ?_) (.inl le_rfl)).weaken (by omega)
  have size : Earns Session.credit 2 (onReader Task.readU16 : Task (Session (Traced R)) IoError UInt16) :=
    earns_onReader earns_readU16
  refine size.bind (k := -1) (fun len => ?_) (.inr (by omega))
  split_ifs
  · exact (earns_pure ()).weaken (by omega)
  · refine ((earns_onReader (earns_readExact len.toNat)).bind (k := -1) (fun payload => ?_) (.inr (by omega))).weaken
      (by omega)
    exact (earns_sendTo udp dest payload).bind earns_recordUpload (.inr le_rfl)

theorem earns_readRequest (version : UotVersion) :
    Earns Session.credit 0 (readRequest version : Task (Session (Traced R)) IoError (Option Destination)) := by
  cases version with
  | v1 => exact earns_pure none
  | v2 =>
      have head : Earns readCredit 2 (readRequestHead : Task (Traced R) IoError (UInt8 × String × UInt16)) :=
        earns_readU8.bind (k := 1) (fun _ => (earns_readAddr socksaddrSerializer).bind (fun _ => earns_pure _)
          (.inr le_rfl)) (.inl (by omega))
      refine ((earns_onReader head).bind (k := -1) (fun asked => ?_) (.inr (by omega))).weaken (by omega)
      obtain ⟨isConnect, host, port⟩ := asked
      dsimp only
      split_ifs
      · exact (earns_resolve _ _).bind (fun dest => earns_pure _) (.inr le_rfl)
      · exact (earns_pure none).weaken (by omega)

theorem earns_openSocket (udp : UdpBehaviour) (fixed : Option Destination) :
    Earns Session.credit (-1) (openSocket udp fixed : Task (Session (Traced R)) IoError Unit) := by
  refine earns_tick.bind (k := 0) (fun _ => ?_) (.inr le_rfl)
  split
  · exact earns_fail _ _
  · split
    · exact earns_pure ()
    · split
      · exact earns_fail _ _
      · exact earns_pure ()

theorem earns_handleUotInput (udp : UdpBehaviour) (version : UotVersion) :
    Earns Session.credit (-1) (handleUotInput udp version : Task (Session (Traced R)) IoError Unit) := by
  refine ((earns_readRequest version).bind (k := -1) (fun fixed => ?_) (.inl le_rfl)).weaken (by omega)
  exact (earns_openSocket udp fixed).bind (fun _ => earns_forever (earns_inputPacket udp fixed)) (.inr le_rfl)

end Credit

/-! What is sent. -/

/-- Nothing is handed over after a datagram that could not be sent. -/
theorem length_datagrams_le {udp : UdpBehaviour} {n : Nat} {e : IoError} (fails : udp.send n = .error e)
    (fixed : Option Destination) (bound : Nat) {sent : List Datagram} (few : sent.length ≤ n) (cache : DnsCache)
    (wire : Bytes) : (datagrams udp fixed bound sent cache wire).length ≤ n + 1 := by
  induction bound generalizing sent cache wire with
  | zero => exact few.trans (Nat.le_succ n)
  | succ bound ih =>
      rw [datagrams]
      cases nextPacket fixed cache wire with
      | unreadable => exact few.trans (Nat.le_succ n)
      | empty cache wire => exact ih few cache wire
      | carries datagram cache wire =>
          dsimp only
          cases answer : udp.send sent.length with
          | error failure =>
              dsimp only
              rw [List.length_append, List.length_singleton]
              omega
          | ok k =>
              have before : sent.length ≠ n := fun same => by
                rw [same, fails] at answer
                cases answer
              apply ih
              rw [List.length_append, List.length_singleton]
              omega

theorem length_egress_le {udp : UdpBehaviour} {n : Nat} {e : IoError} (fails : udp.send n = .error e)
    (version : UotVersion) (cache : DnsCache) (wire : Bytes) : (egress udp version cache wire).length ≤ n + 1 := by
  unfold egress
  split
  · exact Nat.zero_le _
  · split_ifs
    · exact length_datagrams_le fails _ _ (show ([] : List Datagram).length ≤ n from Nat.zero_le n) _ _
    · exact Nat.zero_le _

/-- The input side of a session on a stream that gives its bytes in any chunks. -/
def inputSide {R : Type} [ByteSource R] (udp : UdpBehaviour) (version : UotVersion) (cache : DnsCache) (reader : R)
    (fuel : Nat) : Run (Session (Traced R)) IoError Unit :=
  handleUotInput udp version fuel (.start (.start reader) cache)

/-- The input side never returns: it hands over what its stream asks for, in order, and stops with an
error at the first packet that cannot be read, resolved or sent. It gets there once it was polled more
often than twice for every byte and once for every wait. -/
theorem uot_input_exact (udp : UdpBehaviour) (version : UotVersion) (cache : DnsCache) :
    (∀ {R : Type} [ByteSource R] (reader : R) (fuel : Nat),
      (inputSide udp version cache reader fuel).Holds (fun _ _ => False)
        (fun _ t => t.sent = egress udp version cache (ByteSource.rest reader))
        (fun t => t.sent <+: egress udp version cache (ByteSource.rest reader) ∧
          fuel ≤ 2 * (ByteSource.rest reader).length + readWaits t.reader.calls + 1)) ∧
    (∀ n e, udp.send n = .error e → ∀ wire, (egress udp version cache wire).length ≤ n + 1) ∧
    (∀ {R S : Type} [ByteSource R] [ByteSource S] (reader : R) (other : S) (fuel fuel' left left' : Nat)
      (e e' : IoError) (s : Session (Traced R)) (t : Session (Traced S)),
      ByteSource.rest reader = ByteSource.rest other → inputSide udp version cache reader fuel = .failed e s left →
        inputSide udp version cache other fuel' = .failed e' t left' → s.sent = t.sent) ∧
    ∀ codes ∈ [socksaddrSerializer, addrParser], ∀ wire rest host port,
      addrGrammar codes wire = some ((host, port), rest) ↔ ∃ bs, AddrForm codes bs host port ∧ wire = bs ++ rest := by
  have exact {R : Type} [ByteSource R] (reader : R) (fuel : Nat) :
      (inputSide udp version cache reader fuel).Holds (fun _ _ => False)
        (fun _ t => t.sent = egress udp version cache (ByteSource.rest reader))
        (fun t => t.sent <+: egress udp version cache (ByteSource.rest reader)) :=
    handleUotInput_holds udp version fuel (Traced.start reader) cache
  refine ⟨?_, ?_, ?_, ?_⟩
  · intro R _ reader fuel
    have sends := exact reader fuel
    have earns := earns_handleUotInput udp version fuel (Session.start (Traced.start reader) cache)
    cases ran : inputSide udp version cache reader fuel with
    | done value t left =>
        rw [ran] at sends
        exact sends
    | failed e t left =>
        rw [ran] at sends
        exact sends
    | cut t =>
        rw [ran] at sends
        refine ⟨sends, ?_⟩
        rw [show handleUotInput udp version fuel _ = _ from ran] at earns
        change (fuel : Int) + (0 - 2 * ((ByteSource.rest reader).length : Int)) + min (-1) 0 ≤
          readWaits t.reader.calls - 2 * ((ByteSource.rest t.reader).length : Int) at earns
        omega
  · intro n e fails wire
    exact length_egress_le fails version cache wire
  · intro R S _ _ reader other fuel fuel' left left' e e' s t same ran ran'
    have first := exact reader fuel
    have second := exact other fuel'
    rw [ran] at first
    rw [ran'] at second
    exact (first.trans (by rw [same])).trans second.symm
  · intro codes member
    have distinct : codes.Distinct := by
      rcases List.mem_pair.mp member with rfl | rfl <;> exact ⟨by decide, by decide, by decide⟩
    exact addrGrammar_iff distinct

/-- The second send fails. -/
def secondFails : UdpBehaviour :=
  { openUdp with send := fun n => if n = 1 then .error ⟨.other, "network is unreachable"⟩ else .ok 1 }

/-- A packet, an empty one to a name, and two more. -/
def fourPackets : Bytes :=
  [0x00, 9, 9, 9, 9, 0, 53, 0, 1, 7] ++ [0x02, 1, 97, 0, 53, 0, 0] ++ [0x00, 9, 9, 9, 9, 0, 53, 0, 1, 8] ++
    [0x00, 9, 9, 9, 9, 0, 53, 0, 1, 9]

theorem uot_input_exact_fourPackets :
    (inputSide secondFails .v1 publicDns (PacedReader.mk fourPackets [0, 3, 0, 1]) 60).state.sent.map
        Datagram.payload = [[7], [8]] ∧
      (egress secondFails .v1 publicDns fourPackets).map Datagram.payload = [[7], [8]] ∧
      (egress secondFails .v1 publicDns fourPackets).length ≤ 1 + 1 :=
  ⟨by decide +kernel, by decide +kernel, (uot_input_exact secondFails .v1 publicDns).2.1 1 _ rfl fourPackets⟩

end ServerNaive.Uot
