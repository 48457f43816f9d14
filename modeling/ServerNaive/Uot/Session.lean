import ServerNaive.Routing
import ServerNaive.Uot.Wire

/-! The request and the input loop of a UDP-over-TCP session, against the grammar of the
client's stream. The other half of the session can only stop this one earlier. -/
namespace ServerNaive.Uot
open AsyncIo StdNet

/-- A destination as the client named it, and the address it was resolved to. -/
structure Destination where
  host : String
  port : UInt16
  addr : SocketAddr
  deriving DecidableEq

structure Datagram where
  dest : Destination
  payload : Bytes
  deriving DecidableEq

/-- How the operating system answers: binding either socket, connecting it, and the
`n`-th send. -/
structure UdpBehaviour where
  bindDual : IoResult Unit
  bindV4 : IoResult Unit
  connect : SocketAddr → IoResult Unit
  send : Nat → IoResult Nat

/-- The session's state: what is left of the client's stream, the resolver, the datagrams
handed to the socket, and the uploads recorded for them. -/
structure Session (R : Type) where
  reader : R
  cache : DnsCache
  sent : List Datagram
  uploads : List Nat

section Code

variable {R : Type} [AsyncRead R]

def onReader {α : Type} (m : Task R IoError α) : Task (Session R) IoError α :=
  Task.on Session.reader (fun s reader => { s with reader }) m

def resolve (host : String) (port : UInt16) : Task (Session R) IoError Destination := do
  Task.tick
  fun fuel s => match resolveHost s.cache host port with
    | (cache, .ok addr) => .done ⟨host, port, addr⟩ { s with cache } fuel
    | (cache, .error e) => .failed e { s with cache } fuel

def sendTo (udp : UdpBehaviour) (dest : Destination) (payload : Bytes) :
    Task (Session R) IoError Nat := do
  Task.tick
  fun fuel s => match udp.send s.sent.length with
    | .ok n => .done n { s with sent := s.sent ++ [⟨dest, payload⟩] } fuel
    | .error e => .failed e { s with sent := s.sent ++ [⟨dest, payload⟩] } fuel

def recordUpload (n : Nat) : Task (Session R) IoError Unit :=
  Task.modify fun s => { s with uploads := s.uploads ++ [n] }

/-- The destination of a packet; `fixed` is the peer of a connected socket. -/
def chooseDestination (fixed : Option Destination) : Task (Session R) IoError Destination :=
  match fixed with
  | some dest => pure dest
  | none => do
      let (host, port) ← onReader readAddrParser
      resolve host port

/-- One packet of the input loop. -/
def inputPacket (udp : UdpBehaviour) (fixed : Option Destination) : Task (Session R) IoError Unit := do
  let dest ← chooseDestination fixed
  let len ← onReader Task.readU16
  if len = 0 then return ()
  let payload ← onReader (Task.readExact len.toNat)
  let n ← sendTo udp dest payload
  recordUpload n

def readRequestHead : Task R IoError (UInt8 × String × UInt16) := do
  let isConnect ← Task.readU8
  let (host, port) ← readSocksAddr
  return (isConnect, host, port)

/-- The request of the second version: the destination of a connected session. -/
def readRequest : UotVersion → Task (Session R) IoError (Option Destination)
  | .v1 => return none
  | .v2 => do
      let (isConnect, host, port) ← onReader readRequestHead
      if isConnect ≠ 0 then
        let dest ← resolve host port
        return some dest
      else return none

/-- Binds the dual-stack socket, or the plain one, and connects it. -/
def openSocket (udp : UdpBehaviour) (fixed : Option Destination) : Task (Session R) IoError Unit := do
  Task.tick
  match udp.bindDual, udp.bindV4 with
  | .error _, .error e => Task.fail e
  | _, _ => match fixed with
      | none => return ()
      | some dest => match udp.connect dest.addr with
          | .error e => Task.fail e
          | .ok () => return ()

/-- `handle_uot_stream` as far as the client's bytes go. -/
def handleUotInput (udp : UdpBehaviour) (version : UotVersion) : Task (Session R) IoError Unit := do
  let fixed ← readRequest version
  openSocket udp fixed
  Task.forever (inputPacket udp fixed)

end Code

/-! What the client's bytes ask for. -/

/-- One packet of the stream. -/
inductive Packet where
  | unreadable
  | empty (cache : DnsCache) (wire : Bytes)
  | carries (datagram : Datagram) (cache : DnsCache) (wire : Bytes)

/-- The destination of the next packet, and the stream after its address. -/
def nextDestination (fixed : Option Destination) (cache : DnsCache) (wire : Bytes) :
    Option (Destination × DnsCache × Bytes) :=
  match fixed with
  | some dest => some (dest, cache, wire)
  | none => match addrGrammar addrParser wire with
      | none => none
      | some ((host, port), wire) => match resolveHost cache host port with
          | (_, .error _) => none
          | (cache, .ok addr) => some (⟨host, port, addr⟩, cache, wire)

def nextPacket (fixed : Option Destination) (cache : DnsCache) (wire : Bytes) : Packet :=
  match nextDestination fixed cache wire with
  | none => .unreadable
  | some (dest, cache, wire) => match Grammar.u16 wire with
      | none => .unreadable
      | some (len, wire) =>
          if len = 0 then .empty cache wire
          else match Grammar.exactly len.toNat wire with
            | none => .unreadable
            | some (payload, wire) => .carries ⟨dest, payload⟩ cache wire

/-- The datagrams asked for after `sent`, up to the first packet that cannot be read,
resolved or sent. -/
def datagrams (udp : UdpBehaviour) (fixed : Option Destination) :
    Nat → List Datagram → DnsCache → Bytes → List Datagram
  | 0, sent, _, _ => sent
  | bound + 1, sent, cache, wire => match nextPacket fixed cache wire with
      | .unreadable => sent
      | .empty cache wire => datagrams udp fixed bound sent cache wire
      | .carries datagram cache wire => match udp.send sent.length with
          | .error _ => sent ++ [datagram]
          | .ok _ => datagrams udp fixed bound (sent ++ [datagram]) cache wire

/-- All that a stream asks for: a packet takes at least one byte. -/
def asksFor (udp : UdpBehaviour) (fixed : Option Destination) (sent : List Datagram) (cache : DnsCache)
    (wire : Bytes) : List Datagram := datagrams udp fixed wire.length sent cache wire

theorem nextDestination_shrinks {fixed : Option Destination} {cache cache' : DnsCache} {wire wire' : Bytes}
    {dest : Destination} (h : nextDestination fixed cache wire = some (dest, cache', wire')) :
    wire'.length ≤ wire.length := by
  unfold nextDestination at h
  split at h
  · cases h
    exact Nat.le_refl _
  · split at h
    · cases h
    · rename_i parsed
      have shorter := takes_addrGrammar addrParser _ _ _ parsed
      split at h
      · cases h
      · cases h
        omega

theorem nextPacket_shrinks (fixed : Option Destination) (cache : DnsCache) (wire : Bytes) :
    match nextPacket fixed cache wire with
    | .unreadable => True
    | .empty _ left => left.length < wire.length
    | .carries _ _ left => left.length < wire.length := by
  unfold nextPacket
  cases found : nextDestination fixed cache wire with
  | none => exact trivial
  | some got =>
      obtain ⟨dest, cache', wire'⟩ := got
      have first := nextDestination_shrinks found
      dsimp only
      cases size : Grammar.u16 wire' with
      | none => exact trivial
      | some got =>
          obtain ⟨len, rest⟩ := got
          have second := Grammar.takes_u16 _ _ _ size
          dsimp only
          split_ifs
          · change rest.length < _
            omega
          · cases body : Grammar.exactly len.toNat rest with
            | none => exact trivial
            | some got =>
                have third := Grammar.takes_exactly _ _ _ _ body
                change got.2.length < _
                omega

/-- Any bound that the stream's length allows gives the same datagrams. -/
theorem datagrams_bound (udp : UdpBehaviour) (fixed : Option Destination) {bound : Nat}
    {sent : List Datagram} {cache : DnsCache} {wire : Bytes} (enough : wire.length ≤ bound) :
    datagrams udp fixed bound sent cache wire = asksFor udp fixed sent cache wire := by
  induction bound using Nat.strong_induction_on generalizing sent cache wire with
  | _ bound ih =>
      have shrinks := nextPacket_shrinks fixed cache wire
      unfold asksFor
      cases bound with
      | zero => rw [Nat.le_zero.mp enough]
      | succ bound =>
          cases wire with
          | nil =>
              rw [datagrams, List.length_nil, datagrams]
              cases step : nextPacket fixed cache [] with
              | unreadable => rfl
              | empty cache' left =>
                  rw [step] at shrinks
                  exact absurd shrinks (Nat.not_lt_zero _)
              | carries datagram cache' left =>
                  rw [step] at shrinks
                  exact absurd shrinks (Nat.not_lt_zero _)
          | cons b wire =>
              rw [List.length_cons] at enough shrinks ⊢
              rw [datagrams, datagrams]
              cases step : nextPacket fixed cache (b :: wire) with
              | unreadable => rfl
              | empty cache' left =>
                  rw [step] at shrinks
                  change left.length < _ at shrinks
                  dsimp only
                  rw [ih bound (Nat.lt_succ_self _) (by omega), ih wire.length (by omega) (by omega)]
              | carries datagram cache' left =>
                  rw [step] at shrinks
                  change left.length < _ at shrinks
                  dsimp only
                  rw [ih bound (Nat.lt_succ_self _) (by omega), ih wire.length (by omega) (by omega)]

/-- One packet at a time. -/
theorem asksFor_step (udp : UdpBehaviour) (fixed : Option Destination) (sent : List Datagram)
    (cache : DnsCache) (wire : Bytes) :
    asksFor udp fixed sent cache wire = match nextPacket fixed cache wire with
      | .unreadable => sent
      | .empty cache wire => asksFor udp fixed sent cache wire
      | .carries datagram cache wire => match udp.send sent.length with
          | .error _ => sent ++ [datagram]
          | .ok _ => asksFor udp fixed (sent ++ [datagram]) cache wire := by
  have shrinks := nextPacket_shrinks fixed cache wire
  have more : asksFor udp fixed sent cache wire = datagrams udp fixed (wire.length + 1) sent cache wire :=
    (datagrams_bound udp fixed (Nat.le_succ _)).symm
  rw [more, datagrams]
  cases step : nextPacket fixed cache wire with
  | unreadable => rfl
  | empty cache' left =>
      rw [step] at shrinks
      exact datagrams_bound udp fixed (Nat.le_of_lt shrinks)
  | carries datagram cache' left =>
      rw [step] at shrinks
      dsimp only
      rw [datagrams_bound udp fixed (Nat.le_of_lt shrinks)]

theorem prefix_datagrams (udp : UdpBehaviour) (fixed : Option Destination) (bound : Nat)
    (sent : List Datagram) (cache : DnsCache) (wire : Bytes) :
    sent <+: datagrams udp fixed bound sent cache wire := by
  induction bound generalizing sent cache wire with
  | zero => exact List.prefix_refl sent
  | succ bound ih =>
      rw [datagrams]
      cases nextPacket fixed cache wire with
      | unreadable => exact List.prefix_refl sent
      | empty cache wire => exact ih sent cache wire
      | carries datagram cache wire =>
          dsimp only
          cases udp.send sent.length with
          | error e => exact List.prefix_append sent _
          | ok n => exact (List.prefix_append sent _).trans (ih _ cache wire)

/-! The code against the grammar. -/

section Refinement

variable {R : Type} [ByteSource R]

/-- Reading moves the reader only. -/
def ReaderOnly (s t : Session R) : Prop := t = { s with reader := t.reader }

theorem onReader_holds {α : Type} {m : Task R IoError α} {g : Grammar α} (reads : Reads m g)
    (fuel : Nat) (s : Session R) :
    (onReader m fuel s).Holds
      (fun a t => ReaderOnly s t ∧ g (ByteSource.rest s.reader) = some (a, ByteSource.rest t.reader))
      (fun _ t => ReaderOnly s t ∧ g (ByteSource.rest s.reader) = none) (ReaderOnly s) := by
  apply Task.holds_on
  exact (reads fuel s.reader).imp (fun a r h => ⟨rfl, h⟩) (fun e r h => ⟨rfl, h⟩) (fun r _ => rfl)

theorem resolveHost_eq {cache : DnsCache} {host : String} {port : UInt16} {r : IoResult SocketAddr}
    (h : (resolveHost cache host port).2 = r) :
    resolveHost cache host port = ((resolveHost cache host port).1, r) := Prod.ext rfl h

omit [ByteSource R] in
theorem resolve_holds (host : String) (port : UInt16) (fuel : Nat) (s : Session R) :
    (resolve host port fuel s).Holds
      (fun dest t => t = { s with cache := (resolveHost s.cache host port).1 } ∧
        dest = ⟨host, port, dest.addr⟩ ∧ (resolveHost s.cache host port).2 = .ok dest.addr)
      (fun e t => t = { s with cache := (resolveHost s.cache host port).1 } ∧
        (resolveHost s.cache host port).2 = .error e) (fun t => t = s) := by
  apply Task.holds_bind
  refine Task.holds_tick rfl ?_
  intro left
  cases found : resolveHost s.cache host port with
  | mk cache outcome =>
      cases outcome with
      | ok addr => simp only [Run.Holds, and_self]
      | error e => simp only [Run.Holds, and_self]

omit [ByteSource R] in
/-- The datagram is handed over in any case; the answer decides how the packet ends. -/
theorem sendTo_holds (udp : UdpBehaviour) (dest : Destination) (payload : Bytes) (fuel : Nat)
    (s : Session R) :
    (sendTo udp dest payload fuel s).Holds
      (fun n t => udp.send s.sent.length = .ok n ∧ t = { s with sent := s.sent ++ [⟨dest, payload⟩] })
      (fun e t => udp.send s.sent.length = .error e ∧ t = { s with sent := s.sent ++ [⟨dest, payload⟩] })
      (fun t => t = s) := by
  apply Task.holds_bind
  refine Task.holds_tick rfl ?_
  intro left
  cases answer : udp.send s.sent.length with
  | ok n => simp only [Run.Holds, and_self]
  | error e => simp only [Run.Holds, and_self]

theorem chooseDestination_holds (fixed : Option Destination) (fuel : Nat) (s : Session R) :
    (chooseDestination fixed fuel s).Holds
      (fun dest t => t.sent = s.sent ∧ nextDestination fixed s.cache (ByteSource.rest s.reader) =
        some (dest, t.cache, ByteSource.rest t.reader))
      (fun _ t => t.sent = s.sent ∧ nextDestination fixed s.cache (ByteSource.rest s.reader) = none)
      (fun t => t.sent = s.sent) := by
  cases fixed with
  | some dest => exact Task.holds_pure ⟨rfl, rfl⟩
  | none =>
      apply Task.holds_bind
      refine (onReader_holds (reads_readAddr addrParser) fuel s).imp ?_ ?_ ?_
      · rintro ⟨host, port⟩ t ⟨only, parsed⟩ left
        have sent : t.sent = s.sent := by rw [only]
        have cache : t.cache = s.cache := by rw [only]
        refine (resolve_holds host port left t).imp ?_ ?_ ?_
        · rintro dest u ⟨same, shape, found⟩
          rw [cache] at same found
          refine ⟨by rw [same]; exact sent, ?_⟩
          rw [nextDestination, parsed, same]
          dsimp only
          rw [resolveHost_eq found]
          dsimp only
          rw [← shape]
        · rintro e u ⟨same, failed⟩
          rw [cache] at failed
          refine ⟨by rw [same]; exact sent, ?_⟩
          rw [nextDestination, parsed]
          dsimp only
          rw [resolveHost_eq failed]
        · rintro u rfl
          exact sent
      · rintro e t ⟨only, unmatched⟩
        refine ⟨by rw [only], ?_⟩
        rw [nextDestination, unmatched]
      · intro t only
        rw [only]

/-- One round of the input loop does what the next packet asks for. -/
theorem inputPacket_holds (udp : UdpBehaviour) (fixed : Option Destination) (fuel : Nat) (s : Session R) :
    (inputPacket udp fixed fuel s).Holds
      (fun _ t => match nextPacket fixed s.cache (ByteSource.rest s.reader) with
        | .unreadable => False
        | .empty cache wire => t.sent = s.sent ∧ t.cache = cache ∧ ByteSource.rest t.reader = wire
        | .carries datagram cache wire => (∃ n, udp.send s.sent.length = .ok n) ∧
            t.sent = s.sent ++ [datagram] ∧ t.cache = cache ∧ ByteSource.rest t.reader = wire)
      (fun _ t => match nextPacket fixed s.cache (ByteSource.rest s.reader) with
        | .unreadable => t.sent = s.sent
        | .empty _ _ => False
        | .carries datagram _ _ => (∃ e, udp.send s.sent.length = .error e) ∧
            t.sent = s.sent ++ [datagram])
      (fun t => t.sent = s.sent) := by
  apply Task.holds_bind
  refine (chooseDestination_holds fixed fuel s).imp ?_ ?_ (fun _ kept => kept)
  · rintro dest t ⟨sentT, found⟩ left
    apply Task.holds_bind
    refine (onReader_holds reads_readU16 left t).imp ?_ ?_ ?_
    · rintro len u ⟨only, size⟩ left
      have sentU : u.sent = s.sent := by rw [only]; exact sentT
      have cacheU : u.cache = t.cache := by rw [only]
      by_cases none_sent : len = 0
      · simp only [none_sent, if_true]
        apply Task.holds_pure
        rw [nextPacket, found]
        simp only [size, none_sent, if_true]
        exact ⟨sentU, cacheU, trivial⟩
      · simp only [none_sent, if_false]
        apply Task.holds_bind
        refine (onReader_holds (reads_readExact len.toNat) left u).imp ?_ ?_ ?_
        · rintro payload v ⟨only, body⟩ left
          have sentV : v.sent = s.sent := by rw [only]; exact sentU
          have cacheV : v.cache = t.cache := by rw [only]; exact cacheU
          have packet : nextPacket fixed s.cache (ByteSource.rest s.reader) =
              .carries ⟨dest, payload⟩ v.cache (ByteSource.rest v.reader) := by
            rw [nextPacket, found]
            simp only [size, none_sent, if_false, body, cacheV]
          simp only [packet]
          apply Task.holds_bind
          refine (sendTo_holds udp dest payload left v).imp ?_ ?_ ?_
          · rintro n w ⟨answer, same⟩ left
            rw [sentV] at answer
            apply Task.holds_pure
            refine ⟨⟨n, answer⟩, ?_, ?_, ?_⟩ <;> rw [same]
            rw [sentV]
          · rintro e w ⟨answer, same⟩
            rw [sentV] at answer
            refine ⟨⟨e, answer⟩, ?_⟩
            rw [same, sentV]
          · rintro w rfl
            exact sentV
        · rintro e v ⟨only, short⟩
          rw [nextPacket, found]
          simp only [size, none_sent, if_false, short]
          rw [only]
          exact sentU
        · intro v only
          rw [only]
          exact sentU
    · rintro e u ⟨only, short⟩
      rw [nextPacket, found]
      simp only [short]
      rw [only]
      exact sentT
    · intro u only
      rw [only]
      exact sentT
  · rintro e t ⟨sentT, unreadable⟩
    rw [nextPacket, unreadable]
    exact sentT

/-- The input loop hands over what the stream asks for, in order, and all of it unless
it is stopped. -/
theorem inputLoop_holds {α : Type} (udp : UdpBehaviour) (fixed : Option Destination) (fuel : Nat)
    (s : Session R) :
    ((Task.forever (inputPacket udp fixed) : Task (Session R) IoError α) fuel s).Holds (fun _ _ => False)
      (fun _ t => t.sent = asksFor udp fixed s.sent s.cache (ByteSource.rest s.reader))
      (fun t => t.sent <+: asksFor udp fixed s.sent s.cache (ByteSource.rest s.reader)) := by
  apply Task.holds_forever (I := fun t => asksFor udp fixed t.sent t.cache (ByteSource.rest t.reader) =
    asksFor udp fixed s.sent s.cache (ByteSource.rest s.reader))
  · intro fuel t same
    have step := asksFor_step udp fixed t.sent t.cache (ByteSource.rest t.reader)
    refine (inputPacket_holds udp fixed fuel t).imp ?_ ?_ ?_
    · intro _ u next
      rw [← same, step]
      cases packet : nextPacket fixed t.cache (ByteSource.rest t.reader) with
      | unreadable =>
          rw [packet] at next
          exact next.elim
      | empty cache wire =>
          rw [packet] at next
          obtain ⟨sent, rfl, rfl⟩ := next
          rw [sent]
      | carries datagram cache wire =>
          rw [packet] at next
          obtain ⟨⟨n, answer⟩, sent, rfl, rfl⟩ := next
          rw [sent]
          simp only [answer]
    · intro _ u ended
      rw [← same, step]
      cases packet : nextPacket fixed t.cache (ByteSource.rest t.reader) with
      | unreadable =>
          rw [packet] at ended
          exact ended
      | empty cache wire =>
          rw [packet] at ended
          exact ended.elim
      | carries datagram cache wire =>
          rw [packet] at ended
          obtain ⟨⟨e, answer⟩, sent⟩ := ended
          rw [sent]
          simp only [answer]
    · intro u kept
      rw [kept, ← same]
      exact prefix_datagrams _ _ _ _ _ _
  · intro t same
    rw [← same]
    exact prefix_datagrams _ _ _ _ _ _
  · rfl

end Refinement

end ServerNaive.Uot
