import ServerNaive.Async.Resume
import ServerNaive.Async.Routine
import ServerNaive.Async.Schedule
import ServerNaive.Core.Connection
import ServerNaive.Uot.Output
import ServerNaive.Uot.Session

/-! What a UDP-over-TCP session records. The blocks of `handle_uot_stream` are given await by await, and
the session is run with its two halves in any order, any answers, and the cancel token at any time. -/
namespace ServerNaive.Uot
open AsyncIo StdNet Routine

/-- What the session awaits before its loops and in its input half. The peer of a connected socket is
implicit in the source. -/
inductive InputAwait where
  | readU8
  | readSocksAddr
  | resolveHost (host : String) (port : UInt16)
  | bindDual
  | bindV4
  | connect (addr : SocketAddr)
  | readAddrParser
  | readU16
  | readExact (n : Nat)
  | send (payload : Bytes) (peer : Destination)
  | sendTo (payload : Bytes) (dest : Destination)

@[reducible] def InputAwait.Answer : InputAwait → Type
  | .readU8 => UInt8
  | .readSocksAddr => String × UInt16
  | .resolveHost _ _ => SocketAddr
  | .bindDual => Unit
  | .bindV4 => Unit
  | .connect _ => Unit
  | .readAddrParser => String × UInt16
  | .readU16 => UInt16
  | .readExact _ => Bytes
  | .send _ _ => Nat
  | .sendTo _ _ => Nat

/-- A call of `write_uot_packet`. -/
structure PacketWrite where
  source : SocketAddr
  data : Bytes
  isConnect : Bool
  deriving DecidableEq

/-- A call of `record_upload` or of `record_download`. -/
structure Recorded where
  user : UserId
  bytes : Nat
  deriving DecidableEq

abbrev inputAwaits : Awaits := ⟨InputAwait, InputAwait.Answer, Recorded⟩

abbrev outputAwaits : Awaits := ⟨PacketWrite, fun _ => Unit, Recorded⟩

section Blocks

def await (q : InputAwait) : Routine inputAwaits q.Answer := attempt (S := inputAwaits) q

/-- The request of the second version: the peer of a connected session. -/
def requestBlock : UotVersion → Routine inputAwaits (Option Destination)
  | .v1 => return none
  | .v2 => do
      let isConnect : UInt8 ← await .readU8
      let (host, port) : String × UInt16 ← await .readSocksAddr
      if isConnect ≠ 0 then
        let addr : SocketAddr ← await (.resolveHost host port)
        return some ⟨host, port, addr⟩
      else return none

def bindBlock : Routine inputAwaits Unit := do
  let bound : IoResult Unit ← ask (S := inputAwaits) InputAwait.bindDual
  match bound with
  | .ok () => return ()
  | .error _ => await .bindV4

def connectBlock : Option Destination → Routine inputAwaits Unit
  | none => return ()
  | some dest => await (.connect dest.addr)

/-- Everything before the loops. -/
def openBlock (version : UotVersion) : Routine inputAwaits (Option Destination) := do
  let fixed ← requestBlock version
  bindBlock
  connectBlock fixed
  return fixed

def destinationBlock : Option Destination → Routine inputAwaits Destination
  | some dest => return dest
  | none => do
      let (host, port) : String × UInt16 ← await .readAddrParser
      let addr : SocketAddr ← await (.resolveHost host port)
      return ⟨host, port, addr⟩

def sendBlock (payload : Bytes) (dest : Destination) : Bool → Routine inputAwaits Nat
  | true => await (.send payload dest)
  | false => await (.sendTo payload dest)

/-- The `next` of the input loop. -/
def inputNext (user : UserId) (fixed : Option Destination) : Routine inputAwaits Unit := do
  let dest ← destinationBlock fixed
  let len : UInt16 ← await .readU16
  if len = 0 then return ()
  let payload : Bytes ← await (.readExact len.toNat)
  let sent ← sendBlock payload dest fixed.isSome
  tell (S := inputAwaits) ⟨user, sent⟩

/-- The arm of the output loop that `recv_from` wakes up; `false` leaves the loop. -/
def outputArm (user : UserId) (isConnect : Bool) : IoResult Received → Routine outputAwaits Bool
  | .error _ => return false
  | .ok datagram => do
      let written ← ask (S := outputAwaits) ⟨datagram.source, datagram.data, isConnect⟩
      match written with
      | .error _ => return false
      | .ok _ => do
          tell (S := outputAwaits) ⟨user, datagram.data.length⟩
          return true

end Blocks

/-! The session. -/

/-- Where the output half is; a packet that is being written is not raced against the tokens. -/
inductive OutputPoint where
  | waiting
  | handling (r : Routine outputAwaits Bool)
  | closing
  | stopped

/-- An input half that has left its loop is `none`. -/
inductive UotStage where
  | opening (r : Routine inputAwaits (Option Destination))
  | looping (fixed : Option Destination) (input : Option (Routine inputAwaits Unit)) (output : OutputPoint)
      (inner : Bool)
  | returned (result : IoResult Unit)

/-- The session with the answers it got so far and the calls it made, on either side. -/
structure UotTask where
  up : Log inputAwaits
  down : Log outputAwaits
  cancelled : Bool
  stage : UotStage

inductive UotEvent where
  | kick
  | opening (oracle : Oracle inputAwaits)
  | input (oracle : Oracle inputAwaits)
  | received (result : IoResult Received)
  | output (oracle : Oracle outputAwaits)
  | cancelInput
  | endInput
  | cancelOutput
  | endOutput
  | closed
  | joined

namespace UotStage

def opened (user : UserId) : Routine inputAwaits (Option Destination) → UotStage
  | .done fixed => .looping fixed (some (inputNext user fixed)) .waiting false
  | .failed e => .returned (.error e)
  | r => .opening r

/-- After a poll of `next`: its end starts the next packet, its error ends both halves. -/
def afterInput (user : UserId) (fixed : Option Destination) (output : OutputPoint) (inner : Bool) :
    Routine inputAwaits Unit → UotStage
  | .done () => .looping fixed (some (inputNext user fixed)) output inner
  | .failed _ => .looping fixed none output true
  | r => .looping fixed (some r) output inner

def afterOutput (fixed : Option Destination) (input : Option (Routine inputAwaits Unit)) (inner : Bool) :
    Routine outputAwaits Bool → UotStage
  | .done true => .looping fixed input .waiting inner
  | .done false => .looping fixed input .closing true
  | .failed _ => .looping fixed input .closing true
  | r => .looping fixed input (.handling r) inner

end UotStage

namespace UotTask

def start (version : UotVersion) : UotTask := ⟨⟨[], []⟩, ⟨[], []⟩, false, .opening (openBlock version)⟩

/-- An answer to what the input side awaits. -/
def resumeInput (s : UotTask) {α : Type} (oracle : Oracle inputAwaits) (r : Routine inputAwaits α)
    (next : Routine inputAwaits α → UotStage) : UotTask :=
  { s with up := (r.resume oracle s.up).1, stage := next (r.resume oracle s.up).2 }

def resumeOutput (s : UotTask) (oracle : Oracle outputAwaits) (r : Routine outputAwaits Bool)
    (next : Routine outputAwaits Bool → UotStage) : UotTask :=
  { s with down := (r.resume oracle s.down).1, stage := next (r.resume oracle s.down).2 }

/-- The first poll of an arm, up to its first await. -/
def enterOutput (s : UotTask) (r : Routine outputAwaits Bool) (next : Routine outputAwaits Bool → UotStage) : UotTask :=
  { s with down := { s.down with calls := s.down.calls ++ r.settle.1 }, stage := next r.settle.2 }

/-- A step while the halves run. -/
def inLoops (user : UserId) (s : UotTask) (fixed : Option Destination) (input : Option (Routine inputAwaits Unit))
    (output : OutputPoint) (inner : Bool) : UotEvent → Option UotTask
  | .input oracle => match input with
      | some r => some (s.resumeInput oracle r (.afterInput user fixed output inner))
      | none => none
  | .received result => match output with
      | .waiting => some (s.enterOutput (outputArm user fixed.isSome result) (.afterOutput fixed input inner))
      | _ => none
  | .output oracle => match output with
      | .handling r => some (s.resumeOutput oracle r (.afterOutput fixed input inner))
      | _ => none
  | .cancelInput =>
      if s.cancelled && input.isSome then some { s with stage := .looping fixed none output true } else none
  | .endInput => if inner && input.isSome then some { s with stage := .looping fixed none output inner } else none
  | .cancelOutput => match output with
      | .waiting => if s.cancelled then some { s with stage := .looping fixed input .closing true } else none
      | _ => none
  | .endOutput => match output with
      | .waiting => if inner then some { s with stage := .looping fixed input .closing inner } else none
      | _ => none
  | .closed => match output with
      | .closing => some { s with stage := .looping fixed input .stopped inner }
      | _ => none
  | .joined => match input, output with
      | none, .stopped => some { s with stage := .returned (.ok ()) }
      | _, _ => none
  | _ => none

def step (user : UserId) (s : UotTask) : UotEvent → Option UotTask
  | .kick => some { s with cancelled := true }
  | .opening oracle => match s.stage with
      | .opening r => some (s.resumeInput oracle r (.opened user))
      | _ => none
  | event => match s.stage with
      | .looping fixed input output inner => s.inLoops user fixed input output inner event
      | _ => none

end UotTask

/-! What is due for an answer. -/

/-- What a successful send returned. -/
def sentBytes : (q : InputAwait) → IoResult q.Answer → Option Nat
  | .send _ _, .ok n => some n
  | .sendTo _ _, .ok n => some n
  | _, _ => none

/-- The payload of a packet that was written. -/
def writtenBytes (packet : PacketWrite) : IoResult Unit → Option Nat
  | .ok _ => some packet.data.length
  | .error _ => none

def uploadDue (user : UserId) (q : InputAwait) (answer : IoResult q.Answer) : List Recorded :=
  ((sentBytes q answer).map (Recorded.mk user)).toList

def downloadDue (user : UserId) (packet : PacketWrite) (answer : IoResult Unit) : List Recorded :=
  ((writtenBytes packet answer).map (Recorded.mk user)).toList

section Blocks

variable {user : UserId}

theorem pays_await {q : InputAwait} {Q : q.Answer → List Recorded → Prop} (free : ∀ answer, sentBytes q answer = none)
    (next : ∀ value, Q value []) : (await q).Pays (S := inputAwaits) (uploadDue user) Q [] := by
  have nothing (answer : IoResult q.Answer) : uploadDue user q answer = [] := by
    rw [uploadDue, free]
    rfl
  exact pays_attempt (fun e => nothing (.error e)) fun value => (nothing (.ok value)).symm ▸ next value

theorem pays_requestBlock {Q : Option Destination → List Recorded → Prop} (version : UotVersion)
    (next : ∀ fixed, Q fixed []) : (requestBlock version).Pays (S := inputAwaits) (uploadDue user) Q [] := by
  cases version with
  | v1 => exact next none
  | v2 =>
      refine pays_bind (pays_await (fun _ => rfl) fun isConnect => ?_)
      refine pays_bind (pays_await (fun _ => rfl) fun hostPort => ?_)
      dsimp only
      split_ifs
      · exact pays_bind (pays_await (fun _ => rfl) fun addr => next _)
      · exact next none

theorem pays_bindBlock {Q : Unit → List Recorded → Prop} (next : Q () []) :
    bindBlock.Pays (S := inputAwaits) (uploadDue user) Q [] := by
  refine pays_bind ⟨rfl, fun bound => ?_⟩
  cases bound with
  | ok value => exact next
  | error e => exact pays_await (fun _ => rfl) fun _ => next

theorem pays_connectBlock {Q : Unit → List Recorded → Prop} (fixed : Option Destination) (next : Q () []) :
    (connectBlock fixed).Pays (S := inputAwaits) (uploadDue user) Q [] := by
  cases fixed with
  | none => exact next
  | some dest => exact pays_await (fun _ => rfl) fun _ => next

theorem settled_openBlock (version : UotVersion) : (openBlock version).Settled (S := inputAwaits) (uploadDue user) := by
  refine pays_bind (pays_requestBlock version fun fixed => ?_)
  refine pays_bind (pays_bindBlock ?_)
  exact pays_bind (pays_connectBlock fixed rfl)

theorem pays_destinationBlock {Q : Destination → List Recorded → Prop} (fixed : Option Destination)
    (next : ∀ dest, Q dest []) : (destinationBlock fixed).Pays (S := inputAwaits) (uploadDue user) Q [] := by
  cases fixed with
  | some dest => exact next dest
  | none =>
      refine pays_bind (pays_await (fun _ => rfl) fun hostPort => ?_)
      exact pays_bind (pays_await (fun _ => rfl) fun addr => next _)

/-- A send that returned owes its bytes. -/
theorem pays_sendBlock {Q : Nat → List Recorded → Prop} (payload : Bytes) (dest : Destination) (isConnect : Bool)
    (next : ∀ n, Q n [⟨user, n⟩]) :
    (sendBlock payload dest isConnect).Pays (S := inputAwaits) (uploadDue user) Q [] := by
  cases isConnect with
  | true =>
      refine pays_attempt ?_ ?_
      · exact fun _ => rfl
      · exact next
  | false =>
      refine pays_attempt ?_ ?_
      · exact fun _ => rfl
      · exact next

theorem settled_inputNext (fixed : Option Destination) :
    (inputNext user fixed).Settled (S := inputAwaits) (uploadDue user) := by
  refine pays_bind (pays_destinationBlock fixed fun dest => ?_)
  refine pays_bind (pays_await (fun _ => rfl) fun len => ?_)
  split_ifs
  · rfl
  · refine pays_bind (pays_await (fun _ => rfl) fun payload => ?_)
    exact pays_bind (pays_sendBlock payload dest fixed.isSome fun n => pays_tell rfl)

theorem settled_outputArm (isConnect : Bool) (result : IoResult Received) :
    (outputArm user isConnect result).Settled (S := outputAwaits) (downloadDue user) := by
  cases result with
  | error e => rfl
  | ok datagram =>
      refine pays_bind ⟨rfl, fun written => ?_⟩
      cases written with
      | error e => rfl
      | ok value => exact pays_bind (pays_tell rfl)

end Blocks

/-! Every run. -/

/-- No block of the session owes a record where it waits. -/
def UotStage.Settled (user : UserId) : UotStage → Prop
  | .opening r => r.Settled (S := inputAwaits) (uploadDue user)
  | .looping _ input output _ => (∀ r, input = some r → r.Settled (S := inputAwaits) (uploadDue user)) ∧
      ∀ r, output = .handling r → r.Settled (S := outputAwaits) (downloadDue user)
  | .returned _ => True

namespace UotTask

structure Accounts (user : UserId) (s : UotTask) : Prop where
  up : s.up.Exact (S := inputAwaits) (uploadDue user)
  down : s.down.Exact (S := outputAwaits) (downloadDue user)
  stage : s.stage.Settled user

variable {user : UserId}

theorem opened_settled {r : Routine inputAwaits (Option Destination)}
    (h : r.Settled (S := inputAwaits) (uploadDue user)) : (UotStage.opened user r).Settled user := by
  cases r with
  | done fixed =>
      refine ⟨?_, nofun⟩
      rintro _ ⟨⟩
      exact settled_inputNext fixed
  | failed e => exact trivial
  | call c next => exact h
  | await q next => exact h

theorem afterInput_settled {fixed : Option Destination} {output : OutputPoint} {inner : Bool}
    (handled : ∀ r, output = .handling r → r.Settled (S := outputAwaits) (downloadDue user))
    {r : Routine inputAwaits Unit} (h : r.Settled (S := inputAwaits) (uploadDue user)) :
    (UotStage.afterInput user fixed output inner r).Settled user := by
  cases r with
  | done value =>
      refine ⟨?_, handled⟩
      rintro _ ⟨⟩
      exact settled_inputNext fixed
  | failed e => exact ⟨nofun, handled⟩
  | call c next | await q next =>
      refine ⟨?_, handled⟩
      rintro _ ⟨⟩
      exact h

theorem afterOutput_settled {fixed : Option Destination} {input : Option (Routine inputAwaits Unit)} {inner : Bool}
    (going : ∀ r, input = some r → r.Settled (S := inputAwaits) (uploadDue user))
    {r : Routine outputAwaits Bool} (h : r.Settled (S := outputAwaits) (downloadDue user)) :
    (UotStage.afterOutput fixed input inner r).Settled user := by
  cases r with
  | done goes => cases goes <;> exact ⟨going, nofun⟩
  | failed e => exact ⟨going, nofun⟩
  | call c next | await q next =>
      refine ⟨going, ?_⟩
      rintro _ ⟨⟩
      exact h

theorem Accounts.resumeInput {s : UotTask} (h : s.Accounts user) {α : Type} (oracle : Oracle inputAwaits)
    {r : Routine inputAwaits α} {next : Routine inputAwaits α → UotStage}
    (settled : r.Settled (S := inputAwaits) (uploadDue user))
    (goes : ∀ {t : Routine inputAwaits α}, t.Settled (S := inputAwaits) (uploadDue user) → (next t).Settled user) :
    (s.resumeInput oracle r next).Accounts user := by
  obtain ⟨exact_still, still⟩ := resume_exact oracle settled h.up
  exact ⟨exact_still, h.down, goes still⟩

theorem Accounts.resumeOutput {s : UotTask} (h : s.Accounts user) (oracle : Oracle outputAwaits)
    {r : Routine outputAwaits Bool} {next : Routine outputAwaits Bool → UotStage}
    (settled : r.Settled (S := outputAwaits) (downloadDue user))
    (goes : ∀ {t : Routine outputAwaits Bool}, t.Settled (S := outputAwaits) (downloadDue user) → (next t).Settled user) :
    (s.resumeOutput oracle r next).Accounts user := by
  obtain ⟨exact_still, still⟩ := resume_exact oracle settled h.down
  exact ⟨h.up, exact_still, goes still⟩

theorem Accounts.enterOutput {s : UotTask} (h : s.Accounts user) {r : Routine outputAwaits Bool}
    {next : Routine outputAwaits Bool → UotStage} (settled : r.Settled (S := outputAwaits) (downloadDue user))
    (goes : ∀ {t : Routine outputAwaits Bool}, t.Settled (S := outputAwaits) (downloadDue user) → (next t).Settled user) :
    (s.enterOutput r next).Accounts user := by
  obtain ⟨nothing, still⟩ := settle_pays settled
  refine ⟨h.up, ?_, goes still⟩
  change s.down.calls ++ r.settle.1 = _
  rw [nothing, List.append_nil]
  exact h.down

theorem Accounts.inLoops {s t : UotTask} {fixed : Option Destination} {input : Option (Routine inputAwaits Unit)}
    {output : OutputPoint} {inner : Bool} {event : UotEvent} (h : s.Accounts user)
    (stage : s.stage = .looping fixed input output inner)
    (moved : s.inLoops user fixed input output inner event = some t) : t.Accounts user := by
  have settled := h.stage
  rw [stage] at settled
  obtain ⟨going, handled⟩ := settled
  cases event with
  | kick | opening oracle => cases moved
  | input oracle =>
      cases input with
      | none => cases moved
      | some r =>
          cases moved
          exact h.resumeInput oracle (going r rfl) (afterInput_settled handled)
  | received result =>
      cases output with
      | waiting =>
          cases moved
          exact h.enterOutput (settled_outputArm _ result) (afterOutput_settled going)
      | handling r | closing | stopped => cases moved
  | output oracle =>
      cases output with
      | handling r =>
          cases moved
          exact h.resumeOutput oracle (handled r rfl) (afterOutput_settled going)
      | waiting | closing | stopped => cases moved
  | cancelInput | endInput =>
      rw [UotTask.inLoops] at moved
      split_ifs at moved
      cases moved
      exact ⟨h.up, h.down, nofun, handled⟩
  | cancelOutput | endOutput =>
      cases output with
      | waiting =>
          rw [UotTask.inLoops] at moved
          split_ifs at moved
          cases moved
          exact ⟨h.up, h.down, going, nofun⟩
      | handling r | closing | stopped => cases moved
  | closed =>
      cases output with
      | closing =>
          cases moved
          exact ⟨h.up, h.down, going, nofun⟩
      | waiting | handling r | stopped => cases moved
  | joined =>
      cases input with
      | some r => cases moved
      | none =>
          cases output with
          | stopped =>
              cases moved
              exact ⟨h.up, h.down, trivial⟩
          | waiting | handling r | closing => cases moved

theorem Accounts.step {s t : UotTask} {event : UotEvent} (h : s.Accounts user) (moved : s.step user event = some t) :
    t.Accounts user := by
  cases event with
  | kick =>
      cases moved
      exact ⟨h.up, h.down, h.stage⟩
  | opening oracle =>
      cases stage : s.stage with
      | opening r =>
          rw [UotTask.step, stage] at moved
          cases moved
          have settled := h.stage
          rw [stage] at settled
          exact h.resumeInput oracle settled opened_settled
      | looping fixed input output inner | returned result =>
          rw [UotTask.step, stage] at moved
          cases moved
  | _ =>
      cases stage : s.stage with
      | looping fixed input output inner =>
          simp only [UotTask.step, stage] at moved
          exact h.inLoops stage moved
      | opening r | returned result =>
          simp only [UotTask.step, stage] at moved
          cases moved

theorem accounts_start (version : UotVersion) : (start version).Accounts user :=
  ⟨rfl, rfl, settled_openBlock version⟩

/-- What the successful sends returned, in their order. -/
def sent (s : UotTask) : List Nat := s.up.answers.filterMap fun answer => sentBytes answer.1 answer.2

/-- The payload lengths of the packets that were written. -/
def written (s : UotTask) : List Nat := s.down.answers.filterMap fun answer => writtenBytes answer.1 answer.2

/-- At every point between two awaits, each send that succeeded and each packet that was written has been
recorded once, in its order and for the user of the session, and nothing else has. -/
theorem uot_accounting_exact (user : UserId) (version : UotVersion) (schedule : List UotEvent) (s : UotTask)
    (ran : follow (step user) (start version) schedule = some s) :
    s.up.calls = s.sent.map (Recorded.mk user) ∧ s.down.calls = s.written.map (Recorded.mk user) ∧
      (s.up.calls.map Recorded.bytes).sum = s.sent.sum ∧ (s.down.calls.map Recorded.bytes).sum = s.written.sum := by
  have accounts : s.Accounts user := follow_invariant Accounts.step (accounts_start version) ran
  have uploads : s.up.calls = s.sent.map (Recorded.mk user) := by
    rw [accounts.up, sent, List.map_filterMap, List.filterMap_eq_flatMap_toList]
    rfl
  have downloads : s.down.calls = s.written.map (Recorded.mk user) := by
    rw [accounts.down, written, List.map_filterMap, List.filterMap_eq_flatMap_toList]
    rfl
  have bytes (ns : List Nat) : (ns.map (Recorded.mk user)).map Recorded.bytes = ns := by
    rw [List.map_map]
    exact List.map_id ns
  exact ⟨uploads, downloads, by rw [uploads, bytes], by rw [downloads, bytes]⟩

/-- Everything that is awaited works out, with packets of three bytes. -/
def working : Oracle inputAwaits
  | .readU8 => .ok 0
  | .readSocksAddr => .ok ("192.0.2.1", 53)
  | .resolveHost _ port => .ok ⟨.v4 ⟨192, 0, 2, 1⟩, port⟩
  | .bindDual => .ok ()
  | .bindV4 => .ok ()
  | .connect _ => .ok ()
  | .readAddrParser => .ok ("192.0.2.1", 53)
  | .readU16 => .ok 3
  | .readExact _ => .ok [1, 2, 3]
  | .send payload _ => .ok payload.length
  | .sendTo payload _ => .ok payload.length

def twoBytes : Received := ⟨⟨.v4 ⟨192, 0, 2, 1⟩, 53⟩, [8, 9], by decide⟩

/-- The token fires while the second packet of the client is being read and a second one is being written
to it. -/
def kickedTwice : List UotEvent :=
  [.opening working, .input working, .input working, .input working, .input working, .input working,
    .received (.ok twoBytes), .output fun _ => .ok (), .input working, .received (.ok twoBytes), .kick, .cancelInput,
    .output fun _ => .ok (), .cancelOutput, .closed, .joined]

theorem uot_accounting_exact_kickedTwice :
    ∃ s, follow (step 7) (start .v1) kickedTwice = some s ∧ s.up.calls = [⟨7, 3⟩] ∧ s.down.calls = [⟨7, 2⟩, ⟨7, 2⟩] ∧
      (s.up.calls.map Recorded.bytes).sum = s.sent.sum ∧ (s.down.calls.map Recorded.bytes).sum = s.written.sum := by
  have ran : follow (step 7) (start .v1) kickedTwice = some _ := rfl
  have accounting := uot_accounting_exact 7 .v1 kickedTwice _ ran
  exact ⟨_, ran, rfl, rfl, accounting.2.2⟩

end UotTask

/-! The blocks are those of the session's halves. -/

section Functions

variable {R W : Type}

def answerOf {σ α : Type} : IoResult α → Task σ IoError α
  | .ok value => pure value
  | .error e => Task.fail e

theorem onReader_bind {α β : Type} (m : Task R IoError α) (k : α → Task R IoError β) :
    onReader (m >>= k) = onReader m >>= fun value => onReader (k value) := by
  funext fuel s
  change onReader (AsyncIo.Task.bind m k) fuel s = AsyncIo.Task.bind (onReader m) _ fuel s
  simp only [onReader, Task.on, AsyncIo.Task.bind]
  cases m fuel s.reader <;> rfl

variable [AsyncRead R] [AsyncWrite W]

/-- How the session's tasks answer what its blocks await. -/
def inputAnswer (udp : UdpBehaviour) : (q : InputAwait) → Task (Session R) IoError q.Answer
  | .readU8 => onReader Task.readU8
  | .readSocksAddr => onReader readSocksAddr
  | .resolveHost host port => do
      let dest ← resolve host port
      return dest.addr
  | .bindDual => do
      Task.tick
      answerOf udp.bindDual
  | .bindV4 => answerOf udp.bindV4
  | .connect addr => answerOf (udp.connect addr)
  | .readAddrParser => onReader readAddrParser
  | .readU16 => onReader Task.readU16
  | .readExact n => onReader (Task.readExact n)
  | .send payload peer => sendTo udp peer payload
  | .sendTo payload dest => sendTo udp dest payload

def inputTask (udp : UdpBehaviour) {α : Type} (r : Routine inputAwaits α) : Task (Session R) IoError α :=
  r.interpret (S := inputAwaits) (inputAnswer udp) fun recorded => recordUpload recorded.bytes

variable (udp : UdpBehaviour)

theorem inputTask_bind {α β : Type} (m : Routine inputAwaits β) (k : β → Routine inputAwaits α) :
    inputTask udp (m >>= k) = (inputTask udp m >>= fun value => inputTask udp (k value) : Task (Session R) IoError α) :=
  interpret_bind _ _ m k

theorem inputTask_await (q : InputAwait) :
    inputTask udp (await q) = (inputAnswer udp q : Task (Session R) IoError q.Answer) :=
  interpret_attempt _ _ _

omit [AsyncRead R] in
/-- The address that is resolved goes with the name that was asked for. -/
theorem resolve_addr (host : String) (port : UInt16) :
    (resolve host port : Task (Session R) IoError Destination) = do
      let addr ← (do
        let dest ← resolve host port
        return dest.addr)
      return ⟨host, port, addr⟩ := by
  funext fuel s
  cases fuel with
  | zero => rfl
  | succ fuel =>
      change _ = AsyncIo.Task.bind (AsyncIo.Task.bind (resolve host port) _) _ (fuel + 1) s
      rcases resolved : resolveHost s.cache host port with ⟨cache, e | addr⟩
      · have answers : (resolve host port : Task (Session R) IoError Destination) (fuel + 1) s =
            .failed e { s with cache } fuel := by
          simp [resolve, Bind.bind, AsyncIo.Task.bind, Task.tick, resolved]
        simp only [AsyncIo.Task.bind, answers]
      · have answers : (resolve host port : Task (Session R) IoError Destination) (fuel + 1) s =
            .done ⟨host, port, addr⟩ { s with cache } fuel := by
          simp [resolve, Bind.bind, AsyncIo.Task.bind, Task.tick, resolved]
        simp only [AsyncIo.Task.bind, answers]
        rfl

theorem inputTask_destinationBlock (fixed : Option Destination) :
    inputTask udp (destinationBlock fixed) = (chooseDestination fixed : Task (Session R) IoError Destination) := by
  cases fixed with
  | some dest => rfl
  | none =>
      rw [destinationBlock, chooseDestination, inputTask_bind, inputTask_await]
      apply congrArg (onReader readAddrParser >>= ·)
      funext hostPort
      obtain ⟨host, port⟩ := hostPort
      dsimp only
      rw [inputTask_bind, inputTask_await, resolve_addr]
      rfl

theorem inputTask_sendBlock (payload : Bytes) (dest : Destination) (isConnect : Bool) :
    inputTask udp (sendBlock payload dest isConnect) = (sendTo udp dest payload : Task (Session R) IoError Nat) := by
  cases isConnect with
  | true => exact inputTask_await udp (.send payload dest)
  | false => exact inputTask_await udp (.sendTo payload dest)

/-- The `next` of the input loop is its packet. -/
theorem inputTask_inputNext (user : UserId) (fixed : Option Destination) :
    inputTask udp (inputNext user fixed) = (inputPacket udp fixed : Task (Session R) IoError Unit) := by
  unfold inputNext inputPacket
  rw [inputTask_bind, inputTask_destinationBlock]
  apply congrArg (chooseDestination fixed >>= ·)
  funext dest
  rw [inputTask_bind, inputTask_await]
  apply congrArg (onReader Task.readU16 >>= ·)
  funext len
  split_ifs with empty
  · rfl
  · rw [inputTask_bind, inputTask_await]
    apply congrArg (onReader (Task.readExact len.toNat) >>= ·)
    funext payload
    rw [inputTask_bind, inputTask_sendBlock]
    apply congrArg (sendTo udp dest payload >>= ·)
    funext n
    exact interpret_tell _ _ _

theorem inputTask_requestBlock (version : UotVersion) :
    inputTask udp (requestBlock version) = (readRequest version : Task (Session R) IoError (Option Destination)) := by
  cases version with
  | v1 => rfl
  | v2 =>
      rw [requestBlock, readRequest, readRequestHead, inputTask_bind, inputTask_await, onReader_bind, bind_assoc]
      apply congrArg (onReader Task.readU8 >>= ·)
      funext isConnect
      rw [inputTask_bind, inputTask_await, onReader_bind, bind_assoc]
      apply congrArg (onReader readSocksAddr >>= ·)
      funext hostPort
      obtain ⟨host, port⟩ := hostPort
      change inputTask udp (if isConnect ≠ 0 then _ else _) = if isConnect ≠ 0 then _ else _
      split_ifs
      · rw [inputTask_bind, inputTask_await, resolve_addr, bind_assoc]
        rfl
      · rfl

theorem inputTask_bindBlock :
    inputTask udp bindBlock = (do
      let bound ← (do
        Task.tick
        answerOf udp.bindDual : Task (Session R) IoError Unit).caught
      match bound with
      | .ok () => return ()
      | .error _ => answerOf udp.bindV4) := by
  rw [bindBlock, inputTask_bind]
  have asked : inputTask udp (ask (S := inputAwaits) InputAwait.bindDual) =
      (inputAnswer udp .bindDual : Task (Session R) IoError Unit).caught := interpret_ask _ _ _
  rw [asked]
  apply congrArg ((inputAnswer udp .bindDual).caught >>= ·)
  funext bound
  cases bound with
  | ok value => rfl
  | error e => exact inputTask_await udp .bindV4

theorem inputTask_connectBlock (fixed : Option Destination) :
    inputTask udp (connectBlock fixed) = (match fixed with
      | none => pure ()
      | some dest => answerOf (udp.connect dest.addr) : Task (Session R) IoError Unit) := by
  cases fixed with
  | none => rfl
  | some dest => exact inputTask_await udp (.connect dest.addr)

/-- What comes before the loops. -/
theorem inputTask_openBlock (version : UotVersion) :
    inputTask udp (openBlock version) = (do
      let fixed ← readRequest version
      openSocket udp fixed
      return fixed : Task (Session R) IoError (Option Destination)) := by
  unfold openBlock
  rw [inputTask_bind, inputTask_requestBlock]
  apply congrArg (readRequest version >>= ·)
  funext fixed
  rw [inputTask_bind, inputTask_bindBlock]
  simp only [inputTask_bind, inputTask_connectBlock, openSocket]
  funext fuel s
  cases fuel with
  | zero => rfl
  | succ fuel =>
      cases udp.bindDual with
      | ok value =>
          cases fixed with
          | none => rfl
          | some dest =>
              cases connected : udp.connect dest.addr with
              | ok value | error e =>
                  simp only [connected]
                  rfl
      | error refused =>
          cases udp.bindV4 with
          | error e => rfl
          | ok value =>
              cases fixed with
              | none => rfl
              | some dest =>
                  cases connected : udp.connect dest.addr with
                  | ok value | error e =>
                      simp only [connected]
                      rfl

/-- The session as far as the client's bytes go. -/
theorem handleUotInput_blocks (user : UserId) (version : UotVersion) :
    (handleUotInput udp version : Task (Session R) IoError Unit) = (do
      let fixed ← inputTask udp (openBlock version)
      Task.forever (inputTask udp (inputNext user fixed))) := by
  rw [inputTask_openBlock, handleUotInput, bind_assoc]
  apply congrArg (readRequest version >>= ·)
  funext fixed
  rw [bind_assoc]
  apply congrArg (openSocket udp fixed >>= ·)
  funext opened
  rw [pure_bind, inputTask_inputNext]

def arrival : IoResult Received → OutputEvent
  | .ok datagram => .received datagram
  | .error e => .recvError e

def writePacket (packet : PacketWrite) : Task (Output W) IoError Unit :=
  Task.on Output.writer (fun s writer => { s with writer }) (writeUotPacket packet.source packet.data packet.isConnect)

def recordDownload (n : Nat) : Task (Output W) IoError Unit :=
  Task.modify fun s => { s with downloads := s.downloads ++ [n] }

def outputTask {α : Type} (r : Routine outputAwaits α) : Task (Output W) IoError α :=
  r.interpret (S := outputAwaits) writePacket fun recorded => recordDownload recorded.bytes

theorem outputTask_outputArm (user : UserId) (isConnect : Bool) (datagram : Received) :
    outputTask (outputArm user isConnect (.ok datagram)) = (do
      let written ← (writePacket ⟨datagram.source, datagram.data, isConnect⟩).caught
      match written with
      | .error _ => return false
      | .ok _ => do
          recordDownload datagram.data.length
          return true : Task (Output W) IoError Bool) := by
  unfold outputTask
  rw [outputArm, interpret_bind, interpret_ask]
  apply congrArg ((writePacket _).caught >>= ·)
  funext written
  cases written with
  | error e => rfl
  | ok value =>
      rw [interpret_bind, interpret_tell]
      rfl

/-- The arm is the round of the output loop that a datagram or an error starts. -/
theorem outputRound_arrival (user : UserId) (isConnect : Bool) (result : IoResult Received) :
    (outputRound isConnect (arrival result) : Task (Output W) IoError Bool) = (do
      let goes ← outputTask (outputArm user isConnect result)
      if goes then return true
      else
        Task.modify fun s => { s with innerCancelled := true }
        return false) := by
  cases result with
  | error e => rfl
  | ok datagram =>
      rw [outputTask_outputArm]
      funext fuel s
      change _ = AsyncIo.Task.bind (AsyncIo.Task.bind (writePacket _).caught _) _ fuel s
      simp only [arrival, outputRound, AsyncIo.Task.bind, Task.caught, writePacket, Task.on]
      cases writeUotPacket datagram.source datagram.data isConnect fuel s.writer <;> rfl

end Functions

end ServerNaive.Uot
