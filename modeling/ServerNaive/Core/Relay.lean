import ServerNaive.Async.Stream

/-! The relay between the two ends of a tunnel. A poll of it may go on for as long as
its streams are ready, so its loop is looked at after any number of passes. -/
namespace ServerNaive
open AsyncIo

structure DirectionalBuffer where
  buf : Bytes
  pos : Nat
  cap : Nat
  amt : Nat
  readDone : Bool
  shutdownDone : Bool
  suppressShutdown : Bool
  deriving DecidableEq

namespace DirectionalBuffer

def new (bufSize : Nat) (suppressShutdown : Bool) : DirectionalBuffer where
  buf := List.replicate bufSize 0
  pos := 0
  cap := 0
  amt := 0
  readDone := false
  shutdownDone := false
  suppressShutdown := suppressShutdown

def isDone (d : DirectionalBuffer) : Bool := d.shutdownDone

def hasReadEof (d : DirectionalBuffer) : Bool := d.readDone

def bytesTransferred (d : DirectionalBuffer) : Nat := d.amt

/-- The bytes that were read and are not yet written, `buf[pos..cap]`. -/
def held (d : DirectionalBuffer) : Bytes := window d.buf d.pos d.cap

/-- The writer took `n` bytes. -/
def advance (d : DirectionalBuffer) (n : Nat) : DirectionalBuffer :=
  { d with pos := d.pos + n, amt := d.amt + n }

/-- Bytes read behind the ones that are held. -/
def append (d : DirectionalBuffer) (bs : Bytes) : DirectionalBuffer :=
  { d with buf := overwrite d.buf d.cap bs, cap := d.cap + bs.length }

/-- Bytes read into the empty buffer. -/
def refill (d : DirectionalBuffer) (bs : Bytes) : DirectionalBuffer :=
  { d with buf := overwrite d.buf 0 bs, pos := 0, cap := bs.length }

def endRead (d : DirectionalBuffer) : DirectionalBuffer := { d with readDone := true }

def endShutdown (d : DirectionalBuffer) : DirectionalBuffer := { d with shutdownDone := true }

end DirectionalBuffer

/-- One direction with the streams it reads and writes. -/
structure Copy (R W : Type) where
  dir : DirectionalBuffer
  reader : R
  writer : W

namespace Copy

variable {R W : Type} [AsyncRead R] [AsyncWrite W]

/-- The read in the middle of a blocked write. -/
def readAhead (c : Copy R W) : Copy R W :=
  if c.dir.readDone = false ∧ c.dir.cap < c.dir.buf.length then
    match AsyncRead.pollRead c.reader (c.dir.buf.length - c.dir.cap) with
    | (reader, .ready (.ok [])) => { c with reader, dir := c.dir.endRead }
    | (reader, .ready (.ok bs)) => { c with reader, dir := c.dir.append bs }
    | (reader, .ready (.error _)) => { c with reader, dir := c.dir.endRead }
    | (reader, .pending) => { c with reader }
  else c

/-- One pass of the inner loop; `none` leaves it with an empty buffer. -/
def writePass (c : Copy R W) : Pass (Copy R W) (Option (PollResult Unit)) :=
  if c.dir.pos < c.dir.cap then
    match AsyncWrite.pollWrite c.writer c.dir.held with
    | (writer, .ready (.ok 0)) =>
        .leave { c with writer } (some (.ready (.error ⟨.writeZero, "write zero bytes"⟩)))
    | (writer, .ready (.ok i)) => .again { c with writer, dir := c.dir.advance i }
    | (writer, .ready (.error e)) => .leave { c with writer } (some (.ready (.error e)))
    | (writer, .pending) => .leave (readAhead { c with writer }) (some .pending)
  else .leave c none

def writeLoop (c : Copy R W) : Copy R W × Option (PollResult Unit) :=
  runLoop writePass (c.dir.cap - c.dir.pos + 1) (some .pending) c

/-- After the reader's end: forward it, unless that is suppressed. -/
def finish (c : Copy R W) : Copy R W × PollResult Unit :=
  if c.dir.suppressShutdown = false then
    match AsyncWrite.pollShutdown c.writer with
    | (writer, .pending) => ({ c with writer }, .pending)
    | (writer, .ready _) => ({ c with writer, dir := c.dir.endShutdown }, .ready (.ok ()))
  else ({ c with dir := c.dir.endShutdown }, .ready (.ok ()))

/-- The read into the empty buffer. -/
def readNext (c : Copy R W) : Pass (Copy R W) (PollResult Unit) :=
  match AsyncRead.pollRead c.reader c.dir.buf.length with
  | (reader, .pending) => .leave { c with reader } .pending
  | (reader, .ready (.error e)) => .leave { c with reader } (.ready (.error e))
  | (reader, .ready (.ok [])) => .again { c with reader, dir := c.dir.endRead }
  | (reader, .ready (.ok bs)) => .again { c with reader, dir := c.dir.refill bs }

/-- One pass of the loop of `poll_copy`. -/
def copyPass (c : Copy R W) : Pass (Copy R W) (PollResult Unit) :=
  match writeLoop c with
  | (c, some r) => .leave c r
  | (c, none) => match AsyncWrite.pollFlush c.writer with
      | (writer, .ready (.error e)) => .leave { c with writer } (.ready (.error e))
      | (writer, _) =>
          if c.dir.readDone then
            match finish { c with writer } with
            | (c, r) => .leave c r
          else readNext { c with writer }

/-- `poll_copy`, looked at after at most `fuel` passes. -/
def pollCopy (fuel : Nat) (c : Copy R W) : Pass (Copy R W) (PollResult Unit) :=
  if c.dir.shutdownDone then .leave c (.ready (.ok ())) else loop copyPass fuel c

end Copy

inductive RelayTermination where
  | completed
  | idleTimeout
  | error
  deriving DecidableEq

/-- The state of `copy_bidirectional_with_stats` between polls; times are in seconds. -/
structure Relay (A B : Type) where
  a : A
  b : B
  aToB : DirectionalBuffer
  bToA : DirectionalBuffer
  idleTimeout : Nat
  deadline : Nat
  termination : RelayTermination

/-- What one poll comes to: a loop that has not been left yet, waiting, or the end. -/
inductive Polled where
  | running
  | pending
  | ready (result : IoResult Bool)
  deriving DecidableEq

namespace Relay

variable {A B : Type}

def new (a : A) (b : B) (start idleTimeoutSecs bufferSize : Nat) (suppressAToBShutdown : Bool) :
    Relay A B where
  a := a
  b := b
  aToB := .new bufferSize suppressAToBShutdown
  bToA := .new bufferSize false
  idleTimeout := idleTimeoutSecs
  deadline := start + idleTimeoutSecs
  termination := .completed

/-- Progress since `before` restarts the idle timer. -/
def nextDeadline (before : Nat × Nat) (now : Nat) (s : Relay A B) : Nat :=
  if before.1 < s.aToB.bytesTransferred ∨ before.2 < s.bToA.bytesTransferred then now + s.idleTimeout
  else s.deadline

/-- The end of a poll at time `now`. -/
def settle (before : Nat × Nat) (now : Nat) (s : Relay A B) : Relay A B × Polled :=
  if s.aToB.isDone ∧ s.bToA.isDone then
    ({ s with deadline := s.nextDeadline before now, termination := .completed }, .ready (.ok true))
  else if s.nextDeadline before now ≤ now then
    ({ s with deadline := s.nextDeadline before now, termination := .idleTimeout }, .ready (.ok false))
  else ({ s with deadline := s.nextDeadline before now }, .pending)

variable [AsyncRead A] [AsyncWrite A] [AsyncRead B] [AsyncWrite B]

/-- The half of the poll that copies from `a` to `b`; `none` goes on with the poll. -/
def pollAToB (fuel : Nat) (s : Relay A B) : Relay A B × Option Polled :=
  if s.aToB.isDone then (s, none)
  else match Copy.pollCopy fuel ⟨s.aToB, s.a, s.b⟩ with
    | .again c => ({ s with aToB := c.dir, a := c.reader, b := c.writer }, some .running)
    | .leave c (.ready (.error e)) =>
        ({ s with aToB := c.dir, a := c.reader, b := c.writer, termination := .error },
          some (.ready (.error e)))
    | .leave c _ => ({ s with aToB := c.dir, a := c.reader, b := c.writer }, none)

def pollBToA (fuel : Nat) (s : Relay A B) : Relay A B × Option Polled :=
  if s.bToA.isDone then (s, none)
  else match Copy.pollCopy fuel ⟨s.bToA, s.b, s.a⟩ with
    | .again c => ({ s with bToA := c.dir, b := c.reader, a := c.writer }, some .running)
    | .leave c (.ready (.error e)) =>
        ({ s with bToA := c.dir, b := c.reader, a := c.writer, termination := .error },
          some (.ready (.error e)))
    | .leave c _ => ({ s with bToA := c.dir, b := c.reader, a := c.writer }, none)

def poll (fuel now : Nat) (s : Relay A B) : Relay A B × Polled :=
  match pollAToB fuel s with
  | (t, some r) => (t, r)
  | (t, none) => match pollBToA fuel t with
      | (u, some r) => (u, r)
      | (u, none) => settle (s.aToB.bytesTransferred, s.bToA.bytesTransferred) now u

/-- The polls of a run, each with the passes allowed to it and the time it is made at. -/
def run (s : Relay A B) : List (Nat × Nat) → Relay A B × Polled
  | [] => (s, .pending)
  | (fuel, now) :: polls => match poll fuel now s with
      | (t, .pending) => run t polls
      | (t, r) => (t, r)

end Relay

structure CopyResult where
  aToB : Nat
  bToA : Nat
  completed : Bool
  termination : RelayTermination
  clientEof : Bool
  remoteEof : Bool
  deriving DecidableEq

/-- What the run records for its user: uploads and downloads, each when it is not zero. -/
structure Recorded where
  uploads : List Nat
  downloads : List Nat
  deriving DecidableEq

namespace Relay

variable {A B : Type}

def record (s : Relay A B) : Recorded where
  uploads := if 0 < s.aToB.bytesTransferred then [s.aToB.bytesTransferred] else []
  downloads := if 0 < s.bToA.bytesTransferred then [s.bToA.bytesTransferred] else []

/-- The value of the future once its polls have ended. -/
def result (s : Relay A B) (ended : IoResult Bool) : IoResult CopyResult :=
  ended.map fun completed =>
    { aToB := s.aToB.bytesTransferred
      bToA := s.bToA.bytesTransferred
      completed
      termination := s.termination
      clientEof := s.aToB.hasReadEof
      remoteEof := s.bToA.hasReadEof }

end Relay

end ServerNaive
