import ServerNaive.Async.Bytes

/-! Polled byte streams. A stream is any state with poll functions: the next
state and the outcome may depend on everything the stream has seen, so a theorem
over all instances covers every schedule of `Pending`, chunking and failure. -/
namespace AsyncIo

inductive Poll (α : Type) where
  | pending
  | ready (value : α)
  deriving DecidableEq, Repr

inductive ErrorKind where
  | writeZero
  | unexpectedEof
  | timedOut
  | notFound
  | invalidInput
  | brokenPipe
  | connectionReset
  | other
  deriving DecidableEq, Repr

structure IoError where
  kind : ErrorKind
  message : String
  deriving DecidableEq, Repr

abbrev IoResult (α : Type) := Except IoError α
abbrev PollResult (α : Type) := Poll (IoResult α)

instance Except.decidableEq {ε α : Type} [DecidableEq ε] [DecidableEq α] : DecidableEq (Except ε α)
  | .ok a, .ok b => decidable_of_iff (a = b) ⟨congrArg _, Except.ok.inj⟩
  | .error e, .error f => decidable_of_iff (e = f) ⟨congrArg _, Except.error.inj⟩
  | .ok _, .error _ => .isFalse fun same => by cases same
  | .error _, .ok _ => .isFalse fun same => by cases same

/-- `poll_read` with the room left in the caller's buffer; a ready outcome carries
the bytes that were put there, never more than fit. -/
class AsyncRead (R : Type) where
  pollRead : R → Nat → R × PollResult Bytes
  pollRead_fits : ∀ {r cap r' bs}, pollRead r cap = (r', .ready (.ok bs)) → bs.length ≤ cap

class AsyncWrite (W : Type) where
  pollWrite : W → Bytes → W × PollResult Nat
  pollFlush : W → W × PollResult Unit
  pollShutdown : W → W × PollResult Unit
  pollWrite_le : ∀ {w buf w' n}, pollWrite w buf = (w', .ready (.ok n)) → n ≤ buf.length

/-- A writer that never fails and never takes nothing of a non-empty offer. It may
still return `Pending` and take any part of what it is offered. -/
structure Obliging (W : Type) [AsyncWrite W] : Prop where
  write : ∀ (w : W) (buf : Bytes) (e : IoError), (AsyncWrite.pollWrite w buf).2 ≠ .ready (.error e)
  progress : ∀ (w : W) (buf : Bytes), buf ≠ [] → (AsyncWrite.pollWrite w buf).2 ≠ .ready (.ok 0)
  flush : ∀ (w : W) (e : IoError), (AsyncWrite.pollFlush w).2 ≠ .ready (.error e)
  shutdown : ∀ (w : W) (e : IoError), (AsyncWrite.pollShutdown w).2 ≠ .ready (.error e)

/-- A reader that hands out exactly the bytes `rest`, split and delayed at will. An
empty outcome for a non-empty buffer means that none are left. -/
class ByteSource (R : Type) extends AsyncRead R where
  rest : R → Bytes
  pending_rest : ∀ {r cap r'}, pollRead r cap = (r', .pending) → rest r' = rest r
  ready_rest : ∀ {r cap r' bs}, pollRead r cap = (r', .ready (.ok bs)) → bs ++ rest r' = rest r
  end_rest : ∀ {r cap r'}, 0 < cap → pollRead r cap = (r', .ready (.ok [])) → rest r = []
  never_fails : ∀ {r cap r' e}, pollRead r cap ≠ (r', .ready (.error e))

/-- One call made on a stream, with what it was given and what it answered. -/
inductive Call where
  | read (cap : Nat) (outcome : PollResult Bytes)
  | write (offered : Bytes) (outcome : PollResult Nat)
  | flush (outcome : PollResult Unit)
  | shutdown (outcome : PollResult Unit)
  deriving DecidableEq

/-- The bytes a call moved into the stream. -/
def Call.taken : Call → Bytes
  | .write offered (.ready (.ok n)) => offered.take n
  | _ => []

/-- The bytes a call moved out of the stream. -/
def Call.given : Call → Bytes
  | .read _ (.ready (.ok bs)) => bs
  | _ => []

def Call.isRead : Call → Bool
  | .read _ _ => true
  | _ => false

def Call.isWrite : Call → Bool
  | .write _ _ => true
  | _ => false

def Call.isShutdown : Call → Bool
  | .shutdown _ => true
  | _ => false

def accepted (calls : List Call) : Bytes := calls.flatMap Call.taken

def returned (calls : List Call) : Bytes := calls.flatMap Call.given

@[simp] theorem accepted_append (xs ys : List Call) :
    accepted (xs ++ ys) = accepted xs ++ accepted ys := List.flatMap_append

@[simp] theorem returned_append (xs ys : List Call) :
    returned (xs ++ ys) = returned xs ++ returned ys := List.flatMap_append

@[simp] theorem accepted_singleton (c : Call) : accepted [c] = c.taken := by
  simp only [accepted, List.flatMap_cons, List.flatMap_nil, List.append_nil]

@[simp] theorem returned_singleton (c : Call) : returned [c] = c.given := by
  simp only [returned, List.flatMap_cons, List.flatMap_nil, List.append_nil]

/-- The calls of one kind only, for a stream that is read and written by different parties. -/
def readCalls (calls : List Call) : List Call := calls.filter Call.isRead

def writeCalls (calls : List Call) : List Call := calls.filter fun c => !c.isRead

theorem returned_readCalls (calls : List Call) : returned (readCalls calls) = returned calls := by
  induction calls with
  | nil => rfl
  | cons c calls ih =>
      cases c with
      | read room r => exact congrArg ((Call.read room r).given ++ ·) ih
      | write offered r => exact ih
      | flush r => exact ih
      | shutdown r => exact ih

theorem accepted_writeCalls (calls : List Call) : accepted (writeCalls calls) = accepted calls := by
  induction calls with
  | nil => rfl
  | cons c calls ih =>
      cases c with
      | read room r => exact ih
      | write offered r => exact congrArg ((Call.write offered r).taken ++ ·) ih
      | flush r => exact congrArg ((Call.flush r).taken ++ ·) ih
      | shutdown r => exact congrArg ((Call.shutdown r).taken ++ ·) ih

@[simp] theorem readCalls_append (xs ys : List Call) :
    readCalls (xs ++ ys) = readCalls xs ++ readCalls ys := List.filter_append ..

@[simp] theorem writeCalls_append (xs ys : List Call) :
    writeCalls (xs ++ ys) = writeCalls xs ++ writeCalls ys := List.filter_append ..

/-- A stream together with the calls that were made on it, oldest first. The code
under test cannot see the record, so it runs as it does over the bare stream. -/
structure Traced (S : Type) where
  stream : S
  calls : List Call
  deriving DecidableEq

namespace Traced

variable {S : Type}

def start (s : S) : Traced S := ⟨s, []⟩

instance [AsyncRead S] : AsyncRead (Traced S) where
  pollRead x cap :=
    let (s, outcome) := AsyncRead.pollRead x.stream cap
    (⟨s, x.calls ++ [.read cap outcome]⟩, outcome)
  pollRead_fits := by
    intro x cap x' bs h
    have bare : AsyncRead.pollRead x.stream cap = (_, .ready (.ok bs)) :=
      Prod.ext rfl (Prod.mk.inj h).2
    exact AsyncRead.pollRead_fits bare

instance [AsyncWrite S] : AsyncWrite (Traced S) where
  pollWrite x buf :=
    let (s, outcome) := AsyncWrite.pollWrite x.stream buf
    (⟨s, x.calls ++ [.write buf outcome]⟩, outcome)
  pollFlush x :=
    let (s, outcome) := AsyncWrite.pollFlush x.stream
    (⟨s, x.calls ++ [.flush outcome]⟩, outcome)
  pollShutdown x :=
    let (s, outcome) := AsyncWrite.pollShutdown x.stream
    (⟨s, x.calls ++ [.shutdown outcome]⟩, outcome)
  pollWrite_le := by
    intro x buf x' n h
    have bare : AsyncWrite.pollWrite x.stream buf = (_, .ready (.ok n)) :=
      Prod.ext rfl (Prod.mk.inj h).2
    exact AsyncWrite.pollWrite_le bare

/-! A call on the bare stream, as the traced one answers it. -/

theorem pollRead_of [AsyncRead S] {x : Traced S} {cap : Nat} {s : S} {r : PollResult Bytes}
    (h : AsyncRead.pollRead x.stream cap = (s, r)) :
    AsyncRead.pollRead x cap = (⟨s, x.calls ++ [.read cap r]⟩, r) := by
  obtain ⟨rfl, rfl⟩ := Prod.ext_iff.mp h
  rfl

theorem pollWrite_of [AsyncWrite S] {x : Traced S} {buf : Bytes} {s : S} {r : PollResult Nat}
    (h : AsyncWrite.pollWrite x.stream buf = (s, r)) :
    AsyncWrite.pollWrite x buf = (⟨s, x.calls ++ [.write buf r]⟩, r) := by
  obtain ⟨rfl, rfl⟩ := Prod.ext_iff.mp h
  rfl

theorem pollFlush_of [AsyncWrite S] {x : Traced S} {s : S} {r : PollResult Unit}
    (h : AsyncWrite.pollFlush x.stream = (s, r)) :
    AsyncWrite.pollFlush x = (⟨s, x.calls ++ [.flush r]⟩, r) := by
  obtain ⟨rfl, rfl⟩ := Prod.ext_iff.mp h
  rfl

theorem pollShutdown_of [AsyncWrite S] {x : Traced S} {s : S} {r : PollResult Unit}
    (h : AsyncWrite.pollShutdown x.stream = (s, r)) :
    AsyncWrite.pollShutdown x = (⟨s, x.calls ++ [.shutdown r]⟩, r) := by
  obtain ⟨rfl, rfl⟩ := Prod.ext_iff.mp h
  rfl

theorem calls_pollRead [AsyncRead S] {x x' : Traced S} {cap : Nat} {outcome : PollResult Bytes}
    (h : AsyncRead.pollRead x cap = (x', outcome)) :
    x'.calls = x.calls ++ [.read cap outcome] := by
  obtain ⟨same, rfl⟩ := Prod.mk.inj h
  exact (congrArg Traced.calls same).symm

theorem calls_pollWrite [AsyncWrite S] {x x' : Traced S} {buf : Bytes} {outcome : PollResult Nat}
    (h : AsyncWrite.pollWrite x buf = (x', outcome)) :
    x'.calls = x.calls ++ [.write buf outcome] := by
  obtain ⟨same, rfl⟩ := Prod.mk.inj h
  exact (congrArg Traced.calls same).symm

theorem calls_pollFlush [AsyncWrite S] {x x' : Traced S} {outcome : PollResult Unit}
    (h : AsyncWrite.pollFlush x = (x', outcome)) :
    x'.calls = x.calls ++ [.flush outcome] := by
  obtain ⟨same, rfl⟩ := Prod.mk.inj h
  exact (congrArg Traced.calls same).symm

theorem calls_pollShutdown [AsyncWrite S] {x x' : Traced S} {outcome : PollResult Unit}
    (h : AsyncWrite.pollShutdown x = (x', outcome)) :
    x'.calls = x.calls ++ [.shutdown outcome] := by
  obtain ⟨same, rfl⟩ := Prod.mk.inj h
  exact (congrArg Traced.calls same).symm

theorem accepted_pollWrite [AsyncWrite S] {x x' : Traced S} {buf : Bytes} {r : PollResult Nat}
    (polled : AsyncWrite.pollWrite x buf = (x', r)) :
    accepted x'.calls = accepted x.calls ++ (Call.write buf r).taken := by
  rw [calls_pollWrite polled, accepted_append, accepted_singleton]

theorem accepted_pollFlush [AsyncWrite S] {x x' : Traced S} {r : PollResult Unit}
    (polled : AsyncWrite.pollFlush x = (x', r)) : accepted x'.calls = accepted x.calls := by
  rw [calls_pollFlush polled, accepted_append, accepted_singleton]
  exact List.append_nil _

theorem accepted_pollShutdown [AsyncWrite S] {x x' : Traced S} {r : PollResult Unit}
    (polled : AsyncWrite.pollShutdown x = (x', r)) : accepted x'.calls = accepted x.calls := by
  rw [calls_pollShutdown polled, accepted_append, accepted_singleton]
  exact List.append_nil _

instance [ByteSource S] : ByteSource (Traced S) where
  rest x := ByteSource.rest x.stream
  pending_rest {x cap _} h := by
    have bare : AsyncRead.pollRead x.stream cap = (_, .pending) := Prod.ext rfl (Prod.mk.inj h).2
    rw [← (Prod.mk.inj h).1]
    exact ByteSource.pending_rest bare
  ready_rest {x cap _ bs} h := by
    have bare : AsyncRead.pollRead x.stream cap = (_, .ready (.ok bs)) :=
      Prod.ext rfl (Prod.mk.inj h).2
    rw [← (Prod.mk.inj h).1]
    exact ByteSource.ready_rest bare
  end_rest {x cap _} room h := by
    have bare : AsyncRead.pollRead x.stream cap = (_, .ready (.ok [])) :=
      Prod.ext rfl (Prod.mk.inj h).2
    exact ByteSource.end_rest room bare
  never_fails {x cap _ e} h := by
    have bare : AsyncRead.pollRead x.stream cap = (_, .ready (.error e)) :=
      Prod.ext rfl (Prod.mk.inj h).2
    exact ByteSource.never_fails bare

theorem obliging [AsyncWrite S] (h : Obliging S) : Obliging (Traced S) where
  write x buf e := h.write x.stream buf e
  progress x buf nonempty := h.progress x.stream buf nonempty
  flush x e := h.flush x.stream e
  shutdown x e := h.shutdown x.stream e

end Traced

end AsyncIo
