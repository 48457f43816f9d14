import ServerNaive.Async.Duplex
import ServerNaive.Async.Pipe

/-! One end of an in-memory stream. It reads one pipe and writes another; its peer holds the same two
the other way round. -/
namespace AsyncIo

/-- The two pipes as one end sees them. `yields` are the calls on which the runtime makes the caller
give way, whatever the pipes hold. -/
structure DuplexEnd where
  capacity : Nat
  incoming : Pipe Bytes
  outgoing : Pipe Bytes
  yields : List Bool
  deriving DecidableEq

namespace DuplexEnd

def new (capacity : Nat) (yields : List Bool) : DuplexEnd := ⟨capacity, .new, .new, yields⟩

def tick (x : DuplexEnd) : DuplexEnd := { x with yields := x.yields.tail }

/-- The peer has used the pipes and left them so. -/
def rejoin (x : DuplexEnd) (incoming outgoing : Pipe Bytes) : DuplexEnd := { x with incoming, outgoing }

def pollRead (x : DuplexEnd) (cap : Nat) : DuplexEnd × PollResult Bytes :=
  if x.yields.headD false then (x.tick, .pending)
  else if x.incoming.data ≠ [] then
    ({ x.tick with incoming := x.incoming.read cap }, .ready (.ok (x.incoming.data.take cap)))
  else if x.incoming.closed then (x.tick, .ready (.ok []))
  else (x.tick, .pending)

def pollWrite (x : DuplexEnd) (buf : Bytes) : DuplexEnd × PollResult Nat :=
  if x.yields.headD false then (x.tick, .pending)
  else if x.outgoing.closed then (x.tick, .ready (.error ⟨.brokenPipe, "broken pipe"⟩))
  else if x.outgoing.room x.capacity = 0 then (x.tick, .pending)
  else
    ({ x.tick with outgoing := x.outgoing.write (buf.take (x.outgoing.room x.capacity)) },
      .ready (.ok (min buf.length (x.outgoing.room x.capacity))))

instance : AsyncRead DuplexEnd where
  pollRead := pollRead
  pollRead_fits h := by
    unfold pollRead at h
    split_ifs at h
    · cases h
    · cases h
      exact List.length_take_le _ _
    · cases h
      exact Nat.zero_le _
    · cases h

instance : AsyncWrite DuplexEnd where
  pollWrite := pollWrite
  pollFlush x := (x, .ready (.ok ()))
  pollShutdown x := ({ x with outgoing := x.outgoing.close }, .ready (.ok ()))
  pollWrite_le h := by
    unfold pollWrite at h
    split_ifs at h
    · cases h
    · cases h
    · cases h
    · cases h
      exact Nat.min_le_left _ _

/-- What was taken since is in the outgoing pipe, and what was handed out has left the incoming one. -/
structure Flow (x y : Traced DuplexEnd) : Prop where
  sent : ∃ bs, accepted y.calls = accepted x.calls ++ bs ∧ y.stream.outgoing.data = x.stream.outgoing.data ++ bs
  got : ∃ bs, returned y.calls = returned x.calls ++ bs ∧ x.stream.incoming.data = bs ++ y.stream.incoming.data

namespace Flow

theorem refl (x : Traced DuplexEnd) : Flow x x :=
  ⟨⟨[], (List.append_nil _).symm, (List.append_nil _).symm⟩, ⟨[], (List.append_nil _).symm, rfl⟩⟩

theorem trans {x y z : Traced DuplexEnd} (first : Flow x y) (second : Flow y z) : Flow x z := by
  obtain ⟨⟨sent, took, filled⟩, got, gave, left⟩ := first
  obtain ⟨⟨sent', took', filled'⟩, got', gave', left'⟩ := second
  refine ⟨⟨sent ++ sent', ?_, ?_⟩, got ++ got', ?_, ?_⟩
  · rw [took', took, List.append_assoc]
  · rw [filled', filled, List.append_assoc]
  · rw [gave', gave, List.append_assoc]
  · rw [left, left', List.append_assoc]

theorem pollRead (x : Traced DuplexEnd) (cap : Nat) : Flow x (AsyncRead.pollRead x cap).1 := by
  have polled := (Prod.mk.eta (p := AsyncRead.pollRead x cap)).symm
  refine ⟨⟨[], ?_, ?_⟩, handed (AsyncRead.pollRead x cap).2, ?_, ?_⟩
  · rw [Traced.calls_pollRead polled, accepted_append, accepted_singleton]
    rfl
  · rw [List.append_nil]
    change (DuplexEnd.pollRead x.stream cap).1.outgoing.data = _
    unfold DuplexEnd.pollRead
    split_ifs <;> rfl
  · rw [Traced.returned_pollRead polled, Call.given_read]
  · change _ = handed (DuplexEnd.pollRead x.stream cap).2 ++ (DuplexEnd.pollRead x.stream cap).1.incoming.data
    unfold DuplexEnd.pollRead
    split_ifs
    · rfl
    · exact (List.take_append_drop cap x.stream.incoming.data).symm
    · rfl
    · rfl

theorem pollWrite (x : Traced DuplexEnd) (buf : Bytes) : Flow x (AsyncWrite.pollWrite x buf).1 := by
  have polled := (Prod.mk.eta (p := AsyncWrite.pollWrite x buf)).symm
  refine ⟨⟨(Call.write buf (AsyncWrite.pollWrite x buf).2).taken, Traced.accepted_pollWrite polled, ?_⟩, [], ?_, ?_⟩
  · change (DuplexEnd.pollWrite x.stream buf).1.outgoing.data =
      x.stream.outgoing.data ++ (Call.write buf (DuplexEnd.pollWrite x.stream buf).2).taken
    unfold DuplexEnd.pollWrite
    split_ifs
    · exact (List.append_nil _).symm
    · exact (List.append_nil _).symm
    · exact (List.append_nil _).symm
    · change x.stream.outgoing.data ++ buf.take _ = x.stream.outgoing.data ++ buf.take _
      rw [Nat.min_comm, List.take_eq_take_min]
  · rw [Traced.calls_pollWrite polled, returned_append, returned_singleton]
    rfl
  · change x.stream.incoming.data = (DuplexEnd.pollWrite x.stream buf).1.incoming.data
    unfold DuplexEnd.pollWrite
    split_ifs <;> rfl

theorem pollFlush (x : Traced DuplexEnd) : Flow x (AsyncWrite.pollFlush x).1 := by
  have polled := (Prod.mk.eta (p := AsyncWrite.pollFlush x)).symm
  refine ⟨⟨[], ?_, (List.append_nil _).symm⟩, [], ?_, rfl⟩
  · rw [Traced.accepted_pollFlush polled, List.append_nil]
  · rw [Traced.calls_pollFlush polled, returned_append, returned_singleton]
    rfl

theorem pollShutdown (x : Traced DuplexEnd) : Flow x (AsyncWrite.pollShutdown x).1 := by
  have polled := (Prod.mk.eta (p := AsyncWrite.pollShutdown x)).symm
  refine ⟨⟨[], ?_, (List.append_nil _).symm⟩, [], ?_, rfl⟩
  · rw [Traced.accepted_pollShutdown polled, List.append_nil]
  · rw [Traced.calls_pollShutdown polled, returned_append, returned_singleton]
    rfl

/-- Bytes move as in a queue, whatever is called. -/
theorem kept (x : Traced DuplexEnd) : KeptByCalls (Flow x) where
  read y cap before := before.trans (pollRead y cap)
  write y buf before := before.trans (pollWrite y buf)
  flush y before := before.trans (pollFlush y)
  shutdown y before := before.trans (pollShutdown y)

end Flow

end DuplexEnd

end AsyncIo
