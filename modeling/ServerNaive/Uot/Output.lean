import ServerNaive.Async.Driver
import ServerNaive.Async.Paced
import ServerNaive.Transport.PaddingEncoder
import ServerNaive.Uot.Wire

/-! The output loop of a UDP-over-TCP session, and what it leaves in the padding layer. -/
namespace ServerNaive.Uot
open AsyncIo StdNet NaivePaddedTransport

/-- A datagram as `recv_from` leaves it in a buffer of 65535 bytes. -/
structure Received where
  source : SocketAddr
  data : Bytes
  fits : data.length ≤ 65535

/-- What the `select!` of the loop wakes up for. -/
inductive OutputEvent where
  | received (datagram : Received)
  | recvError (e : IoError)
  | cancelled
  | innerCancelled

structure Output (W : Type) where
  writer : W
  downloads : List Nat
  innerCancelled : Bool
  deriving DecidableEq

section Code

variable {W : Type} [AsyncWrite W]

/-- One round; `false` leaves the loop. -/
def outputRound (isConnect : Bool) : OutputEvent → Task (Output W) IoError Bool
  | .received datagram => fun fuel s =>
      match writeUotPacket datagram.source datagram.data isConnect fuel s.writer with
      | .done () writer fuel =>
          .done true { s with writer, downloads := s.downloads ++ [datagram.data.length] } fuel
      | .failed _ writer fuel => .done false { s with writer, innerCancelled := true } fuel
      | .cut writer => .cut { s with writer }
  | .recvError _ => fun fuel s => .done false { s with innerCancelled := true } fuel
  | .cancelled => fun fuel s => .done false { s with innerCancelled := true } fuel
  | .innerCancelled => pure false

/-- The loop over the events so far; `true` is waiting for the next one. -/
def outputLoop (isConnect : Bool) : List OutputEvent → Task (Output W) IoError Bool
  | [] => pure true
  | event :: events => do
      let goes ← outputRound isConnect event
      if goes then outputLoop isConnect events else return false

/-- The output half of `handle_uot_stream`, with the polls that fit in the shutdown timeout. -/
def handleUotOutput (isConnect : Bool) (events : List OutputEvent) (closing : Nat) :
    Task (Output W) IoError Bool := do
  let waits ← outputLoop isConnect events
  if waits then return true
  else
    Task.modify fun s => { s with writer := shutdownWithin closing s.writer }
    return false

end Code

/-- The writes of a packet that offer anything, each a frame of its own while frames last. -/
def packetWrites (isConnect : Bool) (data : Bytes) : Nat :=
  (if isConnect then 0 else 3) + 1 + (if data = [] then 0 else 1)

def eventWrites (isConnect : Bool) : OutputEvent → Nat
  | .received datagram => packetWrites isConnect datagram.data
  | _ => 0

/-- The last call on a writer took all it was offered. -/
def TookWhole (calls : List Call) : Prop :=
  match calls.getLast? with
  | some (.write offered (.ready (.ok n))) => offered.length ≤ n
  | some _ => False
  | none => True

theorem tookWhole_snoc (calls : List Call) (offered : Bytes) (r : PollResult Nat) :
    TookWhole (calls ++ [.write offered r]) ↔ ∃ n, r = .ready (.ok n) ∧ offered.length ≤ n := by
  unfold TookWhole
  rw [List.getLast?_concat]
  constructor
  · intro whole
    split at whole
    · rename_i last n same
      cases same
      exact ⟨n, rfl, whole⟩
    · cases whole
    · rename_i same
      cases same
  · rintro ⟨n, rfl, whole⟩
    exact whole

section Padded

variable {T : Type} [AsyncWrite T]

/-- After `k` writes: the frames used up, and when nothing of the last one is pending. -/
structure Settled (k : Nat) (t : NaivePaddedTransport (Traced T)) : Prop where
  frames : t.writeFramesDone = min k paddingFrames
  pending : t.writePending = none ↔ paddingFrames < k ∨ TookWhole t.inner.calls

omit [AsyncWrite T] in
theorem settled_start (inner : T) (rng : Rng) : Settled 0 (.new (.start inner) rng) :=
  ⟨rfl, iff_of_true rfl (.inr trivial)⟩

/-- A frame that is accepted is pending unless its first offer took it whole. -/
theorem writeFrame_accepts {t last : NaivePaddedTransport (Traced T)} {buf : Bytes} {n : Nat}
    (ran : writeFrame t buf = (last, .ready (.ok n))) :
    last.writeFramesDone = t.writeFramesDone + 1 ∧
      (last.writePending = none ↔ TookWhole last.inner.calls) := by
  obtain ⟨inner, r, polled, ⟨e, -, same⟩ | ⟨nothing, same⟩ | ⟨m, -, rfl, same⟩⟩ := writeFrame_cases t buf
  all_goals cases same.symm.trans ran
  · refine ⟨rfl, iff_of_false (fun none_left => by cases none_left) ?_⟩
    rw [Traced.calls_pollWrite polled, tookWhole_snoc]
    rintro ⟨m, rfl, whole⟩
    rcases nothing with same | same <;> cases same
    exact absurd whole (Nat.not_le.mpr (length_frameBytes_pos _ _))
  · have taken : TookWhole inner.calls ↔ (t.nextFrame buf).length ≤ m := by
      rw [Traced.calls_pollWrite polled, tookWhole_snoc]
      constructor
      · rintro ⟨k, ⟨⟩, all⟩
        exact all
      · intro all
        exact ⟨m, rfl, all⟩
    have offset : (t.queueFrame buf).writePendingOff + m = m := Nat.zero_add m
    rw [advance_inner, taken, advance, offset]
    split_ifs with whole
    · exact ⟨rfl, iff_of_true rfl whole⟩
    · exact ⟨rfl, iff_of_false (fun none_left => by cases none_left) whole⟩

/-- What one call of `poll_write` does to the frame count and to the pending frame. -/
theorem pollWrite_accepts {t last : NaivePaddedTransport (Traced T)} {buf : Bytes} {n : Nat}
    (ran : AsyncWrite.pollWrite t buf = (last, .ready (.ok n))) :
    (t.writeFramesDone < paddingFrames ∧ n = min buf.length maxPaddedPayload ∧
        last.writeFramesDone = t.writeFramesDone + 1 ∧
        (last.writePending = none ↔ TookWhole last.inner.calls)) ∨
      (paddingFrames ≤ t.writeFramesDone ∧ last.writeFramesDone = t.writeFramesDone ∧
        last.writePending = none) := by
  change pollWrite t buf = _ at ran
  unfold pollWrite at ran
  split at ran
  · cases ran
  · cases ran
  · rename_i mid drained
    obtain ⟨only, cleared⟩ := drain_holds drained
    have frames : mid.writeFramesDone = t.writeFramesDone := by rw [only]
    split_ifs at ran with raw
    · obtain rfl := congrArg Prod.fst ran
      exact .inr ⟨frames ▸ raw, frames, cleared rfl⟩
    · left
      have counted := writeFrame_le mid buf (congrArg Prod.snd ran)
      obtain ⟨used, pending⟩ := writeFrame_accepts ran
      exact ⟨by omega, counted, used.trans (by rw [frames]), pending⟩

theorem pollWrite_waits {t last : NaivePaddedTransport (Traced T)} {buf : Bytes}
    (ran : AsyncWrite.pollWrite t buf = (last, .pending)) : last.writeFramesDone = t.writeFramesDone := by
  change pollWrite t buf = _ at ran
  unfold pollWrite at ran
  split at ran
  · rename_i mid drained
    cases ran
    rw [(drain_holds drained).1]
  · cases ran
  · rename_i mid drained
    have frames : mid.writeFramesDone = t.writeFramesDone := by rw [(drain_holds drained).1]
    split_ifs at ran with raw
    · obtain rfl := congrArg Prod.fst ran
      exact frames
    · obtain ⟨inner, r, -, ⟨e, -, same⟩ | ⟨-, same⟩ | ⟨n, -, -, same⟩⟩ := writeFrame_cases mid buf
      all_goals cases same.symm.trans ran

/-- Past the frames, a write that is taken leaves nothing pending. -/
theorem offer_raw (fuel : Nat) {buf : Bytes} {t : NaivePaddedTransport (Traced T)}
    (raw : paddingFrames ≤ t.writeFramesDone) (clear : buf = [] → t.writePending = none) :
    (Task.offer fuel buf t).Holds
      (fun _ last => last.writeFramesDone = t.writeFramesDone ∧ last.writePending = none)
      (fun _ _ => True) fun _ => True := by
  induction fuel generalizing buf t with
  | zero =>
      cases buf with
      | nil => exact ⟨rfl, clear rfl⟩
      | cons => exact trivial
  | succ fuel ih =>
      cases buf with
      | nil => exact ⟨rfl, clear rfl⟩
      | cons b buf =>
          rw [Task.offer]
          split
          · rename_i next polled
            have frames := pollWrite_waits polled
            rw [← frames] at raw ⊢
            exact ih raw fun empty => by cases empty
          · exact trivial
          · exact trivial
          · rename_i next n _ polled
            rcases pollWrite_accepts polled with ⟨framed, -⟩ | ⟨-, frames, cleared⟩
            · exact absurd framed (Nat.not_lt.mpr raw)
            · rw [← frames] at raw ⊢
              exact ih raw fun _ => cleared

/-- While frames last, a write is one frame. -/
theorem offer_framed (fuel : Nat) {buf : Bytes} {t : NaivePaddedTransport (Traced T)}
    (framed : t.writeFramesDone < paddingFrames) (some_bytes : buf ≠ [])
    (fits : buf.length ≤ maxPaddedPayload) :
    (Task.offer fuel buf t).Holds
      (fun _ last => last.writeFramesDone = t.writeFramesDone + 1 ∧
        (last.writePending = none ↔ TookWhole last.inner.calls))
      (fun _ _ => True) fun _ => True := by
  obtain ⟨b, rest, rfl⟩ := List.exists_cons_of_ne_nil some_bytes
  induction fuel generalizing t with
  | zero => exact trivial
  | succ fuel ih =>
      rw [Task.offer]
      split
      · rename_i next polled
        have frames := pollWrite_waits polled
        rw [← frames] at framed ⊢
        exact ih framed
      · exact trivial
      · exact trivial
      · rename_i next n _ polled
        rcases pollWrite_accepts polled with ⟨-, counted, used, pending⟩ | ⟨raw, -⟩
        · have whole : n = (b :: rest).length := counted.trans (Nat.min_eq_left fits)
          rw [whole, List.drop_length]
          cases fuel with
          | zero => exact ⟨used, pending⟩
          | succ fuel => exact ⟨used, pending⟩
        · exact absurd framed (Nat.not_lt.mpr raw)

theorem writeAll_settled {k : Nat} {buf : Bytes} {t : NaivePaddedTransport (Traced T)}
    (settled : Settled k t) (some_bytes : buf ≠ []) (fits : buf.length ≤ 65535) (fuel : Nat) :
    (Task.writeAll buf fuel t).Holds (fun _ last => Settled (k + 1) last)
      (fun _ _ => True) fun _ => True := by
  have frames := settled.frames
  by_cases framed : k < paddingFrames
  · have more : t.writeFramesDone < paddingFrames := by omega
    refine (offer_framed fuel more some_bytes fits).imp ?_ (fun _ _ h => h) (fun _ h => h)
    intro _ last wrote
    refine ⟨by omega, wrote.2.trans (or_iff_right (by omega)).symm⟩
  · have raw : paddingFrames ≤ t.writeFramesDone := by omega
    refine (offer_raw fuel raw (absurd · some_bytes)).imp ?_ (fun _ _ h => h) (fun _ h => h)
    intro _ last wrote
    exact ⟨by omega, iff_of_true wrote.2 (.inl (by omega))⟩

/-- `m` adds `writes` to the writes of a settled transport. -/
def Writes (m : Task (NaivePaddedTransport (Traced T)) IoError Unit) (writes : Nat) : Prop :=
  ∀ k t fuel, Settled k t →
    (m fuel t).Holds (fun _ last => Settled (k + writes) last) (fun _ _ => True) fun _ => True

theorem writes_some {buf : Bytes} {size : Nat} (length : buf.length = size) (positive : 0 < size)
    (fits : size ≤ 65535) : Writes (T := T) (Task.writeAll buf) 1 := by
  intro k t fuel settled
  have some_bytes : buf ≠ [] := List.length_pos_iff.mp (length ▸ positive)
  exact writeAll_settled settled some_bytes (length ▸ fits) fuel

theorem writes_writeAll {buf : Bytes} (fits : buf.length ≤ 65535) :
    Writes (T := T) (Task.writeAll buf) (if buf = [] then 0 else 1) := by
  by_cases empty : buf = []
  · subst empty
    intro k t fuel settled
    cases fuel <;> exact settled
  · rw [if_neg empty]
    exact writes_some rfl (List.length_pos_iff.mpr empty) fits

theorem writes_writeU8 (b : UInt8) : Writes (T := T) (Task.writeU8 b) 1 :=
  writes_some (show [b].length = 1 from rfl) Nat.one_pos (by decide)

theorem writes_writeU16 (n : UInt16) : Writes (T := T) (Task.writeU16 n) 1 :=
  writes_some (length_be16 _) Nat.two_pos (by decide)

omit [AsyncWrite T] in
theorem Writes.bind {m n : Task (NaivePaddedTransport (Traced T)) IoError Unit} {i j : Nat}
    (first : Writes m i) (second : Writes n j) : Writes (m >>= fun _ => n) (i + j) := by
  intro k t fuel settled
  refine Task.holds_bind ((first k t fuel settled).imp ?_ (fun _ _ h => h) (fun _ h => h))
  intro _ mid reached left
  rw [← Nat.add_assoc]
  exact second (k + i) mid left reached

theorem writes_writeAddrParser (source : SocketAddr) : Writes (T := T) (writeAddrParser source) 3 := by
  unfold writeAddrParser
  split
  · rename_i ip _
    have octets : Writes (T := T) (Task.writeAll ip.octets) 1 :=
      writes_some (show ip.octets.length = 4 from rfl) (by decide) (by decide)
    exact (writes_writeU8 _).bind (octets.bind (writes_writeU16 _))
  · rename_i ip _
    have octets : Writes (T := T) (Task.writeAll (ipv6Octets ip)) 1 :=
      writes_some (length_ipv6Octets ip) (by decide) (by decide)
    exact (writes_writeU8 _).bind (octets.bind (writes_writeU16 _))

theorem writes_writeUotPacket (source : SocketAddr) {data : Bytes} (fits : data.length ≤ 65535)
    (isConnect : Bool) :
    Writes (T := T) (writeUotPacket source data isConnect) (packetWrites isConnect data) := by
  have tail := (writes_writeU16 (T := T) (UInt16.ofNat data.length)).bind (writes_writeAll fits)
  cases isConnect with
  | true => exact tail
  | false =>
      rw [packetWrites, Nat.add_assoc]
      exact (writes_writeAddrParser source).bind tail

theorem outputRound_settled (isConnect : Bool) (event : OutputEvent) {k : Nat}
    {s : Output (NaivePaddedTransport (Traced T))} (settled : Settled k s.writer) (fuel : Nat) :
    (outputRound isConnect event fuel s).Holds
      (fun goes last => goes = true → Settled (k + eventWrites isConnect event) last.writer)
      (fun _ _ => True) fun _ => True := by
  cases event with
  | received datagram =>
      have wrote := writes_writeUotPacket datagram.source datagram.fits isConnect k s.writer fuel settled
      simp only [outputRound]
      split
      · rename_i writer left ran
        rw [ran] at wrote
        exact fun _ => wrote
      · exact nofun
      · exact trivial
  | recvError e => exact nofun
  | cancelled => exact nofun
  | innerCancelled => exact nofun

theorem outputLoop_settled (isConnect : Bool) (events : List OutputEvent) {k : Nat}
    {s : Output (NaivePaddedTransport (Traced T))} (settled : Settled k s.writer) (fuel : Nat) :
    (outputLoop isConnect events fuel s).Holds
      (fun waits last => waits = true →
        Settled (k + (events.map (eventWrites isConnect)).sum) last.writer)
      (fun _ _ => True) fun _ => True := by
  induction events generalizing k s fuel with
  | nil => exact fun _ => settled
  | cons event events ih =>
      rw [outputLoop]
      refine Task.holds_bind ((outputRound_settled isConnect event settled fuel).imp ?_
        (fun _ _ h => h) (fun _ h => h))
      intro goes mid reached left
      cases goes with
      | false => exact nofun
      | true =>
          rw [List.map_cons, List.sum_cons, ← Nat.add_assoc]
          exact ih (reached rfl) left

/-- Whenever the output loop waits for the next datagram, nothing is left in the padding layer
exactly if its last write came after the eight frames or was taken whole when first offered. -/
theorem output_delivered_iff (isConnect : Bool) (events : List OutputEvent) (closing fuel : Nat)
    (inner : T) (rng : Rng) :
    (handleUotOutput isConnect events closing fuel
        ⟨NaivePaddedTransport.new (Traced.start inner) rng, [], false⟩).Holds
      (fun waits s => waits = true →
        (s.writer.writePending = none ↔
          paddingFrames < (events.map (eventWrites isConnect)).sum ∨ TookWhole s.writer.inner.calls))
      (fun _ _ => True) fun _ => True := by
  have loop := outputLoop_settled isConnect events
    (s := ⟨NaivePaddedTransport.new (Traced.start inner) rng, [], false⟩) (settled_start inner rng) fuel
  rw [Nat.zero_add] at loop
  refine Task.holds_bind (loop.imp ?_ (fun _ _ h => h) (fun _ h => h))
  intro waits mid reached left
  cases waits with
  | false => exact nofun
  | true => exact fun _ => (reached rfl).pending

end Padded

/-- A resolver's answer on a connected session, over a writer that takes the frame of its
length and is busy when the frame of its one byte is offered. -/
def strandedAnswer : Run (Output (NaivePaddedTransport (Traced PacedWriter))) IoError Bool :=
  handleUotOutput true [.received ⟨⟨.v4 ⟨9, 9, 9, 9⟩, 53⟩, [7], by decide⟩] 0 10
    ⟨.new (.start ⟨[100, 0]⟩) ⟨fun _ => 0, 0⟩, [], false⟩

theorem answer_stranded : ∃ s left, strandedAnswer = .done true s left ∧ s.downloads = [1] ∧
    accepted s.writer.inner.calls = [0, 2, 0, 0, 1] ∧
    s.writer.writePending = some [0, 1, 0, 7] ∧ s.writer.writePendingOff = 0 :=
  ⟨_, _, rfl, by decide +kernel⟩

end ServerNaive.Uot
