import ServerNaive.Async.Dutiful
import ServerNaive.Core.RelayIdle
import ServerNaive.Core.RelayWake

/-! The relay gets done. Between two streams that do their duty its loops are left, it never fails, and a
poll that waits was held up by one of the streams. So it has delivered everything once it was polled more
often than it was held up, unless the idle timer ran out first. -/
namespace ServerNaive
open AsyncIo

namespace Copy

section Reading

variable {R W : Type} {I : R → Prop} {rest : R → Bytes} {J : W → Prop} {other : W → Bytes} {beside : Bytes}

/-- A direction between such streams, with room in its buffer. It stops reading only where its source
ends, and leaves alone what the other stream still has to hand out. -/
structure Drains (I : R → Prop) (rest : R → Bytes) (J : W → Prop) (other : W → Bytes) (beside : Bytes)
    (c : Copy R W) : Prop where
  room : 0 < c.dir.buf.length
  cap_le : c.dir.cap ≤ c.dir.buf.length
  ended : c.dir.readDone = true → rest c.reader = []
  reader : I c.reader
  writer : J c.writer
  untouched : other c.writer = beside

/-- One pass for each byte that may come alone, and one for the end. -/
def passesLeft (rest : R → Bytes) (c : Copy R W) : Nat :=
  (rest c.reader).length + if c.dir.readDone then 0 else 1

/-- A poll leaves the direction waiting or done. -/
def Rests (I : R → Prop) (rest : R → Bytes) (J : W → Prop) (other : W → Bytes) (beside : Bytes) (last : Copy R W)
    (r : PollResult Unit) : Prop :=
  Drains I rest J other beside last ∧ (r = .pending ∨ r = .ready (.ok ()) ∧ last.dir.isDone = true)

variable {c : Copy R W}

theorem Drains.onto (h : Drains I rest J other beside c) {writer : W} (kept : J writer)
    (same : other writer = other c.writer) : Drains I rest J other beside { c with writer } :=
  ⟨h.room, h.cap_le, h.ended, h.reader, kept, same.trans h.untouched⟩

theorem Drains.append (h : Drains I rest J other beside c) {reader : R} {bs : Bytes} (kept : I reader)
    (going : c.dir.readDone = false) (fits : c.dir.cap + bs.length ≤ c.dir.buf.length) :
    Drains I rest J other beside { c with reader, dir := c.dir.append bs } := by
  have same : (c.dir.append bs).buf.length = c.dir.buf.length := length_overwrite fits
  refine ⟨?_, ?_, fun ended => absurd (going.symm.trans ended) Bool.false_ne_true, kept, h.writer, h.untouched⟩
  · rw [same]
    exact h.room
  · rw [same]
    exact fits

theorem Drains.refill (h : Drains I rest J other beside c) {reader : R} {bs : Bytes} (kept : I reader)
    (going : c.dir.readDone = false) (fits : bs.length ≤ c.dir.buf.length) :
    Drains I rest J other beside { c with reader, dir := c.dir.refill bs } := by
  have same : (c.dir.refill bs).buf.length = c.dir.buf.length := length_overwrite ((Nat.zero_add _).trans_le fits)
  refine ⟨?_, ?_, fun ended => absurd (going.symm.trans ended) Bool.false_ne_true, kept, h.writer, h.untouched⟩
  · rw [same]
    exact h.room
  · rw [same]
    exact fits

variable [AsyncRead R] [AsyncWrite R] (source : Dutiful I rest)
include source

theorem Drains.endRead (h : Drains I rest J other beside c) {reader : R} {cap : Nat} (room : 0 < cap)
    (polled : AsyncRead.pollRead c.reader cap = (reader, .ready (.ok []))) :
    Drains I rest J other beside { c with reader, dir := c.dir.endRead } := by
  obtain ⟨kept, served, -, ends⟩ := source.read h.reader polled
  exact ⟨h.room, h.cap_le, fun _ => served.trans (ends room rfl), kept, h.writer, h.untouched⟩

theorem Drains.waits (h : Drains I rest J other beside c) {reader : R} {cap : Nat}
    (polled : AsyncRead.pollRead c.reader cap = (reader, .pending)) :
    Drains I rest J other beside { c with reader } := by
  obtain ⟨kept, same, -⟩ := source.read h.reader polled
  exact ⟨h.room, h.cap_le, fun ended => same.trans (h.ended ended), kept, h.writer, h.untouched⟩

theorem readAhead_drains (h : Drains I rest J other beside c) : Drains I rest J other beside (readAhead c) := by
  unfold readAhead
  split_ifs with ahead
  · obtain ⟨going, space⟩ := ahead
    split
    · rename_i polled
      exact h.endRead source (Nat.sub_pos_of_lt space) polled
    · rename_i polled
      have fits := Nat.add_le_of_le_sub' h.cap_le (AsyncRead.pollRead_fits polled)
      exact h.append (source.read h.reader polled).1 going fits
    · rename_i e polled
      exact absurd rfl ((source.read h.reader polled).2.2.1 e)
    · rename_i polled
      exact h.waits source polled
  · exact h

/-- A read into the empty buffer uses up a pass, or it has to wait. -/
theorem readNext_drains (h : Drains I rest J other beside c) (going : c.dir.readDone = false) :
    (readNext c).Holds
      (fun next => Drains I rest J other beside next ∧ next.passesLeft rest < c.passesLeft rest)
      (Rests I rest J other beside) := by
  unfold readNext
  split
  · rename_i polled
    exact ⟨h.waits source polled, .inl rfl⟩
  · rename_i e polled
    exact absurd rfl ((source.read h.reader polled).2.2.1 e)
  · rename_i reader polled
    refine ⟨h.endRead source h.room polled, ?_⟩
    have same : rest reader = rest c.reader := (source.read h.reader polled).2.1
    simp only [passesLeft, DirectionalBuffer.endRead, same, going]
    exact Nat.lt_succ_self _
  · rename_i reader bs nonempty polled
    obtain ⟨kept, served, -⟩ := source.read h.reader polled
    refine ⟨h.refill kept going (AsyncRead.pollRead_fits polled), ?_⟩
    have wire : (bs ++ rest reader).length = (rest c.reader).length := congrArg List.length served
    have positive : 0 < bs.length := List.length_pos_iff.mpr nonempty
    rw [List.length_append] at wire
    simp only [passesLeft, DirectionalBuffer.refill, going]
    omega

end Reading

variable {R W : Type} {I : R → Prop} {rest : R → Bytes} {J : W → Prop} {other : W → Bytes} {beside : Bytes}
  {c : Copy R W} [AsyncRead R] [AsyncWrite R] [AsyncRead W] [AsyncWrite W]
  (source : Dutiful I rest) (sink : Dutiful J other)
include sink

omit [AsyncRead R] [AsyncWrite R] in
theorem finish_drains (h : Drains I rest J other beside c) :
    Rests I rest J other beside (finish c).1 (finish c).2 := by
  unfold finish
  split_ifs
  · split
    all_goals
      rename_i writer _ polled
      obtain ⟨kept, same⟩ := sink.shutdown h.writer polled
      have onto := h.onto kept same
    · exact ⟨onto, .inl rfl⟩
    · exact ⟨⟨onto.room, onto.cap_le, onto.ended, onto.reader, onto.writer, onto.untouched⟩, .inr ⟨rfl, rfl⟩⟩
  · exact ⟨⟨h.room, h.cap_le, h.ended, h.reader, h.writer, h.untouched⟩, .inr ⟨rfl, rfl⟩⟩

include source

/-- Writing leaves the reader alone, and a dutiful writer makes it wait at worst. -/
theorem writePass_drains (h : Drains I rest J other beside c) :
    (writePass c).Holds
      (fun next => (Drains I rest J other beside next ∧ next.passesLeft rest = c.passesLeft rest) ∧
        next.dir.cap - next.dir.pos < c.dir.cap - c.dir.pos)
      fun last r => Drains I rest J other beside last ∧
        (r = some .pending ∨ r = none ∧ last.passesLeft rest = c.passesLeft rest) := by
  unfold writePass
  split_ifs with holds
  · have offered : c.dir.held ≠ [] := by
      refine List.length_pos_iff.mp ?_
      rw [DirectionalBuffer.length_held h.cap_le]
      exact Nat.sub_pos_of_lt holds
    split
    · rename_i polled
      exact absurd rfl ((sink.write h.writer polled).2.2.2 offered)
    · rename_i writer i positive polled
      obtain ⟨kept, same, -⟩ := sink.write h.writer polled
      have onto := h.onto kept same
      refine ⟨⟨⟨onto.room, onto.cap_le, onto.ended, onto.reader, onto.writer, onto.untouched⟩, rfl⟩, ?_⟩
      have some_taken : 0 < i := Nat.pos_of_ne_zero positive
      change c.dir.cap - (c.dir.pos + i) < c.dir.cap - c.dir.pos
      omega
    · rename_i e polled
      exact absurd rfl ((sink.write h.writer polled).2.2.1 e)
    · rename_i writer polled
      obtain ⟨kept, same, -⟩ := sink.write h.writer polled
      exact ⟨readAhead_drains source (h.onto kept same), .inl rfl⟩
  · exact ⟨h, .inr ⟨rfl, rfl⟩⟩

theorem writeLoop_drains {last : Copy R W} {r : Option (PollResult Unit)} (h : Drains I rest J other beside c)
    (ran : writeLoop c = (last, r)) :
    Drains I rest J other beside last ∧ (r = some .pending ∨ r = none ∧ last.passesLeft rest = c.passesLeft rest) := by
  refine runLoop_holds
    (I := fun s : Copy R W => Drains I rest J other beside s ∧ s.passesLeft rest = c.passesLeft rest)
    (Q := fun last r => Drains I rest J other beside last ∧
      (r = some .pending ∨ r = none ∧ last.passesLeft rest = c.passesLeft rest))
    (fun s => s.dir.cap - s.dir.pos) ?_ ⟨h, rfl⟩ (Nat.lt_succ_self _) ran
  rintro s ⟨drains, same⟩
  refine (writePass_drains source sink drains).imp ?_ ?_
  · rintro next ⟨⟨drains, kept⟩, less⟩
    exact ⟨⟨drains, kept.trans same⟩, less⟩
  · rintro last r ⟨drains, waits | ⟨empty, kept⟩⟩
    · exact ⟨drains, .inl waits⟩
    · exact ⟨drains, .inr ⟨empty, kept.trans same⟩⟩

theorem copyPass_drains (h : Drains I rest J other beside c) :
    (copyPass c).Holds
      (fun next => Drains I rest J other beside next ∧ next.passesLeft rest < c.passesLeft rest)
      (Rests I rest J other beside) := by
  unfold copyPass
  split
  · rename_i last r ran
    obtain ⟨drains, same | ⟨same, -⟩⟩ := writeLoop_drains source sink h ran
    · exact ⟨drains, .inl (Option.some.inj same)⟩
    · cases same
  · rename_i mid ran
    obtain ⟨drains, same | ⟨-, kept⟩⟩ := writeLoop_drains source sink h ran
    · cases same
    · split
      · rename_i e polled
        exact absurd rfl ((sink.flush drains.writer polled).2.2 e)
      · rename_i writer answer _ polled
        obtain ⟨still, same, -⟩ := sink.flush drains.writer polled
        have flushed := drains.onto still same
        split_ifs with ended
        · exact finish_drains sink flushed
        · refine (readNext_drains source flushed (eq_false_of_ne_true ended)).imp ?_ fun _ _ rests => rests
          rintro next ⟨drains, less⟩
          exact ⟨drains, less.trans_eq kept⟩

/-- With a pass for each byte of the source and two more, the poll leaves its loop. -/
theorem pollCopy_drains {fuel : Nat} (h : Drains I rest J other beside c)
    (enough : (rest c.reader).length + 2 ≤ fuel) :
    ∃ last r, pollCopy fuel c = .leave last r ∧ Rests I rest J other beside last r := by
  unfold pollCopy
  split_ifs with done
  · exact ⟨c, _, rfl, h, .inr ⟨rfl, done⟩⟩
  · refine loop_leaves (passesLeft rest) (fun _ drains => copyPass_drains source sink drains) h ?_
    unfold passesLeft
    split_ifs <;> omega

end Copy

/-- Each time a direction is left waiting, one of its streams held it up once more. -/
theorem Parks.stalls_lt {v w : Progress} (parks : Parks v w)
    (reads : Grew (fun c => c.isRead = true) v.reads w.reads) :
    stalls v.reads + stalls v.writes < stalls w.reads + stalls w.writes := by
  have more := reads.stalls_le
  cases parks with
  | write holds grew blocked =>
      have others := grew.stalls_le
      rw [blocked, stalls_append]
      exact Nat.add_lt_add_of_le_of_lt more (Nat.lt_succ_of_le others)
  | read empty going parked grew flushed fine =>
      have others := grew.stalls_le
      rw [flushed, stalls_append]
      exact Nat.add_lt_add_of_lt_of_le parked.stalls_lt (others.trans (Nat.le_add_right _ _))
  | shutdown empty ended grew blocked fine =>
      have others := grew.stalls_le
      rw [blocked, stalls_append]
      exact Nat.add_lt_add_of_le_of_lt more (others.trans_lt (Nat.lt_add_of_pos_right (Nat.succ_pos _)))

namespace Relay

variable {A B : Type}

/-- The same relay seen from the other side. -/
def swap (s : Relay A B) : Relay B A where
  a := s.b
  b := s.a
  aToB := s.bToA
  bToA := s.aToB
  idleTimeout := s.idleTimeout
  deadline := s.deadline
  termination := s.termination

/-- The two halves of a poll mirror each other. -/
theorem pollBToA_eq_swap [AsyncWrite A] [AsyncRead B] (fuel : Nat) (s : Relay A B) :
    pollBToA fuel s = ((pollAToB fuel s.swap).1.swap, (pollAToB fuel s.swap).2) := by
  have same : (⟨s.swap.aToB, s.swap.a, s.swap.b⟩ : Copy B A) = ⟨s.bToA, s.b, s.a⟩ := rfl
  rw [pollBToA, pollAToB, same]
  by_cases done : s.bToA.isDone
  · rw [if_pos done, if_pos (show s.swap.aToB.isDone from done)]
    rfl
  · rw [if_neg done, if_neg (show ¬ s.swap.aToB.isDone from done)]
    rcases Copy.pollCopy fuel ⟨s.bToA, s.b, s.a⟩ with c | ⟨c, _ | ⟨e | _⟩⟩ <;> rfl

/-- How often the streams have held up the relay. -/
def stalled (s : Relay (Traced A) (Traced B)) : Nat := stalls s.a.calls + stalls s.b.calls

/-- A part of a poll that ends without a result: `done`, or the relay was held up in it. -/
structure Moves (done : Prop) (s t : Relay (Traced A) (Traced B)) : Prop where
  stalled_le : s.stalled ≤ t.stalled
  held_up : done ∨ s.stalled < t.stalled

/-- Two streams that do their duty, and what they had to hand out in all. -/
structure Ends (A B : Type) where
  left : A → Prop
  restA : A → Bytes
  fromA : Bytes
  right : B → Prop
  restB : B → Bytes
  fromB : Bytes

def Ends.swap (w : Ends A B) : Ends B A := ⟨w.right, w.restB, w.fromB, w.left, w.restA, w.fromA⟩

variable {w : Ends A B} {s t : Relay (Traced A) (Traced B)}

/-- Both directions drain their streams. -/
structure Flows (w : Ends A B) (s : Relay (Traced A) (Traced B)) : Prop where
  upload : Copy.Drains (Tapped w.left w.restA w.fromA) (fun x => w.restA x.stream)
    (Tapped w.right w.restB w.fromB) (fun x => w.restB x.stream) (w.restB s.b.stream) ⟨s.aToB, s.a, s.b⟩
  download : Copy.Drains (Tapped w.right w.restB w.fromB) (fun x => w.restB x.stream)
    (Tapped w.left w.restA w.fromA) (fun x => w.restA x.stream) (w.restA s.a.stream) ⟨s.bToA, s.b, s.a⟩

theorem Flows.swap (h : Flows w s) : Flows w.swap s.swap := ⟨h.download, h.upload⟩

theorem Flows.rest_le (h : Flows w s) : (w.restA s.a.stream).length ≤ w.fromA.length := by
  have total := congrArg List.length h.upload.reader.2
  rw [List.length_append] at total
  exact (Nat.le_add_left _ _).trans_eq total

/-- A direction that saw the end has read all there was. -/
theorem Flows.returned (h : Flows w s) (ended : s.aToB.hasReadEof = true) : returned s.a.calls = w.fromA := by
  have spent : w.restA s.a.stream = [] := h.upload.ended ended
  have total := h.upload.reader.2
  rw [spent, List.append_nil] at total
  exact total

/-- How the polls of a relay end that started with `s`: everything is delivered, the time has come to
`limit`, or the relay was held up in each of them. -/
inductive Concludes (w : Ends A B) (limit : Nat) (s : Relay (Traced A) (Traced B)) (polls : List (Nat × Nat)) :
    Relay (Traced A) (Traced B) → Polled → Prop
  | completed {t : Relay (Traced A) (Traced B)} (flows : Flows w t) (uploaded : t.aToB.isDone = true)
      (downloaded : t.bToA.isDone = true) : Concludes w limit s polls t (.ready (.ok true))
  | idle {t : Relay (Traced A) (Traced B)} (late : ∃ p ∈ polls, limit ≤ p.2) :
      Concludes w limit s polls t (.ready (.ok false))
  | waits {t : Relay (Traced A) (Traced B)} (held_up : s.stalled + polls.length ≤ t.stalled) :
      Concludes w limit s polls t .pending

/-- A poll that was held up before the others. -/
theorem Concludes.cons {limit : Nat} {u : Relay (Traced A) (Traced B)} {polls : List (Nat × Nat)} {r : Polled}
    (h : Concludes w limit u polls t r) (p : Nat × Nat) (more : s.stalled < u.stalled) :
    Concludes w limit s (p :: polls) t r := by
  cases h with
  | completed flows uploaded downloaded => exact .completed flows uploaded downloaded
  | idle late =>
      obtain ⟨q, member, late⟩ := late
      exact .idle ⟨q, List.mem_cons_of_mem _ member, late⟩
  | waits held_up =>
      refine .waits ?_
      rw [List.length_cons]
      omega

variable [AsyncRead A] [AsyncWrite A] [AsyncRead B] [AsyncWrite B]

structure Ends.Dutiful (w : Ends A B) : Prop where
  left : AsyncIo.Dutiful w.left w.restA
  right : AsyncIo.Dutiful w.right w.restB

theorem Ends.Dutiful.swap (h : w.Dutiful) : w.swap.Dutiful := ⟨h.right, h.left⟩

theorem pollAToB_flows (dutiful : w.Dutiful) {fuel : Nat} (h : Flows w s) (enough : w.fromA.length + 2 ≤ fuel) :
    ∃ t, pollAToB fuel s = (t, none) ∧ Flows w t ∧ t.bToA = s.bToA ∧ Moves (t.aToB.isDone = true) s t := by
  by_cases done : s.aToB.isDone
  · exact ⟨s, if_pos done, h, rfl, le_rfl, .inl done⟩
  obtain ⟨last, r, left, drains, ends⟩ := Copy.pollCopy_drains (dutiful.left.tapped w.fromA)
    (dutiful.right.tapped w.fromB) h.upload ((Nat.add_le_add_right h.rest_le 2).trans enough)
  have steps := Copy.pollCopy_steps fuel ⟨s.aToB, s.a, s.b⟩
  have parks := Copy.pollCopy_parks fuel ⟨s.aToB, s.a, s.b⟩
  rw [left] at steps parks
  have unfailed : ∀ e, r ≠ .ready (.error e) := by
    rintro e rfl
    rcases ends with same | ⟨same, -⟩ <;> cases same
  obtain ⟨reads, writes⟩ := (CopyEnds.steps steps unfailed).grew
  refine ⟨{ s with aToB := last.dir, a := last.reader, b := last.writer }, ?_, ⟨?_, ?_⟩, rfl, ?_, ?_⟩
  · rw [pollAToB, if_neg done, left]
    rcases ends with rfl | ⟨rfl, -⟩ <;> rfl
  · exact ⟨drains.room, drains.cap_le, drains.ended, drains.reader, drains.writer, rfl⟩
  · -- what the download has still to read is as it was
    have same : w.restB last.writer.stream = w.restB s.b.stream := drains.untouched
    exact ⟨h.download.room, h.download.cap_le, fun ended => same.trans (h.download.ended ended), drains.writer,
      drains.reader, rfl⟩
  · exact Nat.add_le_add reads.stalls_le writes.stalls_le
  · rcases ends with rfl | ⟨-, finished⟩
    · exact .inr (Parks.stalls_lt (parks rfl) reads)
    · exact .inl finished

theorem pollBToA_flows (dutiful : w.Dutiful) {fuel : Nat} (h : Flows w s) (enough : w.fromB.length + 2 ≤ fuel) :
    ∃ t, pollBToA fuel s = (t, none) ∧ Flows w t ∧ t.aToB = s.aToB ∧ Moves (t.bToA.isDone = true) s t := by
  obtain ⟨t, polled, flows, kept, moves⟩ := pollAToB_flows dutiful.swap h.swap enough
  refine ⟨t.swap, ?_, flows.swap, kept, ?_, ?_⟩
  · rw [pollBToA_eq_swap, polled]
  · exact (Nat.add_comm _ _).trans_le (moves.stalled_le.trans_eq (Nat.add_comm _ _))
  · refine moves.held_up.imp id fun more => ?_
    exact (Nat.add_comm _ _).trans_lt (more.trans_eq (Nat.add_comm _ _))

/-- A poll lets both directions have their turn and then settles. -/
theorem poll_flows (dutiful : w.Dutiful) {fuel : Nat} (now : Nat) (h : Flows w s)
    (enough : max w.fromA.length w.fromB.length + 2 ≤ fuel) :
    ∃ mid, poll fuel now s = mid.settle (s.aToB.bytesTransferred, s.bToA.bytesTransferred) now ∧ SameTimer s mid ∧
      Flows w mid ∧ Moves (mid.aToB.isDone = true ∧ mid.bToA.isDone = true) s mid := by
  have enoughA : w.fromA.length + 2 ≤ fuel := by omega
  have enoughB : w.fromB.length + 2 ≤ fuel := by omega
  obtain ⟨mid, first, flows, -, up⟩ := pollAToB_flows dutiful h enoughA
  obtain ⟨last, second, flows, same, down⟩ := pollBToA_flows dutiful flows enoughB
  have timer := (pollAToB_timer first).1
  have timer' := (pollBToA_timer second).1
  refine ⟨last, ?_, ⟨timer'.1.trans timer.1, timer'.2.trans timer.2⟩, flows, up.stalled_le.trans down.stalled_le, ?_⟩
  · rw [poll, first]
    simp only [second]
  · rcases up.held_up with uploaded | more
    · rcases down.held_up with downloaded | more
      · exact .inl ⟨(congrArg DirectionalBuffer.isDone same).trans uploaded, downloaded⟩
      · exact .inr (up.stalled_le.trans_lt more)
    · exact .inr (more.trans_le down.stalled_le)

theorem run_concludes (dutiful : w.Dutiful) {start idle : Nat} {polls : List (Nat × Nat)}
    (enough : ∀ p ∈ polls, max w.fromA.length w.fromB.length + 2 ≤ p.1) (later : ∀ p ∈ polls, start ≤ p.2)
    (h : Flows w s) (timeout : s.idleTimeout = idle) (deadline : start + idle ≤ s.deadline) :
    Concludes w (start + idle) s polls (s.run polls).1 (s.run polls).2 := by
  induction polls generalizing s with
  | nil => exact .waits le_rfl
  | cons p polls ih =>
      obtain ⟨fuel, now⟩ := p
      obtain ⟨mid, polled, timer, flows, moves⟩ := poll_flows dutiful now h (enough _ List.mem_cons_self)
      have started := later _ List.mem_cons_self
      -- the timer never runs out before it would have without any progress
      have next : start + idle ≤ mid.nextDeadline (s.aToB.bytesTransferred, s.bToA.bytesTransferred) now := by
        unfold nextDeadline
        split_ifs
        · rw [timer.2, timeout]
          exact Nat.add_le_add_right started idle
        · rw [timer.1]
          exact deadline
      rw [run, polled, settle]
      by_cases done : mid.aToB.isDone = true ∧ mid.bToA.isDone = true
      · simp only [if_pos done]
        exact .completed ⟨flows.upload, flows.download⟩ done.1 done.2
      · simp only [if_neg done]
        by_cases late : mid.nextDeadline (s.aToB.bytesTransferred, s.bToA.bytesTransferred) now ≤ now
        · simp only [if_pos late]
          exact .idle ⟨_, List.mem_cons_self, next.trans late⟩
        · simp only [if_neg late]
          have more : s.stalled < mid.stalled := moves.held_up.resolve_left done
          have rest := ih (s := { mid with deadline := mid.nextDeadline _ now })
            (fun p member => enough p (List.mem_cons_of_mem _ member))
            (fun p member => later p (List.mem_cons_of_mem _ member))
            ⟨flows.upload, flows.download⟩ (timer.2.trans timeout) next
          exact rest.cons _ more

theorem new_concludes {I : A → Prop} {J : B → Prop} {restA : A → Bytes} {restB : B → Bytes}
    (left : AsyncIo.Dutiful I restA) (right : AsyncIo.Dutiful J restB) {a : A} {b : B} (beginsA : I a) (beginsB : J b)
    {start idleTimeoutSecs bufferSize : Nat} {suppress : Bool} {polls : List (Nat × Nat)} (room : 0 < bufferSize)
    (enough : ∀ p ∈ polls, max (restA a).length (restB b).length + 2 ≤ p.1) (later : ∀ p ∈ polls, start ≤ p.2)
    {t : Relay (Traced A) (Traced B)} {r : Polled}
    (ran : (Relay.new (.start a) (.start b) start idleTimeoutSecs bufferSize suppress).run polls = (t, r)) :
    Concludes ⟨I, restA, restA a, J, restB, restB b⟩ (start + idleTimeoutSecs)
      (Relay.new (.start a) (.start b) start idleTimeoutSecs bufferSize suppress) polls t r := by
  have sized (suppress : Bool) : 0 < (DirectionalBuffer.new bufferSize suppress).buf.length :=
    room.trans_eq List.length_replicate.symm
  have begins : Flows ⟨I, restA, restA a, J, restB, restB b⟩
      (Relay.new (.start a) (.start b) start idleTimeoutSecs bufferSize suppress) :=
    ⟨⟨sized suppress, Nat.zero_le _, (fun ended => by cases ended), ⟨beginsA, rfl⟩, ⟨beginsB, rfl⟩, rfl⟩,
      ⟨sized false, Nat.zero_le _, (fun ended => by cases ended), ⟨beginsB, rfl⟩, ⟨beginsA, rfl⟩, rfl⟩⟩
  have ends := run_concludes ⟨left, right⟩ enough later begins rfl le_rfl
  rw [ran] at ends
  exact ends

end Relay

/-- Between streams that do their duty the polls of a relay come to one of three ends: each stream has
taken all that the other had to hand out, or the idle timer ran out, or the streams have held up the relay
at least once for each poll. -/
theorem relay_completes {A B : Type} [AsyncRead A] [AsyncWrite A] [AsyncRead B] [AsyncWrite B] {I : A → Prop}
    {J : B → Prop} {restA : A → Bytes} {restB : B → Bytes} (left : Dutiful I restA) (right : Dutiful J restB)
    {a : A} {b : B} (beginsA : I a) (beginsB : J b) (start idleTimeoutSecs bufferSize : Nat) (suppress : Bool)
    (polls : List (Nat × Nat)) (room : 0 < bufferSize)
    (enough : ∀ p ∈ polls, max (restA a).length (restB b).length + 2 ≤ p.1) (later : ∀ p ∈ polls, start ≤ p.2) :
    let out := relayed a b start idleTimeoutSecs bufferSize suppress polls
    (out.2 = .ready (.ok true) ∧ accepted out.1.b.calls = restA a ∧ accepted out.1.a.calls = restB b) ∨
      (out.2 = .ready (.ok false) ∧ ∃ p ∈ polls, start + idleTimeoutSecs ≤ p.2) ∨
      (out.2 = .pending ∧ polls.length ≤ stalls out.1.a.calls + stalls out.1.b.calls) := by
  intro out
  obtain ⟨up, down⟩ := relayed_faithful a b start idleTimeoutSecs bufferSize suppress polls
  have ends := Relay.new_concludes left right beginsA beginsB room enough later (Prod.mk.eta (p := out)).symm
  change Faithful out.1.upload at up
  change Faithful out.1.download at down
  obtain ⟨t, r⟩ := out
  cases ends with
  | completed flows uploaded downloaded =>
      refine .inl ⟨rfl, ?_, ?_⟩
      · exact (up.drained uploaded).symm.trans (flows.returned (up.done uploaded).1)
      · exact (down.drained downloaded).symm.trans (flows.swap.returned (down.done downloaded).1)
  | idle late => exact .inr (.inl ⟨rfl, late⟩)
  | waits held_up => exact .inr (.inr ⟨rfl, (Nat.le_add_left _ _).trans held_up⟩)

/-- Five bytes up and three down, cut and held up on both sides. -/
def pacedClient : Join PacedReader PacedWriter := ⟨⟨[1, 2, 3, 4, 5], [2, 0, 1]⟩, ⟨[1, 0]⟩⟩

def pacedRemote : Join PacedReader PacedWriter := ⟨⟨[6, 7, 8], [0, 0]⟩, ⟨[1, 0]⟩⟩

def pacedPolls : List (Nat × Nat) := [(8, 0), (8, 1), (9, 2), (8, 3), (8, 4), (8, 5)]

theorem relay_completes_paced :
    let out := relayed pacedClient pacedRemote 0 30 4 false pacedPolls
    out.2 = .ready (.ok true) ∧ accepted out.1.b.calls = [1, 2, 3, 4, 5] ∧ accepted out.1.a.calls = [6, 7, 8] := by
  have ends := relay_completes (dutiful_join PacedWriter.obliging) (dutiful_join PacedWriter.obliging) trivial trivial
    (a := pacedClient) (b := pacedRemote) 0 30 4 false pacedPolls (by decide) (by decide) (by decide)
  have finished : (relayed pacedClient pacedRemote 0 30 4 false pacedPolls).2 = .ready (.ok true) := by decide +kernel
  rcases ends with ⟨-, up, down⟩ | ⟨same, -⟩ | ⟨same, -⟩
  · exact ⟨finished, up, down⟩
  · cases same.symm.trans finished
  · cases same.symm.trans finished

end ServerNaive
