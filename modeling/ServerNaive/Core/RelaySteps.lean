import ServerNaive.Core.Relay

/-! One direction of the relay as a transition system over its buffer and the calls it
has made. Whatever the loops of `poll_copy` do is a chain of these steps, so every
invariant is proved once per step. -/
namespace ServerNaive
open AsyncIo

/-- A direction as its calls show it. -/
@[ext] structure Progress where
  dir : DirectionalBuffer
  reads : List Call
  writes : List Call
  deriving DecidableEq

namespace Progress

def didRead (v : Progress) (room : Nat) (r : PollResult Bytes) : Progress :=
  { v with reads := v.reads ++ [.read room r] }

def didWrite (v : Progress) (c : Call) : Progress := { v with writes := v.writes ++ [c] }

def withDir (v : Progress) (dir : DirectionalBuffer) : Progress := { v with dir }

/-- The room of the read in the middle of a blocked write. -/
def Ahead (v : Progress) (room : Nat) : Prop :=
  v.dir.pos < v.dir.cap ∧ v.dir.cap < v.dir.buf.length ∧ room = v.dir.buf.length - v.dir.cap

/-- The room of the read into the empty buffer. -/
def Next (v : Progress) (room : Nat) : Prop :=
  v.dir.cap ≤ v.dir.pos ∧ room = v.dir.buf.length

end Progress

inductive CopyStep : Progress → Progress → Prop
  | wrote {v : Progress} {n : Nat} (holds : v.dir.pos < v.dir.cap) (positive : 0 < n)
      (fits : n ≤ v.dir.held.length) :
      CopyStep v ((v.didWrite (.write v.dir.held (.ready (.ok n)))).withDir (v.dir.advance n))
  | unwritten {v : Progress} {r : PollResult Nat} (holds : v.dir.pos < v.dir.cap)
      (untaken : (Call.write v.dir.held r).taken = []) : CopyStep v (v.didWrite (.write v.dir.held r))
  | flushed {v : Progress} (r : PollResult Unit) (empty : v.dir.cap ≤ v.dir.pos) :
      CopyStep v (v.didWrite (.flush r))
  | shutdown {v : Progress} (r : PollResult Unit) (empty : v.dir.cap ≤ v.dir.pos)
      (ended : v.dir.readDone = true) (forwards : v.dir.suppressShutdown = false) :
      CopyStep v (v.didWrite (.shutdown r))
  | finished {v : Progress} (empty : v.dir.cap ≤ v.dir.pos) (ended : v.dir.readDone = true) :
      CopyStep v (v.withDir v.dir.endShutdown)
  | readAhead {v : Progress} {room : Nat} {bs : Bytes} (going : v.dir.readDone = false)
      (ahead : v.Ahead room) (nonempty : bs ≠ []) (fits : bs.length ≤ room) :
      CopyStep v ((v.didRead room (.ready (.ok bs))).withDir (v.dir.append bs))
  | readNext {v : Progress} {room : Nat} {bs : Bytes} (going : v.dir.readDone = false)
      (next : v.Next room) (nonempty : bs ≠ []) (fits : bs.length ≤ room) :
      CopyStep v ((v.didRead room (.ready (.ok bs))).withDir (v.dir.refill bs))
  | sawEnd {v : Progress} {room : Nat} (going : v.dir.readDone = false)
      (asked : v.Ahead room ∨ v.Next room) :
      CopyStep v ((v.didRead room (.ready (.ok []))).withDir v.dir.endRead)
  | swallowed {v : Progress} {room : Nat} (e : IoError) (going : v.dir.readDone = false)
      (ahead : v.Ahead room) :
      CopyStep v ((v.didRead room (.ready (.error e))).withDir v.dir.endRead)
  | readWaits {v : Progress} {room : Nat} (going : v.dir.readDone = false)
      (asked : v.Ahead room ∨ v.Next room) : CopyStep v (v.didRead room .pending)

abbrev CopySteps : Progress → Progress → Prop := Relation.ReflTransGen CopyStep

/-- The one read that ends the direction with its error. -/
def ReadFailed (v w : Progress) (e : IoError) : Prop :=
  v.dir.readDone = false ∧ ∃ room, v.Next room ∧ w = v.didRead room (.ready (.error e))

/-- `r` is the error `e`. -/
def Fails (r : PollResult Unit) (e : IoError) : Prop := r = .ready (.error e)

/-- Where a direction is when its poll ends; `failed` are the errors it ends with. -/
def CopyEnds (failed : IoError → Prop) (v w : Progress) : Prop :=
  ∃ mid, CopySteps v mid ∧ (w = mid ∨ ∃ e, failed e ∧ ReadFailed mid w e)

namespace CopyEnds

variable {failed : IoError → Prop} {u v w : Progress}

theorem of_steps (steps : CopySteps v w) : CopyEnds failed v w := ⟨w, steps, .inl rfl⟩

theorem head (first : CopySteps u v) (rest : CopyEnds failed v w) : CopyEnds failed u w := by
  obtain ⟨mid, steps, last⟩ := rest
  exact ⟨mid, first.trans steps, last⟩

theorem imp {other : IoError → Prop} (ends : CopyEnds failed v w) (h : ∀ e, failed e → other e) :
    CopyEnds other v w := by
  obtain ⟨mid, steps, same | ⟨e, reason, last⟩⟩ := ends
  · exact ⟨mid, steps, .inl same⟩
  · exact ⟨mid, steps, .inr ⟨e, h e reason, last⟩⟩

theorem steps (ends : CopyEnds failed v w) (none_failed : ∀ e, ¬ failed e) : CopySteps v w := by
  obtain ⟨mid, steps, rfl | ⟨e, reason, -⟩⟩ := ends
  · exact steps
  · exact absurd reason (none_failed e)

end CopyEnds

namespace Progress

/-- The direction's own calls: the streams are shared with the other direction. -/
def own (v : Progress) : Progress := ⟨v.dir, readCalls v.reads, writeCalls v.writes⟩

/-- The calls of the other direction on the same streams. -/
def foreign (v : Progress) : List Call × List Call := (writeCalls v.reads, readCalls v.writes)

theorem own_didRead (v : Progress) (room : Nat) (r : PollResult Bytes) :
    (v.didRead room r).own = v.own.didRead room r := by
  simp only [own, didRead, readCalls_append]
  rfl

theorem own_didWrite (v : Progress) {c : Call} (writes : c.isRead = false) :
    (v.didWrite c).own = v.own.didWrite c := by
  have kept : writeCalls [c] = [c] := by simp only [writeCalls, List.filter_cons, writes]; rfl
  simp only [own, didWrite, writeCalls_append, kept]

theorem own_withDir (v : Progress) (dir : DirectionalBuffer) :
    (v.withDir dir).own = v.own.withDir dir := rfl

theorem foreign_didRead (v : Progress) (room : Nat) (r : PollResult Bytes) :
    (v.didRead room r).foreign = v.foreign := by
  simp only [foreign, didRead, writeCalls_append]
  exact congrArg (·, _) (List.append_nil _)

theorem foreign_didWrite (v : Progress) {c : Call} (writes : c.isRead = false) :
    (v.didWrite c).foreign = v.foreign := by
  have dropped : readCalls [c] = [] := by simp only [readCalls, List.filter_cons, writes]; rfl
  simp only [foreign, didWrite, readCalls_append, dropped, List.append_nil]

end Progress

open Progress in
theorem CopyStep.own {v w : Progress} (step : CopyStep v w) : CopyStep v.own w.own := by
  cases step with
  | wrote holds positive fits =>
      rw [own_withDir, own_didWrite _ rfl]
      exact .wrote holds positive fits
  | unwritten holds untaken =>
      rw [own_didWrite _ rfl]
      exact .unwritten holds untaken
  | flushed r empty =>
      rw [own_didWrite _ rfl]
      exact .flushed r empty
  | shutdown r empty ended forwards =>
      rw [own_didWrite _ rfl]
      exact .shutdown r empty ended forwards
  | finished empty ended => exact .finished empty ended
  | readAhead going ahead nonempty fits =>
      rw [own_withDir, own_didRead]
      exact .readAhead going ahead nonempty fits
  | readNext going next nonempty fits =>
      rw [own_withDir, own_didRead]
      exact .readNext going next nonempty fits
  | sawEnd going asked =>
      rw [own_withDir, own_didRead]
      exact .sawEnd going asked
  | swallowed e going ahead =>
      rw [own_withDir, own_didRead]
      exact .swallowed e going ahead
  | readWaits going asked =>
      rw [own_didRead]
      exact .readWaits going asked

open Progress in
theorem CopyStep.foreign {v w : Progress} (step : CopyStep v w) : w.foreign = v.foreign := by
  cases step with
  | finished => rfl
  | wrote | unwritten | flushed | shutdown => exact foreign_didWrite v rfl
  | readAhead | readNext | sawEnd | swallowed | readWaits => exact foreign_didRead v _ _

/-- The size of the buffer and the flag are set once. -/
theorem CopyStep.settings {v w : Progress} (step : CopyStep v w) :
    w.dir.buf.length = v.dir.buf.length ∧ w.dir.suppressShutdown = v.dir.suppressShutdown := by
  cases step with
  | readAhead going ahead nonempty fits =>
      obtain ⟨-, space, rfl⟩ := ahead
      exact ⟨length_overwrite (Nat.add_le_of_le_sub' space.le fits), rfl⟩
  | readNext going next nonempty fits =>
      obtain ⟨-, rfl⟩ := next
      exact ⟨length_overwrite ((Nat.zero_add _).trans_le fits), rfl⟩
  | wrote | unwritten | flushed | shutdown | finished | sawEnd | swallowed | readWaits => exact ⟨rfl, rfl⟩

/-- What every step keeps, and the failing read too, holds at the end of a poll. -/
theorem CopyEnds.invariant {failed : IoError → Prop} {P : Progress → Prop} {v w : Progress}
    (step : ∀ v w, P v → CopyStep v w → P w) (fail : ∀ v w e, P v → ReadFailed v w e → P w)
    (start : P v) (ends : CopyEnds failed v w) : P w := by
  obtain ⟨mid, steps, last⟩ := ends
  have reached : P mid := by
    clear last
    induction steps with
    | refl => exact start
    | tail _ next ih => exact step _ _ ih next
  obtain rfl | ⟨e, -, failing⟩ := last
  · exact reached
  · exact fail _ _ e reached failing

theorem CopyEnds.settings {failed : IoError → Prop} {v w : Progress} (ends : CopyEnds failed v w) :
    w.dir.buf.length = v.dir.buf.length ∧ w.dir.suppressShutdown = v.dir.suppressShutdown := by
  refine ends.invariant (P := fun u => u.dir.buf.length = v.dir.buf.length ∧
    u.dir.suppressShutdown = v.dir.suppressShutdown) ?_ ?_ ⟨rfl, rfl⟩
  · intro x y kept step
    exact ⟨step.settings.1.trans kept.1, step.settings.2.trans kept.2⟩
  · intro x y e kept failing
    obtain ⟨-, room, -, rfl⟩ := failing
    exact kept

/-- A poll of one direction, seen through its own calls, leaves the other direction's alone. -/
theorem CopyEnds.own {failed : IoError → Prop} {v w : Progress} (ends : CopyEnds failed v w) :
    CopyEnds failed v.own w.own ∧ w.foreign = v.foreign := by
  obtain ⟨mid, steps, last⟩ := ends
  have kept : mid.foreign = v.foreign := by
    clear last
    induction steps with
    | refl => rfl
    | tail _ step ih => exact step.foreign.trans ih
  have lifted : CopySteps v.own mid.own := steps.lift _ fun _ _ step => step.own
  obtain rfl | ⟨e, reason, going, room, next, rfl⟩ := last
  · exact ⟨.of_steps lifted, kept⟩
  · refine ⟨⟨mid.own, lifted, .inr ⟨e, reason, going, room, next, ?_⟩⟩, ?_⟩
    · exact mid.own_didRead room _
    · exact (mid.foreign_didRead room _).trans kept

namespace Copy

variable {R W : Type}

def progress (c : Copy (Traced R) (Traced W)) : Progress :=
  ⟨c.dir, c.reader.calls, c.writer.calls⟩

theorem progress_read [AsyncRead R] {c : Copy (Traced R) (Traced W)} {reader : Traced R} {room : Nat}
    {r : PollResult Bytes} (dir : DirectionalBuffer)
    (polled : AsyncRead.pollRead c.reader room = (reader, r)) :
    progress ⟨dir, reader, c.writer⟩ = (c.progress.didRead room r).withDir dir := by
  simp only [progress, Traced.calls_pollRead polled]
  rfl

section Writer

variable [AsyncWrite W]

theorem progress_write {c : Copy (Traced R) (Traced W)} {writer : Traced W} {buf : Bytes}
    {r : PollResult Nat} (dir : DirectionalBuffer)
    (polled : AsyncWrite.pollWrite c.writer buf = (writer, r)) :
    progress ⟨dir, c.reader, writer⟩ = (c.progress.didWrite (.write buf r)).withDir dir := by
  simp only [progress, Traced.calls_pollWrite polled]
  rfl

theorem progress_flush {c : Copy (Traced R) (Traced W)} {writer : Traced W} {r : PollResult Unit}
    (polled : AsyncWrite.pollFlush c.writer = (writer, r)) :
    progress ⟨c.dir, c.reader, writer⟩ = c.progress.didWrite (.flush r) := by
  simp only [progress, Traced.calls_pollFlush polled]
  rfl

theorem progress_shutdown {c : Copy (Traced R) (Traced W)} {writer : Traced W} {r : PollResult Unit}
    (dir : DirectionalBuffer) (polled : AsyncWrite.pollShutdown c.writer = (writer, r)) :
    progress ⟨dir, c.reader, writer⟩ = (c.progress.didWrite (.shutdown r)).withDir dir := by
  simp only [progress, Traced.calls_pollShutdown polled]
  rfl

end Writer

section Read

variable [AsyncRead R]

theorem readAhead_steps {c : Copy (Traced R) (Traced W)} (holds : c.dir.pos < c.dir.cap) :
    CopySteps c.progress (readAhead c).progress := by
  unfold readAhead
  split_ifs with asks
  · obtain ⟨going, space⟩ := asks
    have ahead : c.progress.Ahead (c.dir.buf.length - c.dir.cap) := ⟨holds, space, rfl⟩
    split
    · rename_i reader polled
      rw [progress_read _ polled]
      exact .single (.sawEnd going (.inl ahead))
    · rename_i reader bs nonempty polled
      rw [progress_read _ polled]
      exact .single (.readAhead going ahead nonempty (AsyncRead.pollRead_fits polled))
    · rename_i reader e polled
      rw [progress_read _ polled]
      exact .single (.swallowed e going ahead)
    · rename_i reader polled
      rw [progress_read c.dir polled]
      exact .single (.readWaits going (.inl ahead))
  · exact .refl

theorem readNext_steps {c : Copy (Traced R) (Traced W)} (empty : c.dir.cap ≤ c.dir.pos)
    (going : c.dir.readDone = false) :
    (readNext c).Holds (fun next => CopySteps c.progress next.progress)
      (fun last r => CopyEnds (Fails r) c.progress last.progress) := by
  have next : c.progress.Next c.dir.buf.length := ⟨empty, rfl⟩
  unfold readNext
  split
  · rename_i reader polled
    rw [Pass.holds_leave, progress_read c.dir polled]
    exact .of_steps (.single (.readWaits going (.inr next)))
  · rename_i reader e polled
    rw [Pass.holds_leave, progress_read c.dir polled]
    exact ⟨c.progress, .refl, .inr ⟨e, rfl, going, _, next, rfl⟩⟩
  · rename_i reader polled
    rw [Pass.holds_again, progress_read _ polled]
    exact .single (.sawEnd going (.inr next))
  · rename_i reader bs nonempty polled
    rw [Pass.holds_again, progress_read _ polled]
    exact .single (.readNext going next nonempty (AsyncRead.pollRead_fits polled))

end Read

theorem finish_steps [AsyncWrite W] {c last : Copy (Traced R) (Traced W)} {r : PollResult Unit}
    (empty : c.dir.cap ≤ c.dir.pos) (ended : c.dir.readDone = true) (ran : finish c = (last, r)) :
    CopyEnds (Fails r) c.progress last.progress := by
  unfold finish at ran
  split_ifs at ran with forwards
  · split at ran
    · rename_i writer polled
      cases ran
      rw [progress_shutdown c.dir polled]
      exact .of_steps (.single (.shutdown _ empty ended forwards))
    · rename_i writer answer polled
      cases ran
      rw [progress_shutdown _ polled]
      have told : CopyStep c.progress (c.progress.didWrite (.shutdown (.ready answer))) :=
        .shutdown _ empty ended forwards
      exact .of_steps ((Relation.ReflTransGen.single told).tail (.finished empty ended))
  · cases ran
    exact .of_steps (.single (.finished empty ended))

variable [AsyncRead R] [AsyncWrite W]

theorem writePass_steps (c : Copy (Traced R) (Traced W)) :
    (writePass c).Holds
      (fun next => CopySteps c.progress next.progress ∧
        next.dir.cap - next.dir.pos < c.dir.cap - c.dir.pos)
      (fun last r => CopySteps c.progress last.progress ∧
        (r = none → last.dir.cap ≤ last.dir.pos)) := by
  unfold writePass
  split_ifs with holds
  · split
    · rename_i writer polled
      rw [Pass.holds_leave, progress_write c.dir polled]
      exact ⟨.single (.unwritten holds rfl), nofun⟩
    · rename_i writer i positive polled
      rw [Pass.holds_again, progress_write _ polled]
      have some_taken : 0 < i := Nat.pos_of_ne_zero positive
      refine ⟨.single (.wrote holds some_taken (AsyncWrite.pollWrite_le polled)), ?_⟩
      show c.dir.cap - (c.dir.pos + i) < c.dir.cap - c.dir.pos
      omega
    · rename_i writer e polled
      rw [Pass.holds_leave, progress_write c.dir polled]
      exact ⟨.single (.unwritten holds rfl), nofun⟩
    · rename_i writer polled
      have blocked : CopyStep c.progress (progress ⟨c.dir, c.reader, writer⟩) := by
        rw [progress_write c.dir polled]
        exact .unwritten holds rfl
      have ahead : CopySteps _ (readAhead ⟨c.dir, c.reader, writer⟩).progress :=
        readAhead_steps holds
      exact ⟨ahead.head blocked, nofun⟩
  · exact ⟨.refl, fun _ => Nat.le_of_not_lt holds⟩

theorem writeLoop_steps {c last : Copy (Traced R) (Traced W)} {r : Option (PollResult Unit)}
    (ran : writeLoop c = (last, r)) :
    CopySteps c.progress last.progress ∧ (r = none → last.dir.cap ≤ last.dir.pos) := by
  refine runLoop_holds (I := fun s : Copy (Traced R) (Traced W) => CopySteps c.progress s.progress)
    (Q := fun last r => CopySteps c.progress last.progress ∧
      (r = none → last.dir.cap ≤ last.dir.pos))
    (fun s => s.dir.cap - s.dir.pos) (fun s reached => ?_) .refl (Nat.lt_succ_self _) ran
  refine (writePass_steps s).imp ?_ ?_
  · intro next step
    exact ⟨reached.trans step.1, step.2⟩
  · intro final answer step
    exact ⟨reached.trans step.1, step.2⟩

theorem copyPass_steps (c : Copy (Traced R) (Traced W)) :
    (copyPass c).Holds (fun next => CopySteps c.progress next.progress)
      (fun last r => CopyEnds (Fails r) c.progress last.progress) := by
  unfold copyPass
  split
  · rename_i last r ran
    exact .of_steps (writeLoop_steps ran).1
  · rename_i mid ran
    obtain ⟨steps, left⟩ := writeLoop_steps ran
    have empty := left rfl
    have flushes : ∀ {writer answer}, AsyncWrite.pollFlush mid.writer = (writer, answer) →
        CopySteps c.progress (progress ⟨mid.dir, mid.reader, writer⟩) := by
      intro writer answer polled
      rw [progress_flush polled]
      exact steps.tail (.flushed answer empty)
    split
    · rename_i writer e polled
      exact .of_steps (flushes polled)
    · rename_i writer answer _ polled
      split_ifs with ended
      · exact .head (flushes polled) (finish_steps empty ended Prod.mk.eta.symm)
      · have going : mid.dir.readDone = false := eq_false_of_ne_true ended
        refine (readNext_steps (c := ⟨mid.dir, mid.reader, writer⟩) empty going).imp ?_ ?_
        · intro next step
          exact (flushes polled).trans step
        · intro final answer step
          exact .head (flushes polled) step

/-- A poll of one direction is a chain of steps. -/
theorem pollCopy_steps (fuel : Nat) (c : Copy (Traced R) (Traced W)) :
    (pollCopy fuel c).Holds (fun next => CopySteps c.progress next.progress)
      (fun last r => CopyEnds (Fails r) c.progress last.progress) := by
  unfold pollCopy
  split_ifs with done
  · exact .of_steps .refl
  · refine loop_holds (I := fun s : Copy (Traced R) (Traced W) => CopySteps c.progress s.progress)
      (fun s reached => ?_) fuel .refl
    refine (copyPass_steps s).imp ?_ ?_
    · intro next step
      exact reached.trans step
    · intro final answer step
      exact .head reached step

end Copy

namespace Relay

variable {A B : Type}

def upload (s : Relay (Traced A) (Traced B)) : Progress := ⟨s.aToB, s.a.calls, s.b.calls⟩

def download (s : Relay (Traced A) (Traced B)) : Progress := ⟨s.bToA, s.b.calls, s.a.calls⟩

/-- The poll ended with the error `e`. -/
def Failed (r : Polled) (e : IoError) : Prop := r = .ready (.error e)

/-- What a part of a run that ends with `r` does to both directions. -/
structure Advances (s t : Relay (Traced A) (Traced B)) (r : Polled) : Prop where
  upload : CopyEnds (Failed r) s.upload.own t.upload.own
  download : CopyEnds (Failed r) s.download.own t.download.own
  ended : ∀ completed, r = .ready (.ok completed) →
    t.termination = (if completed then .completed else .idleTimeout) ∧
      (completed = true → t.aToB.shutdownDone = true ∧ t.bToA.shutdownDone = true)

theorem Advances.refl (s : Relay (Traced A) (Traced B)) : Advances s s .pending :=
  ⟨.of_steps .refl, .of_steps .refl, nofun⟩

theorem Advances.trans {s t u : Relay (Traced A) (Traced B)} {r : Polled}
    (first : Advances s t .pending) (rest : Advances t u r) : Advances s u r :=
  ⟨.head (first.upload.steps nofun) rest.upload, .head (first.download.steps nofun) rest.download,
    rest.ended⟩

/-- A direction that moves leaves the other as it is. -/
theorem Advances.of_upload {s t : Relay (Traced A) (Traced B)} {r : Polled}
    (ends : CopyEnds (Failed r) s.upload t.upload) (kept : t.bToA = s.bToA)
    (going : ∀ completed, r ≠ .ready (.ok completed)) : Advances s t r := by
  obtain ⟨moved, others⟩ := ends.own
  obtain ⟨sent, received⟩ := Prod.mk.inj others
  have same : t.download.own = s.download.own := Progress.ext kept received sent
  exact ⟨moved, same ▸ .of_steps .refl, fun completed ended => absurd ended (going completed)⟩

theorem Advances.of_download {s t : Relay (Traced A) (Traced B)} {r : Polled}
    (ends : CopyEnds (Failed r) s.download t.download) (kept : t.aToB = s.aToB)
    (going : ∀ completed, r ≠ .ready (.ok completed)) : Advances s t r := by
  obtain ⟨moved, others⟩ := ends.own
  obtain ⟨sent, received⟩ := Prod.mk.inj others
  have same : t.upload.own = s.upload.own := Progress.ext kept received sent
  exact ⟨same ▸ .of_steps .refl, moved, fun completed ended => absurd ended (going completed)⟩

theorem Advances.settle {s t u : Relay (Traced A) (Traced B)} {before : Nat × Nat} {now : Nat}
    {r : Polled} (first : Advances s t .pending) (settled : t.settle before now = (u, r)) :
    Advances s u r := by
  unfold Relay.settle at settled
  refine first.trans ?_
  split_ifs at settled with done late
  · cases settled
    exact ⟨.of_steps .refl, .of_steps .refl, fun _ same => by cases same; exact ⟨rfl, fun _ => done⟩⟩
  · cases settled
    exact ⟨.of_steps .refl, .of_steps .refl, fun _ same => by cases same; exact ⟨rfl, nofun⟩⟩
  · cases settled
    exact ⟨.of_steps .refl, .of_steps .refl, nofun⟩

variable [AsyncRead A] [AsyncWrite A] [AsyncRead B] [AsyncWrite B]

omit [AsyncWrite A] [AsyncRead B] in
theorem pollAToB_advances {fuel : Nat} {s t : Relay (Traced A) (Traced B)} {r : Option Polled}
    (polled : pollAToB fuel s = (t, r)) : Advances s t (r.getD .pending) := by
  unfold pollAToB at polled
  split_ifs at polled
  · cases polled
    exact .refl s
  · have steps := Copy.pollCopy_steps fuel ⟨s.aToB, s.a, s.b⟩
    split at polled
    · rename_i c same
      cases polled
      rw [same] at steps
      exact .of_upload (.of_steps steps) rfl nofun
    · rename_i c e same
      cases polled
      rw [same] at steps
      exact .of_upload (CopyEnds.imp steps fun _ failed => by cases failed; rfl) rfl nofun
    · rename_i c answer unfailed same
      cases polled
      rw [same] at steps
      exact .of_upload (.of_steps (CopyEnds.steps steps unfailed)) rfl nofun

omit [AsyncRead A] [AsyncWrite B] in
theorem pollBToA_advances {fuel : Nat} {s t : Relay (Traced A) (Traced B)} {r : Option Polled}
    (polled : pollBToA fuel s = (t, r)) : Advances s t (r.getD .pending) := by
  unfold pollBToA at polled
  split_ifs at polled
  · cases polled
    exact .refl s
  · have steps := Copy.pollCopy_steps fuel ⟨s.bToA, s.b, s.a⟩
    split at polled
    · rename_i c same
      cases polled
      rw [same] at steps
      exact .of_download (.of_steps steps) rfl nofun
    · rename_i c e same
      cases polled
      rw [same] at steps
      exact .of_download (CopyEnds.imp steps fun _ failed => by cases failed; rfl) rfl nofun
    · rename_i c answer unfailed same
      cases polled
      rw [same] at steps
      exact .of_download (.of_steps (CopyEnds.steps steps unfailed)) rfl nofun

theorem poll_advances {fuel now : Nat} {s t : Relay (Traced A) (Traced B)} {r : Polled}
    (polled : poll fuel now s = (t, r)) : Advances s t r := by
  unfold poll at polled
  split at polled
  · rename_i mid answer first
    cases polled
    exact pollAToB_advances first
  · rename_i mid first
    have up : Advances s mid .pending := pollAToB_advances first
    split at polled
    · rename_i last answer second
      cases polled
      exact up.trans (pollBToA_advances second)
    · rename_i last second
      have down : Advances mid last .pending := pollBToA_advances second
      exact (up.trans down).settle polled

/-- A run of polls, whatever the streams do, is a chain of steps in each direction. -/
theorem run_advances {s t : Relay (Traced A) (Traced B)} {polls : List (Nat × Nat)} {r : Polled}
    (ran : s.run polls = (t, r)) : Advances s t r := by
  induction polls generalizing s with
  | nil =>
      cases ran
      exact .refl _
  | cons first polls ih =>
      obtain ⟨fuel, now⟩ := first
      rw [run] at ran
      split at ran
      · rename_i mid polled
        exact (poll_advances polled).trans (ih ran)
      · rename_i last answer _ polled
        cases ran
        exact poll_advances polled

end Relay

/-- A run of the relay over streams that record what is asked of them. -/
def relayed {A B : Type} [AsyncRead A] [AsyncWrite A] [AsyncRead B] [AsyncWrite B] (a : A) (b : B)
    (start idleTimeoutSecs bufferSize : Nat) (suppressAToBShutdown : Bool)
    (polls : List (Nat × Nat)) : Relay (Traced A) (Traced B) × Polled :=
  (Relay.new (.start a) (.start b) start idleTimeoutSecs bufferSize suppressAToBShutdown).run polls

end ServerNaive
