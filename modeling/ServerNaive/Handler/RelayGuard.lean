import ServerNaive.Async.Duplex
import ServerNaive.Handler.ResponseEnd

/-! The client's stream under the relay when its writes may be refused. A refused write ends the relay,
so it is the last call made on the stream. -/
namespace ServerNaive
open AsyncIo

namespace Copy

variable {R W : Type} {I : R → Prop} {Open Refused : W → Prop}

/-- Both streams of a direction that goes on. -/
structure Sane (I : R → Prop) (Open : W → Prop) (c : Copy R W) : Prop where
  reader : I c.reader
  writer : Open c.writer

/-- The direction goes on, or its last write was refused. -/
def Halts (I : R → Prop) (Open Refused : W → Prop) (last : Copy R W) (r : PollResult Unit) : Prop :=
  Sane I Open last ∨ I last.reader ∧ Refused last.writer ∧ ∃ e, r = .ready (.error e)

variable [AsyncRead R] [AsyncWrite W]

omit [AsyncWrite W] in
theorem readAhead_sane (reads : KeptByReads I) {c : Copy R W} (h : Sane I Open c) : Sane I Open (readAhead c) := by
  have next := reads c.reader (c.dir.buf.length - c.dir.cap) h.reader
  unfold readAhead
  split_ifs
  · split
    all_goals
      rename_i polled
      rw [polled] at next
      exact ⟨next, h.writer⟩
  · exact h

omit [AsyncWrite W] in
theorem readNext_sane (reads : KeptByReads I) {c : Copy R W} (h : Sane I Open c) :
    (readNext c).Holds (Sane I Open) fun last r => Halts I Open Refused last r := by
  have next := reads c.reader c.dir.buf.length h.reader
  unfold readNext
  split
  all_goals
    rename_i polled
    rw [polled] at next
  · exact .inl ⟨next, h.writer⟩
  · exact .inl ⟨next, h.writer⟩
  · exact ⟨next, h.writer⟩
  · exact ⟨next, h.writer⟩

theorem writePass_sane (reads : KeptByReads I) (guarded : Guarded Open Refused) {c : Copy R W} (h : Sane I Open c) :
    (writePass c).Holds
      (fun next => Sane I Open next ∧ next.dir.cap - next.dir.pos < c.dir.cap - c.dir.pos)
      fun last r => (r = none → Sane I Open last) ∧ ∀ answer, r = some answer → Halts I Open Refused last answer := by
  -- an answer other than a refusal keeps both streams
  have goes {writer : W} {r : PollResult Nat} (polled : AsyncWrite.pollWrite c.writer c.dir.held = (writer, r))
      (fine : ∀ e, r ≠ .ready (.error e)) : Sane I Open { c with writer } :=
    ⟨h.reader, guarded.write h.writer polled fine⟩
  unfold writePass
  split_ifs with holds
  · split
    · rename_i writer polled
      refine ⟨(fun none_left => by cases none_left), ?_⟩
      rintro answer -
      exact .inl (goes polled fun e same => by cases same)
    · rename_i writer i positive polled
      have some_taken : 0 < i := Nat.pos_of_ne_zero positive
      refine ⟨⟨h.reader, (goes polled fun e same => by cases same).writer⟩, ?_⟩
      change c.dir.cap - (c.dir.pos + i) < c.dir.cap - c.dir.pos
      omega
    · rename_i writer e polled
      refine ⟨(fun none_left => by cases none_left), ?_⟩
      intro answer same
      cases same
      exact .inr ⟨h.reader, guarded.refused h.writer polled, e, rfl⟩
    · rename_i writer polled
      refine ⟨(fun none_left => by cases none_left), ?_⟩
      rintro answer -
      exact .inl (readAhead_sane reads (goes polled fun e same => by cases same))
  · exact ⟨fun _ => h, fun answer same => by cases same⟩

theorem writeLoop_sane (reads : KeptByReads I) (guarded : Guarded Open Refused) {c last : Copy R W}
    {r : Option (PollResult Unit)} (h : Sane I Open c) (ran : writeLoop c = (last, r)) :
    (r = none → Sane I Open last) ∧ ∀ answer, r = some answer → Halts I Open Refused last answer :=
  runLoop_holds
    (Q := fun last r => (r = none → Sane I Open last) ∧ ∀ answer, r = some answer → Halts I Open Refused last answer)
    (fun s => s.dir.cap - s.dir.pos) (fun _ sane => writePass_sane reads guarded sane) h (Nat.lt_succ_self _) ran

omit [AsyncRead R] in
theorem finish_sane (guarded : Guarded Open Refused) {c : Copy R W} (h : Sane I Open c) : Sane I Open (finish c).1 := by
  have next := guarded.shutdown c.writer h.writer
  unfold finish
  split_ifs
  · split
    all_goals
      rename_i polled
      rw [polled] at next
      exact ⟨h.reader, next⟩
  · exact ⟨h.reader, h.writer⟩

theorem copyPass_sane (reads : KeptByReads I) (guarded : Guarded Open Refused) {c : Copy R W} (h : Sane I Open c) :
    (copyPass c).Holds (Sane I Open) fun last r => Halts I Open Refused last r := by
  unfold copyPass
  split
  · rename_i last r ran
    exact (writeLoop_sane reads guarded h ran).2 r rfl
  · rename_i mid ran
    have sane := (writeLoop_sane reads guarded h ran).1 rfl
    have next := guarded.flush mid.writer sane.writer
    split
    · rename_i writer e polled
      rw [polled] at next
      exact .inl ⟨sane.reader, next⟩
    · rename_i writer answer _ polled
      rw [polled] at next
      have flushed : Sane I Open { mid with writer } := ⟨sane.reader, next⟩
      split_ifs
      · exact .inl (finish_sane guarded flushed)
      · exact readNext_sane reads flushed

theorem pollCopy_sane (reads : KeptByReads I) (guarded : Guarded Open Refused) (fuel : Nat) {c : Copy R W}
    (h : Sane I Open c) :
    (pollCopy fuel c).Holds (Sane I Open) fun last r => Halts I Open Refused last r := by
  unfold pollCopy
  split_ifs
  · exact .inl h
  · exact loop_holds (fun _ sane => copyPass_sane reads guarded sane) fuel h

end Copy

namespace Relay

variable {A B : Type} [AsyncRead A] [AsyncWrite A] [AsyncRead B] [AsyncWrite B] {Open Refused : A → Prop}

omit [AsyncWrite A] [AsyncRead B] in
/-- The upload only reads the client's stream. -/
theorem pollAToB_sane (reads : KeptByReads Open) (fuel : Nat) {s : Relay A B} (h : Open s.a) :
    Open (pollAToB fuel s).1.a := by
  unfold pollAToB
  split_ifs
  · exact h
  · have polled := Copy.pollCopy_sane reads (guarded_true (W := B)) fuel (c := ⟨s.aToB, s.a, s.b⟩) ⟨h, trivial⟩
    split
    · rename_i same
      rw [same] at polled
      exact polled.reader
    all_goals
      rename_i same
      rw [same] at polled
      rcases polled with sane | ⟨kept, -⟩
      · exact sane.reader
      · exact kept

omit [AsyncRead A] [AsyncWrite B] in
theorem pollBToA_sane (guarded : Guarded Open Refused) {fuel : Nat} {s t : Relay A B} {r : Option Polled}
    (h : Open s.a) (ran : pollBToA fuel s = (t, r)) : Open t.a ∨ Refused t.a ∧ ∃ e, r = some (.ready (.error e)) := by
  unfold pollBToA at ran
  split_ifs at ran
  · cases ran
    exact .inl h
  · have polled := Copy.pollCopy_sane (I := fun _ : B => True) (fun _ _ => id) guarded fuel
      (c := ⟨s.bToA, s.b, s.a⟩) ⟨trivial, h⟩
    split at ran
    · rename_i same
      cases ran
      rw [same] at polled
      exact .inl polled.writer
    · rename_i e same
      cases ran
      rw [same] at polled
      rcases polled with sane | ⟨-, refused, -⟩
      · exact .inl sane.writer
      · exact .inr ⟨refused, e, rfl⟩
    · rename_i answer unfailed same
      cases ran
      rw [same] at polled
      rcases polled with sane | ⟨-, -, e, failed⟩
      · exact .inl sane.writer
      · exact absurd failed (unfailed e)

omit [AsyncRead A] [AsyncWrite A] [AsyncRead B] [AsyncWrite B] in
theorem settle_a (before : Nat × Nat) (now : Nat) (s : Relay A B) : (s.settle before now).1.a = s.a := by
  unfold settle
  split_ifs <;> rfl

theorem poll_sane (reads : KeptByReads Open) (guarded : Guarded Open Refused) {fuel now : Nat} {s t : Relay A B}
    {r : Polled} (h : Open s.a) (ran : poll fuel now s = (t, r)) :
    Open t.a ∨ Refused t.a ∧ ∃ e, r = .ready (.error e) := by
  have first := pollAToB_sane reads fuel h
  unfold poll at ran
  split at ran
  · rename_i mid answer same
    cases ran
    rw [same] at first
    exact .inl first
  · rename_i mid same
    rw [same] at first
    split at ran
    · rename_i last answer second
      cases ran
      rcases pollBToA_sane guarded first second with kept | ⟨refused, e, failed⟩
      · exact .inl kept
      · exact .inr ⟨refused, e, Option.some.inj failed⟩
    · rename_i last second
      have settled := settle_a (s.aToB.bytesTransferred, s.bToA.bytesTransferred) now last
      rw [ran] at settled
      rw [settled]
      rcases pollBToA_sane guarded first second with kept | ⟨-, e, failed⟩
      · exact .inl kept
      · cases failed

theorem select_sane (reads : KeptByReads Open) (guarded : Guarded Open Refused) {turn : Turn} {s t : Relay A B}
    {r : Selected} (h : Open s.a) (selected : s.select turn = (t, r)) :
    Open t.a ∨ Refused t.a ∧ ∃ e, r = .finished (.error e) := by
  unfold select at selected
  by_cases first : turn.cancelFirst ∧ turn.cancelled
  · rw [if_pos first] at selected
    cases selected
    exact .inl h
  · rw [if_neg first] at selected
    split at selected
    · rename_i last answer polled
      cases selected
      rcases poll_sane reads guarded h polled with kept | ⟨refused, e, failed⟩
      · exact .inl kept
      · cases failed
        exact .inr ⟨refused, e, rfl⟩
    · rename_i last polled
      cases selected
      rcases poll_sane reads guarded h polled with kept | ⟨-, e, failed⟩
      · exact .inl kept
      · cases failed
    · rename_i last polled
      have kept : Open last.a := by
        rcases poll_sane reads guarded h polled with kept | ⟨-, e, failed⟩
        · exact kept
        · cases failed
      split_ifs at selected
      all_goals
        cases selected
        exact .inl kept

/-- However the race against the token goes, no call follows a refused write. -/
theorem selectRun_sane (reads : KeptByReads Open) (guarded : Guarded Open Refused) {s t : Relay A B}
    {turns : List Turn} {r : Selected} (h : Open s.a) (ran : s.selectRun turns = (t, r)) :
    Open t.a ∨ Refused t.a ∧ ∃ e, r = .finished (.error e) := by
  induction turns generalizing s with
  | nil =>
      cases ran
      exact .inl h
  | cons turn turns ih =>
      rw [selectRun] at ran
      split at ran
      · rename_i next waits
        rcases select_sane reads guarded h waits with kept | ⟨-, e, failed⟩
        · exact ih kept ran
        · cases failed
      · rename_i last answer _ selected
        cases ran
        exact select_sane reads guarded h selected

end Relay

end ServerNaive
