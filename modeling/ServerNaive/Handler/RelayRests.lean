import ServerNaive.Handler.RelayCompletes
import ServerNaive.Handler.RelayGuard

/-! Why a poll of the relay ends without a result. Each direction that is not done has read everything
there was and handed it on, or its writer takes no more. -/
namespace ServerNaive
open AsyncIo

namespace Copy

variable {R W : Type} {I Dry : R → Prop} {J Full Flushed : W → Prop}

/-- What the streams of a direction are like after a call that they did not answer, and the writer after
a flush that did not fail. -/
structure Waits [AsyncRead R] [AsyncWrite W] (I : R → Prop) (J : W → Prop) (Dry : R → Prop) (Full Flushed : W → Prop) :
    Prop where
  reads : KeptByReads I
  writes : Guarded J J
  dry {r next : R} {cap : Nat} : I r → AsyncRead.pollRead r cap = (next, .pending) → Dry next
  full {w next : W} {buf : Bytes} : J w → AsyncWrite.pollWrite w buf = (next, .pending) → Full next
  shutting {w next : W} : J w → AsyncWrite.pollShutdown w = (next, .pending) → Full next
  flushed {w next : W} {r : PollResult Unit} : J w → AsyncWrite.pollFlush w = (next, r) →
    (∀ e, r ≠ .ready (.error e)) → Flushed next

/-- A direction that waits. -/
inductive Waiting (Dry : R → Prop) (Full Flushed : W → Prop) (c : Copy R W) : Prop
  | reads (dry : Dry c.reader) (empty : c.dir.held = []) (flushed : Flushed c.writer)
  | writes (full : Full c.writer)

/-- A direction waits or is done. -/
def Stops (Dry : R → Prop) (Full Flushed : W → Prop) (c : Copy R W) : Prop :=
  c.dir.isDone = true ∨ Waiting Dry Full Flushed c

variable [AsyncRead R] [AsyncWrite W]

omit [AsyncWrite W] in
theorem readAhead_writer (c : Copy R W) : (readAhead c).writer = c.writer := by
  unfold readAhead
  split_ifs
  · split <;> rfl
  · rfl

/-- The inner loop is left with an empty buffer, with an error, or because the writer takes no more. -/
def Written (Full : W → Prop) (last : Copy R W) (r : Option (PollResult Unit)) : Prop :=
  (r = none → last.dir.held = []) ∧
    ∀ answer, r = some answer → (∀ e, answer ≠ .ready (.error e)) → Full last.writer

theorem writePass_written (waits : Waits I J Dry Full Flushed) {c : Copy R W} (h : Sane I J c) :
    (writePass c).Holds (fun _ => True) (Written Full) := by
  unfold writePass
  split_ifs with holds
  · split
    · refine ⟨(fun other => by cases other), ?_⟩
      intro answer same fine
      cases same
      exact absurd rfl (fine _)
    · trivial
    · rename_i writer e polled
      refine ⟨(fun other => by cases other), ?_⟩
      intro answer same fine
      cases same
      exact absurd rfl (fine e)
    · rename_i writer polled
      refine ⟨(fun other => by cases other), ?_⟩
      intro answer _ _
      rw [readAhead_writer]
      exact waits.full h.writer polled
  · exact ⟨fun _ => DirectionalBuffer.held_eq_nil (not_lt.mp holds), fun _ other => by cases other⟩

theorem writeLoop_written (waits : Waits I J Dry Full Flushed) {c last : Copy R W} {r : Option (PollResult Unit)}
    (h : Sane I J c) (ran : writeLoop c = (last, r)) : Written Full last r := by
  refine runLoop_holds (I := Sane I J) (Q := Written Full) (fun s => s.dir.cap - s.dir.pos) ?_ h (Nat.lt_succ_self _) ran
  intro s sane
  have pass := (writePass_sane waits.reads waits.writes sane).and (writePass_written waits sane)
  exact pass.imp (fun _ both => both.1) fun _ _ both => both.2

omit [AsyncRead R] in
theorem finish_stops (shutting : ∀ {w next : W}, J w → AsyncWrite.pollShutdown w = (next, .pending) → Full next)
    {c : Copy R W} (writer : J c.writer) : Stops Dry Full Flushed (finish c).1 := by
  unfold finish
  split_ifs
  · split
    · rename_i polled
      exact .inr (.writes (shutting writer polled))
    · exact .inl rfl
  · exact .inl rfl

omit [AsyncWrite W] in
theorem readNext_stops (dry : ∀ {r next : R} {cap : Nat}, I r → AsyncRead.pollRead r cap = (next, .pending) → Dry next)
    {c : Copy R W} (reader : I c.reader) (empty : c.dir.held = []) (flushed : Flushed c.writer) :
    (readNext c).Holds (fun _ => True) fun last r => (∀ e, r ≠ .ready (.error e)) → Stops Dry Full Flushed last := by
  unfold readNext
  split
  · rename_i polled
    exact fun _ => .inr (.reads (dry reader polled) empty flushed)
  · rename_i e polled
    exact fun fine => absurd rfl (fine e)
  · trivial
  · trivial

theorem copyPass_stops (waits : Waits I J Dry Full Flushed) {c : Copy R W} (h : Sane I J c) :
    (copyPass c).Holds (fun _ => True)
      fun last r => (∀ e, r ≠ .ready (.error e)) → Stops Dry Full Flushed last := by
  unfold copyPass
  split
  · rename_i last r ran
    exact fun fine => .inr (.writes ((writeLoop_written waits h ran).2 r rfl fine))
  · rename_i mid ran
    have sane := (writeLoop_sane waits.reads waits.writes h ran).1 rfl
    have empty := (writeLoop_written waits h ran).1 rfl
    split
    · rename_i writer e polled
      exact fun fine => absurd rfl (fine e)
    · rename_i writer answer fine polled
      have kept := waits.writes.flush mid.writer sane.writer
      rw [polled] at kept
      split_ifs
      · exact fun _ => finish_stops waits.shutting kept
      · exact readNext_stops waits.dry sane.reader empty (waits.flushed sane.writer polled fine)

theorem pollCopy_stops (waits : Waits I J Dry Full Flushed) (fuel : Nat) {c : Copy R W} (h : Sane I J c) :
    (pollCopy fuel c).Holds (Sane I J)
      fun last r => (∀ e, r ≠ .ready (.error e)) → Sane I J last ∧ Stops Dry Full Flushed last := by
  unfold pollCopy
  split_ifs with done
  · exact fun _ => ⟨h, .inl done⟩
  · refine loop_holds (fun s sane => ?_) fuel h
    refine ((copyPass_sane waits.reads waits.writes sane).and (copyPass_stops waits sane)).imp (fun _ both => both.1) ?_
    rintro last r ⟨halts, stops⟩ fine
    rcases halts with kept | ⟨-, -, e, failed⟩
    · exact ⟨kept, stops fine⟩
    · exact absurd failed (fine e)

end Copy

namespace Relay

section Stops

variable {A B : Type} [AsyncRead A] [AsyncWrite A] [AsyncRead B] [AsyncWrite B] {I DryA FullA FlushedA : A → Prop}
  {J DryB FullB FlushedB : B → Prop} {s t : Relay A B} {fuel : Nat}

/-- A direction after its half of a poll that goes on. -/
structure Stopped (I Dry : A → Prop) (J Full Flushed : B → Prop) (s t : Relay A B) : Prop where
  reader : I t.a
  writer : J t.b
  other : t.bToA = s.bToA
  stops : Copy.Stops Dry Full Flushed ⟨t.aToB, t.a, t.b⟩

omit [AsyncWrite A] [AsyncRead B] in
theorem pollAToB_stops (waits : Copy.Waits I J DryA FullB FlushedB) (reader : I s.a) (writer : J s.b)
    (polled : pollAToB fuel s = (t, none)) : Stopped I DryA J FullB FlushedB s t := by
  unfold pollAToB at polled
  split_ifs at polled with done
  · cases polled
    exact ⟨reader, writer, rfl, .inl done⟩
  · have copied := Copy.pollCopy_stops waits fuel (c := ⟨s.aToB, s.a, s.b⟩) ⟨reader, writer⟩
    split at polled
    · cases polled
    · cases polled
    · rename_i c answer fine same
      cases polled
      rw [same] at copied
      obtain ⟨sane, stops⟩ := copied fine
      exact ⟨sane.reader, sane.writer, rfl, stops⟩

omit [AsyncRead A] [AsyncWrite B] in
theorem pollBToA_stops (waits : Copy.Waits J I DryB FullA FlushedA) (reader : J s.b) (writer : I s.a)
    (polled : pollBToA fuel s = (t, none)) : Stopped J DryB I FullA FlushedA s.swap t.swap := by
  rw [pollBToA_eq_swap] at polled
  obtain ⟨rfl, answer⟩ := Prod.mk.inj polled
  exact pollAToB_stops (s := s.swap) waits reader writer (Prod.ext rfl answer)

omit [AsyncWrite A] [AsyncRead B] in
theorem pollAToB_answer {r : Polled} (polled : pollAToB fuel s = (t, some r)) : r ≠ .pending := by
  unfold pollAToB at polled
  split_ifs at polled
  · cases polled
  · split at polled
    · cases polled
      exact fun same => by cases same
    · cases polled
      exact fun same => by cases same
    · cases polled

/-- A poll that has to be made again went through both halves. -/
theorem poll_pending {now : Nat} (polled : poll fuel now s = (t, .pending)) :
    ∃ mid last deadline, pollAToB fuel s = (mid, none) ∧ pollBToA fuel mid = (last, none) ∧
      t = { last with deadline } := by
  unfold poll at polled
  split at polled
  · rename_i mid answer first
    cases polled
    exact absurd rfl (pollAToB_answer first)
  · rename_i mid first
    split at polled
    · rename_i last answer second
      cases polled
      rw [pollBToA_eq_swap] at second
      have answer := (Prod.mk.inj second).2
      exact absurd rfl (pollAToB_answer (s := mid.swap) (Prod.ext rfl answer))
    · rename_i last second
      unfold settle at polled
      split_ifs at polled
      · cases congrArg Prod.snd polled
      · cases congrArg Prod.snd polled
      · cases polled
        exact ⟨mid, last, _, first, second, rfl⟩

/-- Both directions after a poll that has to be made again: each waits or is done. What the first has
found is still so after the second. -/
theorem poll_stops (up : Copy.Waits I J DryA FullB FlushedB) (down : Copy.Waits J I DryB FullA FlushedA)
    (dry : Guarded DryA DryA) (full : KeptByReads FullB) (flushed : KeptByReads FlushedB) (a : I s.a)
    (b : J s.b) {now : Nat} (polled : poll fuel now s = (t, .pending)) :
    Copy.Stops DryA FullB FlushedB ⟨t.aToB, t.a, t.b⟩ ∧ Copy.Stops DryB FullA FlushedA ⟨t.bToA, t.b, t.a⟩ := by
  obtain ⟨mid, last, deadline, first, second, rfl⟩ := poll_pending polled
  have upload := pollAToB_stops up a b first
  have download := pollBToA_stops down upload.writer upload.reader second
  have same : last.aToB = mid.aToB := download.other
  -- the second half only reads `b`
  have unread {P : B → Prop} (reads : KeptByReads P) (before : P mid.b) : P last.b := by
    have kept := pollAToB_sane reads fuel (s := mid.swap) before
    rw [pollBToA_eq_swap] at second
    rw [← (Prod.mk.inj second).1]
    exact kept
  refine ⟨?_, download.stops⟩
  rcases upload.stops with done | waiting
  · exact .inl ((congrArg DirectionalBuffer.isDone same).trans done)
  · refine .inr ?_
    cases waiting with
    | reads dried empty through =>
        refine .reads ?_ ((congrArg DirectionalBuffer.held same).trans empty) (unread flushed through)
        rcases pollBToA_sane dry dried second with kept | ⟨-, e, failed⟩
        · exact kept
        · cases failed
    | writes filled => exact .writes (unread full filled)

end Stops

end Relay

/-! The turns of the `select!` against the polls of the relay. -/

def Polled.selected : Polled → Selected
  | .running => .running
  | .pending => .pending
  | .ready r => .finished r

def Turn.poll (turn : Turn) : Nat × Nat := (turn.fuel, turn.now)

namespace Relay

variable {A B : Type} [AsyncRead A] [AsyncWrite A] [AsyncRead B] [AsyncWrite B] {s t : Relay A B}

theorem select_polled {turn : Turn} {r : Selected} (selected : s.select turn = (t, r)) :
    (r = .kicked ∧ turn.cancelled = true) ∨
      ∃ polled, s.poll turn.fuel turn.now = (t, polled) ∧ r = polled.selected := by
  unfold select at selected
  by_cases first : turn.cancelFirst ∧ turn.cancelled
  · rw [if_pos first] at selected
    cases selected
    exact .inl ⟨rfl, first.2⟩
  · rw [if_neg first] at selected
    split at selected
    · rename_i polled
      cases selected
      exact .inr ⟨_, polled, rfl⟩
    · rename_i polled
      cases selected
      exact .inr ⟨_, polled, rfl⟩
    · rename_i polled
      by_cases fired : turn.cancelled
      · rw [if_pos fired] at selected
        cases selected
        exact .inl ⟨rfl, fired⟩
      · rw [if_neg fired] at selected
        cases selected
        exact .inr ⟨_, polled, rfl⟩

/-- Without a kick the turns are polls of the relay. -/
theorem selectRun_polled {turns : List Turn} {r : Selected} (ran : s.selectRun turns = (t, r)) :
    (r = .kicked ∧ ∃ turn ∈ turns, turn.cancelled = true) ∨
      ∃ polled, s.run (turns.map Turn.poll) = (t, polled) ∧ r = polled.selected := by
  induction turns generalizing s with
  | nil =>
      cases ran
      exact .inr ⟨_, rfl, rfl⟩
  | cons turn turns ih =>
      rw [selectRun] at ran
      cases selected : s.select turn with
      | mk next answer =>
          rw [selected] at ran
          rcases select_polled selected with ⟨rfl, fired⟩ | ⟨polled, same, rfl⟩
          · cases ran
            exact .inl ⟨rfl, turn, List.mem_cons_self, fired⟩
          · rw [List.map_cons, Turn.poll, run, same]
            cases polled with
            | running =>
                cases ran
                exact .inr ⟨_, rfl, rfl⟩
            | ready answer =>
                cases ran
                exact .inr ⟨_, rfl, rfl⟩
            | pending =>
                rcases ih ran with ⟨kicked, other, member, fired⟩ | polls
                · exact .inl ⟨kicked, other, List.mem_cons_of_mem _ member, fired⟩
                · exact .inr polls

end Relay

end ServerNaive
