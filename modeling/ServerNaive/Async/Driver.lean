import ServerNaive.Async.Stream

/-! Whole runs of a stream under its caller: a list of writing calls, or a list of
`poll_read` calls with the room each of them offers. -/
namespace AsyncIo

inductive WriteOp where
  | write (buf : Bytes)
  | flush
  | shutdown
  deriving DecidableEq

def drive {W : Type} [AsyncWrite W] (w : W) : List WriteOp → W
  | [] => w
  | .write buf :: ops => drive (AsyncWrite.pollWrite w buf).1 ops
  | .flush :: ops => drive (AsyncWrite.pollFlush w).1 ops
  | .shutdown :: ops => drive (AsyncWrite.pollShutdown w).1 ops

/-- What the three writing calls preserve holds after any run of them. -/
theorem drive_holds {W : Type} [AsyncWrite W] {I : W → Prop}
    (write : ∀ w buf, I w → I (AsyncWrite.pollWrite w buf).1)
    (flush : ∀ w, I w → I (AsyncWrite.pollFlush w).1)
    (shutdown : ∀ w, I w → I (AsyncWrite.pollShutdown w).1)
    (ops : List WriteOp) {w : W} (start : I w) : I (drive w ops) := by
  induction ops generalizing w with
  | nil => exact start
  | cons op ops ih =>
      cases op with
      | write buf => exact ih (write w buf start)
      | flush => exact ih (flush w start)
      | shutdown => exact ih (shutdown w start)

/-- The writer takes all of an offer that is made again and again with what is left of it, and
makes its caller neither wait nor give up. -/
inductive TakesAll {W : Type} [AsyncWrite W] : W → Bytes → Prop
  | last {w w' : W} {buf : Bytes} {n : Nat} (polled : AsyncWrite.pollWrite w buf = (w', .ready (.ok (n + 1))))
      (complete : buf.length ≤ n + 1) : TakesAll w buf
  | more {w w' : W} {buf : Bytes} {n : Nat} (polled : AsyncWrite.pollWrite w buf = (w', .ready (.ok (n + 1))))
      (rest : TakesAll w' (buf.drop (n + 1))) : TakesAll w buf

theorem TakesAll.accepts {W : Type} [AsyncWrite W] {w : W} {buf : Bytes} (takes : TakesAll w buf) :
    ∃ n, (AsyncWrite.pollWrite w buf).2 = .ready (.ok (n + 1)) := by
  cases takes with
  | last polled complete => exact ⟨_, congrArg Prod.snd polled⟩
  | more polled rest => exact ⟨_, congrArg Prod.snd polled⟩

/-- After a part of the offer is taken, it is the rest that matters. -/
theorem takesAll_rest {W : Type} [AsyncWrite W] {w w' : W} {buf : Bytes} {n : Nat}
    (polled : AsyncWrite.pollWrite w buf = (w', .ready (.ok (n + 1)))) (part : n + 1 < buf.length) :
    TakesAll w buf ↔ TakesAll w' (buf.drop (n + 1)) := by
  refine ⟨?_, .more polled⟩
  intro takes
  cases takes with
  | last again complete =>
      cases polled.symm.trans again
      omega
  | more again rest =>
      cases polled.symm.trans again
      exact rest

/-- A shutdown under a timeout, with the polls that fit in the time. -/
def shutdownWithin {W : Type} [AsyncWrite W] : Nat → W → W
  | 0, w => w
  | polls + 1, w => match AsyncWrite.pollShutdown w with
      | (w, .pending) => shutdownWithin polls w
      | (w, .ready _) => w

theorem stream_shutdownWithin {W : Type} [AsyncWrite W] (polls : Nat) (w : Traced W) :
    (shutdownWithin polls w).stream = shutdownWithin polls w.stream := by
  induction polls generalizing w with
  | zero => rfl
  | succ polls ih =>
      rw [shutdownWithin, shutdownWithin]
      cases polled : AsyncWrite.pollShutdown w.stream with
      | mk s r =>
          rw [Traced.pollShutdown_of polled]
          cases r with
          | pending => exact ih _
          | ready r => rfl

theorem accepted_shutdownWithin {W : Type} [AsyncWrite W] (polls : Nat) (w : Traced W) :
    accepted (shutdownWithin polls w).calls = accepted w.calls := by
  induction polls generalizing w with
  | zero => rfl
  | succ polls ih =>
      rw [shutdownWithin]
      split
      · rename_i next polled
        rw [ih, Traced.accepted_pollShutdown polled]
      · rename_i last answer polled
        exact Traced.accepted_pollShutdown polled

def readRun {R : Type} [AsyncRead R] (r : R) : List Nat → R × List (PollResult Bytes)
  | [] => (r, [])
  | cap :: caps =>
      ((readRun (AsyncRead.pollRead r cap).1 caps).1,
        (AsyncRead.pollRead r cap).2 :: (readRun (AsyncRead.pollRead r cap).1 caps).2)

theorem readRun_append {R : Type} [AsyncRead R] (r : R) (xs ys : List Nat) :
    readRun r (xs ++ ys) =
      ((readRun (readRun r xs).1 ys).1, (readRun r xs).2 ++ (readRun (readRun r xs).1 ys).2) := by
  induction xs generalizing r with
  | nil => rfl
  | cons cap xs ih =>
      rw [List.cons_append, readRun, ih, readRun]
      rfl

/-- The bytes one outcome hands to the caller. -/
def handed : PollResult Bytes → Bytes
  | .ready (.ok bs) => bs
  | _ => []

def waiting {α : Type} : Poll α → Bool
  | .pending => true
  | .ready _ => false

/-- The calls of a record on which the stream made its reader wait. -/
def readWaits (calls : List Call) : Nat :=
  calls.countP fun
    | .read _ outcome => waiting outcome
    | _ => false

@[simp] theorem readWaits_append (xs ys : List Call) :
    readWaits (xs ++ ys) = readWaits xs + readWaits ys := List.countP_append

theorem Traced.readWaits_pollRead {S : Type} [AsyncRead S] {x x' : Traced S} {cap : Nat}
    {outcome : PollResult Bytes} (h : AsyncRead.pollRead x cap = (x', outcome)) :
    readWaits x'.calls = readWaits x.calls + (waiting outcome).toNat := by
  rw [calls_pollRead h, readWaits_append]
  cases outcome <;> rfl

/-- A reader hands out `stream` and then only end of file: what was handed out is a
front of it, no poll fails, an empty outcome comes only when all of it was handed
out and only waiting or empty outcomes follow, and all of it was handed out once
there were more outcomes other than waiting than it has bytes. -/
structure DeliversThenEnds (stream : Bytes) (outcomes : List (PollResult Bytes)) : Prop where
  front : outcomes.flatMap handed <+: stream
  no_error : ∀ e, .ready (.error e) ∉ outcomes
  honest_end : ∀ before after, outcomes = before ++ .ready (.ok []) :: after →
    before.flatMap handed = stream ∧ ∀ r ∈ after, r = .pending ∨ r = .ready (.ok [])
  progress : stream.length < outcomes.countP (fun r => !waiting r) → outcomes.flatMap handed = stream

namespace DeliversThenEnds

variable {stream : Bytes} {outcomes : List (PollResult Bytes)}

theorem nil (stream : Bytes) : DeliversThenEnds stream [] where
  front := List.nil_prefix
  no_error e member := by cases member
  honest_end before after same := by
    cases before <;> cases same
  progress enough := by
    rw [List.countP_nil] at enough
    exact absurd enough (Nat.not_lt_zero _)

/-- With nothing left to hand out, every outcome is to wait or the end. -/
theorem only_end (h : DeliversThenEnds [] outcomes) {r : PollResult Bytes} (member : r ∈ outcomes) :
    r = .pending ∨ r = .ready (.ok []) := by
  have none_handed := List.prefix_nil.mp h.front
  match r with
  | .pending => exact .inl rfl
  | .ready (.error e) => exact absurd member (h.no_error e)
  | .ready (.ok bs) =>
      have empty : bs = [] := List.flatMap_eq_nil_iff.mp none_handed _ member
      exact .inr (by rw [empty])

theorem error_free_cons (h : DeliversThenEnds stream outcomes) {r : PollResult Bytes}
    (fine : ∀ e, .ready (.error e) ≠ r) (e : IoError) : .ready (.error e) ∉ r :: outcomes := by
  intro member
  rcases List.mem_cons.mp member with same | old
  · exact fine e same
  · exact h.no_error e old

theorem wait (h : DeliversThenEnds stream outcomes) :
    DeliversThenEnds stream (.pending :: outcomes) where
  front := h.front
  no_error := error_free_cons h (by intro e same; cases same)
  honest_end before after same := by
    cases before with
    | nil => cases same
    | cons first before =>
        obtain ⟨rfl, rest⟩ := List.cons.inj same
        exact h.honest_end before after rest
  progress enough := h.progress enough

theorem chunk {bs : Bytes} (nonempty : bs ≠ []) (h : DeliversThenEnds stream outcomes) :
    DeliversThenEnds (bs ++ stream) (.ready (.ok bs) :: outcomes) where
  front := (List.prefix_append_right_inj bs).mpr h.front
  no_error := error_free_cons h (by intro e same; cases same)
  honest_end before after same := by
    cases before with
    | nil =>
        cases same
        exact absurd rfl nonempty
    | cons first before =>
        obtain ⟨rfl, rest⟩ := List.cons.inj same
        obtain ⟨all, tail⟩ := h.honest_end before after rest
        exact ⟨congrArg (bs ++ ·) all, tail⟩
  progress enough := by
    have positive : 0 < bs.length := List.length_pos_iff.mpr nonempty
    rw [List.length_append, List.countP_cons_of_pos rfl] at enough
    exact congrArg (bs ++ ·) (h.progress (by omega))

theorem ended (h : DeliversThenEnds [] outcomes) :
    DeliversThenEnds [] (.ready (.ok []) :: outcomes) where
  front := h.front
  no_error := error_free_cons h (by intro e same; cases same)
  honest_end before after same := by
    cases before with
    | nil =>
        cases same
        exact ⟨rfl, fun r member => h.only_end member⟩
    | cons first before =>
        obtain ⟨rfl, rest⟩ := List.cons.inj same
        exact h.honest_end before after rest
  progress _ := List.prefix_nil.mp h.front

end DeliversThenEnds

/-- A source hands out its bytes and then only end of file. -/
theorem readRun_source {R : Type} [ByteSource R] (r : R) {caps : List Nat} (room : ∀ cap ∈ caps, 0 < cap) :
    DeliversThenEnds (ByteSource.rest r) (readRun r caps).2 := by
  induction caps generalizing r with
  | nil => exact .nil _
  | cons cap caps ih =>
      cases polled : AsyncRead.pollRead r cap with
      | mk next answer =>
          have tail := ih next fun c member => room c (List.mem_cons_of_mem cap member)
          rw [readRun, polled]
          cases answer with
          | pending =>
              rw [ByteSource.pending_rest polled] at tail
              exact tail.wait
          | ready result =>
              cases result with
              | error e => exact absurd polled ByteSource.never_fails
              | ok bs =>
                  cases bs with
                  | nil =>
                      have gone := ByteSource.end_rest (room cap List.mem_cons_self) polled
                      have same := ByteSource.ready_rest polled
                      rw [List.nil_append, gone] at same
                      rw [same] at tail
                      rw [gone]
                      exact tail.ended
                  | cons b bs =>
                      rw [← ByteSource.ready_rest polled]
                      exact tail.chunk (List.cons_ne_nil b bs)

end AsyncIo
