import ServerNaive.Async.Channel
import ServerNaive.Async.Driver

/-! The request half of an H3 stream: a byte stream over the driver's frame channel. -/
namespace ServerNaive
open AsyncIo

inductive InboundFrame where
  | body (data : Bytes) (fin : Bool)
  | datagram (data : Bytes)
  deriving DecidableEq

/-- The bytes that a sequence of frames carries: the bodies up to the first end. -/
def bodyBytes : List InboundFrame → Bytes
  | [] => []
  | .body data fin :: frames => data ++ if fin then [] else bodyBytes frames
  | .datagram _ :: frames => bodyBytes frames

structure H3StreamReader (C : Type) where
  recv : C
  buf : Option Bytes
  fin : Bool
  deriving DecidableEq

namespace H3StreamReader

variable {C : Type} [Receiver C InboundFrame]

def new (recv : C) : H3StreamReader C := ⟨recv, none, false⟩

/-- Hands out the front of what is left of a frame. -/
def serve (remaining : Nat) (t : H3StreamReader C) (b : Bytes) : H3StreamReader C × PollResult Bytes :=
  let left := b.drop (min b.length remaining)
  ({ t with buf := if left = [] then none else some left }, .ready (.ok (b.take (min b.length remaining))))

/-- The end of the stream, or the next frame. -/
def pull (t : H3StreamReader C) : Pass (H3StreamReader C) (PollResult Bytes) :=
  if t.fin then .leave t (.ready (.ok []))
  else match Receiver.pollRecv t.recv with
    | (recv, .ready (some (.body data fin))) =>
        .again { recv, buf := if data = [] then t.buf else some data, fin := if fin then true else t.fin }
    | (recv, .ready (some (.datagram _))) => .again { t with recv }
    | (recv, .ready none) => .leave { t with recv } (.ready (.ok []))
    | (recv, .pending) => .leave { t with recv } .pending

/-- One pass of the loop of `poll_read`. -/
def readPass (remaining : Nat) (t : H3StreamReader C) : Pass (H3StreamReader C) (PollResult Bytes) :=
  match t.buf with
  | some b =>
      if b ≠ [] then
        match serve remaining t b with
        | (t, r) => .leave t r
      else pull { t with buf := none }
  | none => pull t

def pollRead (t : H3StreamReader C) (remaining : Nat) : H3StreamReader C × PollResult Bytes :=
  runLoop (readPass remaining) ((Receiver.queue t.recv).length + 1) .pending t

/-- All the bytes that are still to be handed out. -/
def rest (t : H3StreamReader C) : Bytes :=
  t.buf.getD [] ++ if t.fin then [] else bodyBytes (Receiver.queue t.recv)

/-- The end has come: a frame said so, or the sender is gone. -/
def Ended (t : H3StreamReader C) : Prop := t.buf = none ∧ (t.fin = true ∨ Receiver.Closed t.recv)

/-- The frames taken since, with the end that the reader has heard of among them. -/
def Took (t last : H3StreamReader C) : Prop :=
  ∃ frames, Receiver.queue t.recv = frames ++ Receiver.queue last.recv ∧
    (last.fin = true → t.fin = true ∨ ∃ data, .body data true ∈ frames)

theorem Took.refl (t : H3StreamReader C) : Took t t := ⟨[], rfl, .inl⟩

theorem Took.trans {s t u : H3StreamReader C} (first : Took s t) (second : Took t u) : Took s u := by
  obtain ⟨frames, taken, heard⟩ := first
  obtain ⟨frames', taken', heard'⟩ := second
  refine ⟨frames ++ frames', by rw [taken, taken', List.append_assoc], ?_⟩
  intro ended
  rcases heard' ended with before | ⟨data, member⟩
  · rcases heard before with before | ⟨data, member⟩
    · exact .inl before
    · exact .inr ⟨data, List.mem_append_left _ member⟩
  · exact .inr ⟨data, List.mem_append_right _ member⟩

/-- What a poll hands out, and what it leaves for the next; it waits only when the channel does. -/
def Serves (remaining : Nat) (t last : H3StreamReader C) : PollResult Bytes → Prop
  | .pending => last.rest = t.rest ∧ Receiver.Waits t.recv last.recv
  | .ready (.error _) => False
  | .ready (.ok bs) => bs.length ≤ remaining ∧ bs ++ last.rest = t.rest ∧
      (0 < remaining → bs = [] → t.rest = [] ∧ Ended last)

theorem Serves.after {remaining : Nat} {t mid last : H3StreamReader C} {r : PollResult Bytes}
    (same : mid.rest = t.rest) (taken : Receiver.Takes t.recv mid.recv) (h : Serves remaining mid last r) :
    Serves remaining t last r := by
  rcases r with _ | (_ | bs)
  · exact ⟨h.1.trans same, h.2.after taken⟩
  · exact h
  · exact ⟨h.1, h.2.1.trans same, fun room empty => same ▸ h.2.2 room empty⟩

theorem serve_serves {remaining : Nat} {t : H3StreamReader C} {b : Bytes} (held : t.buf = some b) (some_left : b ≠ []) :
    Serves remaining t (serve remaining t b).1 (serve remaining t b).2 := by
  have kept : ((if b.drop (min b.length remaining) = [] then none else some (b.drop (min b.length remaining)) :
      Option Bytes).getD []) = b.drop (min b.length remaining) := by
    split_ifs with empty
    · exact empty.symm
    · rfl
  refine ⟨?_, ?_, ?_⟩
  · rw [List.length_take]
    omega
  · simp only [serve, rest, kept, held, Option.getD_some]
    rw [← List.append_assoc, List.take_append_drop]
    rfl
  · intro room none_out
    have positive : 0 < b.length := List.length_pos_iff.mpr some_left
    rcases List.take_eq_nil_iff.mp none_out with zero | empty
    · omega
    · exact absurd empty some_left

theorem pull_serves (remaining : Nat) {t : H3StreamReader C} (empty : t.buf = none) :
    (pull t).Holds
      (fun next => next.rest = t.rest ∧ Took t next ∧ Receiver.Takes t.recv next.recv ∧
        (Receiver.queue next.recv).length < (Receiver.queue t.recv).length)
      (fun last r => Serves remaining t last r ∧ Took t last) := by
  unfold pull
  split_ifs with fin
  · refine ⟨⟨Nat.zero_le _, rfl, fun _ _ => ⟨?_, empty, .inl fin⟩⟩, .refl t⟩
    rw [rest, empty, fin]
    rfl
  · split
    · rename_i recv data last polled
      have queue := Receiver.some_queue polled
      refine ⟨?_, ⟨[.body data last], by rw [queue]; rfl, ?_⟩, .single ⟨_, polled⟩,
        by rw [queue]; exact Nat.lt_succ_self _⟩
      · simp only [rest, empty, queue, bodyBytes, eq_false_of_ne_true fin, Option.getD_none, List.nil_append]
        cases last with
        | true =>
            cases data with
            | nil => rfl
            | cons x xs => rfl
        | false =>
            cases data with
            | nil => rfl
            | cons x xs => rfl
      · intro ended
        cases last with
        | true => exact .inr ⟨data, List.mem_singleton_self _⟩
        | false => exact .inl ended
    · rename_i recv data polled
      have queue := Receiver.some_queue polled
      refine ⟨?_, ⟨[.datagram data], by rw [queue]; rfl, .inl⟩, .single ⟨_, polled⟩,
        by rw [queue]; exact Nat.lt_succ_self _⟩
      simp only [rest, queue, bodyBytes]
    · rename_i recv polled
      obtain ⟨queue, closed⟩ := Receiver.none_queue polled
      have after := Receiver.closed_queue closed
      refine ⟨⟨Nat.zero_le _, ?_, fun _ _ => ⟨?_, empty, .inr closed⟩⟩, ⟨[], by rw [queue]; exact after.symm, .inl⟩⟩
      · simp only [rest, empty, queue, after, List.nil_append]
      · simp only [rest, empty, queue, bodyBytes, ite_self, Option.getD_none, List.append_nil]
    · rename_i recv polled
      have queue := Receiver.pending_queue polled
      refine ⟨⟨?_, t.recv, .refl, polled⟩, ⟨[], queue.symm, .inl⟩⟩
      rw [rest, rest, queue]

theorem readPass_serves (remaining : Nat) (t : H3StreamReader C) :
    (readPass remaining t).Holds
      (fun next => next.rest = t.rest ∧ Took t next ∧ Receiver.Takes t.recv next.recv ∧
        (Receiver.queue next.recv).length < (Receiver.queue t.recv).length)
      (fun last r => Serves remaining t last r ∧ Took t last) := by
  unfold readPass
  split
  · rename_i b held
    split_ifs with some_left
    · exact ⟨serve_serves held some_left, ⟨[], rfl, .inl⟩⟩
    · -- a drained frame counts for nothing
      have same : rest { t with buf := none } = rest t := by
        rw [rest, rest, held, not_not.mp some_left]
        rfl
      have pulls := pull_serves remaining (t := { t with buf := none }) rfl
      refine pulls.imp ?_ ?_
      · rintro next ⟨kept, took, taken, less⟩
        exact ⟨kept.trans same, took, taken, less⟩
      · rintro last r ⟨serves, took⟩
        exact ⟨serves.after same .refl, took⟩
  · rename_i empty
    exact pull_serves remaining empty

/-- `poll_read` hands out the next of what is left, and comes to an end. -/
theorem pollRead_serves {remaining : Nat} {t last : H3StreamReader C} {r : PollResult Bytes}
    (ran : pollRead t remaining = (last, r)) : Serves remaining t last r ∧ Took t last := by
  refine runLoop_holds (I := fun s : H3StreamReader C => s.rest = t.rest ∧ Took t s ∧ Receiver.Takes t.recv s.recv)
    (Q := fun last r => Serves remaining t last r ∧ Took t last)
    (fun s => (Receiver.queue s.recv).length) ?_ ⟨rfl, .refl t, .refl⟩ (Nat.lt_succ_self _) ran
  rintro s ⟨same, took, taken⟩
  refine (readPass_serves remaining s).imp ?_ ?_
  · rintro next ⟨kept, more, further, less⟩
    exact ⟨⟨kept.trans same, took.trans more, taken.trans further⟩, less⟩
  · rintro last r ⟨serves, more⟩
    exact ⟨serves.after same taken, took.trans more⟩

instance : ByteSource (H3StreamReader C) where
  pollRead := pollRead
  pollRead_fits h := (pollRead_serves h).1.1
  rest := rest
  pending_rest h := (pollRead_serves h).1.1
  ready_rest h := (pollRead_serves h).1.2.1
  end_rest room h := ((pollRead_serves h).1.2.2 room rfl).1
  never_fails h := (pollRead_serves h).1

/-- The end stays the end. -/
theorem pollRead_ended {t : H3StreamReader C} (ended : Ended t) (remaining : Nat) :
    ∃ last, pollRead t remaining = (last, .ready (.ok [])) ∧ Ended last := by
  have pass : ∃ last, readPass remaining t = .leave last (.ready (.ok [])) ∧ Ended last := by
    obtain ⟨empty, cause⟩ := ended
    have pulls : readPass remaining t = pull t := by rw [readPass, empty]
    rw [pulls]
    by_cases fin : t.fin = true
    · exact ⟨t, if_pos fin, empty, .inl fin⟩
    · rcases cause with already | closed
      · exact absurd already fin
      · cases polled : Receiver.pollRecv t.recv with
        | mk recv answer =>
            have none_left : answer = .ready none := (congrArg Prod.snd polled).symm.trans (Receiver.closed_none closed)
            subst none_left
            refine ⟨{ t with recv }, ?_, empty, .inr (Receiver.none_queue polled).2⟩
            simp only [pull, if_neg fin, polled]
  obtain ⟨last, leaves, still⟩ := pass
  refine ⟨last, ?_, still⟩
  rw [pollRead, runLoop, loop, leaves]

theorem readRun_ended {t : H3StreamReader C} (ended : Ended t) (caps : List Nat) :
    ∀ r ∈ (readRun t caps).2, r = .ready (.ok []) := by
  induction caps generalizing t with
  | nil =>
      intro r member
      cases member
  | cons cap caps ih =>
      obtain ⟨last, ran, still⟩ := pollRead_ended ended cap
      intro r member
      rw [readRun, show AsyncRead.pollRead t cap = _ from ran] at member
      rcases List.mem_cons.mp member with same | later
      · exact same
      · exact ih still r later

theorem readRun_took (t : H3StreamReader C) (caps : List Nat) : Took t (readRun t caps).1 := by
  induction caps generalizing t with
  | nil => exact .refl t
  | cons cap caps ih => exact (pollRead_serves Prod.mk.eta.symm).2.trans (ih _)

theorem readRun_snoc (t : H3StreamReader C) (before : List Nat) (cap : Nat) :
    (readRun t (before ++ [cap])).1 = (pollRead (readRun t before).1 cap).1 :=
  congrArg Prod.fst (readRun_append t before [cap])

/-- An empty result comes after all the bytes, of an end that was heard, and for good. -/
theorem readRun_end (recv : C) {before : List Nat} {cap : Nat} (room : ∀ c ∈ before ++ [cap], 0 < c)
    (empty : (AsyncRead.pollRead (readRun (new recv) before).1 cap).2 = .ready (.ok [])) :
    (readRun (new recv) before).2.flatMap handed = bodyBytes (Receiver.queue recv) ∧
      ((∃ frames data, Receiver.queue recv = frames ++
            Receiver.queue (readRun (new recv) (before ++ [cap])).1.recv ∧ .body data true ∈ frames) ∨
        Receiver.Closed (readRun (new recv) (before ++ [cap])).1.recv) ∧
      ∀ more, ∀ r ∈ (readRun (readRun (new recv) (before ++ [cap])).1 more).2, r = .ready (.ok []) := by
  have delivers : DeliversThenEnds _ (readRun (new recv) (before ++ [cap])).2 := readRun_source (new recv) room
  have ran : pollRead (readRun (new recv) before).1 cap = (_, .ready (.ok [])) :=
    Prod.ext (readRun_snoc (new recv) before cap).symm empty
  obtain ⟨-, -, ends⟩ := (pollRead_serves ran).1
  obtain ⟨-, ended⟩ := ends (room cap (List.mem_append_right _ (List.mem_singleton_self cap))) rfl
  refine ⟨?_, ?_, fun more => readRun_ended ended more⟩
  · refine (delivers.honest_end _ [] ?_).1
    rw [readRun_append, ← empty]
    rfl
  · rcases ended.2 with fin | closed
    · obtain ⟨frames, taken, heard⟩ := readRun_took (new recv) (before ++ [cap])
      rcases heard fin with already | ⟨data, member⟩
      · cases already
      · exact .inl ⟨frames, data, taken, member⟩
    · exact .inr closed

/-- Read with any buffers that have room, the reader hands out the bodies up to the first end and then
only end of file. An empty result comes when a frame said so, or the sender is gone, and then always. A poll
waits only when the channel makes it wait, after the frames that the poll has taken out of it. -/
theorem h3_reader_faithful (recv : C) (caps : List Nat) (room : ∀ cap ∈ caps, 0 < cap) :
    DeliversThenEnds (bodyBytes (Receiver.queue recv)) (readRun (new recv) caps).2 ∧
      (∀ before cap after, caps = before ++ cap :: after →
        (AsyncRead.pollRead (readRun (new recv) before).1 cap).2 = .ready (.ok []) →
          (readRun (new recv) before).2.flatMap handed = bodyBytes (Receiver.queue recv) ∧
          ((∃ frames data, Receiver.queue recv = frames ++
                Receiver.queue (readRun (new recv) (before ++ [cap])).1.recv ∧ .body data true ∈ frames) ∨
            Receiver.Closed (readRun (new recv) (before ++ [cap])).1.recv) ∧
          ∀ more, ∀ r ∈ (readRun (readRun (new recv) (before ++ [cap])).1 more).2, r = .ready (.ok [])) ∧
      ∀ before cap after, caps = before ++ cap :: after →
        (AsyncRead.pollRead (readRun (new recv) before).1 cap).2 = .pending →
          Receiver.Waits (readRun (new recv) before).1.recv (readRun (new recv) (before ++ [cap])).1.recv := by
  have start : rest (new recv) = bodyBytes (Receiver.queue recv) := rfl
  refine ⟨start ▸ readRun_source (new recv) room, ?_, ?_⟩
  · rintro before cap after rfl empty
    refine readRun_end recv (fun c member => room c ?_) empty
    rw [List.append_cons]
    exact List.mem_append_left _ member
  · intro before cap after _ waits
    exact (pollRead_serves (Prod.ext (readRun_snoc (new recv) before cap).symm waits)).1.2

/-- Two bodies, the second of them the last, with a wait, a datagram and an empty body in between, and
a body that comes too late. -/
def untidyFrames : PacedReceiver InboundFrame :=
  ⟨[some (.body [1, 2] false), none, some (.datagram [9]), some (.body [] false), some (.body [3] true),
    some (.body [4] false)], true⟩

theorem h3_reader_faithful_untidy :
    (readRun (new untidyFrames) [1, 5, 1, 5, 5, 5]).2 =
        [.ready (.ok [1]), .ready (.ok [2]), .pending, .ready (.ok [3]), .ready (.ok []), .ready (.ok [])] ∧
      DeliversThenEnds [1, 2, 3] (readRun (new untidyFrames) [1, 5, 1, 5, 5, 5]).2 :=
  ⟨by decide +kernel, (h3_reader_faithful untidyFrames [1, 5, 1, 5, 5, 5] (by decide)).1⟩

end H3StreamReader

end ServerNaive
