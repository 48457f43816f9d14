import ServerNaive.Async.Phase
import ServerNaive.Async.Record

/-! Streams that are read and written in any order. What all four calls keep holds whatever a caller does. -/
namespace AsyncIo

inductive StreamOp where
  | read (cap : Nat)
  | write (buf : Bytes)
  | flush
  | shutdown
  deriving DecidableEq

section Calls

variable {S : Type} [AsyncRead S] [AsyncWrite S]

def operate (s : S) : List StreamOp → S
  | [] => s
  | .read cap :: ops => operate (AsyncRead.pollRead s cap).1 ops
  | .write buf :: ops => operate (AsyncWrite.pollWrite s buf).1 ops
  | .flush :: ops => operate (AsyncWrite.pollFlush s).1 ops
  | .shutdown :: ops => operate (AsyncWrite.pollShutdown s).1 ops

/-- No call disturbs `I`. -/
structure KeptByCalls (I : S → Prop) : Prop where
  read : KeptByReads I
  write : ∀ s buf, I s → I (AsyncWrite.pollWrite s buf).1
  flush : ∀ s, I s → I (AsyncWrite.pollFlush s).1
  shutdown : ∀ s, I s → I (AsyncWrite.pollShutdown s).1

namespace KeptByCalls

variable {I J : S → Prop}

theorem operate (h : KeptByCalls I) (ops : List StreamOp) {s : S} (start : I s) : I (operate s ops) := by
  induction ops generalizing s with
  | nil => exact start
  | cons op ops ih =>
      cases op with
      | read cap => exact ih (h.read s cap start)
      | write buf => exact ih (h.write s buf start)
      | flush => exact ih (h.flush s start)
      | shutdown => exact ih (h.shutdown s start)

/-- Such an invariant has one phase only. -/
theorem phased (h : KeptByCalls I) : Phased I I where
  write := h.write
  flush := h.flush
  waits {w next} start polled := by
    have kept := h.shutdown w start
    rw [polled] at kept
    exact kept
  shuts {w last r} start polled := by
    have kept := h.shutdown w start
    rw [polled] at kept
    exact kept

theorem shutdownWithin (h : KeptByCalls I) (polls : Nat) {s : S} (start : I s) : I (shutdownWithin polls s) := by
  rcases h.phased.shutdownWithin polls start with kept | kept <;> exact kept

theorem and (h : KeptByCalls I) (k : KeptByCalls J) : KeptByCalls fun s => I s ∧ J s where
  read s cap both := ⟨h.read s cap both.1, k.read s cap both.2⟩
  write s buf both := ⟨h.write s buf both.1, k.write s buf both.2⟩
  flush s both := ⟨h.flush s both.1, k.flush s both.2⟩
  shutdown s both := ⟨h.shutdown s both.1, k.shutdown s both.2⟩

/-- The record does not matter. -/
theorem traced (h : KeptByCalls I) : KeptByCalls fun x : Traced S => I x.stream where
  read x cap start := h.read x.stream cap start
  write x buf start := h.write x.stream buf start
  flush x start := h.flush x.stream start
  shutdown x start := h.shutdown x.stream start

end KeptByCalls

/-- A read with room never fails, and it finds the end only at an `End`. -/
def ReadsTo (End : S → Prop) (x : Traced S) : Prop :=
  ∀ cap r, .read cap r ∈ x.calls → 0 < cap →
    (∀ failure, r ≠ .ready (.error failure)) ∧ (r = .ready (.ok []) → End x.stream)

/-- It is enough that each read does so, if no call takes an end back. -/
theorem KeptByCalls.readsTo {I : Traced S → Prop} {End : S → Prop} (kept : KeptByCalls I) (spent : KeptByCalls End)
    (reads : ∀ x cap, I x → 0 < cap →
      (∀ failure, (AsyncRead.pollRead x.stream cap).2 ≠ .ready (.error failure)) ∧
        ((AsyncRead.pollRead x.stream cap).2 = .ready (.ok []) → End (AsyncRead.pollRead x.stream cap).1)) :
    KeptByCalls fun x => I x ∧ ReadsTo End x := by
  have other {x next : Traced S} {c : Call} (h : ReadsTo End x) (calls : next.calls = x.calls ++ [c])
      (unread : c.isRead = false) (still : End x.stream → End next.stream) : ReadsTo End next := by
    intro cap r member room
    rw [calls] at member
    rcases List.mem_append.mp member with before | itself
    · exact ⟨(h cap r before room).1, fun ended => still ((h cap r before room).2 ended)⟩
    · cases List.mem_singleton.mp itself
      cases unread
  constructor
  · rintro x cap ⟨start, h⟩
    refine ⟨kept.read x cap start, ?_⟩
    intro cap' r member room
    rw [Traced.calls_pollRead Prod.mk.eta.symm] at member
    rcases List.mem_append.mp member with before | itself
    · obtain ⟨fine, ended⟩ := h cap' r before room
      exact ⟨fine, fun eof => spent.read x.stream cap (ended eof)⟩
    · cases List.mem_singleton.mp itself
      exact reads x cap start room
  · rintro x buf ⟨start, h⟩
    exact ⟨kept.write x buf start, other h (Traced.calls_pollWrite Prod.mk.eta.symm) rfl (spent.write x.stream buf)⟩
  · rintro x ⟨start, h⟩
    exact ⟨kept.flush x start, other h (Traced.calls_pollFlush Prod.mk.eta.symm) rfl (spent.flush x.stream)⟩
  · rintro x ⟨start, h⟩
    exact ⟨kept.shutdown x start, other h (Traced.calls_pollShutdown Prod.mk.eta.symm) rfl (spent.shutdown x.stream)⟩

end Calls

/-- The writing calls keep `Open`, but for a write that is refused, which leaves `Refused` behind. -/
structure Guarded {W : Type} [AsyncWrite W] (Open Refused : W → Prop) : Prop where
  write : ∀ {w next buf r}, Open w → AsyncWrite.pollWrite w buf = (next, r) → (∀ e, r ≠ .ready (.error e)) → Open next
  refused : ∀ {w next buf e}, Open w → AsyncWrite.pollWrite w buf = (next, .ready (.error e)) → Refused next
  flush : ∀ w, Open w → Open (AsyncWrite.pollFlush w).1
  shutdown : ∀ w, Open w → Open (AsyncWrite.pollShutdown w).1

theorem KeptByCalls.guarded {S : Type} [AsyncRead S] [AsyncWrite S] {I : S → Prop} (h : KeptByCalls I) :
    Guarded I I where
  write {w next buf r} start polled _ := by
    have kept := h.write w buf start
    rw [polled] at kept
    exact kept
  refused {w next buf e} start polled := by
    have kept := h.write w buf start
    rw [polled] at kept
    exact kept
  flush := h.flush
  shutdown := h.shutdown

theorem guarded_true {W : Type} [AsyncWrite W] : Guarded (fun _ : W => True) fun _ => True :=
  ⟨fun _ _ _ => trivial, fun _ _ => trivial, fun _ _ => trivial, fun _ _ => trivial⟩

theorem Guarded.shutdownWithin {W : Type} [AsyncWrite W] {Open Refused : W → Prop} (h : Guarded Open Refused)
    (polls : Nat) {w : W} (start : Open w) : Open (shutdownWithin polls w) := by
  induction polls generalizing w with
  | zero => exact start
  | succ polls ih =>
      have next := h.shutdown w start
      rw [AsyncIo.shutdownWithin]
      split
      all_goals
        rename_i polled
        rw [polled] at next
      · exact ih next
      · exact next

/-! A stream whose halves are a source and any writer. -/

namespace Join

variable {R W : Type}

instance [ByteSource R] : ByteSource (Join R W) where
  rest x := ByteSource.rest x.reader
  pending_rest {x cap _} h := by
    have bare : AsyncRead.pollRead x.reader cap = (_, .pending) := Prod.ext rfl (Prod.mk.inj h).2
    rw [← (Prod.mk.inj h).1]
    exact ByteSource.pending_rest bare
  ready_rest {x cap _ bs} h := by
    have bare : AsyncRead.pollRead x.reader cap = (_, .ready (.ok bs)) := Prod.ext rfl (Prod.mk.inj h).2
    rw [← (Prod.mk.inj h).1]
    exact ByteSource.ready_rest bare
  end_rest {x cap _} room h := by
    have bare : AsyncRead.pollRead x.reader cap = (_, .ready (.ok [])) := Prod.ext rfl (Prod.mk.inj h).2
    exact ByteSource.end_rest room bare
  never_fails {x cap _ e} h := by
    have bare : AsyncRead.pollRead x.reader cap = (_, .ready (.error e)) := Prod.ext rfl (Prod.mk.inj h).2
    exact ByteSource.never_fails bare

theorem obliging [AsyncWrite W] (h : Obliging W) : Obliging (Join R W) where
  write x buf e := h.write x.writer buf e
  progress x buf nonempty := h.progress x.writer buf nonempty
  flush x e := h.flush x.writer e
  shutdown x e := h.shutdown x.writer e

/-- What was handed out and what is left make up `total`. -/
def Draws [ByteSource R] (total : Bytes) (x : Traced (Join R W)) : Prop :=
  returned x.calls ++ ByteSource.rest x.stream.reader = total

theorem draws_kept [ByteSource R] [AsyncWrite W] (total : Bytes) :
    KeptByCalls (Draws (R := R) (W := W) total) where
  read x cap h := by
    unfold Draws at h ⊢
    cases polled : AsyncRead.pollRead x.stream.reader cap with
    | mk reader r =>
        have poll : (AsyncRead.pollRead x cap).1 = ⟨{ x.stream with reader }, x.calls ++ [.read cap r]⟩ := by
          simp only [AsyncRead.pollRead, polled]
        rw [poll, returned_append, returned_singleton]
        rcases r with _ | ⟨e | bs⟩
        · have same := ByteSource.pending_rest polled
          simp only [Call.given, List.append_nil, same, h]
        · exact absurd polled ByteSource.never_fails
        · have same := ByteSource.ready_rest polled
          simp only [Call.given, List.append_assoc, same, h]
  write x buf h := by
    unfold Draws at h ⊢
    rw [← h, Traced.calls_pollWrite Prod.mk.eta.symm, returned_append, returned_singleton]
    exact congrArg (· ++ _) (List.append_nil _)
  flush x h := by
    unfold Draws at h ⊢
    rw [← h, Traced.calls_pollFlush Prod.mk.eta.symm, returned_append, returned_singleton]
    exact congrArg (· ++ _) (List.append_nil _)
  shutdown x h := by
    unfold Draws at h ⊢
    rw [← h, Traced.calls_pollShutdown Prod.mk.eta.symm, returned_append, returned_singleton]
    exact congrArg (· ++ _) (List.append_nil _)

/-- A source that has run dry stays dry. -/
theorem spent_kept [ByteSource R] [AsyncWrite W] :
    KeptByCalls fun x : Join R W => ByteSource.rest x.reader = [] where
  read x cap h := by
    change ByteSource.rest (AsyncRead.pollRead x.reader cap).1 = []
    cases polled : AsyncRead.pollRead x.reader cap with
    | mk reader r =>
        rcases r with _ | ⟨e | bs⟩
        · exact (ByteSource.pending_rest polled).trans h
        · exact absurd polled ByteSource.never_fails
        · exact (List.append_eq_nil_iff.mp ((ByteSource.ready_rest polled).trans h)).2
  write _ _ h := h
  flush _ h := h
  shutdown _ h := h

end Join

namespace Traced

variable {S : Type}

theorem phased [AsyncWrite S] {Open Shut : S → Prop} (h : Phased Open Shut) :
    Phased (fun x : Traced S => Open x.stream) fun x => Shut x.stream where
  write x buf start := h.write x.stream buf start
  flush x start := h.flush x.stream start
  waits start polled := by
    obtain ⟨rfl, outcome⟩ := Prod.mk.inj polled
    exact h.waits start (Prod.ext rfl outcome)
  shuts start polled := by
    obtain ⟨rfl, outcome⟩ := Prod.mk.inj polled
    exact h.shuts start (Prod.ext rfl outcome)

/-- What was handed out stays handed out. -/
theorem returned_kept [AsyncRead S] [AsyncWrite S] (bs : Bytes) :
    KeptByCalls fun x : Traced S => bs <+: returned x.calls := by
  have longer (calls : List Call) (c : Call) (front : bs <+: returned calls) : bs <+: returned (calls ++ [c]) := by
    rw [returned_append]
    exact front.trans (List.prefix_append _ _)
  constructor
  · intro x cap front
    rw [calls_pollRead Prod.mk.eta.symm]
    exact longer x.calls _ front
  · intro x buf front
    rw [calls_pollWrite Prod.mk.eta.symm]
    exact longer x.calls _ front
  · intro x front
    rw [calls_pollFlush Prod.mk.eta.symm]
    exact longer x.calls _ front
  · intro x front
    rw [calls_pollShutdown Prod.mk.eta.symm]
    exact longer x.calls _ front

theorem returned_pollShutdown [AsyncWrite S] {x next : Traced S} {r : PollResult Unit}
    (polled : AsyncWrite.pollShutdown x = (next, r)) : returned next.calls = returned x.calls := by
  rw [calls_pollShutdown polled, returned_append, returned_singleton]
  exact List.append_nil _

theorem returned_shutdownWithin [AsyncWrite S] (polls : Nat) (x : Traced S) :
    returned (shutdownWithin polls x).calls = returned x.calls := by
  induction polls generalizing x with
  | zero => rfl
  | succ polls ih =>
      rw [AsyncIo.shutdownWithin]
      split
      · rename_i next polled
        rw [ih, returned_pollShutdown polled]
      · rename_i last answer polled
        exact returned_pollShutdown polled

theorem returned_pollRead [AsyncRead S] {x x' : Traced S} {cap : Nat} {r : PollResult Bytes}
    (polled : AsyncRead.pollRead x cap = (x', r)) :
    returned x'.calls = returned x.calls ++ (Call.read cap r).given := by
  rw [calls_pollRead polled, returned_append, returned_singleton]

end Traced

theorem Call.given_read (cap : Nat) (r : PollResult Bytes) : (Call.read cap r).given = handed r := by
  rcases r with _ | ⟨e | bs⟩ <;> rfl

theorem Call.given_of_unread {c : Call} (unread : c.isRead = false) : c.given = [] := by
  cases c with
  | read cap r => cases unread
  | write offered r => rfl
  | flush r => rfl
  | shutdown r => rfl

theorem Call.taken_of_isRead {c : Call} (reads : c.isRead = true) : c.taken = [] := by
  cases c with
  | read cap r => rfl
  | write offered r => cases reads
  | flush r => cases reads
  | shutdown r => cases reads

theorem flatten_acceptedWrites (calls : List Call) : (acceptedWrites calls).flatten = accepted calls := by
  induction calls with
  | nil => rfl
  | cons c calls ih =>
      rw [accepted, List.flatMap_cons, ← accepted, ← ih, acceptedWrites, acceptedWrites]
      rcases c with ⟨cap, r⟩ | ⟨offered, _ | ⟨e | n⟩⟩ | r | r <;> rfl

/-- No write has failed. -/
def Unrefused (calls : List Call) : Prop := ∀ c ∈ calls, c.isWrite = true → c.failed = false

instance (calls : List Call) : Decidable (Unrefused calls) :=
  inferInstanceAs (Decidable (∀ c ∈ calls, c.isWrite = true → c.failed = false))

theorem unrefused_snoc_iff {calls : List Call} {c : Call} :
    Unrefused (calls ++ [c]) ↔ Unrefused calls ∧ (c.isWrite = true → c.failed = false) := by
  constructor
  · intro all
    exact ⟨fun d member => all d (List.mem_append_left _ member),
      all c (List.mem_append_right _ (List.mem_singleton_self c))⟩
  · rintro ⟨before, last⟩ d member
    rcases List.mem_append.mp member with old | new
    · exact before d old
    · rw [List.mem_singleton.mp new]
      exact last

/-- Calls of the writing half return nothing. -/
theorem Grew.returned {before after : List Call} (grew : Grew (fun c => c.isRead = false) before after) :
    returned after = returned before := by
  obtain ⟨more, rfl, unread⟩ := grew
  rw [returned_append]
  have none_given : AsyncIo.returned more = [] :=
    List.flatMap_eq_nil_iff.mpr fun c member => Call.given_of_unread (unread c member)
  rw [none_given, List.append_nil]

/-- Calls of the reading half take nothing. -/
theorem Grew.accepted {before after : List Call} (grew : Grew (fun c => c.isRead = true) before after) :
    accepted after = accepted before := by
  obtain ⟨more, rfl, reads⟩ := grew
  rw [accepted_append]
  have none_taken : AsyncIo.accepted more = [] :=
    List.flatMap_eq_nil_iff.mpr fun c member => Call.taken_of_isRead (reads c member)
  rw [none_taken, List.append_nil]

end AsyncIo
