import ServerNaive.Async.Driver
import ServerNaive.Async.Task

/-! Streams that are written and then shut down. What holds while a stream is open survives every
call but the shutdown that returns. -/
namespace AsyncIo

/-- Reading does not disturb `I`. -/
def KeptByReads {R : Type} [AsyncRead R] (I : R → Prop) : Prop :=
  ∀ r cap, I r → I (AsyncRead.pollRead r cap).1

/-- The writing calls keep `Open` until a shutdown returns, which leaves `Shut` behind. -/
structure Phased {W : Type} [AsyncWrite W] (Open Shut : W → Prop) : Prop where
  write : ∀ w buf, Open w → Open (AsyncWrite.pollWrite w buf).1
  flush : ∀ w, Open w → Open (AsyncWrite.pollFlush w).1
  waits : ∀ {w next}, Open w → AsyncWrite.pollShutdown w = (next, .pending) → Open next
  shuts : ∀ {w last r}, Open w → AsyncWrite.pollShutdown w = (last, .ready r) → Shut last

theorem phased_true {W : Type} [AsyncWrite W] : Phased (fun _ : W => True) fun _ => True :=
  ⟨fun _ _ => id, fun _ => id, fun _ _ => trivial, fun _ _ => trivial⟩

/-- A shutdown under a timeout leaves the stream open or shut. -/
theorem Phased.shutdownWithin {W : Type} [AsyncWrite W] {Open Shut : W → Prop} (phased : Phased Open Shut)
    (polls : Nat) {w : W} (start : Open w) :
    Open (shutdownWithin polls w) ∨ Shut (shutdownWithin polls w) := by
  induction polls generalizing w with
  | zero => exact .inl start
  | succ polls ih =>
      rw [AsyncIo.shutdownWithin]
      split
      · rename_i next polled
        exact ih (phased.waits start polled)
      · rename_i last r polled
        exact .inr (phased.shuts start polled)

/-! The two halves of a stream, put together. -/

/-- As `tokio::io::join`. -/
structure Join (R W : Type) where
  reader : R
  writer : W
  deriving DecidableEq

namespace Join

variable {R W : Type}

instance [AsyncRead R] : AsyncRead (Join R W) where
  pollRead x cap :=
    let (reader, outcome) := AsyncRead.pollRead x.reader cap
    ({ x with reader }, outcome)
  pollRead_fits := by
    intro x cap x' bs h
    have bare : AsyncRead.pollRead x.reader cap = (_, .ready (.ok bs)) := Prod.ext rfl (Prod.mk.inj h).2
    exact AsyncRead.pollRead_fits bare

instance [AsyncWrite W] : AsyncWrite (Join R W) where
  pollWrite x buf :=
    let (writer, outcome) := AsyncWrite.pollWrite x.writer buf
    ({ x with writer }, outcome)
  pollFlush x :=
    let (writer, outcome) := AsyncWrite.pollFlush x.writer
    ({ x with writer }, outcome)
  pollShutdown x :=
    let (writer, outcome) := AsyncWrite.pollShutdown x.writer
    ({ x with writer }, outcome)
  pollWrite_le := by
    intro x buf x' n h
    have bare : AsyncWrite.pollWrite x.writer buf = (_, .ready (.ok n)) := Prod.ext rfl (Prod.mk.inj h).2
    exact AsyncWrite.pollWrite_le bare

theorem keptByReads [AsyncRead R] (I : W → Prop) : KeptByReads fun x : Join R W => I x.writer :=
  fun _ _ kept => kept

theorem phased [AsyncWrite W] {Open Shut : W → Prop} (h : Phased Open Shut) :
    Phased (fun x : Join R W => Open x.writer) fun x => Shut x.writer where
  write x buf start := h.write x.writer buf start
  flush x start := h.flush x.writer start
  waits start polled := by
    obtain ⟨rfl, outcome⟩ := Prod.mk.inj polled
    exact h.waits start (Prod.ext rfl outcome)
  shuts start polled := by
    obtain ⟨rfl, outcome⟩ := Prod.mk.inj polled
    exact h.shuts start (Prod.ext rfl outcome)

end Join

/-! Tasks over such a stream. -/

namespace Task

variable {σ ε α β : Type}

/-- Wherever the task is left, `I` holds. -/
def Keeps (I : σ → Prop) (m : Task σ ε α) : Prop := ∀ fuel s, I s → I (m fuel s).state

variable {I : σ → Prop}

theorem keeps_of_holds {m : Task σ ε α} (h : ∀ fuel s, I s → (m fuel s).Holds (fun _ t => I t) (fun _ t => I t) I) :
    Keeps I m := by
  intro fuel s start
  have holds := h fuel s start
  cases ran : m fuel s with
  | done value t left =>
      rw [ran] at holds
      exact holds
  | failed e t left =>
      rw [ran] at holds
      exact holds
  | cut t =>
      rw [ran] at holds
      exact holds

theorem keeps_pure (value : α) : Keeps I (pure value : Task σ ε α) := fun _ _ start => start

theorem keeps_fail (e : ε) : Keeps I (fail e : Task σ ε α) := fun _ _ start => start

theorem keeps_tick : Keeps I (tick : Task σ ε Unit) := by
  intro fuel s start
  cases fuel with
  | zero => exact start
  | succ fuel => exact start

theorem Keeps.bind {m : Task σ ε β} {k : β → Task σ ε α} (first : Keeps I m) (next : ∀ b, Keeps I (k b)) :
    Keeps I (m >>= k) := by
  intro fuel s start
  have reached := first fuel s start
  change I (Task.bind m k fuel s).state
  unfold Task.bind
  cases ran : m fuel s with
  | done value t left =>
      rw [ran] at reached
      exact next value left t reached
  | failed e t left =>
      rw [ran] at reached
      exact reached
  | cut t =>
      rw [ran] at reached
      exact reached

theorem Keeps.on {τ : Type} {J : τ → Prop} {part : σ → τ} {put : σ → τ → σ} {m : Task τ ε α} (h : Keeps J m)
    (get : ∀ s, I s → J (part s)) (back : ∀ s t, I s → J t → I (put s t)) : Keeps I (on part put m) := by
  intro fuel s start
  have reached := h fuel (part s) (get s start)
  unfold Task.on
  cases ran : m fuel (part s) with
  | done value t left =>
      rw [ran] at reached
      exact back s t start reached
  | failed e t left =>
      rw [ran] at reached
      exact back s t start reached
  | cut t =>
      rw [ran] at reached
      exact back s t start reached

theorem Keeps.forever {body : Task σ ε Unit} (h : Keeps I body) :
    Keeps I (Task.forever body : Task σ ε α) := by
  have rounds (n : Nat) : Keeps I (Task.rounds body n : Task σ ε α) := by
    induction n with
    | zero => exact fun _ _ start => start
    | succ n ih => exact h.bind fun _ => ih
  intro fuel s start
  exact rounds fuel fuel s start

section Read

variable {R : Type} [AsyncRead R] {J : R → Prop}

theorem keeps_fill (reads : KeptByReads J) (eof : IoError) (n fuel : Nat) (got : Bytes) {r : R} (start : J r) :
    J (fill eof n fuel got r).state := by
  induction fuel generalizing got r with
  | zero =>
      rw [fill]
      split_ifs <;> exact start
  | succ fuel ih =>
      rw [fill]
      split_ifs
      · exact start
      · have next := reads r (n - got.length) start
        split
        · rename_i r' polled
          rw [polled] at next
          exact ih got next
        · rename_i r' e polled
          rw [polled] at next
          exact next
        · rename_i r' polled
          rw [polled] at next
          exact next
        · rename_i r' bs _ polled
          rw [polled] at next
          exact ih (got ++ bs) next

theorem keeps_readExact (reads : KeptByReads J) (n : Nat) : Keeps J (readExact n : Task R IoError Bytes) :=
  fun fuel _ start => keeps_fill reads _ n fuel [] start

theorem keeps_readU8 (reads : KeptByReads J) : Keeps J (readU8 : Task R IoError UInt8) :=
  Keeps.bind (fun fuel _ start => keeps_fill reads _ 1 fuel [] start) fun _ => keeps_pure _

theorem keeps_readU16 (reads : KeptByReads J) : Keeps J (readU16 : Task R IoError UInt16) :=
  Keeps.bind (fun fuel _ start => keeps_fill reads _ 2 fuel [] start) fun _ => keeps_pure _

end Read

theorem keeps_writeAll {W : Type} [AsyncWrite W] {Open Shut : W → Prop} (phased : Phased Open Shut) (buf : Bytes) :
    Keeps Open (writeAll buf : Task W IoError Unit) := by
  intro fuel w start
  change Open (offer fuel buf w).state
  induction fuel generalizing buf w with
  | zero => cases buf <;> exact start
  | succ fuel ih =>
      cases buf with
      | nil => exact start
      | cons b buf =>
          have next := phased.write w (b :: buf) start
          rw [offer]
          split
          · rename_i w' polled
            rw [polled] at next
            exact ih _ w' next
          · rename_i w' e polled
            rw [polled] at next
            exact next
          · rename_i w' polled
            rw [polled] at next
            exact next
          · rename_i w' n _ polled
            rw [polled] at next
            exact ih _ w' next

end Task

end AsyncIo
