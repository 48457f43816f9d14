import ServerNaive.Core.RelaySteps

/-! What the relay reads it writes, in order and once, and it forwards an end only
after everything before it. -/
namespace ServerNaive
open AsyncIo

/-- The state of a direction agrees with the calls that led to it. -/
structure Faithful (v : Progress) : Prop where
  exact : accepted v.writes ++ v.dir.held = returned v.reads
  counted : v.dir.bytesTransferred = (accepted v.writes).length
  pos_le : v.dir.pos ≤ v.dir.cap
  cap_le : v.dir.cap ≤ v.dir.buf.length
  done : v.dir.isDone = true → v.dir.hasReadEof = true ∧ v.dir.pos = v.dir.cap
  told : ∀ c ∈ v.writes, c.isShutdown = true →
    v.dir.hasReadEof = true ∧ v.dir.pos = v.dir.cap ∧ v.dir.suppressShutdown = false
  told_last : v.writes.Pairwise fun c d => c.isShutdown = true → d.isWrite = false

namespace DirectionalBuffer

theorem held_eq_nil {d : DirectionalBuffer} (empty : d.cap ≤ d.pos) : d.held = [] := by
  simp only [held, window, Nat.sub_eq_zero_of_le empty, List.take_zero]

theorem take_append_held_advance (d : DirectionalBuffer) (n : Nat) :
    d.held.take n ++ (d.advance n).held = d.held := by
  have rest : (d.advance n).held = d.held.drop n := (window_drop d.buf d.pos d.cap n).symm
  rw [rest, List.take_append_drop]

theorem length_held {d : DirectionalBuffer} (inside : d.cap ≤ d.buf.length) :
    d.held.length = d.cap - d.pos := by
  simp only [held, length_window]
  omega

theorem held_append {d : DirectionalBuffer} {bs : Bytes} (ordered : d.pos ≤ d.cap)
    (fits : d.cap + bs.length ≤ d.buf.length) : (d.append bs).held = d.held ++ bs :=
  window_overwrite ordered fits

theorem held_refill {d : DirectionalBuffer} {bs : Bytes} (fits : bs.length ≤ d.buf.length) :
    (d.refill bs).held = bs := by
  have whole : window (overwrite d.buf 0 bs) 0 (0 + bs.length) = window d.buf 0 0 ++ bs :=
    window_overwrite (Nat.le_refl 0) (by omega)
  rw [window_self, Nat.zero_add] at whole
  exact whole

end DirectionalBuffer

namespace Faithful

variable {v w : Progress}

theorem no_shutdown (faithful : Faithful v) (going : v.dir.pos < v.dir.cap ∨ v.dir.readDone = false) :
    ∀ c ∈ v.writes, c.isShutdown = false := by
  intro c called
  by_contra told
  obtain ⟨ended, empty, -⟩ := faithful.told c called (eq_true_of_ne_false told)
  rcases going with holds | going
  · omega
  · exact Bool.false_ne_true (going.symm.trans ended)

/-- A call on the writer that moves no byte and keeps the order. -/
theorem didWrite (faithful : Faithful v) {c : Call} (untaken : c.taken = [])
    (ordered : c.isWrite = true → ∀ d ∈ v.writes, d.isShutdown = false)
    (guarded : c.isShutdown = true →
      v.dir.hasReadEof = true ∧ v.dir.pos = v.dir.cap ∧ v.dir.suppressShutdown = false) :
    Faithful (v.didWrite c) where
  exact := by
    simp only [Progress.didWrite, accepted_append, accepted_singleton, untaken, List.append_nil]
    exact faithful.exact
  counted := by
    simp only [Progress.didWrite, accepted_append, accepted_singleton, untaken, List.append_nil]
    exact faithful.counted
  pos_le := faithful.pos_le
  cap_le := faithful.cap_le
  done := faithful.done
  told := by
    intro d called told
    rcases List.mem_append.mp called with before | now
    · exact faithful.told d before told
    · cases List.mem_singleton.mp now
      exact guarded told
  told_last := by
    refine List.pairwise_append.mpr ⟨faithful.told_last, List.pairwise_singleton .., ?_⟩
    intro d before e now told
    cases List.mem_singleton.mp now
    by_contra writes
    have untold := ordered (eq_true_of_ne_false writes) d before
    exact Bool.false_ne_true (untold.symm.trans told)

/-- A read that returns no byte. -/
theorem didRead (faithful : Faithful v) {room : Nat} {r : PollResult Bytes}
    (unread : (Call.read room r).given = []) : Faithful (v.didRead room r) where
  exact := by
    simp only [Progress.didRead, returned_append, returned_singleton, unread, List.append_nil]
    exact faithful.exact
  counted := faithful.counted
  pos_le := faithful.pos_le
  cap_le := faithful.cap_le
  done := faithful.done
  told := faithful.told
  told_last := faithful.told_last

theorem endRead (faithful : Faithful v) : Faithful (v.withDir v.dir.endRead) where
  exact := faithful.exact
  counted := faithful.counted
  pos_le := faithful.pos_le
  cap_le := faithful.cap_le
  done finished := ⟨rfl, (faithful.done finished).2⟩
  told c called told := ⟨rfl, (faithful.told c called told).2⟩
  told_last := faithful.told_last

theorem wrote (faithful : Faithful v) {n : Nat} (holds : v.dir.pos < v.dir.cap)
    (fits : n ≤ v.dir.held.length) :
    Faithful ((v.didWrite (.write v.dir.held (.ready (.ok n)))).withDir (v.dir.advance n)) := by
  have untold := faithful.no_shutdown (.inl holds)
  have inside := DirectionalBuffer.length_held faithful.cap_le
  have taken : accepted (v.writes ++ [.write v.dir.held (.ready (.ok n))]) =
      accepted v.writes ++ v.dir.held.take n := by
    rw [accepted_append, accepted_singleton]
    rfl
  constructor
  case exact =>
    show accepted (v.writes ++ _) ++ (v.dir.advance n).held = _
    rw [taken, List.append_assoc, DirectionalBuffer.take_append_held_advance]
    exact faithful.exact
  case counted =>
    show v.dir.bytesTransferred + n = (accepted (v.writes ++ _)).length
    rw [taken, List.length_append, List.length_take, Nat.min_eq_left fits, faithful.counted]
  case pos_le =>
    show v.dir.pos + n ≤ v.dir.cap
    omega
  case cap_le => exact faithful.cap_le
  case done =>
    intro finished
    have := (faithful.done finished).2
    omega
  case told =>
    intro c called told
    rcases List.mem_append.mp called with before | now
    · exact absurd told (by rw [untold c before]; exact Bool.false_ne_true)
    · cases List.mem_singleton.mp now
      cases told
  case told_last =>
    refine List.pairwise_append.mpr ⟨faithful.told_last, List.pairwise_singleton .., ?_⟩
    intro c before d _ told
    exact absurd told (by rw [untold c before]; exact Bool.false_ne_true)

/-- A read that brings bytes replaces the buffer by one that holds them behind the old ones. -/
theorem brought (faithful : Faithful v) {room : Nat} {bs : Bytes} {dir : DirectionalBuffer}
    (going : v.dir.readDone = false) (held : dir.held = v.dir.held ++ bs)
    (amt : dir.amt = v.dir.amt) (shut : dir.shutdownDone = v.dir.shutdownDone)
    (pos_le : dir.pos ≤ dir.cap) (cap_le : dir.cap ≤ dir.buf.length) :
    Faithful ((v.didRead room (.ready (.ok bs))).withDir dir) := by
  have untold := faithful.no_shutdown (.inr going)
  constructor
  case exact =>
    show accepted v.writes ++ dir.held = returned (v.reads ++ _)
    rw [held, ← List.append_assoc, faithful.exact, returned_append, returned_singleton]
    rfl
  case counted => exact amt.trans faithful.counted
  case pos_le => exact pos_le
  case cap_le => exact cap_le
  case done =>
    intro finished
    have ended := (faithful.done (shut.symm.trans finished)).1
    exact absurd (going.symm.trans ended) Bool.false_ne_true
  case told =>
    intro c called told
    exact absurd ((untold c called).symm.trans told) Bool.false_ne_true
  case told_last => exact faithful.told_last

theorem finished (faithful : Faithful v) (empty : v.dir.cap ≤ v.dir.pos)
    (ended : v.dir.readDone = true) : Faithful (v.withDir v.dir.endShutdown) where
  exact := faithful.exact
  counted := faithful.counted
  pos_le := faithful.pos_le
  cap_le := faithful.cap_le
  done _ := ⟨ended, Nat.le_antisymm faithful.pos_le empty⟩
  told := faithful.told
  told_last := faithful.told_last

theorem step (faithful : Faithful v) (step : CopyStep v w) : Faithful w := by
  cases step with
  | wrote holds positive fits => exact faithful.wrote holds fits
  | unwritten holds untaken =>
      exact faithful.didWrite untaken (fun _ => faithful.no_shutdown (.inl holds)) nofun
  | flushed r empty => exact faithful.didWrite rfl nofun nofun
  | shutdown r empty ended forwards =>
      have drained := Nat.le_antisymm faithful.pos_le empty
      exact faithful.didWrite rfl nofun fun _ => ⟨ended, drained, forwards⟩
  | finished empty ended => exact faithful.finished empty ended
  | readAhead going ahead nonempty fits =>
      obtain ⟨holds, space, rfl⟩ := ahead
      have behind := faithful.cap_le
      have room : v.dir.cap + _ ≤ v.dir.buf.length := Nat.add_le_of_le_sub' behind fits
      refine faithful.brought going (DirectionalBuffer.held_append faithful.pos_le room) rfl rfl ?_ ?_
      · exact Nat.le_trans faithful.pos_le (Nat.le_add_right ..)
      · exact room.trans_eq (length_overwrite room).symm
  | readNext going next nonempty fits =>
      obtain ⟨empty, rfl⟩ := next
      have room : 0 + _ ≤ v.dir.buf.length := (Nat.zero_add _).trans_le fits
      refine faithful.brought going ?_ rfl rfl (Nat.zero_le _) ?_
      · rw [DirectionalBuffer.held_refill fits, DirectionalBuffer.held_eq_nil empty, List.nil_append]
      · exact fits.trans_eq (length_overwrite room).symm
  | sawEnd going asked => exact (faithful.didRead rfl).endRead
  | swallowed e going ahead => exact (faithful.didRead rfl).endRead
  | readWaits going asked => exact faithful.didRead rfl

theorem ends {failed : IoError → Prop} (faithful : Faithful v) (ends : CopyEnds failed v w) :
    Faithful w := by
  refine ends.invariant (fun _ _ faithful step => faithful.step step) ?_ faithful
  intro x y e faithful failing
  obtain ⟨-, room, -, rfl⟩ := failing
  exact faithful.didRead rfl

/-- The calls of the other direction on the same streams change nothing. -/
theorem of_own (faithful : Faithful v.own) : Faithful v where
  exact := by
    have exact := faithful.exact
    rwa [Progress.own, accepted_writeCalls, returned_readCalls] at exact
  counted := by
    have counted := faithful.counted
    rwa [Progress.own, accepted_writeCalls] at counted
  pos_le := faithful.pos_le
  cap_le := faithful.cap_le
  done := faithful.done
  told := by
    intro c called told
    refine faithful.told c (List.mem_filter.mpr ⟨called, ?_⟩) told
    cases c with
    | shutdown r => rfl
    | read | write | flush => cases told
  told_last := by
    refine (List.pairwise_filter.mp faithful.told_last).imp ?_
    intro c d kept told
    cases d with
    | write offered r =>
        cases c with
        | shutdown answer => exact kept rfl rfl told
        | read | write | flush => cases told
    | read | flush | shutdown => rfl

theorem drained (faithful : Faithful v) (done : v.dir.isDone = true) :
    returned v.reads = accepted v.writes := by
  have empty := (faithful.done done).2
  rw [← faithful.exact, DirectionalBuffer.held_eq_nil empty.ge, List.append_nil]

theorem start (bufferSize : Nat) (suppress : Bool) : Faithful ⟨.new bufferSize suppress, [], []⟩ where
  exact := rfl
  counted := rfl
  pos_le := le_rfl
  cap_le := Nat.zero_le _
  done := nofun
  told := nofun
  told_last := .nil

end Faithful

section Run

variable {A B : Type} [AsyncRead A] [AsyncWrite A] [AsyncRead B] [AsyncWrite B]
  (a : A) (b : B) (start idleTimeoutSecs bufferSize : Nat) (suppress : Bool) (polls : List (Nat × Nat))

theorem relayed_advances : Relay.Advances
    (Relay.new (.start a) (.start b) start idleTimeoutSecs bufferSize suppress)
    (relayed a b start idleTimeoutSecs bufferSize suppress polls).1
    (relayed a b start idleTimeoutSecs bufferSize suppress polls).2 :=
  Relay.run_advances Prod.mk.eta.symm

theorem relayed_faithful :
    Faithful (relayed a b start idleTimeoutSecs bufferSize suppress polls).1.upload ∧
      Faithful (relayed a b start idleTimeoutSecs bufferSize suppress polls).1.download := by
  have advances := relayed_advances a b start idleTimeoutSecs bufferSize suppress polls
  constructor
  · exact .of_own ((Faithful.start bufferSize suppress).ends advances.upload)
  · exact .of_own ((Faithful.start bufferSize false).ends advances.download)

/-- At every point of every run both directions are faithful, a suppressed end is not
forwarded, and a run that completes has delivered every byte it read. -/
theorem relay_fidelity :
    Faithful (relayed a b start idleTimeoutSecs bufferSize suppress polls).1.upload ∧
    Faithful (relayed a b start idleTimeoutSecs bufferSize suppress polls).1.download ∧
    (suppress = true → ∀ c ∈ (relayed a b start idleTimeoutSecs bufferSize suppress polls).1.b.calls,
      c.isShutdown = false) ∧
    ∀ ended copied, (relayed a b start idleTimeoutSecs bufferSize suppress polls).2 = .ready ended →
      (relayed a b start idleTimeoutSecs bufferSize suppress polls).1.result ended = .ok copied →
      copied.termination = .completed →
      returned (relayed a b start idleTimeoutSecs bufferSize suppress polls).1.a.calls =
        accepted (relayed a b start idleTimeoutSecs bufferSize suppress polls).1.b.calls ∧
      returned (relayed a b start idleTimeoutSecs bufferSize suppress polls).1.b.calls =
        accepted (relayed a b start idleTimeoutSecs bufferSize suppress polls).1.a.calls := by
  have advances := relayed_advances a b start idleTimeoutSecs bufferSize suppress polls
  obtain ⟨up, down⟩ := relayed_faithful a b start idleTimeoutSecs bufferSize suppress polls
  generalize relayed a b start idleTimeoutSecs bufferSize suppress polls = last at advances up down ⊢
  obtain ⟨s, outcome⟩ := last
  refine ⟨up, down, ?_, ?_⟩
  · rintro rfl c called
    by_contra told
    have forwards := (up.told c called (eq_true_of_ne_false told)).2.2
    have suppressed : s.aToB.suppressShutdown = true := advances.upload.settings.2
    exact Bool.false_ne_true (forwards.symm.trans suppressed)
  · intro ended copied final copies completed
    cases ended with
    | error e => cases copies
    | ok finished =>
        cases copies
        obtain ⟨termination, done⟩ := advances.ended finished final
        cases finished with
        | false => cases termination.symm.trans completed
        | true => exact ⟨up.drained (done rfl).1, down.drained (done rfl).2⟩

end Run

end ServerNaive
