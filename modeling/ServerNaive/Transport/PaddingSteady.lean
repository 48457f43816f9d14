import ServerNaive.Transport.PaddingDuplex
import ServerNaive.Transport.PaddingEncoder

/-! The transport over a stream that does not fail while it is open, and what the end of a read says
about the stream below. -/
namespace ServerNaive.NaivePaddedTransport
open AsyncIo PaddingCodec

section Writes

variable {S : Type} [AsyncWrite S] {Open Shut : Traced S → Prop}

/-- An open stream takes part of every offer or makes its caller wait, and flushes. -/
structure Steady (Open : Traced S → Prop) : Prop where
  write : ∀ {x next buf e}, Open x → AsyncWrite.pollWrite x buf ≠ (next, .ready (.error e))
  progress : ∀ {x next buf}, Open x → buf ≠ [] → AsyncWrite.pollWrite x buf ≠ (next, .ready (.ok 0))
  flush : ∀ {x next e}, Open x → AsyncWrite.pollFlush x ≠ (next, .ready (.error e))

theorem pollWrite_inside {t last : NaivePaddedTransport (Traced S)} {buf : Bytes} {r : PollResult Nat}
    (inside : OffsetInside t) (ran : pollWrite t buf = (last, r)) : OffsetInside last := by
  cases pollWrite_wrote ran with
  | blocked drains => exact drains.inside inside
  | failed drains drained => exact drains.inside inside
  | raw drains cleared raw polled => exact drains.inside inside
  | framed drains drained short framed => exact framed.inside

theorem drainPass_steady (zeroText : String) (steady : Steady Open) {t : NaivePaddedTransport (Traced S)}
    (start : Open t.inner) (inside : OffsetInside t) :
    (drainPass zeroText t).Holds (fun _ => True) (fun _ d => ∀ e, d ≠ .failed e) := by
  cases queued : t.writePending with
  | none =>
      rw [drainPass_idle queued]
      intro e failed
      cases failed
  | some frame =>
      have offer : frame.drop t.writePendingOff ≠ [] := by
        intro empty
        exact absurd (List.drop_eq_nil_iff.mp empty) (Nat.not_le.mpr (inside frame queued))
      obtain ⟨inner, r, polled, ⟨same, nothing⟩ | ⟨n, -, -, same⟩⟩ := drainPass_cases zeroText queued
      · rw [same]
        intro e failed
        rcases r with _ | ⟨e' | n⟩
        · cases failed
        · exact steady.write start polled
        · cases nothing n rfl
          exact steady.progress start offer polled
      · rw [same]
        trivial

theorem drain_steady (h : Phased Open Shut) (steady : Steady Open) {zeroText : String}
    {t last : NaivePaddedTransport (Traced S)} {d : Drain} (start : Open t.inner) (inside : OffsetInside t)
    (ran : drain zeroText t = (last, d)) (e : IoError) : d ≠ .failed e := by
  refine drain_rule (I := fun s => Open s.inner ∧ OffsetInside s) (Q := fun _ d => ∀ e, d ≠ .failed e) ?_
    ⟨start, inside⟩ ran e
  rintro s ⟨opened, its⟩
  apply (((drainPass_drains zeroText s).and (drainPass_open h zeroText opened)).and
    (drainPass_steady zeroText steady opened its)).imp
  · rintro next ⟨⟨drains, kept⟩, -⟩
    exact ⟨kept, drains.inside its⟩
  · rintro last d ⟨-, fine⟩
    exact fine

theorem pollFlush_steady (h : Phased Open Shut) (steady : Steady Open) {t last : NaivePaddedTransport (Traced S)}
    {e : IoError} (start : Open t.inner) (inside : OffsetInside t) : pollFlush t ≠ (last, .ready (.error e)) := by
  intro ran
  unfold pollFlush at ran
  split at ran
  · cases ran
  · rename_i mid e' drained
    exact drain_steady h steady start inside drained e' rfl
  · rename_i mid drained
    cases flushed : AsyncWrite.pollFlush mid.inner with
    | mk inner r =>
        rw [flushed] at ran
        cases ran
        exact steady.flush (drain_open h start drained) flushed

/-- A transport that is open below, with its place inside the pending frame. -/
def OpenBelow (Open : Traced S → Prop) (t : NaivePaddedTransport (Traced S)) : Prop := Open t.inner ∧ OffsetInside t

/-- The stream below is shut down, with nothing left to write. -/
def ShutBelow (Shut : Traced S → Prop) (t : NaivePaddedTransport (Traced S)) : Prop :=
  Shut t.inner ∧ t.writePending = none

/-- Over such a stream a shutdown that returns has shut it down, and nothing was pending. -/
theorem steady_phased (h : Phased Open Shut) (steady : Steady Open) : Phased (OpenBelow Open) (ShutBelow Shut) where
  write t buf start := ⟨pollWrite_open h buf start.1, pollWrite_inside start.2 Prod.mk.eta.symm⟩
  flush t start :=
    ⟨pollFlush_open h start.1 Prod.mk.eta.symm, (pollFlush_flushed Prod.mk.eta.symm).drains.inside start.2⟩
  waits {t next} start polled :=
    ⟨(phased h).waits start.1 polled, (pollShutdown_shut (t := t) polled).drains.inside start.2⟩
  shuts {t last r} start polled := by
    change pollShutdown t = _ at polled
    unfold pollShutdown at polled
    split at polled
    · cases polled
    · rename_i mid e flushed
      exact absurd flushed (pollFlush_steady h steady start.1 start.2)
    · rename_i mid flushed
      have clear : mid.writePending = none := pollFlush_clears flushed
      obtain ⟨rfl, returned⟩ := Prod.mk.inj polled
      exact ⟨h.shuts (pollFlush_open h start.1 flushed) (Prod.ext rfl returned), clear⟩

end Writes

section Reads

variable {S : Type} [AsyncRead S]

omit [AsyncRead S] in
theorem ReadOnly.inside {t next : NaivePaddedTransport (Traced S)} (only : ReadOnly t next) (inside : OffsetInside t) :
    OffsetInside next := by
  intro frame queued
  rw [only.offset]
  exact inside frame (only.pending ▸ queued)

theorem openBelow_read {Open : Traced S → Prop} (reads : KeptByReads Open) : KeptByReads (OpenBelow Open) :=
  fun _ cap start => ⟨(pollRead_quiet reads cap ⟨start.1, rfl⟩).1,
    (pollRead_readOnly Prod.mk.eta.symm).inside start.2⟩

theorem shutBelow_read {Shut : Traced S → Prop} (reads : KeptByReads Shut) : KeptByReads (ShutBelow Shut) :=
  fun _ cap start => pollRead_quiet reads cap start

/-- The last read below came out as `r`. -/
def LastRead (r : PollResult Bytes) (x : Traced S) : Prop :=
  ∃ before cap, 0 < cap ∧ AsyncRead.pollRead before cap = (x, r)

theorem readData_last {remaining : Nat} {t last : NaivePaddedTransport (Traced S)} {r : PollResult Bytes}
    (room : 0 < remaining) (data : 0 < t.readDataRem) (ran : readData remaining t = (last, r))
    (nothing : ∀ bs, r = .ready (.ok bs) → bs = []) : LastRead r last.inner := by
  have asked : 0 < dataCap remaining t := by
    rw [dataCap_eq]
    omega
  obtain ⟨inner, answer, polled, ⟨same, -⟩ | ⟨bs, nonempty, rfl, same⟩⟩ := readData_cases room t
  · cases same.symm.trans ran
    exact ⟨t.inner, _, asked, polled⟩
  · cases same.symm.trans ran
    exact absurd (nothing bs rfl) nonempty

theorem headerPass_last {t s : NaivePaddedTransport (Traced S)} (h : HeaderReads t s) :
    (headerPass s).Holds (HeaderReads t) fun last r => ∀ answer, r = some answer → LastRead answer last.inner := by
  have kept := headerPass_headerReads h
  by_cases short : s.readHdrPos < 3
  · have asked : 0 < s.readHdr.length - s.readHdrPos := by
      have size := h.1
      omega
    obtain ⟨inner, r, polled, ⟨same, -⟩ | ⟨bs, -, -, same⟩⟩ := headerPass_cases short
    · rw [same]
      rintro answer same
      cases same
      exact ⟨s.inner, _, asked, polled⟩
    · rw [same] at kept ⊢
      exact kept
  · rw [headerPass_full short]
    intro answer same
    cases same

theorem readHeader_last {t last : NaivePaddedTransport (Traced S)} {r : Option (PollResult Bytes)} (ok : ReadOk t)
    (ran : readHeader t = (last, r)) : ∀ answer, r = some answer → LastRead answer last.inner := by
  refine readHeader_rule (I := HeaderReads t)
    (Q := fun last r => ∀ answer, r = some answer → LastRead answer last.inner) ?_ ?_ ran
  · intro s reads
    exact headerPass_last reads
  · exact ⟨ok.header_size, Nat.le_of_lt ok.header_open, [], (List.append_nil _).symm, (List.append_nil _).symm⟩

theorem readPass_last {remaining : Nat} {t : NaivePaddedTransport (Traced S)} (ok : ReadOk t) (room : 0 < remaining) :
    (readPass remaining t).Holds ReadOk fun last r =>
      (∀ bs, r = .ready (.ok bs) → bs = []) → LastRead r last.inner := by
  have kept := readPass_parses remaining ok
  unfold readPass at kept ⊢
  split_ifs at kept ⊢ with data skip raw
  · exact readData_last room data Prod.mk.eta.symm
  · obtain ⟨inner, r, polled, ⟨same, -⟩ | ⟨bs, -, -, same⟩⟩ := skipPadding_cases t
    · rw [same]
      exact fun _ => ⟨t.inner, _, Nat.lt_min.mpr ⟨skip, by omega⟩, polled⟩
    · rw [same] at kept ⊢
      exact kept.1
  · exact fun _ => ⟨t.inner, remaining, room, Prod.mk.eta.symm⟩
  · split at kept
    · rename_i last r ran
      exact fun _ => readHeader_last ok ran r rfl
    · exact kept.1

/-- A read with room that brings nothing ends with the read below that brought nothing. -/
theorem pollRead_last {remaining : Nat} {t last : NaivePaddedTransport (Traced S)} {r : PollResult Bytes}
    (ok : ReadOk t) (room : 0 < remaining) (ran : pollRead t remaining = (last, r))
    (nothing : ∀ bs, r = .ready (.ok bs) → bs = []) : LastRead r last.inner :=
  pollRead_rule (I := ReadOk)
    (Q := fun last r => (∀ bs, r = .ready (.ok bs) → bs = []) → LastRead r last.inner)
    (fun _ its => readPass_last its room) ok ran nothing

end Reads

end ServerNaive.NaivePaddedTransport
