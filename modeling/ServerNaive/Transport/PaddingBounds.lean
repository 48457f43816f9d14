import ServerNaive.Async.Record
import ServerNaive.Transport.Padding

/-! How long one call of the transport may go on without returning to its executor. The peer chooses headers and
padding, but not how many frames are padded. -/
namespace ServerNaive.NaivePaddedTransport
open AsyncIo

variable {T : Type}

/-- The frames still to come, the padding still to skip and the bytes still to come of a header. -/
def loopMeasure (t : NaivePaddedTransport T) : Nat × Nat × Nat :=
  (paddingFrames - t.readFramesDone, t.readSkipRem, 3 - t.readHdrPos)

/-- Lexicographically below. -/
def Falls (next t : NaivePaddedTransport T) : Prop :=
  Prod.Lex (· < ·) (Prod.Lex (· < ·) (· < ·)) next.loopMeasure t.loopMeasure

theorem falls_of_frames {next t : NaivePaddedTransport T}
    (less : paddingFrames - next.readFramesDone < paddingFrames - t.readFramesDone) : Falls next t :=
  Prod.Lex.left _ _ less

theorem falls_of_skip {next t : NaivePaddedTransport T} (frames : next.readFramesDone = t.readFramesDone)
    (less : next.readSkipRem < t.readSkipRem) : Falls next t := by
  unfold Falls loopMeasure
  rw [frames]
  exact Prod.Lex.right _ (Prod.Lex.left _ _ less)

theorem falls_of_header {next t : NaivePaddedTransport T} (frames : next.readFramesDone = t.readFramesDone)
    (skip : next.readSkipRem = t.readSkipRem) (less : 3 - next.readHdrPos < 3 - t.readHdrPos) : Falls next t := by
  unfold Falls loopMeasure
  rw [frames, skip]
  exact Prod.Lex.right _ (Prod.Lex.right _ less)

theorem parseHeader_frames (t : NaivePaddedTransport T) : (parseHeader t).readFramesDone = t.readFramesDone + 1 := by
  unfold parseHeader
  split_ifs <;> rfl

/-- A header announces at most 255 bytes of padding. -/
theorem parseHeader_skip (t : NaivePaddedTransport T) : (parseHeader t).readSkipRem ≤ t.readSkipRem + 255 := by
  have byte : t.paddingSize < 2 ^ 8 := (t.readHdr.getD 2 0).toNat_lt
  unfold parseHeader
  split_ifs
  · change t.paddingSize ≤ _
    omega
  · exact Nat.le_add_right ..

section Falling

variable [AsyncRead T]

theorem headerPass_falls (t : NaivePaddedTransport T) :
    (headerPass t).Holds (fun next => Falls next t) fun _ _ => True := by
  refine (headerPass_holds t).imp ?_ fun _ _ _ => trivial
  rintro next ⟨only, less⟩
  exact falls_of_header (by rw [only]) (by rw [only]) less

theorem readPass_falls (remaining : Nat) (t : NaivePaddedTransport T) :
    (readPass remaining t).Holds (fun next => Falls next t) fun _ _ => True := by
  unfold readPass
  split_ifs with data skip raw
  · trivial
  · obtain ⟨inner, r, -, ⟨same, -⟩ | ⟨bs, nonempty, -, same⟩⟩ := skipPadding_cases t
    · rw [same]
      trivial
    · have positive : 0 < bs.length := List.length_pos_iff.mpr nonempty
      rw [same]
      refine falls_of_skip rfl ?_
      change t.readSkipRem - bs.length < t.readSkipRem
      omega
  · trivial
  · split
    · trivial
    · rename_i last ran
      have frames : last.readFramesDone = t.readFramesDone := by rw [(readHeader_holds ran).1]
      refine falls_of_frames ?_
      rw [parseHeader_frames, frames]
      omega

end Falling

/-! The calls below. -/

def reads (calls : List Call) : Nat := calls.countP Call.isRead

def writes (calls : List Call) : Nat := calls.countP Call.isWrite

theorem reads_read {before after : List Call} {cap : Nat} {r : PollResult Bytes}
    (grown : after = before ++ [.read cap r]) : reads after = reads before + 1 := by
  rw [grown, reads, List.countP_append]
  rfl

theorem writes_write {before after : List Call} {offered : Bytes} {r : PollResult Nat}
    (grown : after = before ++ [.write offered r]) : writes after = writes before + 1 := by
  rw [grown, writes, List.countP_append]
  rfl

section Reads

variable {R : Type} [AsyncRead R]

/-- What the padding and the headers of the frames still to come can cost in reads. -/
def readBudget (t : NaivePaddedTransport T) : Nat := t.readSkipRem + (paddingFrames - t.readFramesDone) * 258

theorem headerPass_reads_le (t : NaivePaddedTransport (Traced R)) :
    (headerPass t).Holds
      (fun next => reads next.inner.calls + (3 - next.readHdrPos) ≤ reads t.inner.calls + (3 - t.readHdrPos))
      (fun last _ => reads last.inner.calls ≤ reads t.inner.calls + (3 - t.readHdrPos)) := by
  by_cases short : t.readHdrPos < 3
  · obtain ⟨inner, r, polled, ⟨same, -⟩ | ⟨bs, nonempty, -, same⟩⟩ := headerPass_cases short
    · have one := reads_read (Traced.calls_pollRead polled)
      rw [same]
      change reads inner.calls ≤ _
      omega
    · have one := reads_read (Traced.calls_pollRead polled)
      have positive : 0 < bs.length := List.length_pos_iff.mpr nonempty
      rw [same]
      change reads inner.calls + (3 - (t.readHdrPos + bs.length)) ≤ _
      omega
  · rw [headerPass_full short]
    exact Nat.le_add_right ..

/-- A header takes at most three reads. -/
theorem readHeader_reads_le {t last : NaivePaddedTransport (Traced R)} {r : Option (PollResult Bytes)}
    (ran : readHeader t = (last, r)) : reads last.inner.calls ≤ reads t.inner.calls + 3 := by
  have most : reads last.inner.calls ≤ reads t.inner.calls + (3 - t.readHdrPos) := by
    refine readHeader_rule (I := fun s : NaivePaddedTransport (Traced R) =>
        reads s.inner.calls + (3 - s.readHdrPos) ≤ reads t.inner.calls + (3 - t.readHdrPos))
      (Q := fun last _ => reads last.inner.calls ≤ reads t.inner.calls + (3 - t.readHdrPos)) ?_ le_rfl ran
    intro s within
    exact (headerPass_reads_le s).imp (fun _ paid => paid.trans within) fun _ _ paid => paid.trans within
  omega

theorem readData_reads_le (remaining : Nat) (t : NaivePaddedTransport (Traced R)) :
    reads (readData remaining t).1.inner.calls ≤ reads t.inner.calls + 1 := by
  rcases Nat.eq_zero_or_pos remaining with rfl | room
  · exact Nat.le_add_right ..
  · obtain ⟨inner, r, polled, ⟨same, -⟩ | ⟨bs, -, -, same⟩⟩ := readData_cases room t
    · rw [same]
      exact (reads_read (Traced.calls_pollRead polled)).le
    · rw [same, takeData_inner]
      exact (reads_read (Traced.calls_pollRead polled)).le

/-- A pass that goes round again pays for its reads with what it uses up. -/
theorem readPass_reads_le (remaining : Nat) (t : NaivePaddedTransport (Traced R)) :
    (readPass remaining t).Holds
      (fun next => reads next.inner.calls + next.readBudget ≤ reads t.inner.calls + t.readBudget)
      (fun last _ => reads last.inner.calls ≤ reads t.inner.calls + t.readBudget + 1) := by
  unfold readPass
  split_ifs with data skip raw
  · have one := readData_reads_le remaining t
    change reads (readData remaining t).1.inner.calls ≤ _
    omega
  · obtain ⟨inner, r, polled, ⟨same, -⟩ | ⟨bs, nonempty, -, same⟩⟩ := skipPadding_cases t
    · have one := reads_read (Traced.calls_pollRead polled)
      rw [same]
      change reads inner.calls ≤ _
      omega
    · have one := reads_read (Traced.calls_pollRead polled)
      have positive : 0 < bs.length := List.length_pos_iff.mpr nonempty
      rw [same]
      simp only [Pass.holds_again, readBudget]
      omega
  · have one := reads_read (Traced.calls_pollRead (Prod.mk.eta (p := AsyncRead.pollRead t.inner remaining)).symm)
    change reads (AsyncRead.pollRead t.inner remaining).1.calls ≤ _
    omega
  · split
    · rename_i last r ran
      have header := readHeader_reads_le ran
      simp only [Pass.holds_leave, readBudget]
      omega
    · rename_i last ran
      have header := readHeader_reads_le ran
      have frames : last.readFramesDone = t.readFramesDone := by rw [(readHeader_holds ran).1]
      have skipped : last.readSkipRem = t.readSkipRem := by rw [(readHeader_holds ran).1]
      have padding := parseHeader_skip last
      simp only [Pass.holds_again, readBudget, parseHeader_frames, parseHeader_inner, frames]
      omega

theorem pollRead_reads_le (remaining : Nat) (t : NaivePaddedTransport (Traced R)) :
    reads (pollRead t remaining).1.inner.calls ≤ reads t.inner.calls + t.readBudget + 1 := by
  refine pollRead_rule (I := fun s : NaivePaddedTransport (Traced R) =>
      reads s.inner.calls + s.readBudget ≤ reads t.inner.calls + t.readBudget)
    (Q := fun last _ => reads last.inner.calls ≤ reads t.inner.calls + t.readBudget + 1) ?_ le_rfl
    (Prod.mk.eta (p := pollRead t remaining)).symm
  intro s within
  apply (readPass_reads_le remaining s).imp
  · intro next paid
    exact paid.trans within
  · intro last r paid
    omega

end Reads

section Writes

variable {W : Type} [AsyncWrite W]

/-- Each write of the loop takes at least one byte of the pending frame, or is the last. -/
theorem drainPass_writes_le (zeroText : String) (t : NaivePaddedTransport (Traced W)) :
    (drainPass zeroText t).Holds
      (fun next => writes next.inner.calls + next.unsent.length ≤ writes t.inner.calls + t.unsent.length)
      (fun last d => writes last.inner.calls ≤ writes t.inner.calls + 1 ∧
        (d = .cleared → writes last.inner.calls = writes t.inner.calls)) := by
  cases queued : t.writePending with
  | none =>
      rw [drainPass_idle queued]
      exact ⟨Nat.le_add_right .., fun _ => rfl⟩
  | some frame =>
      obtain ⟨inner, r, polled, ⟨same, -⟩ | ⟨n, positive, rfl, same⟩⟩ := drainPass_cases zeroText queued
      · rw [same]
        exact ⟨(writes_write (Traced.calls_pollWrite polled)).le,
          fun cleared => absurd cleared (stalled_ne_cleared zeroText r)⟩
      · have one := writes_write (Traced.calls_pollWrite polled)
        have fits := AsyncWrite.pollWrite_le polled
        have unsent : t.unsent.length = frame.length - t.writePendingOff := by
          rw [NaivePaddedTransport.unsent, queued, List.length_drop]
        rw [List.length_drop] at fits
        rw [same, Pass.holds_again, advance_inner, advance]
        split_ifs with complete
        · change writes inner.calls + 0 ≤ _
          omega
        · simp only [NaivePaddedTransport.unsent, queued, List.length_drop]
          omega

theorem drain_writes_le {zeroText : String} {t last : NaivePaddedTransport (Traced W)} {d : Drain}
    (ran : drain zeroText t = (last, d)) :
    writes last.inner.calls ≤ writes t.inner.calls + t.unsent.length + 1 ∧
      (d = .cleared → writes last.inner.calls ≤ writes t.inner.calls + t.unsent.length) := by
  refine drain_rule (I := fun s : NaivePaddedTransport (Traced W) =>
      writes s.inner.calls + s.unsent.length ≤ writes t.inner.calls + t.unsent.length)
    (Q := fun last d => writes last.inner.calls ≤ writes t.inner.calls + t.unsent.length + 1 ∧
      (d = .cleared → writes last.inner.calls ≤ writes t.inner.calls + t.unsent.length)) ?_ le_rfl ran
  intro s within
  apply (drainPass_writes_le zeroText s).imp
  · intro next paid
    exact paid.trans within
  · rintro last d ⟨most, quiet⟩
    refine ⟨by omega, ?_⟩
    intro cleared
    have same := quiet cleared
    omega

theorem writeFrame_writes_le (t : NaivePaddedTransport (Traced W)) (buf : Bytes) :
    writes (writeFrame t buf).1.inner.calls ≤ writes t.inner.calls + 1 := by
  obtain ⟨inner, r, polled, ⟨e, -, same⟩ | ⟨-, same⟩ | ⟨n, -, -, same⟩⟩ := writeFrame_cases t buf
  all_goals rw [same]
  · exact (writes_write (Traced.calls_pollWrite polled)).le
  · exact (writes_write (Traced.calls_pollWrite polled)).le
  · rw [advance_inner]
    exact (writes_write (Traced.calls_pollWrite polled)).le

theorem pollWrite_writes_le (t : NaivePaddedTransport (Traced W)) (buf : Bytes) :
    writes (pollWrite t buf).1.inner.calls ≤ writes t.inner.calls + t.unsent.length + 1 := by
  unfold pollWrite
  split
  · rename_i last drained
    exact (drain_writes_le drained).1
  · rename_i last e drained
    exact (drain_writes_le drained).1
  · rename_i last drained
    have most := (drain_writes_le drained).2 rfl
    split_ifs with raw
    · have one := writes_write (Traced.calls_pollWrite (Prod.mk.eta (p := AsyncWrite.pollWrite last.inner buf)).symm)
      change writes (AsyncWrite.pollWrite last.inner buf).1.calls ≤ _
      omega
    · have one := writeFrame_writes_le last buf
      omega

theorem pollFlush_writes_le (t : NaivePaddedTransport (Traced W)) :
    writes (pollFlush t).1.inner.calls ≤ writes t.inner.calls + t.unsent.length + 1 := by
  unfold pollFlush
  split
  · rename_i last drained
    exact (drain_writes_le drained).1
  · rename_i last e drained
    exact (drain_writes_le drained).1
  · rename_i last drained
    have most := (drain_writes_le drained).1
    have none_more : writes (AsyncWrite.pollFlush last.inner).1.calls = writes last.inner.calls := by
      rw [Traced.calls_pollFlush (Prod.mk.eta (p := AsyncWrite.pollFlush last.inner)).symm, writes, List.countP_append]
      rfl
    exact none_more.le.trans most

theorem pollShutdown_writes_le (t : NaivePaddedTransport (Traced W)) :
    writes (pollShutdown t).1.inner.calls ≤ writes t.inner.calls + t.unsent.length + 1 := by
  have most := pollFlush_writes_le t
  unfold pollShutdown
  split
  · rename_i last flushed
    rwa [flushed] at most
  · rename_i last e flushed
    rwa [flushed] at most
  · rename_i last flushed
    rw [flushed] at most
    have none_more : writes (AsyncWrite.pollShutdown last.inner).1.calls = writes last.inner.calls := by
      rw [Traced.calls_pollShutdown (Prod.mk.eta (p := AsyncWrite.pollShutdown last.inner)).symm, writes,
        List.countP_append]
      rfl
    exact none_more.le.trans most

end Writes

theorem unsent_le (t : NaivePaddedTransport T) : t.unsent.length ≤ (t.writePending.getD []).length := by
  unfold unsent
  split
  · exact Nat.zero_le _
  · rename_i frame queued
    rw [queued, List.length_drop]
    exact Nat.sub_le ..

/-- Every loop of the transport ends by itself, and so soon. -/
structure LoopsEnd [AsyncRead T] [AsyncWrite T] (t : NaivePaddedTransport (Traced T)) : Prop where
  readFalls : ∀ remaining, (readPass remaining t).Holds (fun next => Falls next t) fun _ _ => True
  headerFalls : (headerPass t).Holds (fun next => Falls next t) fun _ _ => True
  readEnds : ∀ remaining passes, t.readMeasure < passes →
    loop (readPass remaining) passes t = .leave (pollRead t remaining).1 (pollRead t remaining).2
  headerEnds : ∀ passes, 3 - t.readHdrPos < passes →
    loop headerPass passes t = .leave (readHeader t).1 (readHeader t).2
  drainEnds : ∀ zeroText passes, t.unsent.length + 1 < passes →
    loop (drainPass zeroText) passes t = .leave (drain zeroText t).1 (drain zeroText t).2
  readCalls : ∀ remaining, reads (pollRead t remaining).1.inner.calls ≤
    reads t.inner.calls + (t.readSkipRem + (paddingFrames - t.readFramesDone) * 258 + 1)
  writeCalls : ∀ buf, writes (pollWrite t buf).1.inner.calls ≤
    writes t.inner.calls + ((t.writePending.getD []).length + 1)
  flushCalls : writes (pollFlush t).1.inner.calls ≤ writes t.inner.calls + ((t.writePending.getD []).length + 1)
  shutdownCalls : writes (pollShutdown t).1.inner.calls ≤
    writes t.inner.calls + ((t.writePending.getD []).length + 1)

/-- The loops end for every peer, from every state. -/
theorem loops_end [AsyncRead T] [AsyncWrite T] (t : NaivePaddedTransport (Traced T)) : t.LoopsEnd where
  readFalls remaining := readPass_falls remaining t
  headerFalls := headerPass_falls t
  readEnds remaining passes enough := by
    refine loop_eq_runLoop readMeasure ?_ (Nat.lt_succ_self _) enough Poll.pending
    exact fun s => (readPass_holds remaining s).imp (fun _ less => less) fun _ _ _ => trivial
  headerEnds passes enough := by
    refine loop_eq_runLoop (fun s : NaivePaddedTransport (Traced T) => 3 - s.readHdrPos) ?_ (Nat.lt_succ_self _) enough none
    exact fun s => (headerPass_holds s).imp (fun _ paid => paid.2) fun _ _ _ => trivial
  drainEnds zeroText passes enough := by
    refine loop_eq_runLoop drainMeasure ?_ (drainMeasure_lt t) enough Drain.blocked
    exact fun s => (drainPass_holds zeroText s).imp (fun _ paid => paid.2) fun _ _ _ => trivial
  readCalls remaining := by
    have most := pollRead_reads_le remaining t
    rwa [readBudget, Nat.add_assoc] at most
  writeCalls buf := by
    have most := pollWrite_writes_le t buf
    have pending := unsent_le t
    omega
  flushCalls := by
    have most := pollFlush_writes_le t
    have pending := unsent_le t
    omega
  shutdownCalls := by
    have most := pollShutdown_writes_le t
    have pending := unsent_le t
    omega

end ServerNaive.NaivePaddedTransport
