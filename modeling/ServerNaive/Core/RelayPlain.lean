import ServerNaive.Core.Relay

/-! A relay over traced streams is the relay over the streams: it does not see the record of its calls. -/
namespace ServerNaive
open AsyncIo

namespace Copy

variable {R W : Type}

/-- The copy without the records of its streams. -/
abbrev plain (c : Copy (Traced R) (Traced W)) : Copy R W := ⟨c.dir, c.reader.stream, c.writer.stream⟩

variable [AsyncRead R] [AsyncWrite W]

omit [AsyncWrite W] in
theorem plain_readAhead (c : Copy (Traced R) (Traced W)) : c.plain.readAhead = c.readAhead.plain := by
  obtain ⟨dir, reader, writer⟩ := c
  change readAhead ⟨dir, reader.stream, writer.stream⟩ = _
  unfold readAhead
  by_cases room : dir.readDone = false ∧ dir.cap < dir.buf.length
  · rw [if_pos room, if_pos room]
    cases polled : AsyncRead.pollRead reader.stream (dir.buf.length - dir.cap) with
    | mk s r =>
        rw [Traced.pollRead_of polled]
        rcases r with _ | (_ | (_ | _)) <;> rfl
  · rw [if_neg room, if_neg room]

theorem plain_writePass (c : Copy (Traced R) (Traced W)) : c.plain.writePass = c.writePass.map plain := by
  obtain ⟨dir, reader, writer⟩ := c
  change writePass ⟨dir, reader.stream, writer.stream⟩ = _
  unfold writePass
  by_cases more : dir.pos < dir.cap
  · rw [if_pos more, if_pos more]
    cases polled : AsyncWrite.pollWrite writer.stream dir.held with
    | mk s r =>
        rw [Traced.pollWrite_of polled]
        rcases r with _ | (e | (_ | n))
        · -- only a write that waits is followed by another call, the read ahead
          have ahead := plain_readAhead ⟨dir, reader, ⟨s, writer.calls ++ [.write dir.held .pending]⟩⟩
          exact congrArg (Pass.leave · (some Poll.pending)) ahead
        · rfl
        · rfl
        · rfl
  · rw [if_neg more, if_neg more]
    rfl

theorem plain_writeLoop (c : Copy (Traced R) (Traced W)) :
    c.plain.writeLoop = (c.writeLoop.1.plain, c.writeLoop.2) :=
  runLoop_map plain_writePass _ _ c

omit [AsyncRead R] in
theorem plain_finish (c : Copy (Traced R) (Traced W)) : c.plain.finish = (c.finish.1.plain, c.finish.2) := by
  obtain ⟨dir, reader, writer⟩ := c
  change finish ⟨dir, reader.stream, writer.stream⟩ = _
  unfold finish
  by_cases forwards : dir.suppressShutdown = false
  · rw [if_pos forwards, if_pos forwards]
    cases polled : AsyncWrite.pollShutdown writer.stream with
    | mk s r =>
        rw [Traced.pollShutdown_of polled]
        rcases r with _ | _ <;> rfl
  · rw [if_neg forwards, if_neg forwards]

omit [AsyncWrite W] in
theorem plain_readNext (c : Copy (Traced R) (Traced W)) : c.plain.readNext = c.readNext.map plain := by
  obtain ⟨dir, reader, writer⟩ := c
  change readNext ⟨dir, reader.stream, writer.stream⟩ = _
  unfold readNext
  cases polled : AsyncRead.pollRead reader.stream dir.buf.length with
  | mk s r =>
      rw [Traced.pollRead_of polled]
      rcases r with _ | (e | (_ | _)) <;> rfl

theorem plain_copyPass (c : Copy (Traced R) (Traced W)) : c.plain.copyPass = c.copyPass.map plain := by
  unfold copyPass
  rw [plain_writeLoop]
  obtain ⟨⟨dir, reader, writer⟩, r⟩ := c.writeLoop
  cases r with
  | some r => rfl
  | none =>
      dsimp only [plain]
      cases polled : AsyncWrite.pollFlush writer.stream with
      | mk s r =>
          rw [Traced.pollFlush_of polled]
          have finishes := plain_finish ⟨dir, reader, ⟨s, writer.calls ++ [.flush r]⟩⟩
          have reads := plain_readNext ⟨dir, reader, ⟨s, writer.calls ++ [.flush r]⟩⟩
          dsimp only [plain] at finishes reads
          by_cases done : dir.readDone = true
          · rcases r with _ | (e | _)
            · simp only [done, if_true, finishes]
              rfl
            · rfl
            · simp only [done, if_true, finishes]
              rfl
          · rcases r with _ | (e | _)
            · simp only [done, Bool.false_eq_true, if_false, reads]
            · rfl
            · simp only [done, Bool.false_eq_true, if_false, reads]

theorem plain_pollCopy (fuel : Nat) (c : Copy (Traced R) (Traced W)) :
    c.plain.pollCopy fuel = (c.pollCopy fuel).map plain := by
  unfold pollCopy
  by_cases done : c.dir.shutdownDone = true
  · rw [if_pos done, if_pos done]
    rfl
  · rw [if_neg done, if_neg done]
    exact loop_map plain_copyPass fuel c

end Copy

namespace Relay

variable {A B : Type}

/-- The relay without the records of its streams. -/
abbrev plain (s : Relay (Traced A) (Traced B)) : Relay A B := { s with a := s.a.stream, b := s.b.stream }

variable [AsyncRead A] [AsyncWrite A] [AsyncRead B] [AsyncWrite B]

omit [AsyncWrite A] [AsyncRead B] in
theorem plain_pollAToB (fuel : Nat) (s : Relay (Traced A) (Traced B)) :
    s.plain.pollAToB fuel = ((s.pollAToB fuel).1.plain, (s.pollAToB fuel).2) := by
  have copies := Copy.plain_pollCopy fuel ⟨s.aToB, s.a, s.b⟩
  unfold pollAToB
  dsimp only [plain]
  by_cases done : s.aToB.isDone = true
  · rw [if_pos done, if_pos done]
  · rw [if_neg done, if_neg done, copies]
    cases Copy.pollCopy fuel ⟨s.aToB, s.a, s.b⟩ with
    | again c => rfl
    | leave c r => rcases r with _ | (_ | _) <;> rfl

omit [AsyncRead A] [AsyncWrite B] in
theorem plain_pollBToA (fuel : Nat) (s : Relay (Traced A) (Traced B)) :
    s.plain.pollBToA fuel = ((s.pollBToA fuel).1.plain, (s.pollBToA fuel).2) := by
  have copies := Copy.plain_pollCopy fuel ⟨s.bToA, s.b, s.a⟩
  unfold pollBToA
  dsimp only [plain]
  by_cases done : s.bToA.isDone = true
  · rw [if_pos done, if_pos done]
  · rw [if_neg done, if_neg done, copies]
    cases Copy.pollCopy fuel ⟨s.bToA, s.b, s.a⟩ with
    | again c => rfl
    | leave c r => rcases r with _ | (_ | _) <;> rfl

omit [AsyncRead A] [AsyncWrite A] [AsyncRead B] [AsyncWrite B] in
theorem plain_settle (before : Nat × Nat) (now : Nat) (s : Relay (Traced A) (Traced B)) :
    s.plain.settle before now = ((s.settle before now).1.plain, (s.settle before now).2) := by
  unfold settle nextDeadline
  dsimp only [plain]
  split_ifs <;> rfl

theorem plain_poll (fuel now : Nat) (s : Relay (Traced A) (Traced B)) :
    s.plain.poll fuel now = ((s.poll fuel now).1.plain, (s.poll fuel now).2) := by
  unfold poll
  rw [plain_pollAToB]
  rcases s.pollAToB fuel with ⟨t, _ | r⟩
  · dsimp only
    rw [plain_pollBToA]
    rcases t.pollBToA fuel with ⟨u, _ | r⟩
    · exact plain_settle _ now u
    · rfl
  · rfl

end Relay

end ServerNaive
