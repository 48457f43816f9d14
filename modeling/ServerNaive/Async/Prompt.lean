import ServerNaive.Async.Driver
import ServerNaive.Async.Parse

/-! What a writing task puts on a stream, and how many polls a task can use up. A prompt
task uses a poll only to wait or to move a byte, so it ends once it was polled more often
than there are waits and bytes. -/
namespace AsyncIo

variable {σ ε α β : Type}

/-- The polls that are left and what was gained reach the level of the start. A failed task
has ended anyway. -/
def Run.Keeps (gain : σ → Int) (level : Int) : Run σ ε α → Prop
  | .done _ t left => level ≤ left + gain t
  | .failed _ _ _ => True
  | .cut t => level ≤ gain t

theorem Run.Keeps.weaken {gain : σ → Int} {level level' : Int} {r : Run σ ε α}
    (h : r.Keeps gain level) (less : level' ≤ level) : r.Keeps gain level' := by
  cases r with
  | done a t left => exact less.trans h
  | failed e t left => exact trivial
  | cut t => exact less.trans h

/-- Every poll that the task uses up gains something. -/
def Prompt (gain : σ → Int) (m : Task σ ε α) : Prop :=
  ∀ fuel s, (m fuel s).Keeps gain (fuel + gain s)

theorem prompt_pure (gain : σ → Int) (a : α) : Prompt gain (pure a : Task σ ε α) := by
  intro fuel s
  exact le_rfl

theorem prompt_fail (gain : σ → Int) (e : ε) : Prompt gain (Task.fail e : Task σ ε α) := by
  intro fuel s
  exact trivial

theorem Prompt.bind {gain : σ → Int} {m : Task σ ε α} {k : α → Task σ ε β} (first : Prompt gain m)
    (next : ∀ a, Prompt gain (k a)) : Prompt gain (m >>= k) := by
  intro fuel s
  have one := first fuel s
  change (Task.bind m k fuel s).Keeps gain _
  unfold Task.bind
  cases ran : m fuel s with
  | done a t left =>
      rw [ran] at one
      exact (next a left t).weaken one
  | failed e t left => exact trivial
  | cut t =>
      rw [ran] at one
      exact one

section Read

variable {R : Type} [ByteSource R]

/-- The waits so far, less the bytes still to come. -/
def readGain (x : Traced R) : Int := readWaits x.calls - (ByteSource.rest x).length

theorem fill_keeps {eof : IoError} {n : Nat} (fuel : Nat) (got : Bytes) (x : Traced R) :
    (Task.fill eof n fuel got x).Keeps readGain (fuel + readGain x) := by
  induction fuel generalizing got x with
  | zero =>
      rw [Task.fill]
      split_ifs
      · exact le_rfl
      · exact (zero_add (readGain x)).le
  | succ fuel ih =>
      rw [Task.fill]
      split_ifs with full
      · exact le_rfl
      · split
        · rename_i x' polled
          have waits := Traced.readWaits_pollRead polled
          have same := congrArg List.length (ByteSource.pending_rest polled)
          refine (ih got x').weaken ?_
          simp only [readGain, waits, same, waiting, Bool.toNat_true]
          omega
        · exact trivial
        · exact trivial
        · rename_i x' bs nonempty polled
          have waits := Traced.readWaits_pollRead polled
          have wire := congrArg List.length (ByteSource.ready_rest polled)
          have positive : 0 < bs.length := List.length_pos_iff.mpr nonempty
          rw [List.length_append] at wire
          refine (ih (got ++ bs) x').weaken ?_
          simp only [readGain, waits, waiting, Bool.toNat_false]
          omega

theorem prompt_readExact (n : Nat) : Prompt readGain (Task.readExact n : Task (Traced R) IoError Bytes) :=
  fun fuel x => fill_keeps fuel [] x

theorem prompt_readInt (n : Nat) : Prompt readGain (Task.readInt n : Task (Traced R) IoError Bytes) :=
  fun fuel x => fill_keeps fuel [] x

theorem prompt_readU8 : Prompt readGain (Task.readU8 : Task (Traced R) IoError UInt8) :=
  (prompt_readInt 1).bind fun _ => prompt_pure _ _

theorem prompt_readU16 : Prompt readGain (Task.readU16 : Task (Traced R) IoError UInt16) :=
  (prompt_readInt 2).bind fun _ => prompt_pure _ _

end Read

section Write

variable {W : Type} [AsyncWrite W]

/-- The calls of a record on which the stream made its writer wait. -/
def writeWaits (calls : List Call) : Nat :=
  calls.countP fun
    | .write _ outcome => waiting outcome
    | _ => false

/-- The waits so far and the bytes that were taken. -/
def writeGain (x : Traced W) : Int := writeWaits x.calls + (accepted x.calls).length

theorem writeWaits_pollWrite {x x' : Traced W} {buf : Bytes} {outcome : PollResult Nat}
    (h : AsyncWrite.pollWrite x buf = (x', outcome)) :
    writeWaits x'.calls = writeWaits x.calls + (waiting outcome).toNat := by
  rw [Traced.calls_pollWrite h, writeWaits, List.countP_append]
  cases outcome <;> rfl

theorem offer_keeps (fuel : Nat) (buf : Bytes) (x : Traced W) :
    (Task.offer fuel buf x).Keeps writeGain (fuel + writeGain x) := by
  induction fuel generalizing buf x with
  | zero =>
      cases buf with
      | nil => exact le_rfl
      | cons b buf => exact (zero_add (writeGain x)).le
  | succ fuel ih =>
      cases buf with
      | nil => exact le_rfl
      | cons b buf =>
          rw [Task.offer]
          split
          · rename_i x' polled
            have waits := writeWaits_pollWrite polled
            have same := congrArg List.length (Traced.accepted_pollWrite polled)
            refine (ih (b :: buf) x').weaken ?_
            simp only [writeGain, waits, same, waiting, Bool.toNat_true, Call.taken, List.append_nil]
            omega
          · exact trivial
          · exact trivial
          · rename_i x' n positive polled
            have waits := writeWaits_pollWrite polled
            have more := congrArg List.length (Traced.accepted_pollWrite polled)
            have fits := AsyncWrite.pollWrite_le polled
            have taken : ((b :: buf).take n).length = n := List.length_take_of_le fits
            have positive : 0 < n := Nat.pos_of_ne_zero positive
            rw [List.length_append, Call.taken, taken] at more
            refine (ih ((b :: buf).drop n) x').weaken ?_
            simp only [writeGain, waits, more, waiting, Bool.toNat_false]
            omega

/-- The task puts exactly `bs` on the stream, and a front of it while it is at work. -/
def Emits (m : Task (Traced W) IoError Unit) (bs : Bytes) : Prop :=
  ∀ fuel x, (m fuel x).Holds (fun _ x' => accepted x'.calls = accepted x.calls ++ bs) (fun _ _ => False)
    (fun x' => accepted x'.calls <+: accepted x.calls ++ bs)

theorem offer_emits (obliging : Obliging W) (fuel : Nat) (buf : Bytes) (x : Traced W) :
    (Task.offer fuel buf x).Holds (fun _ x' => accepted x'.calls = accepted x.calls ++ buf)
      (fun _ _ => False) (fun x' => accepted x'.calls <+: accepted x.calls ++ buf) := by
  have calm := Traced.obliging obliging
  induction fuel generalizing buf x with
  | zero =>
      cases buf with
      | nil => exact (List.append_nil _).symm
      | cons b buf => exact List.prefix_append _ _
  | succ fuel ih =>
      cases buf with
      | nil => exact (List.append_nil _).symm
      | cons b buf =>
          rw [Task.offer]
          split
          · rename_i x' polled
            have same : accepted x'.calls = accepted x.calls :=
              (Traced.accepted_pollWrite polled).trans (List.append_nil _)
            rw [← same]
            exact ih (b :: buf) x'
          · rename_i x' e polled
            exact absurd (congrArg Prod.snd polled) (calm.write x _ e)
          · rename_i x' polled
            exact absurd (congrArg Prod.snd polled) (calm.progress x _ (List.cons_ne_nil b buf))
          · rename_i x' n _ polled
            have more := Traced.accepted_pollWrite polled
            have whole : accepted x.calls ++ (b :: buf) = accepted x'.calls ++ (b :: buf).drop n := by
              rw [more, Call.taken, List.append_assoc, List.take_append_drop]
            rw [whole]
            exact ih _ x'

theorem emits_writeAll (obliging : Obliging W) (buf : Bytes) : Emits (W := W) (Task.writeAll buf) buf :=
  fun fuel x => offer_emits obliging fuel buf x

omit [AsyncWrite W] in
theorem emits_pure : Emits (W := W) (pure ()) [] := by
  intro fuel x
  exact Task.holds_pure (List.append_nil _).symm

omit [AsyncWrite W] in
theorem Emits.bind {m : Task (Traced W) IoError Unit} {k : Unit → Task (Traced W) IoError Unit}
    {bs cs : Bytes} (first : Emits m bs) (next : Emits (k ()) cs) : Emits (m >>= k) (bs ++ cs) := by
  intro fuel x
  apply Task.holds_bind
  refine (first fuel x).imp ?_ (fun _ _ h => h) ?_
  · intro _ mid wrote left
    rw [← List.append_assoc, ← wrote]
    exact next left mid
  · intro last front
    rw [← List.append_assoc]
    exact front.trans (List.prefix_append _ _)

theorem prompt_writeAll (buf : Bytes) : Prompt writeGain (Task.writeAll buf : Task (Traced W) IoError Unit) :=
  fun fuel x => offer_keeps fuel buf x

end Write

end AsyncIo
