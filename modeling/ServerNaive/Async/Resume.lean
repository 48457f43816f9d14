import ServerNaive.Async.Phase

/-! Tasks that can be looked at between two polls, so that others can act in the meantime. Each is
the resumable form of a task: polled over and over it goes where the task goes. -/
namespace AsyncIo

instance Task.lawfulMonad {σ ε : Type} : LawfulMonad (Task σ ε) := by
  refine LawfulMonad.mk' (Task σ ε) ?_ (fun _ _ => rfl) ?_
  · intro α m
    funext fuel s
    change Task.bind m _ fuel s = m fuel s
    unfold Task.bind
    cases m fuel s <;> rfl
  · intro α β γ m k l
    funext fuel s
    change Task.bind (Task.bind m k) l fuel s = Task.bind m (fun a => Task.bind (k a) l) fuel s
    unfold Task.bind
    cases m fuel s <;> rfl

section Follows

variable {τ σ β : Type} {poll : τ → σ → τ × σ} {failed : IoError → τ} {ends : β → τ}

/-- Polled over and over, a resumable form gets where a run of the task has got. -/
def Polls (poll : τ → σ → τ × σ) : τ × σ → τ × σ → Prop := Relation.ReflTransGen fun s t => poll s.1 s.2 = t

def Follows (poll : τ → σ → τ × σ) (failed : IoError → τ) (ends : β → τ) (s : τ × σ) (run : Run σ IoError β) :
    Prop :=
  run.Holds (fun b last => Polls poll s (ends b, last)) (fun e last => Polls poll s (failed e, last))
    fun last => ∃ m, Polls poll s (m, last)

theorem Follows.after {s t : τ × σ} {run : Run σ IoError β} (rest : Follows poll failed ends t run)
    (first : Polls poll s t) : Follows poll failed ends s run := by
  refine Run.Holds.imp rest ?_ ?_ ?_
  · intro b last reached
    exact first.trans reached
  · intro e last reached
    exact first.trans reached
  · rintro last ⟨m, reached⟩
    exact ⟨m, first.trans reached⟩

end Follows

/-- A reading task: it is filling a buffer, or it has ended. -/
inductive Reading (α : Type) where
  | done (value : α)
  | failed (e : IoError)
  | fill (eof : IoError) (n : Nat) (got : Bytes) (next : Bytes → Reading α)

namespace Reading

variable {α β R : Type}

def bind : Reading α → (α → Reading β) → Reading β
  | .done value, k => k value
  | .failed e, _ => .failed e
  | .fill eof n got next, k => .fill eof n got fun bs => (next bs).bind k

instance : Monad Reading where
  pure := .done
  bind := bind

def readExact (n : Nat) : Reading Bytes := .fill ⟨.unexpectedEof, "early eof"⟩ n [] .done

def readInt (n : Nat) : Reading Bytes := .fill ⟨.unexpectedEof, "unexpected end of file"⟩ n [] .done

def readU8 : Reading UInt8 := do
  let bs ← readInt 1
  return bs.getD 0 0

def readU16 : Reading UInt16 := do
  let bs ← readInt 2
  return UInt16.ofNat (ofBe16 (bs.getD 0 0) (bs.getD 1 0))

variable [AsyncRead R]

/-- One poll. A full buffer is handed on by a poll of its own. -/
def poll : Reading α → R → Reading α × R
  | .fill eof n got next, r =>
      if n ≤ got.length then (next got, r)
      else match AsyncRead.pollRead r (n - got.length) with
        | (r, .pending) => (.fill eof n got next, r)
        | (r, .ready (.error e)) => (.failed e, r)
        | (r, .ready (.ok [])) => (.failed eof, r)
        | (r, .ready (.ok bs)) => (.fill eof n (got ++ bs) next, r)
  | .done value, r => (.done value, r)
  | .failed e, r => (.failed e, r)

theorem poll_keeps {I : R → Prop} (reads : KeptByReads I) (m : Reading α) {r : R} (start : I r) : I (m.poll r).2 := by
  cases m with
  | done value => exact start
  | failed e => exact start
  | fill eof n got next =>
      have polled := reads r (n - got.length) start
      rw [poll]
      split_ifs
      · exact start
      · split
        all_goals
          rename_i same
          rw [same] at polled
          exact polled

/-- The task of which this is the resumable form. -/
def toTask : Reading α → Task R IoError α
  | .done value => pure value
  | .failed e => Task.fail e
  | .fill eof n got next => fun fuel r => match Task.fill eof n fuel got r with
      | .done bs r fuel => (next bs).toTask fuel r
      | .failed e r fuel => .failed e r fuel
      | .cut r => .cut r

theorem toTask_pure (value : α) : (pure value : Reading α).toTask = (pure value : Task R IoError α) := rfl

theorem toTask_bind (m : Reading α) (k : α → Reading β) :
    (m >>= k).toTask = (m.toTask >>= fun value => (k value).toTask : Task R IoError β) := by
  change (m.bind k).toTask = Task.bind m.toTask fun value => (k value).toTask
  induction m with
  | done value => rfl
  | failed e => rfl
  | fill eof n got next ih =>
      funext fuel r
      simp only [bind, toTask, Task.bind]
      cases Task.fill eof n fuel got r with
      | done bs r left => exact congrFun (congrFun (ih bs) left) r
      | failed e r left => rfl
      | cut r => rfl

theorem toTask_fill (eof : IoError) (n : Nat) :
    (fill eof n [] .done).toTask = fun fuel (r : R) => Task.fill eof n fuel [] r := by
  funext fuel r
  simp only [toTask]
  cases Task.fill eof n fuel [] r with
  | done bs r left => rfl
  | failed e r left => rfl
  | cut r => rfl

theorem toTask_readExact (n : Nat) : (readExact n).toTask = (Task.readExact n : Task R IoError Bytes) :=
  toTask_fill _ n

theorem toTask_readU8 : readU8.toTask = (Task.readU8 : Task R IoError UInt8) := by
  rw [readU8, toTask_bind, readInt, toTask_fill]
  rfl

theorem toTask_readU16 : readU16.toTask = (Task.readU16 : Task R IoError UInt16) := by
  rw [readU16, toTask_bind, readInt, toTask_fill]
  rfl

theorem polls_full {eof : IoError} {n : Nat} {got : Bytes} {next : Bytes → Reading α} (enough : n ≤ got.length)
    (r : R) : Polls poll (.fill eof n got next, r) (next got, r) := by
  refine .single ?_
  rw [poll, if_pos enough]

theorem follows_fill {eof : IoError} {n : Nat} {next : Bytes → Reading α} (fuel : Nat) (got : Bytes) (r : R) :
    Follows poll .failed next (.fill eof n got next, r) (Task.fill eof n fuel got r) := by
  induction fuel generalizing got r with
  | zero =>
      rw [Task.fill]
      split_ifs with enough
      · exact polls_full enough r
      · exact ⟨_, .refl⟩
  | succ fuel ih =>
      rw [Task.fill]
      split_ifs with enough
      · exact polls_full enough r
      · have one : (fill eof n got next).poll r = _ := if_neg enough
        split
        all_goals
          rename_i polled
          simp only [polled] at one
        · exact (ih got _).after (.single one)
        · exact .single one
        · exact .single one
        · exact (ih _ _).after (.single one)

/-- The resumable form follows its task. -/
theorem follows_toTask (m : Reading α) (fuel : Nat) (r : R) :
    Follows poll .failed .done (m, r) (m.toTask fuel r) := by
  induction m generalizing fuel r with
  | done value => exact Relation.ReflTransGen.refl
  | failed e => exact Relation.ReflTransGen.refl
  | fill eof n got next ih =>
      have filled : Follows poll .failed next (.fill eof n got next, r) _ := follows_fill fuel got r
      simp only [toTask]
      cases ran : Task.fill eof n fuel got r with
      | done bs mid left =>
          rw [ran] at filled
          exact (ih bs left mid).after filled
      | failed e mid left =>
          rw [ran] at filled
          exact filled
      | cut mid =>
          rw [ran] at filled
          exact filled

end Reading

/-- A writing task: the pieces it has not written yet, or the error it ended with. -/
inductive Writing where
  | left (pieces : List Bytes)
  | failed (e : IoError)
  deriving DecidableEq

/-- The task that writes pieces one after the other. -/
def Task.writePieces {W : Type} [AsyncWrite W] : List Bytes → Task W IoError Unit
  | [] => pure ()
  | piece :: pieces => do
      Task.writeAll piece
      Task.writePieces pieces

namespace Writing

variable {W : Type} [AsyncWrite W]

/-- One poll. A piece that is written is left by a poll of its own. -/
def poll : Writing → W → Writing × W
  | .left ((b :: buf) :: pieces), w => match AsyncWrite.pollWrite w (b :: buf) with
      | (w, .pending) => (.left ((b :: buf) :: pieces), w)
      | (w, .ready (.error e)) => (.failed e, w)
      | (w, .ready (.ok 0)) => (.failed ⟨.writeZero, "write zero"⟩, w)
      | (w, .ready (.ok n)) => (.left ((b :: buf).drop n :: pieces), w)
  | .left ([] :: pieces), w => (.left pieces, w)
  | .left [], w => (.left [], w)
  | .failed e, w => (.failed e, w)

theorem follows_offer (fuel : Nat) (buf : Bytes) (pieces : List Bytes) (w : W) :
    Follows poll .failed (fun _ => .left pieces) (.left (buf :: pieces), w) (Task.offer fuel buf w) := by
  induction fuel generalizing buf w with
  | zero =>
      cases buf with
      | nil => exact .single rfl
      | cons b buf => exact ⟨_, .refl⟩
  | succ fuel ih =>
      cases buf with
      | nil => exact .single rfl
      | cons b buf =>
          rw [Task.offer]
          split
          all_goals
            rename_i polled
          · exact (ih _ _).after (.single (by simp only [poll, polled]))
          · exact .single (by simp only [poll, polled])
          · exact .single (by simp only [poll, polled])
          · exact (ih _ _).after (.single (by simp only [poll, polled]))

theorem follows_writePieces (pieces : List Bytes) (fuel : Nat) (w : W) :
    Follows poll .failed (fun _ => .left []) (.left pieces, w) (Task.writePieces pieces fuel w) := by
  induction pieces generalizing fuel w with
  | nil => exact Relation.ReflTransGen.refl
  | cons piece pieces ih =>
      refine Task.holds_bind ((follows_offer fuel piece pieces w).imp ?_ (fun _ _ h => h) (fun _ h => h))
      intro _ mid first left
      exact (ih left mid).after first

end Writing

end AsyncIo
