import ServerNaive.Async.Stream

/-! Async functions as state-passing programs. The fuel of a task counts the polls it is
given before it is dropped, so a statement over all fuels holds at every point at which
a caller may stop polling. -/
namespace AsyncIo

/-- How far a task got. -/
inductive Run (σ ε α : Type) where
  | done (value : α) (s : σ) (fuel : Nat)
  | failed (e : ε) (s : σ) (fuel : Nat)
  | cut (s : σ)
  deriving DecidableEq

def Task (σ ε α : Type) := Nat → σ → Run σ ε α

variable {σ ε α β : Type}

/-- The state in which a task was left. -/
def Run.state : Run σ ε α → σ
  | .done _ s _ => s
  | .failed _ s _ => s
  | .cut s => s

def Run.map {τ : Type} (f : σ → τ) : Run σ ε α → Run τ ε α
  | .done value s fuel => .done value (f s) fuel
  | .failed e s fuel => .failed e (f s) fuel
  | .cut s => .cut (f s)

theorem Run.state_map {τ : Type} (f : σ → τ) (r : Run σ ε α) : (r.map f).state = f r.state := by
  cases r <;> rfl

/-- What holds of each way a task can end. -/
def Run.Holds (Q : α → σ → Prop) (E : ε → σ → Prop) (C : σ → Prop) : Run σ ε α → Prop
  | .done value s _ => Q value s
  | .failed e s _ => E e s
  | .cut s => C s

theorem Run.Holds.imp {Q Q' : α → σ → Prop} {E E' : ε → σ → Prop} {C C' : σ → Prop} {r : Run σ ε α}
    (h : r.Holds Q E C) (hQ : ∀ a s, Q a s → Q' a s) (hE : ∀ e s, E e s → E' e s)
    (hC : ∀ s, C s → C' s) : r.Holds Q' E' C' := by
  cases r with
  | done value s fuel => exact hQ value s h
  | failed e s fuel => exact hE e s h
  | cut s => exact hC s h

namespace Task

def bind (m : Task σ ε α) (k : α → Task σ ε β) : Task σ ε β := fun fuel s =>
  match m fuel s with
  | .done value s fuel => k value fuel s
  | .failed e s fuel => .failed e s fuel
  | .cut s => .cut s

instance : Monad (Task σ ε) where
  pure value := fun fuel s => .done value s fuel
  bind := bind

/-- The `?` of an error. -/
def fail (e : ε) : Task σ ε α := fun fuel s => .failed e s fuel

/-- An error as a value, for a caller that looks at it. -/
def caught (m : Task σ ε α) : Task σ ε (Except ε α) := fun fuel s =>
  match m fuel s with
  | .done value s fuel => .done (.ok value) s fuel
  | .failed e s fuel => .done (.error e) s fuel
  | .cut s => .cut s

/-- An await point that needs nothing of the streams. -/
def tick : Task σ ε Unit := fun fuel s =>
  match fuel with
  | 0 => .cut s
  | fuel + 1 => .done () s fuel

def modify (f : σ → σ) : Task σ ε Unit := fun fuel s => .done () (f s) fuel

/-- Runs a task on a part of the state. -/
def on {τ : Type} (part : σ → τ) (put : σ → τ → σ) (m : Task τ ε α) : Task σ ε α := fun fuel s =>
  match m fuel (part s) with
  | .done value t fuel => .done value (put s t) fuel
  | .failed e t fuel => .failed e (put s t) fuel
  | .cut t => .cut (put s t)

/-- A loop that only an error or the end of its polls leaves. -/
def rounds (body : Task σ ε Unit) : Nat → Task σ ε α
  | 0 => fun _ s => .cut s
  | n + 1 => do
      body
      rounds body n

def forever (body : Task σ ε Unit) : Task σ ε α := fun fuel => rounds body fuel fuel

/-- A task over the image of the state that does what the first does. -/
def Projects {τ : Type} (f : σ → τ) (m : Task σ ε α) (m' : Task τ ε α) : Prop :=
  ∀ fuel s, m' fuel (f s) = (m fuel s).map f

theorem projects_pure {τ : Type} (f : σ → τ) (value : α) :
    Projects f (pure value : Task σ ε α) (pure value) := fun _ _ => rfl

theorem Projects.bind {τ : Type} {f : σ → τ} {m : Task σ ε α} {m' : Task τ ε α} {k : α → Task σ ε β}
    {k' : α → Task τ ε β} (first : Projects f m m') (next : ∀ value, Projects f (k value) (k' value)) :
    Projects f (m >>= k) (m' >>= k') := by
  intro fuel s
  change Task.bind m' k' fuel (f s) = (Task.bind m k fuel s).map f
  unfold Task.bind
  rw [first fuel s]
  cases m fuel s with
  | done value t left => exact next value left t
  | failed e t left => rfl
  | cut t => rfl

section Rules

variable {Q : α → σ → Prop} {E : ε → σ → Prop} {C : σ → Prop}

theorem holds_pure {value : α} {fuel : Nat} {s : σ} (h : Q value s) :
    ((pure value : Task σ ε α) fuel s).Holds Q E C := h

theorem holds_fail {e : ε} {fuel : Nat} {s : σ} (h : E e s) :
    ((fail e : Task σ ε α) fuel s).Holds Q E C := h

theorem holds_tick {P : Unit → σ → Prop} {fuel : Nat} {s : σ} (stopped : C s) (next : P () s) :
    ((tick : Task σ ε Unit) fuel s).Holds P E C := by
  cases fuel with
  | zero => exact stopped
  | succ fuel => exact next

/-- A sequence holds when its first part leads to states from which the rest holds. -/
theorem holds_bind {m : Task σ ε β} {k : β → Task σ ε α} {fuel : Nat} {s : σ}
    (h : (m fuel s).Holds (fun b t => ∀ fuel, (k b fuel t).Holds Q E C) E C) :
    ((m >>= k) fuel s).Holds Q E C := by
  change (bind m k fuel s).Holds Q E C
  unfold bind
  cases ran : m fuel s with
  | done value t left =>
      rw [ran] at h
      exact h left
  | failed e t left =>
      rw [ran] at h
      exact h
  | cut t =>
      rw [ran] at h
      exact h

theorem holds_on {τ : Type} {part : σ → τ} {put : σ → τ → σ} {m : Task τ ε α} {fuel : Nat} {s : σ}
    (h : (m fuel (part s)).Holds (fun a t => Q a (put s t)) (fun e t => E e (put s t))
      (fun t => C (put s t))) :
    (on part put m fuel s).Holds Q E C := by
  unfold on
  cases ran : m fuel (part s) with
  | done value t left =>
      rw [ran] at h
      exact h
  | failed e t left =>
      rw [ran] at h
      exact h
  | cut t =>
      rw [ran] at h
      exact h

/-- What one round keeps, a loop keeps for as long as it is polled. -/
theorem holds_rounds {body : Task σ ε Unit} {I : σ → Prop}
    (step : ∀ fuel s, I s → (body fuel s).Holds (fun _ t => I t) E C) (stop : ∀ s, I s → C s)
    (n fuel : Nat) {s : σ} (start : I s) : ((rounds body n : Task σ ε α) fuel s).Holds Q E C := by
  induction n generalizing fuel s with
  | zero => exact stop s start
  | succ n ih =>
      refine holds_bind ((step fuel s start).imp ?_ (fun _ _ h => h) (fun _ h => h))
      intro _ t next left
      exact ih left next

theorem holds_forever {body : Task σ ε Unit} {I : σ → Prop}
    (step : ∀ fuel s, I s → (body fuel s).Holds (fun _ t => I t) E C) (stop : ∀ s, I s → C s)
    (fuel : Nat) {s : σ} (start : I s) : ((forever body : Task σ ε α) fuel s).Holds Q E C :=
  holds_rounds step stop fuel fuel start

end Rules

/-! Reading: every future of the reading extension fills a buffer. -/

section Read

variable {R : Type} [AsyncRead R]

/-- Reads until `n` bytes are there; an empty outcome before that fails with `eof`. -/
def fill (eof : IoError) (n : Nat) : Nat → Bytes → R → Run R IoError Bytes
  | 0, got, r => if n ≤ got.length then .done got r 0 else .cut r
  | fuel + 1, got, r =>
      if n ≤ got.length then .done got r (fuel + 1)
      else match AsyncRead.pollRead r (n - got.length) with
        | (r, .pending) => fill eof n fuel got r
        | (r, .ready (.error e)) => .failed e r fuel
        | (r, .ready (.ok [])) => .failed eof r fuel
        | (r, .ready (.ok bs)) => fill eof n fuel (got ++ bs) r

def readExact (n : Nat) : Task R IoError Bytes :=
  fun fuel r => fill ⟨.unexpectedEof, "early eof"⟩ n fuel [] r

def readInt (n : Nat) : Task R IoError Bytes :=
  fun fuel r => fill ⟨.unexpectedEof, "unexpected end of file"⟩ n fuel [] r

def readU8 : Task R IoError UInt8 := do
  let bs ← readInt 1
  return bs.getD 0 0

def readU16 : Task R IoError UInt16 := do
  let bs ← readInt 2
  return UInt16.ofNat (ofBe16 (bs.getD 0 0) (bs.getD 1 0))

end Read

/-! Writing: every future of the writing extension offers a buffer until it is taken. -/

section Write

variable {W : Type} [AsyncWrite W]

def offer : Nat → Bytes → W → Run W IoError Unit
  | fuel, [], w => .done () w fuel
  | 0, _ :: _, w => .cut w
  | fuel + 1, b :: buf, w =>
      match AsyncWrite.pollWrite w (b :: buf) with
      | (w, .pending) => offer fuel (b :: buf) w
      | (w, .ready (.error e)) => .failed e w fuel
      | (w, .ready (.ok 0)) => .failed ⟨.writeZero, "write zero"⟩ w fuel
      | (w, .ready (.ok n)) => offer fuel ((b :: buf).drop n) w

def writeAll (buf : Bytes) : Task W IoError Unit := fun fuel w => offer fuel buf w

/-- A writer does not see the record of its calls. -/
theorem projects_writeAll (buf : Bytes) :
    Projects Traced.stream (writeAll buf : Task (Traced W) IoError Unit) (writeAll buf) := by
  intro fuel w
  change offer fuel buf w.stream = (offer fuel buf w).map Traced.stream
  induction fuel generalizing buf w with
  | zero => cases buf <;> rfl
  | succ fuel ih =>
      cases buf with
      | nil => rfl
      | cons b buf =>
          rw [offer, offer]
          cases polled : AsyncWrite.pollWrite w.stream (b :: buf) with
          | mk s r =>
              rw [Traced.pollWrite_of polled]
              rcases r with _ | (e | (_ | n))
              · exact ih (b :: buf) ⟨s, w.calls ++ [.write (b :: buf) .pending]⟩
              · rfl
              · rfl
              · exact ih ((b :: buf).drop (n + 1)) ⟨s, w.calls ++ [.write (b :: buf) (.ready (.ok (n + 1)))]⟩

def writeU8 (b : UInt8) : Task W IoError Unit := writeAll [b]

def writeU16 (n : UInt16) : Task W IoError Unit := writeAll (be16 n.toNat)

end Write

section Source

variable {R : Type} [ByteSource R]

/-- Filling takes the next bytes of the source, whatever their chunking, and fails only
when there are too few of them. -/
theorem fill_holds {eof : IoError} {n : Nat} (fuel : Nat) {got : Bytes} {r : R} (room : got.length ≤ n) :
    (fill eof n fuel got r).Holds
      (fun bs r' => bs.length = n ∧ bs ++ ByteSource.rest r' = got ++ ByteSource.rest r)
      (fun _ _ => got.length + (ByteSource.rest r).length < n) (fun _ => True) := by
  induction fuel generalizing got r with
  | zero =>
      rw [fill]
      split_ifs with full
      · exact ⟨Nat.le_antisymm room full, rfl⟩
      · exact trivial
  | succ fuel ih =>
      rw [fill]
      split_ifs with full
      · exact ⟨Nat.le_antisymm room full, rfl⟩
      · split
        · rename_i r' polled
          have same := ByteSource.pending_rest polled
          rw [← same]
          exact ih room
        · rename_i r' e polled
          exact absurd polled ByteSource.never_fails
        · rename_i r' polled
          have none_left := ByteSource.end_rest (by omega) polled
          change got.length + _ < n
          rw [none_left, List.length_nil]
          omega
        · rename_i r' bs _ polled
          have fits := AsyncRead.pollRead_fits polled
          have wire := ByteSource.ready_rest polled
          have grown : (got ++ bs).length ≤ n := by
            rw [List.length_append]
            omega
          refine (ih grown).imp ?_ ?_ (fun _ h => h)
          · rintro all last ⟨size, same⟩
            exact ⟨size, by rw [same, List.append_assoc, wire]⟩
          · intro _ _ short
            rw [List.length_append] at short
            rw [← wire, List.length_append]
            omega

end Source

end Task

end AsyncIo
