import ServerNaive.Async.Prompt

/-! Polls paid for from what a task has read. A task may await things that have nothing to do with its
stream, such as a name to be looked up, as long as the bytes it reads pay for those polls too. -/
namespace AsyncIo

variable {σ ε α β : Type}

/-- Of a task that was given `fuel` polls in a state worth `worth`: when it is done it has earned `k`,
and a task that is cut has spent no more than it had. -/
def Run.Earns (gain : σ → Int) (fuel : Nat) (worth k : Int) : Run σ ε α → Prop
  | .done _ t left => left ≤ fuel ∧ fuel + worth + k ≤ left + gain t
  | .failed _ _ _ => True
  | .cut t => fuel + worth + min k 0 ≤ gain t

def Earns (gain : σ → Int) (k : Int) (m : Task σ ε α) : Prop :=
  ∀ fuel s, (m fuel s).Earns gain fuel (gain s) k

variable {gain : σ → Int}

/-- The same run, counted from an earlier point. -/
theorem Run.Earns.recount {fuel fuel' : Nat} {worth worth' k k' : Int} {r : Run σ ε α}
    (earns : r.Earns gain fuel worth k) (fewer : fuel ≤ fuel') (paid : fuel' + worth' + k' ≤ fuel + worth + k)
    (spent : fuel' + worth' + min k' 0 ≤ fuel + worth + min k 0) : r.Earns gain fuel' worth' k' := by
  cases r with
  | done a t left => exact ⟨earns.1.trans fewer, paid.trans earns.2⟩
  | failed e t left => exact trivial
  | cut t => exact spent.trans earns

theorem Earns.weaken {j k : Int} {m : Task σ ε α} (earns : Earns gain k m) (less : j ≤ k) : Earns gain j m := by
  intro fuel s
  exact (earns fuel s).recount le_rfl (by omega) (by omega)

theorem earns_pure (a : α) : Earns gain 0 (pure a : Task σ ε α) := by
  intro fuel s
  exact ⟨le_rfl, by omega⟩

theorem earns_fail (k : Int) (e : ε) : Earns gain k (Task.fail e : Task σ ε α) := by
  intro fuel s
  exact trivial

theorem earns_tick : Earns gain (-1) (Task.tick : Task σ ε Unit) := by
  intro fuel s
  cases fuel with
  | zero =>
      change ((0 : Nat) : Int) + gain s + min (-1) 0 ≤ gain s
      omega
  | succ fuel =>
      refine ⟨Nat.le_succ fuel, ?_⟩
      omega

/-- A change of the state that neither costs nor earns. -/
theorem earns_modify {f : σ → σ} (same : ∀ s, gain (f s) = gain s) :
    Earns gain 0 (Task.modify f : Task σ ε Unit) := by
  intro fuel s
  refine ⟨le_rfl, ?_⟩
  rw [same]
  omega

/-- What the first part earns the second may spend, but not the other way round. -/
theorem Earns.bind {j k : Int} {m : Task σ ε α} {n : α → Task σ ε β} (first : Earns gain j m)
    (next : ∀ a, Earns gain k (n a)) (solvent : 0 ≤ j ∨ k ≤ 0) : Earns gain (j + k) (m >>= n) := by
  intro fuel s
  have one := first fuel s
  change (Task.bind m n fuel s).Earns gain fuel (gain s) (j + k)
  unfold Task.bind
  cases ran : m fuel s with
  | failed e t left => exact trivial
  | cut t =>
      rw [ran] at one
      change _ + min j 0 ≤ _ at one
      change _ + min (j + k) 0 ≤ _
      omega
  | done a t left =>
      rw [ran] at one
      obtain ⟨fewer, paid⟩ := one
      exact (next a left t).recount fewer (by omega) (by omega)

/-- A loop whose rounds all earn something is paid for. -/
theorem rounds_earns {body : Task σ ε Unit} (earns : Earns gain 1 body) (n fuel : Nat) (s : σ) :
    ((Task.rounds body n : Task σ ε α) fuel s).Holds (fun _ _ => False) (fun _ _ => True)
      (fun t => (min n fuel : Nat) + gain s ≤ gain t) := by
  induction n generalizing fuel s with
  | zero =>
      change ((min 0 fuel : Nat) : Int) + gain s ≤ gain s
      omega
  | succ n ih =>
      have one := earns fuel s
      change (Task.bind body (fun _ => Task.rounds body n) fuel s).Holds _ _ _
      unfold Task.bind
      cases ran : body fuel s with
      | done a t left =>
          rw [ran] at one
          obtain ⟨fewer, paid⟩ := one
          refine (ih left t).imp (fun _ _ h => h) (fun _ _ h => h) ?_
          intro u more
          omega
      | failed e t left => exact trivial
      | cut t =>
          rw [ran] at one
          change _ + min (1 : Int) 0 ≤ _ at one
          change ((min (n + 1) fuel : Nat) : Int) + gain s ≤ gain t
          omega

theorem earns_forever {body : Task σ ε Unit} (earns : Earns gain 1 body) :
    Earns gain 0 (Task.forever body : Task σ ε α) := by
  intro fuel s
  have holds : ((Task.rounds body fuel : Task σ ε α) fuel s).Holds _ _ _ := rounds_earns earns fuel fuel s
  change ((Task.rounds body fuel : Task σ ε α) fuel s).Earns gain fuel (gain s) 0
  cases ran : (Task.rounds body fuel : Task σ ε α) fuel s with
  | done a t left =>
      rw [ran] at holds
      exact holds.elim
  | failed e t left => exact trivial
  | cut t =>
      rw [ran] at holds
      change ((min fuel fuel : Nat) : Int) + gain s ≤ gain t at holds
      change _ + min (0 : Int) 0 ≤ _
      omega

/-- A task on a part of the state. -/
theorem earns_on {τ : Type} {part : σ → τ} {put : σ → τ → σ} {worth : τ → Int} (get : ∀ s t, part (put s t) = t)
    {k : Int} {m : Task τ ε α} (earns : Earns worth k m) :
    Earns (fun s => worth (part s)) k (Task.on part put m) := by
  intro fuel s
  have one := earns fuel (part s)
  unfold Task.on
  cases ran : m fuel (part s) with
  | done a t left =>
      rw [ran] at one
      refine ⟨one.1, ?_⟩
      change _ ≤ (left : Int) + worth (part (put s t))
      rw [get]
      exact one.2
  | failed e t left => exact trivial
  | cut t =>
      rw [ran] at one
      change _ ≤ worth (part (put s t))
      rw [get]
      exact one

section Read

variable {R : Type} [ByteSource R]

/-- The waits so far, less two for every byte still to come. -/
def readCredit (x : Traced R) : Int := readWaits x.calls - 2 * (ByteSource.rest x).length

/-- A byte pays for the poll that brings it, and is worth one more. -/
theorem fill_earns {eof : IoError} {n : Nat} (fuel : Nat) (got : Bytes) (x : Traced R) :
    (Task.fill eof n fuel got x).Earns readCredit fuel (readCredit x) (n - got.length) := by
  induction fuel generalizing got x with
  | zero =>
      rw [Task.fill]
      split_ifs with full
      · exact ⟨le_rfl, by omega⟩
      · change ((0 : Nat) : Int) + readCredit x + min ((n : Int) - got.length) 0 ≤ readCredit x
        omega
  | succ fuel ih =>
      rw [Task.fill]
      split_ifs with full
      · exact ⟨le_rfl, by omega⟩
      · split
        · rename_i x' polled
          have waits := Traced.readWaits_pollRead polled
          have same := congrArg List.length (ByteSource.pending_rest polled)
          have worth : readCredit x' = readCredit x + 1 := by
            simp only [readCredit, waits, same, waiting, Bool.toNat_true]
            omega
          exact (ih got x').recount (Nat.le_succ fuel) (by omega) (by omega)
        · exact trivial
        · exact trivial
        · rename_i x' bs nonempty polled
          have waits := Traced.readWaits_pollRead polled
          have wire := congrArg List.length (ByteSource.ready_rest polled)
          have fits := AsyncRead.pollRead_fits polled
          have positive : 0 < bs.length := List.length_pos_iff.mpr nonempty
          rw [List.length_append] at wire
          have worth : readCredit x' = readCredit x + 2 * bs.length := by
            simp only [readCredit, waits, waiting, Bool.toNat_false]
            omega
          have size : (got ++ bs).length = got.length + bs.length := List.length_append
          exact (ih (got ++ bs) x').recount (Nat.le_succ fuel) (by omega) (by omega)

theorem earns_readExact (n : Nat) : Earns readCredit n (Task.readExact n : Task (Traced R) IoError Bytes) := by
  intro fuel x
  exact (fill_earns fuel [] x).recount le_rfl (by simp) (by simp)

theorem earns_readInt (n : Nat) : Earns readCredit n (Task.readInt n : Task (Traced R) IoError Bytes) := by
  intro fuel x
  exact (fill_earns fuel [] x).recount le_rfl (by simp) (by simp)

theorem earns_readU8 : Earns readCredit 1 (Task.readU8 : Task (Traced R) IoError UInt8) :=
  (earns_readInt 1).bind (fun _ => earns_pure _) (.inr le_rfl)

theorem earns_readU16 : Earns readCredit 2 (Task.readU16 : Task (Traced R) IoError UInt16) :=
  (earns_readInt 2).bind (fun _ => earns_pure _) (.inr le_rfl)

end Read

end AsyncIo
