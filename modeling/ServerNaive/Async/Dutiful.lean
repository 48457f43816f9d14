import ServerNaive.Async.Duplex

/-! Streams that keep their side of the bargain, and how often they hold up whoever uses them. -/
namespace AsyncIo

/-- From every state with `I` on the stream hands out exactly `rest` and takes what it is offered. It
never fails, its halves do not disturb each other, and it may cut and delay both of them at will. -/
structure Dutiful {A : Type} [AsyncRead A] [AsyncWrite A] (I : A → Prop) (rest : A → Bytes) : Prop where
  read : ∀ {a next cap r}, I a → AsyncRead.pollRead a cap = (next, r) →
    I next ∧ handed r ++ rest next = rest a ∧ (∀ e, r ≠ .ready (.error e)) ∧
      (0 < cap → r = .ready (.ok []) → rest a = [])
  write : ∀ {a next buf r}, I a → AsyncWrite.pollWrite a buf = (next, r) →
    I next ∧ rest next = rest a ∧ (∀ e, r ≠ .ready (.error e)) ∧ (buf ≠ [] → r ≠ .ready (.ok 0))
  flush : ∀ {a next r}, I a → AsyncWrite.pollFlush a = (next, r) →
    I next ∧ rest next = rest a ∧ ∀ e, r ≠ .ready (.error e)
  shutdown : ∀ {a next r}, I a → AsyncWrite.pollShutdown a = (next, r) → I next ∧ rest next = rest a

/-- A source and a writer that obliges, put together. -/
theorem dutiful_join {R W : Type} [ByteSource R] [AsyncWrite W] (obliging : Obliging W) :
    Dutiful (fun _ : Join R W => True) fun x => ByteSource.rest x.reader where
  read {x next cap r} _ polled := by
    refine ⟨trivial, ?_⟩
    have bare : AsyncRead.pollRead x.reader cap = (next.reader, r) := by
      obtain ⟨rfl, same⟩ := Prod.mk.inj polled
      exact Prod.ext rfl same
    rcases r with _ | ⟨e | bs⟩
    · exact ⟨ByteSource.pending_rest bare, (fun e failed => by cases failed), fun _ empty => by cases empty⟩
    · exact absurd bare ByteSource.never_fails
    · refine ⟨ByteSource.ready_rest bare, (fun e failed => by cases failed), fun room empty => ?_⟩
      cases empty
      exact ByteSource.end_rest room bare
  write {x next buf r} _ polled := by
    obtain ⟨rfl, rfl⟩ := Prod.mk.inj polled
    exact ⟨trivial, rfl, (Join.obliging obliging).write x buf, (Join.obliging obliging).progress x buf⟩
  flush {x next r} _ polled := by
    obtain ⟨rfl, rfl⟩ := Prod.mk.inj polled
    exact ⟨trivial, rfl, (Join.obliging obliging).flush x⟩
  shutdown {x next r} _ polled := by
    obtain ⟨rfl, rfl⟩ := Prod.mk.inj polled
    exact ⟨trivial, rfl⟩

/-- What a traced stream has handed out and what it has left make up `total`. -/
def Tapped {A : Type} (I : A → Prop) (rest : A → Bytes) (total : Bytes) (x : Traced A) : Prop :=
  I x.stream ∧ returned x.calls ++ rest x.stream = total

theorem Dutiful.tapped {A : Type} [AsyncRead A] [AsyncWrite A] {I : A → Prop} {rest : A → Bytes}
    (h : Dutiful I rest) (total : Bytes) : Dutiful (Tapped I rest total) fun x => rest x.stream where
  read {x next cap r} start polled := by
    have bare : AsyncRead.pollRead x.stream cap = (next.stream, r) := by
      obtain ⟨rfl, same⟩ := Prod.mk.inj polled
      exact Prod.ext rfl same
    obtain ⟨kept, served, fine, ends⟩ := h.read start.1 bare
    refine ⟨⟨kept, ?_⟩, served, fine, ends⟩
    rw [Traced.returned_pollRead polled, Call.given_read, List.append_assoc, served]
    exact start.2
  write {x next buf r} start polled := by
    have bare : AsyncWrite.pollWrite x.stream buf = (next.stream, r) := by
      obtain ⟨rfl, same⟩ := Prod.mk.inj polled
      exact Prod.ext rfl same
    obtain ⟨kept, same, fine⟩ := h.write start.1 bare
    refine ⟨⟨kept, ?_⟩, same, fine⟩
    rw [Traced.calls_pollWrite polled, returned_append, returned_singleton, same]
    exact (congrArg (· ++ _) (List.append_nil _)).trans start.2
  flush {x next r} start polled := by
    have bare : AsyncWrite.pollFlush x.stream = (next.stream, r) := by
      obtain ⟨rfl, same⟩ := Prod.mk.inj polled
      exact Prod.ext rfl same
    obtain ⟨kept, same, fine⟩ := h.flush start.1 bare
    refine ⟨⟨kept, ?_⟩, same, fine⟩
    rw [Traced.calls_pollFlush polled, returned_append, returned_singleton, same]
    exact (congrArg (· ++ _) (List.append_nil _)).trans start.2
  shutdown {x next r} start polled := by
    have bare : AsyncWrite.pollShutdown x.stream = (next.stream, r) := by
      obtain ⟨rfl, same⟩ := Prod.mk.inj polled
      exact Prod.ext rfl same
    obtain ⟨kept, same⟩ := h.shutdown start.1 bare
    refine ⟨⟨kept, ?_⟩, same⟩
    rw [Traced.returned_pollShutdown polled, same]
    exact start.2

/-- A call that its caller has to wait for. A flush is asked for and not waited for. -/
def Call.blocks : Call → Bool
  | .read _ .pending => true
  | .write _ .pending => true
  | .shutdown .pending => true
  | _ => false

/-- How often a stream has held up the party that uses it. -/
def stalls (calls : List Call) : Nat := calls.countP Call.blocks

@[simp] theorem stalls_append (xs ys : List Call) : stalls (xs ++ ys) = stalls xs + stalls ys := List.countP_append

theorem Grew.stalls_le {P : Call → Prop} {before after : List Call} (grew : Grew P before after) :
    stalls before ≤ stalls after := by
  obtain ⟨more, rfl, -⟩ := grew
  rw [stalls_append]
  exact Nat.le_add_right _ _

theorem Parked.stalls_lt {before after : List Call} (parked : Parked (fun c => c.isRead = true) before after) :
    stalls before < stalls after := by
  obtain ⟨mid, c, grew, reads, waits, rfl⟩ := parked
  have blocked : stalls [c] = 1 := by
    rcases c with ⟨cap, _ | r⟩ | ⟨offered, r⟩ | r | r
    · rfl
    · cases waits
    · cases reads
    · cases reads
    · cases reads
  rw [stalls_append, blocked]
  exact Nat.lt_succ_of_le grew.stalls_le

end AsyncIo
