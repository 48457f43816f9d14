import ServerNaive.Async.Duplex
import ServerNaive.Async.Record

/-! Calls that a stream has kept waiting since a given point of its record. -/
namespace AsyncIo

namespace Call

/-- A read that found nothing yet. -/
def silent : Call → Bool
  | .read _ .pending => true
  | _ => false

/-- A write or a shutdown that was not taken yet. -/
def refuses : Call → Bool
  | .write _ .pending => true
  | .shutdown .pending => true
  | _ => false

/-- A call of the writing half that has to be made again. -/
def unready : Call → Bool
  | .write _ .pending => true
  | .flush .pending => true
  | .shutdown .pending => true
  | _ => false

theorem silent_of_waits {c : Call} (reads : c.isRead = true) (waits : c.waits = true) : c.silent = true := by
  cases c with
  | read cap r => cases r <;> first | rfl | cases waits
  | write offered r | flush r | shutdown r => cases reads

theorem unready_of_waits {c : Call} (other : c.isRead = false) (waits : c.waits = true) : c.unready = true := by
  cases c with
  | read cap r => cases other
  | write offered r | flush r | shutdown r => cases r <;> first | rfl | cases waits

end Call

section HeldUp

variable {S : Type} {kind : Call → Bool} {base : List Call} {x next : Traced S}

/-- Since its record was `base` the stream has given such an answer. -/
def HeldUp (kind : Call → Bool) (base : List Call) (x : Traced S) : Prop :=
  ∃ c ∈ x.calls.drop base.length, kind c = true

instance (kind : Call → Bool) (base : List Call) (x : Traced S) : Decidable (HeldUp kind base x) :=
  inferInstanceAs (Decidable (∃ c ∈ _, _))

theorem HeldUp.grown (h : HeldUp kind base x) (longer : x.calls <+: next.calls) : HeldUp kind base next := by
  obtain ⟨c, member, answer⟩ := h
  exact ⟨c, (longer.drop _).subset member, answer⟩

theorem heldUp_call {calls : List Call} {c : Call} (since : base <+: calls) (last : next.calls = calls ++ [c])
    (answer : kind c = true) : HeldUp kind base next := by
  refine ⟨c, ?_, answer⟩
  rw [last, List.drop_append_of_le_length since.length_le]
  exact List.mem_append_right _ (List.mem_singleton_self c)

theorem heldUp_snoc {c : Call} (since : base <+: x.calls) (last : next.calls = x.calls ++ [c])
    (h : HeldUp kind base next) : HeldUp kind base x ∨ kind c = true := by
  obtain ⟨d, member, answer⟩ := h
  rw [last, List.drop_append_of_le_length since.length_le] at member
  rcases List.mem_append.mp member with before | itself
  · exact .inl ⟨d, before, answer⟩
  · cases List.mem_singleton.mp itself
    exact .inr answer

theorem not_heldUp_self : ¬ HeldUp kind x.calls x := by
  rintro ⟨c, member, -⟩
  rw [List.drop_length] at member
  cases member

/-- Calls of which the last has to be made again. -/
theorem heldUp_parked {P : Call → Prop} (since : base <+: x.calls) (parked : Parked P x.calls next.calls)
    (answers : ∀ c, P c → c.waits = true → kind c = true) : HeldUp kind base next := by
  obtain ⟨mid, c, ⟨more, rfl, -⟩, made, waits, last⟩ := parked
  exact heldUp_call (since.trans (List.prefix_append _ _)) last (answers c made waits)

variable [AsyncRead S] [AsyncWrite S]

theorem longer_kept (base : List Call) : KeptByCalls fun x : Traced S => base <+: x.calls where
  read _ _ h := h.trans ⟨_, (Traced.calls_pollRead Prod.mk.eta.symm).symm⟩
  write _ _ h := h.trans ⟨_, (Traced.calls_pollWrite Prod.mk.eta.symm).symm⟩
  flush _ h := h.trans ⟨_, (Traced.calls_pollFlush Prod.mk.eta.symm).symm⟩
  shutdown _ h := h.trans ⟨_, (Traced.calls_pollShutdown Prod.mk.eta.symm).symm⟩

theorem heldUp_kept (kind : Call → Bool) (base : List Call) : KeptByCalls fun x : Traced S => HeldUp kind base x where
  read _ _ h := h.grown ⟨_, (Traced.calls_pollRead Prod.mk.eta.symm).symm⟩
  write _ _ h := h.grown ⟨_, (Traced.calls_pollWrite Prod.mk.eta.symm).symm⟩
  flush _ h := h.grown ⟨_, (Traced.calls_pollFlush Prod.mk.eta.symm).symm⟩
  shutdown _ h := h.grown ⟨_, (Traced.calls_pollShutdown Prod.mk.eta.symm).symm⟩

end HeldUp

end AsyncIo
