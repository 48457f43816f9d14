import ServerNaive.Async.Stream

/-! Records of calls: how they grow, and how a caller is left that has to wait. -/
namespace AsyncIo

namespace Call

def failed : Call → Bool
  | .read _ (.ready (.error _)) => true
  | .write _ (.ready (.error _)) => true
  | .flush (.ready (.error _)) => true
  | .shutdown (.ready (.error _)) => true
  | _ => false

def waits : Call → Bool
  | .read _ .pending => true
  | .write _ .pending => true
  | .flush .pending => true
  | .shutdown .pending => true
  | _ => false

/-- A call of the writing half that leaves the stream open. -/
def keepsOpen : Call → Bool
  | .write _ _ => true
  | .flush _ => true
  | _ => false

/-- The data a write was accepted for. -/
def acceptedWrite : Call → Option Bytes
  | .write offered (.ready (.ok n)) => some (offered.take n)
  | _ => none

end Call

def acceptedWrites (calls : List Call) : List Bytes := calls.filterMap Call.acceptedWrite

theorem acceptedWrites_snoc (calls : List Call) (c : Call) :
    acceptedWrites (calls ++ [c]) = acceptedWrites calls ++ c.acceptedWrite.toList := by
  rw [acceptedWrites, List.filterMap_append, acceptedWrites]
  cases found : c.acceptedWrite with
  | none => rw [List.filterMap_cons_none found]; rfl
  | some data => rw [List.filterMap_cons_some found]; rfl

/-- The record grew by calls of one kind. -/
def Grew (P : Call → Prop) (before after : List Call) : Prop := ∃ more, after = before ++ more ∧ ∀ c ∈ more, P c

namespace Grew

variable {P Q : Call → Prop} {xs ys zs : List Call}

theorem refl (xs : List Call) : Grew P xs xs :=
  ⟨[], (List.append_nil xs).symm, fun _ member => absurd member List.not_mem_nil⟩

theorem trans (first : Grew P xs ys) (second : Grew P ys zs) : Grew P xs zs := by
  obtain ⟨more, rfl, all⟩ := first
  obtain ⟨others, rfl, all'⟩ := second
  refine ⟨more ++ others, List.append_assoc .., ?_⟩
  intro c member
  rcases List.mem_append.mp member with old | new
  · exact all c old
  · exact all' c new

theorem one {c : Call} (kind : P c) (grown : ys = xs ++ [c]) : Grew P xs ys := by
  refine ⟨[c], grown, ?_⟩
  intro d member
  rw [List.mem_singleton.mp member]
  exact kind

theorem imp (grew : Grew P xs ys) (weaker : ∀ c, P c → Q c) : Grew Q xs ys := by
  obtain ⟨more, grown, all⟩ := grew
  exact ⟨more, grown, fun c member => weaker c (all c member)⟩

theorem mem (grew : Grew P xs ys) {c : Call} (member : c ∈ xs) : c ∈ ys := by
  obtain ⟨more, rfl, -⟩ := grew
  exact List.mem_append_left more member

end Grew

/-- The record grew by calls of one kind, and the last of them made its caller wait. -/
def Parked (P : Call → Prop) (before after : List Call) : Prop :=
  ∃ mid c, Grew P before mid ∧ P c ∧ c.waits = true ∧ after = mid ++ [c]

theorem Grew.parked {P : Call → Prop} {xs ys zs : List Call} (grew : Grew P xs ys) (parked : Parked P ys zs) :
    Parked P xs zs := by
  obtain ⟨mid, c, more, kind, waits, last⟩ := parked
  exact ⟨mid, c, grew.trans more, kind, waits, last⟩

theorem Parked.imp {P Q : Call → Prop} {xs ys : List Call} (parked : Parked P xs ys) (weaker : ∀ c, P c → Q c) :
    Parked Q xs ys := by
  obtain ⟨mid, c, grew, kind, waits, last⟩ := parked
  exact ⟨mid, c, grew.imp weaker, weaker c kind, waits, last⟩

theorem parked_one {P : Call → Prop} {xs ys : List Call} {c : Call} (kind : P c) (waits : c.waits = true)
    (grown : ys = xs ++ [c]) : Parked P xs ys :=
  ⟨xs, c, .refl xs, kind, waits, grown⟩

end AsyncIo
