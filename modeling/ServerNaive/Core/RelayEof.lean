import ServerNaive.Async.Paced
import ServerNaive.Config
import ServerNaive.Core.RelayFidelity

/-! When the relay takes a stream for ended. A direction stops reading after one read
that brought nothing, and the two places that read treat a failure differently. -/
namespace ServerNaive
open AsyncIo

/-- A read after which its direction reads no more. -/
def FinalRead : Call → Prop
  | .read _ (.ready (.ok [])) => True
  | .read _ (.ready (.error _)) => True
  | _ => False

/-- The last read of a direction that went on: an end, or a failure next to held bytes. -/
inductive EndedBy (size : Nat) : Call → Prop
  | eof {room : Nat} : EndedBy size (.read room (.ready (.ok [])))
  | swallowed {room : Nat} (e : IoError) (ahead : room < size) :
      EndedBy size (.read room (.ready (.error e)))

/-- The reads of a direction before and after it stopped reading. -/
structure ReadsUntilEnd (size : Nat) (v : Progress) : Prop where
  sized : v.dir.buf.length = size
  going : v.dir.readDone = false → ∀ c ∈ v.reads, ¬ FinalRead c
  ended : v.dir.readDone = true →
    ∃ before last, v.reads = before ++ [last] ∧ EndedBy size last ∧ ∀ c ∈ before, ¬ FinalRead c

namespace ReadsUntilEnd

variable {size : Nat} {v w : Progress}

theorem start (size : Nat) (suppress : Bool) : ReadsUntilEnd size ⟨.new size suppress, [], []⟩ where
  sized := List.length_replicate
  going := nofun
  ended := nofun

/-- A step that reads nothing. -/
theorem kept (inv : ReadsUntilEnd size v) (length : w.dir.buf.length = v.dir.buf.length)
    (done : w.dir.readDone = v.dir.readDone) (reads : w.reads = v.reads) : ReadsUntilEnd size w where
  sized := length.trans inv.sized
  going going := by
    rw [reads]
    exact inv.going (done.symm.trans going)
  ended ended := by
    rw [reads]
    exact inv.ended (done.symm.trans ended)

/-- A read after which the direction goes on. -/
theorem more (inv : ReadsUntilEnd size v) {c : Call} (length : w.dir.buf.length = v.dir.buf.length)
    (before : v.dir.readDone = false) (done : w.dir.readDone = false) (reads : w.reads = v.reads ++ [c])
    (last : ¬ FinalRead c) : ReadsUntilEnd size w where
  sized := length.trans inv.sized
  going _ := by
    rw [reads]
    intro d called
    rcases List.mem_append.mp called with old | new
    · exact inv.going before d old
    · cases List.mem_singleton.mp new
      exact last
  ended ended := absurd (done.symm.trans ended) Bool.false_ne_true

/-- A read after which it does not. -/
theorem final (inv : ReadsUntilEnd size v) {c : Call} (length : w.dir.buf.length = v.dir.buf.length)
    (before : v.dir.readDone = false) (done : w.dir.readDone = true) (reads : w.reads = v.reads ++ [c])
    (last : EndedBy size c) : ReadsUntilEnd size w where
  sized := length.trans inv.sized
  going going := absurd (going.symm.trans done) Bool.false_ne_true
  ended _ := ⟨v.reads, c, reads, last, inv.going before⟩

theorem step (inv : ReadsUntilEnd size v) (step : CopyStep v w) : ReadsUntilEnd size w := by
  have length := step.settings.1
  cases step with
  | wrote | unwritten | flushed | shutdown | finished => exact inv.kept length rfl rfl
  | readAhead going ahead nonempty fits =>
      refine inv.more length going going rfl ?_
      cases ‹Bytes› with
      | nil => exact absurd rfl nonempty
      | cons => exact id
  | readNext going next nonempty fits =>
      refine inv.more length going going rfl ?_
      cases ‹Bytes› with
      | nil => exact absurd rfl nonempty
      | cons => exact id
  | sawEnd going asked => exact inv.final length going rfl rfl .eof
  | swallowed e going ahead =>
      obtain ⟨holds, space, rfl⟩ := ahead
      refine inv.final length going rfl rfl (.swallowed e ?_)
      rw [← inv.sized]
      omega
  | readWaits going asked => exact inv.more length going going rfl id

end ReadsUntilEnd

/-- The direction stopped reading only because its reader ended, and a failed read ends the
run with an error. -/
structure HonestEnd (v : Progress) (r : Polled) : Prop where
  heard : v.dir.hasReadEof = true → ∃ room, 0 < room ∧ .read room (.ready (.ok [])) ∈ v.reads
  failed : ∀ room e, .read room (.ready (.error e)) ∈ v.reads → ∃ reason, r = .ready (.error reason)

/-- An answer to a read that the relay hears right: no end of an empty buffer, and no failure
of a read with less room than the whole buffer, which is the one next to held bytes. -/
def HeardRight (size : Nat) : Call → Prop
  | .read room (.ready (.ok [])) => 0 < room
  | .read room (.ready (.error _)) => room = size
  | _ => True

theorem heardRight_of_not_final {size : Nat} {c : Call} (unfinal : ¬ FinalRead c) : HeardRight size c := by
  unfold HeardRight
  split
  · exact absurd trivial unfinal
  · exact absurd trivial unfinal
  · trivial

/-- The direction is honest exactly when every read it made is heard right. -/
theorem ReadsUntilEnd.honest_iff {size : Nat} {v : Progress} {r : Polled} (inv : ReadsUntilEnd size v) :
    HonestEnd v r ↔ ∀ c ∈ v.reads, HeardRight size c := by
  cases done : v.dir.readDone with
  | false =>
      have unfinal := inv.going done
      refine iff_of_true ⟨fun heard => ?_, fun room e called => ?_⟩ fun c called => ?_
      · exact absurd (done.symm.trans heard) Bool.false_ne_true
      · exact absurd trivial (unfinal _ called)
      · exact heardRight_of_not_final (unfinal c called)
  | true =>
      obtain ⟨before, last, reads, how, unfinal⟩ := inv.ended done
      have final_eq : ∀ c ∈ v.reads, FinalRead c → c = last := by
        intro c called final
        rw [reads] at called
        rcases List.mem_append.mp called with old | new
        · exact absurd final (unfinal c old)
        · exact List.mem_singleton.mp new
      have called : last ∈ v.reads := by simp only [reads, List.mem_append, List.mem_singleton, or_true]
      have rest : HeardRight size last → ∀ c ∈ v.reads, HeardRight size c := by
        intro right c called
        by_cases final : FinalRead c
        · exact final_eq c called final ▸ right
        · exact heardRight_of_not_final final
      constructor
      · intro honest
        obtain ⟨room, positive, heard⟩ := honest.heard done
        exact rest (final_eq _ heard trivial ▸ positive)
      · intro right
        cases how with
        | eof =>
            refine ⟨fun _ => ⟨_, right _ called, called⟩, fun room e failed => ?_⟩
            cases final_eq _ failed trivial
        | swallowed e ahead => exact absurd (right _ called) ahead.ne

theorem CopyEnds.honest_iff {size : Nat} {v w : Progress} {r : Polled} (inv : ReadsUntilEnd size v)
    (ends : CopyEnds (Relay.Failed r) v w) : HonestEnd w r ↔ ∀ c ∈ w.reads, HeardRight size c := by
  obtain ⟨mid, steps, last⟩ := ends
  have reached : ReadsUntilEnd size mid := by
    clear last
    induction steps with
    | refl => exact inv
    | tail _ step ih => exact ih.step step
  obtain rfl | ⟨e, failed, going, room, ⟨-, rfl⟩, rfl⟩ := last
  · exact reached.honest_iff
  · -- the failing read into the empty buffer is reported, and it is the only one
    have unfinal := reached.going going
    refine iff_of_true ⟨fun heard => ?_, fun _ _ _ => ⟨e, failed⟩⟩ fun c called => ?_
    · exact absurd (going.symm.trans heard) Bool.false_ne_true
    · rcases List.mem_append.mp called with old | new
      · exact heardRight_of_not_final (unfinal c old)
      · cases List.mem_singleton.mp new
        exact reached.sized

theorem heardRight_own (size : Nat) (v : Progress) :
    (∀ c ∈ v.own.reads, HeardRight size c) ↔ ∀ c ∈ v.reads, HeardRight size c := by
  refine ⟨fun right c called => ?_, fun right c called => right c (List.mem_filter.mp called).1⟩
  cases c with
  | read room answer => exact right _ (List.mem_filter.mpr ⟨called, rfl⟩)
  | write | flush | shutdown => exact trivial

theorem honestEnd_own (v : Progress) (r : Polled) : HonestEnd v.own r ↔ HonestEnd v r := by
  have same : ∀ room answer, Call.read room answer ∈ v.own.reads ↔ Call.read room answer ∈ v.reads :=
    fun room answer => List.mem_filter.trans (and_iff_left rfl)
  constructor
  · intro honest
    refine ⟨fun ended => ?_, fun room e failed => honest.failed room e ((same _ _).mpr failed)⟩
    obtain ⟨room, positive, heard⟩ := honest.heard ended
    exact ⟨room, positive, (same _ _).mp heard⟩
  · intro honest
    refine ⟨fun ended => ?_, fun room e failed => honest.failed room e ((same _ _).mp failed)⟩
    obtain ⟨room, positive, heard⟩ := honest.heard ended
    exact ⟨room, positive, (same _ _).mpr heard⟩

section Run

variable {A B : Type} [AsyncRead A] [AsyncWrite A] [AsyncRead B] [AsyncWrite B]

/-- Both directions of a run are honest. -/
def Honest (run : Relay (Traced A) (Traced B) × Polled) : Prop :=
  HonestEnd run.1.upload run.2 ∧ HonestEnd run.1.download run.2

/-- A run is honest exactly when none of its reads had an empty buffer to fill or failed next
to held bytes. -/
theorem relay_honest_iff (a : A) (b : B) (start idleTimeoutSecs bufferSize : Nat) (suppress : Bool)
    (polls : List (Nat × Nat)) :
    Honest (relayed a b start idleTimeoutSecs bufferSize suppress polls) ↔
      (∀ c ∈ (relayed a b start idleTimeoutSecs bufferSize suppress polls).1.a.calls,
        HeardRight bufferSize c) ∧
      ∀ c ∈ (relayed a b start idleTimeoutSecs bufferSize suppress polls).1.b.calls,
        HeardRight bufferSize c := by
  have advances := relayed_advances a b start idleTimeoutSecs bufferSize suppress polls
  have up := CopyEnds.honest_iff (ReadsUntilEnd.start bufferSize suppress) advances.upload
  have down := CopyEnds.honest_iff (ReadsUntilEnd.start bufferSize false) advances.download
  rw [honestEnd_own, heardRight_own] at up down
  exact and_congr up down

end Run

/-- Settings that pass the check when their certificate and key are on disk. -/
def sized (bufferSize : Nat) : CliArgs := { CliArgs.defaults 1 with bufferSize }

/-- Both ends have bytes to send, and a buffer of no bytes takes both for ended. -/
def unbuffered : Relay (Traced Scripted) (Traced Scripted) × Polled :=
  relayed ⟨[.ready (.ok [1, 2])], []⟩ ⟨[.ready (.ok [3])], []⟩ 0 60 0 false [(5, 0)]

/-- The client's connection is reset while the remote does not take its bytes. -/
def resetWhileBlocked : Relay (Traced Scripted) (Traced Scripted) × Polled :=
  relayed ⟨[.ready (.ok [1, 2]), .ready (.error ⟨.connectionReset, "reset"⟩)], []⟩
    ⟨[.ready (.ok [])], [.pending]⟩ 0 60 4 false [(5, 0), (5, 1)]

/-- A call that offers the reader no room. -/
def readsNothing : Call → Bool
  | .read room _ => room == 0
  | _ => true

theorem relay_dishonest :
    (sized 0).validate (fun _ => true) = .ok () ∧ (sized 4).validate (fun _ => true) = .ok () ∧
    (unbuffered.2 = .ready (.ok true) ∧ accepted unbuffered.1.b.calls = [] ∧ ¬ Honest unbuffered) ∧
    resetWhileBlocked.2 = .ready (.ok true) ∧ ¬ Honest resetWhileBlocked := by
  refine ⟨by decide +kernel, by decide +kernel, ⟨by decide +kernel, by decide +kernel, ?_⟩, by decide +kernel, ?_⟩
  · intro honest
    have narrow : unbuffered.1.a.calls.all readsNothing = true := by
      decide +kernel
    obtain ⟨room, positive, heard⟩ := honest.1.heard (by decide +kernel)
    exact positive.ne' (beq_iff_eq.mp (List.all_eq_true.mp narrow _ heard))
  · intro honest
    have reset : Call.read 2 (.ready (.error ⟨.connectionReset, "reset"⟩)) ∈ resetWhileBlocked.1.a.calls := by
      decide +kernel
    obtain ⟨e, failed⟩ := honest.1.failed _ _ reset
    have completed : resetWhileBlocked.2 = .ready (.ok true) := by decide +kernel
    cases completed.symm.trans failed

end ServerNaive
