import ServerNaive.Transport.PaddingDecoder

/-! The reading half of the transport as a source of bytes itself, so that what is proved of a reader over
any source holds of one behind the padding layer. -/
namespace ServerNaive
open AsyncIo PaddingCodec NaivePaddedTransport

namespace NaivePaddedTransport

variable {R : Type} [ByteSource R]

/-- A poll without room moves nothing, whether it waits or returns. -/
def Idles (t last : NaivePaddedTransport R) (r : PollResult Bytes) : Prop :=
  upcoming last = upcoming t ∧ (r = .pending ∨ r = .ready (.ok []))

theorem Idles.congr {t u last : NaivePaddedTransport R} {r : PollResult Bytes} (same : ahead t = ahead u)
    (h : Idles t last r) : Idles u last r := by
  refine ⟨h.1.trans ?_, h.2⟩
  rw [← flatten_ahead, ← flatten_ahead, same]

/-- A pass that serves nobody but finds the end, or waits, moves nothing either. -/
theorem Serves.idles {t last : NaivePaddedTransport R} {r : PollResult Bytes} (h : Serves t last r)
    (quiet : ∀ bs, r = .ready (.ok bs) → bs = []) : Idles t last r := by
  rcases r with _ | ⟨e | bs⟩
  · exact ⟨h.delivers, .inl rfl⟩
  · exact h.elim
  · cases quiet bs rfl
    exact ⟨h.delivers.1, .inr rfl⟩

theorem readPass_idles {t : NaivePaddedTransport R} (ok : ReadOk t) :
    (readPass 0 t).Holds (fun next => ReadOk next ∧ ahead next = ahead t)
      (fun last r => ReadOk last ∧ Idles t last r) := by
  unfold readPass
  split_ifs with data skip raw
  · exact ⟨ok, rfl, .inr rfl⟩
  · have no_data : t.readDataRem = 0 := Nat.eq_zero_of_not_pos data
    have serves := skipPadding_serves ok no_data skip
    obtain ⟨inner, r, polled, ⟨same, quiet⟩ | ⟨bs, nonempty, rfl, same⟩⟩ := skipPadding_cases t
    · rw [same] at serves ⊢
      exact ⟨serves.1, Serves.idles serves.2 quiet⟩
    · rw [same] at serves ⊢
      exact serves
  · cases polled : AsyncRead.pollRead t.inner 0 with
    | mk inner r =>
        refine ⟨ok.inner inner, ?_⟩
        rcases r with _ | ⟨e | bs⟩
        · have same := ahead_inner (t := t) (ByteSource.pending_rest polled)
          exact Idles.congr same ⟨rfl, .inl rfl⟩
        · exact absurd polled ByteSource.never_fails
        · cases List.length_eq_zero_iff.mp (Nat.le_zero.mp (AsyncRead.pollRead_fits polled))
          have same := ahead_inner (t := t) (ByteSource.ready_rest polled)
          exact Idles.congr same ⟨rfl, .inr rfl⟩
  · split
    · rename_i last r ran
      have serves := readHeader_step ok (by omega) (by omega) (Nat.lt_of_not_le raw) ran
      have ends := (readHeader_delivers ok.header_size (Nat.le_of_lt ok.header_open) ran).2.2
      refine ⟨serves.1, Serves.idles serves.2 ?_⟩
      rintro bs rfl
      exact ends.1
    · rename_i last ran
      exact readHeader_step ok (by omega) (by omega) (Nat.lt_of_not_le raw) ran

theorem pollRead_idles {t last : NaivePaddedTransport R} {r : PollResult Bytes} (ok : ReadOk t)
    (ran : pollRead t 0 = (last, r)) : ReadOk last ∧ Idles t last r := by
  refine pollRead_rule (I := fun s => ReadOk s ∧ ahead s = ahead t) (Q := fun last r => ReadOk last ∧ Idles t last r)
    ?_ ⟨ok, rfl⟩ ran
  rintro s ⟨okS, same⟩
  refine (readPass_idles okS).imp ?_ ?_
  · rintro next ⟨okNext, kept⟩
    exact ⟨okNext, kept.trans same⟩
  · rintro last r ⟨okLast, idles⟩
    exact ⟨okLast, idles.congr same⟩

/-- With room or without, a poll hands out the next of what is upcoming. -/
theorem pollRead_upcoming {t last : NaivePaddedTransport R} {cap : Nat} {r : PollResult Bytes} (ok : ReadOk t)
    (ran : pollRead t cap = (last, r)) :
    ReadOk last ∧ handed r ++ upcoming last = upcoming t ∧ (∀ e, r ≠ .ready (.error e)) ∧
      (0 < cap → r = .ready (.ok []) → upcoming t = []) := by
  rcases Nat.eq_zero_or_pos cap with rfl | room
  · obtain ⟨okLast, same, waits | empty⟩ := pollRead_idles ok ran
    · subst waits
      exact ⟨okLast, same, (fun e failed => by cases failed), fun room => absurd room (Nat.lt_irrefl 0)⟩
    · subst empty
      exact ⟨okLast, same, (fun e failed => by cases failed), fun room => absurd room (Nat.lt_irrefl 0)⟩
  · obtain ⟨okLast, serves⟩ := pollRead_serves ok room ran
    have delivers := serves.delivers
    rcases r with _ | ⟨e | bs⟩
    · exact ⟨okLast, delivers, (fun e failed => by cases failed), fun _ empty => by cases empty⟩
    · exact delivers.elim
    · refine ⟨okLast, delivers.1, (fun e failed => by cases failed), fun _ empty => ?_⟩
      cases empty
      rw [← delivers.1, upcoming_end okLast (delivers.2 rfl)]
      rfl

end NaivePaddedTransport

/-- A transport whose reading half is in order. -/
structure PaddedReader (R : Type) where
  transport : NaivePaddedTransport R
  ok : ReadOk transport

namespace PaddedReader

variable {R : Type} [ByteSource R]

def new (inner : R) (g : Rng) : PaddedReader R := ⟨.new inner g, readOk_new inner g⟩

/-- The transport's own `poll_read`. -/
def pollRead (p : PaddedReader R) (cap : Nat) : PaddedReader R × PollResult Bytes :=
  (⟨(NaivePaddedTransport.pollRead p.transport cap).1, (pollRead_upcoming p.ok Prod.mk.eta.symm).1⟩,
    (NaivePaddedTransport.pollRead p.transport cap).2)

theorem pollRead_transport {p last : PaddedReader R} {cap : Nat} {r : PollResult Bytes}
    (ran : pollRead p cap = (last, r)) : NaivePaddedTransport.pollRead p.transport cap = (last.transport, r) := by
  obtain ⟨rfl, same⟩ := Prod.mk.inj ran
  exact Prod.ext rfl same

instance : ByteSource (PaddedReader R) where
  pollRead := pollRead
  pollRead_fits ran := AsyncRead.pollRead_fits (R := NaivePaddedTransport R) (pollRead_transport ran)
  rest p := upcoming p.transport
  pending_rest {p _ _} ran := (pollRead_upcoming p.ok (pollRead_transport ran)).2.1
  ready_rest {p _ _ _} ran := (pollRead_upcoming p.ok (pollRead_transport ran)).2.1
  end_rest {p _ _} room ran := (pollRead_upcoming p.ok (pollRead_transport ran)).2.2.2 room rfl
  never_fails {p _ _ e} ran := (pollRead_upcoming p.ok (pollRead_transport ran)).2.2.1 e rfl

@[simp] theorem rest_new (inner : R) (g : Rng) :
    ByteSource.rest (new inner g) = parseFrames paddingFrames (ByteSource.rest inner) :=
  upcoming_new inner g

end PaddedReader

end ServerNaive
