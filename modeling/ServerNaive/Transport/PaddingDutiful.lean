import ServerNaive.Async.Dutiful
import ServerNaive.Transport.PaddingSource
import ServerNaive.Transport.PaddingSteady

/-! Over a source and a writer that obliges the transport does its duty too: it hands out what the frames
carry and takes what it is offered. -/
namespace ServerNaive.NaivePaddedTransport
open AsyncIo PaddingCodec

section Writes

variable {S : Type} [AsyncWrite S]

/-- Over such a writer a write never fails, and it takes some of what it is offered or waits. -/
theorem pollWrite_obliges (obliging : Obliging S) {t last : NaivePaddedTransport (Traced S)} {buf : Bytes}
    {r : PollResult Nat} (inside : OffsetInside t) (ran : pollWrite t buf = (last, r)) :
    (∀ e, r ≠ .ready (.error e)) ∧ (buf ≠ [] → r ≠ .ready (.ok 0)) := by
  have below := Traced.obliging obliging
  cases pollWrite_wrote ran with
  | blocked drains => exact ⟨(fun e failed => by cases failed), fun _ none_taken => by cases none_taken⟩
  | failed drains drained => exact absurd rfl (drain_unfailing obliging inside drained _)
  | raw drains cleared raw polled =>
      obtain rfl := congrArg Prod.snd polled
      exact ⟨below.write _ _, below.progress _ _⟩
  | framed drains drained short framed =>
      rcases framed.answer with rfl | ⟨e, -, polled⟩
      · refine ⟨(fun e failed => by cases failed), fun offered none_taken => ?_⟩
        have size : 0 < (frameData buf).length := by
          rw [length_frameData]
          exact Nat.lt_min.mpr ⟨List.length_pos_iff.mpr offered, by decide⟩
        rw [Poll.ready.injEq, Except.ok.injEq] at none_taken
        exact absurd none_taken (Nat.ne_of_gt size)
      · exact absurd (congrArg Prod.snd polled) (below.write _ _ e)

theorem pollFlush_obliges (obliging : Obliging S) {t last : NaivePaddedTransport (Traced S)} {r : PollResult Unit}
    (inside : OffsetInside t) (ran : pollFlush t = (last, r)) : ∀ e, r ≠ .ready (.error e) := by
  cases pollFlush_flushed ran with
  | blocked drains =>
      intro e failed
      cases failed
  | failed drains drained => exact absurd rfl (drain_unfailing obliging inside drained _)
  | flushed drains cleared polled =>
      obtain rfl := congrArg Prod.snd polled
      exact (Traced.obliging obliging).flush _

end Writes

variable {R W : Type}

/-- No write touches the reader beside the writer. -/
theorem reader_phased [AsyncWrite W] (reader : R) :
    Phased (fun x : Traced (Join R W) => x.stream.reader = reader) fun x => x.stream.reader = reader where
  write _ _ start := start
  flush _ start := start
  waits start polled := by
    obtain ⟨rfl, -⟩ := Prod.mk.inj polled
    exact start
  shuts start polled := by
    obtain ⟨rfl, -⟩ := Prod.mk.inj polled
    exact start

variable [ByteSource R]

theorem WriteOnly.upcoming {t next : NaivePaddedTransport (Traced (Join R W))} (only : WriteOnly t next)
    (reader : next.inner.stream.reader = t.inner.stream.reader) : upcoming next = upcoming t := by
  have wire : ByteSource.rest next.inner = ByteSource.rest t.inner :=
    congrArg (ByteSource.rest (R := R)) reader
  rw [NaivePaddedTransport.upcoming, wire, only.carried]
  rfl

theorem dutiful [AsyncWrite W] (obliging : Obliging W) :
    Dutiful (fun t : NaivePaddedTransport (Traced (Join R W)) => ReadOk t ∧ OffsetInside t) upcoming where
  read {t next cap r} start polled := by
    obtain ⟨ok, served⟩ := pollRead_upcoming start.1 polled
    exact ⟨⟨ok, (pollRead_readOnly polled).inside start.2⟩, served⟩
  write {t next buf r} start polled := by
    have only := pollWrite_writeOnly polled
    have reader := pollWrite_open (reader_phased t.inner.stream.reader) (t := t) buf rfl
    rw [polled] at reader
    exact ⟨⟨only.readOk start.1, pollWrite_inside start.2 polled⟩, only.upcoming reader,
      pollWrite_obliges (Join.obliging obliging) start.2 polled⟩
  flush {t next r} start polled := by
    have only := pollFlush_writeOnly polled
    have reader := pollFlush_open (reader_phased t.inner.stream.reader) rfl polled
    exact ⟨⟨only.readOk start.1, (pollFlush_flushed polled).drains.inside start.2⟩, only.upcoming reader,
      pollFlush_obliges (Join.obliging obliging) start.2 polled⟩
  shutdown {t next r} start polled := by
    have only := pollShutdown_writeOnly polled
    have reader : next.inner.stream.reader = t.inner.stream.reader := by
      rcases r with _ | answer
      · exact (phased (reader_phased t.inner.stream.reader)).waits rfl polled
      · rcases (phased (reader_phased t.inner.stream.reader)).shuts rfl polled with same | ⟨same, -⟩ <;> exact same
    exact ⟨⟨only.readOk start.1, (pollShutdown_shut polled).drains.inside start.2⟩, only.upcoming reader⟩

end ServerNaive.NaivePaddedTransport
