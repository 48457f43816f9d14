import ServerNaive.Async.Paced
import ServerNaive.Transport.PaddingDecoder
import ServerNaive.Transport.PaddingEncoder

/-! An encoder and a decoder joined by a byte pipe. Both count their eight frames on
their own; the wire of the accepted writes is the meeting point of the two sides. -/
namespace ServerNaive.NaivePaddedTransport
open AsyncIo PaddingCodec

/-- A fresh transport whose calls, and the calls it makes below, are recorded. -/
def freshEncoder {W : Type} (w : W) (g : Rng) : Traced (NaivePaddedTransport (Traced W)) :=
  Traced.start (new (Traced.start w) g)

def freshDecoder {R : Type} (r : R) (g : Rng) : NaivePaddedTransport (Traced R) :=
  new (Traced.start r) g

/-- Between two calls the wire carries what the caller was told is accepted, and after
a completed shutdown nothing of it is held back. -/
structure EncoderOk {W : Type} (e : Traced (NaivePaddedTransport (Traced W))) : Prop where
  carries : ∃ ws, Encodes e.stream ws ∧ payload ws = accepted e.calls
  shut : e.calls.getLast? = some (.shutdown (.ready (.ok ()))) → e.stream.writePending = none

section Encoder

variable {W : Type} [AsyncWrite W] (obliging : Obliging W)
include obliging

theorem pollWrite_encoderOk (e : Traced (NaivePaddedTransport (Traced W))) (buf : Bytes)
    (ok : EncoderOk e) : EncoderOk (AsyncWrite.pollWrite e buf).1 := by
  obtain ⟨ws, encodes, sent⟩ := ok.carries
  obtain ⟨⟨more, longer, new_data⟩, _⟩ := pollWrite_extends obliging encodes Prod.mk.eta.symm
  have polled := (Prod.mk.eta (p := AsyncWrite.pollWrite e buf)).symm
  constructor
  · refine ⟨ws ++ more, longer, ?_⟩
    rw [payload_append, new_data, sent, Traced.accepted_pollWrite polled]
    rfl
  · intro last
    rw [Traced.calls_pollWrite polled, List.getLast?_concat] at last
    cases last

omit obliging in
theorem pollFlush_encoderOk (e : Traced (NaivePaddedTransport (Traced W))) (ok : EncoderOk e) :
    EncoderOk (AsyncWrite.pollFlush e).1 := by
  obtain ⟨ws, encodes, sent⟩ := ok.carries
  have kept := pollFlush_encodes encodes Prod.mk.eta.symm
  have polled := (Prod.mk.eta (p := AsyncWrite.pollFlush e)).symm
  constructor
  · refine ⟨ws, kept, ?_⟩
    rw [sent, Traced.accepted_pollFlush polled]
  · intro last
    rw [Traced.calls_pollFlush polled, List.getLast?_concat] at last
    cases last

omit obliging in
theorem pollShutdown_encoderOk (e : Traced (NaivePaddedTransport (Traced W))) (ok : EncoderOk e) :
    EncoderOk (AsyncWrite.pollShutdown e).1 := by
  obtain ⟨ws, encodes, sent⟩ := ok.carries
  obtain ⟨kept, cleared⟩ := pollShutdown_encodes encodes Prod.mk.eta.symm
  have polled := (Prod.mk.eta (p := AsyncWrite.pollShutdown e)).symm
  constructor
  · refine ⟨ws, kept, ?_⟩
    rw [sent, Traced.accepted_pollShutdown polled]
  · intro last
    rw [Traced.calls_pollShutdown polled, List.getLast?_concat] at last
    exact cleared (Call.shutdown.inj (Option.some.inj last))

theorem drive_encoderOk (w : W) (g : Rng) (ops : List WriteOp) :
    EncoderOk (drive (freshEncoder w g) ops) := by
  apply drive_holds (pollWrite_encoderOk obliging) pollFlush_encoderOk pollShutdown_encoderOk
  exact ⟨⟨[], encodes_new w g, rfl⟩, nofun⟩

end Encoder

/-- The bytes below a shut encoder carry exactly what its caller wrote. -/
theorem parseFrames_of_shut {W : Type} {e : Traced (NaivePaddedTransport (Traced W))}
    (ok : EncoderOk e) (shut : e.calls.getLast? = some (.shutdown (.ready (.ok ())))) :
    parseFrames paddingFrames (accepted e.stream.inner.calls) = accepted e.calls := by
  obtain ⟨ws, encodes, sent⟩ := ok.carries
  have wire := encodes.wire
  rw [unsent_none (ok.shut shut), List.append_nil] at wire
  rw [wire, ← sent]
  exact parseFrames_wireFrom encodes.fit

theorem length_readRun {R : Type} [AsyncRead R] (r : R) (caps : List Nat) :
    (readRun r caps).2.length = caps.length := by
  induction caps generalizing r with
  | nil => rfl
  | cons cap caps ih => exact congrArg (· + 1) (ih _)

/-- Polled often enough, allowing for the times the stream below made it wait, the
decoder has handed out all of the stream. -/
theorem readRun_complete {R : Type} [AsyncRead R] {r : R} {g : Rng} {caps : List Nat} {stream : Bytes}
    (delivers : DeliversThenEnds stream (readRun (freshDecoder r g) caps).2)
    (enough : stream.length + readWaits (readRun (freshDecoder r g) caps).1.inner.calls < caps.length) :
    (readRun (freshDecoder r g) caps).2.flatMap handed = stream := by
  apply delivers.progress
  have split := List.length_eq_countP_add_countP waiting (l := (readRun (freshDecoder r g) caps).2)
  have waits := readRun_waits (freshDecoder r g) caps
  rw [length_readRun] at split
  have start : readWaits (freshDecoder r g).inner.calls = 0 := rfl
  simp only [Bool.not_eq_true, Bool.decide_eq_false] at split
  omega

/-- Whatever the two inner streams do, once the encoder is shut down the decoder hands
out the accepted prefixes in order and then only end of file, and it gets there. -/
theorem padding_round_trip {W R : Type} [AsyncWrite W] [ByteSource R] (obliging : Obliging W)
    (w : W) (g g' : Rng) (ops : List WriteOp) (r : R) (caps : List Nat)
    (shut : (drive (freshEncoder w g) ops).calls.getLast? = some (.shutdown (.ready (.ok ()))))
    (piped : ByteSource.rest r = accepted (drive (freshEncoder w g) ops).stream.inner.calls)
    (room : ∀ cap ∈ caps, 0 < cap) :
    DeliversThenEnds (accepted (drive (freshEncoder w g) ops).calls)
      (readRun (freshDecoder r g') caps).2 ∧
    ((accepted (drive (freshEncoder w g) ops).calls).length +
        readWaits (readRun (freshDecoder r g') caps).1.inner.calls < caps.length →
      (readRun (freshDecoder r g') caps).2.flatMap handed =
        accepted (drive (freshEncoder w g) ops).calls) := by
  have carried := parseFrames_of_shut (drive_encoderOk obliging w g ops) shut
  have stream : upcoming (freshDecoder r g') = accepted (drive (freshEncoder w g) ops).calls := by
    rw [← carried, ← piped]
    exact upcoming_new _ _
  have delivers := readRun_delivers (readOk_new (Traced.start r) g') room
  rw [← stream]
  exact ⟨delivers, readRun_complete delivers⟩

/-- The reading end of a pipe into which the encoder has written. -/
def pipe {W : Type} (e : Traced (NaivePaddedTransport (Traced W))) (pace : List Nat) : PacedReader :=
  ⟨accepted e.stream.inner.calls, pace⟩

theorem rest_pipe {W : Type} (e : Traced (NaivePaddedTransport (Traced W))) (pace : List Nat) :
    ByteSource.rest (pipe e pace) = accepted e.stream.inner.calls := rfl

def nineWrites : List WriteOp :=
  [.write [1, 2, 3], .flush, .write [], .write [4], .write [5], .write [6], .flush, .write [7],
    .write [8, 9], .write [10], .write [11, 12], .flush, .shutdown, .shutdown]

def smallPads : Rng := ⟨fun i => UInt8.ofNat (i % 3), 0⟩

/-- Nine writes, one of them empty, over a writer that stalls and takes part of a frame. -/
theorem padding_round_trip_nine_writes :
    let e := drive (freshEncoder (PacedWriter.mk [2, 0, 1, 0, 3]) smallPads) nineWrites
    accepted e.calls = [1, 2, 3, 4, 5, 6, 7, 8, 9, 10, 11, 12] ∧
      DeliversThenEnds (accepted e.calls)
        (readRun (freshDecoder (pipe e [0, 1, 2]) smallPads) (List.replicate 16 2)).2 ∧
      (readRun (freshDecoder (pipe e [0, 1, 2]) smallPads) (List.replicate 16 2)).2.flatMap handed =
        accepted e.calls := by
  have run := padding_round_trip PacedWriter.obliging (PacedWriter.mk [2, 0, 1, 0, 3]) smallPads smallPads
    nineWrites _ (List.replicate 16 2) (by decide +kernel) (rest_pipe _ [0, 1, 2]) (by decide)
  exact ⟨by decide +kernel, run.1, run.2 (by decide +kernel)⟩

end ServerNaive.NaivePaddedTransport
