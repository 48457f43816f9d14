import ServerNaive.Transport.PaddingRoundTrip

/-! The decoder against the reference parse, for wires that no encoder of ours need have
written: cut off anywhere, with empty frames, with frames and no padding. -/
namespace ServerNaive.NaivePaddedTransport
open AsyncIo PaddingCodec

/-- What is left of the pieces when `bs` was taken off the front of the first solid one;
`none` when it is not there, or not all of it. -/
def serve (pieces : List Bytes) (bs : Bytes) : Option (List Bytes) :=
  if bs = [] then some pieces
  else match solid pieces with
    | [] => none
    | piece :: later => if bs <+: piece then some (piece.drop bs.length :: later) else none

/-- One outcome after the other. -/
def serveAll (pieces : List Bytes) : List (PollResult Bytes) → Option (List Bytes)
  | [] => some pieces
  | r :: outcomes => match serve pieces (handed r) with
      | none => none
      | some left => serveAll left outcomes

example : serve [[], [1, 2], [3]] [1] = some [[2], [3]] ∧ serve [[1, 2], [3]] [1, 2, 3] = none := by decide

variable {R : Type} [ByteSource R]

theorem serve_served {t last : NaivePaddedTransport R} {r : PollResult Bytes} {pieces : List Bytes}
    (same : solid pieces = ahead t) (serves : Serves t last r) :
    ∃ left, serve pieces (handed r) = some left ∧ solid left = ahead last := by
  match r with
  | .pending => exact ⟨pieces, rfl, same.trans (Eq.symm serves)⟩
  | .ready (.ok []) => exact ⟨pieces, rfl, same.trans serves.1.symm⟩
  | .ready (.error e) => exact serves.elim
  | .ready (.ok (b :: bs)) =>
      obtain ⟨piece, later, first, front, left⟩ := serves
      refine ⟨piece.drop (b :: bs).length :: later, ?_, left.symm⟩
      simp only [serve, handed, List.cons_ne_nil, if_false, same, first]
      exact if_pos front

/-- No outcome takes bytes of two frames. -/
theorem serveAll_readRun {t : NaivePaddedTransport R} (ok : ReadOk t) {caps : List Nat}
    (room : ∀ cap ∈ caps, 0 < cap) {pieces : List Bytes} (same : solid pieces = ahead t) :
    ∃ left, serveAll pieces (readRun t caps).2 = some left ∧ solid left = ahead (readRun t caps).1 := by
  induction caps generalizing t pieces with
  | nil => exact ⟨pieces, rfl, same⟩
  | cons cap caps ih =>
      obtain ⟨okLast, serves⟩ := pollRead_serves ok (room cap List.mem_cons_self)
        (Prod.mk.eta (p := pollRead t cap)).symm
      obtain ⟨mid, served, keeps⟩ := serve_served same serves
      obtain ⟨left, all, ends⟩ := ih okLast (fun c member => room c (List.mem_cons_of_mem cap member)) keeps
      refine ⟨left, ?_, ends⟩
      change serveAll pieces ((pollRead t cap).2 :: _) = _
      rw [serveAll, served]
      exact all

/-- An outcome of a run with no bytes in it finds the source at its end. -/
theorem readRun_honest {t : NaivePaddedTransport R} (ok : ReadOk t) {before after : List Nat} {cap : Nat}
    (room : ∀ c ∈ before ++ cap :: after, 0 < c) {last : NaivePaddedTransport R}
    (ran : AsyncRead.pollRead (readRun t before).1 cap = (last, .ready (.ok []))) :
    ByteSource.rest last.inner = [] := by
  induction before generalizing t with
  | nil => exact (pollRead_serves ok (room cap List.mem_cons_self) ran).2.2
  | cons c before ih =>
      have next := (pollRead_serves ok (room c List.mem_cons_self) rfl).1
      exact ih next (fun d member => room d (List.mem_cons_of_mem c member)) ran

/-- On any wire, however it arrives and into whatever buffers: the decoder hands out the
reference parse and then only end of file, and gets there; an outcome is empty only when the
stream below has ended; no outcome goes past the data of one frame; and what a read brought
is never more than the counter it is taken from. -/
theorem decoder_computes_reference (r : R) (g : Rng) (caps : List Nat) (room : ∀ cap ∈ caps, 0 < cap) :
    DeliversThenEnds (parseFrames paddingFrames (ByteSource.rest r)) (readRun (freshDecoder r g) caps).2 ∧
    ((parseFrames paddingFrames (ByteSource.rest r)).length +
        readWaits (readRun (freshDecoder r g) caps).1.inner.calls < caps.length →
      (readRun (freshDecoder r g) caps).2.flatMap handed = parseFrames paddingFrames (ByteSource.rest r)) ∧
    (∀ before cap after, caps = before ++ cap :: after → ∀ last,
      AsyncRead.pollRead (readRun (freshDecoder r g) before).1 cap = (last, .ready (.ok [])) →
        ByteSource.rest last.inner = []) ∧
    (serveAll (parsePieces paddingFrames (ByteSource.rest r)) (readRun (freshDecoder r g) caps).2).isSome ∧
    ∀ (t : NaivePaddedTransport R) (inner : R) (bs : Bytes),
      (∀ remaining, AsyncRead.pollRead t.inner (dataCap remaining t) = (inner, .ready (.ok bs)) →
        bs.length ≤ t.readDataRem) ∧
      (AsyncRead.pollRead t.inner (min t.readSkipRem 256) = (inner, .ready (.ok bs)) →
        bs.length ≤ t.readSkipRem) := by
  have fresh := readOk_new (Traced.start r) g
  have delivers := readRun_delivers fresh room
  rw [upcoming_new] at delivers
  refine ⟨delivers, readRun_complete delivers, ?_, ?_, ?_⟩
  · rintro before cap after rfl last ran
    exact readRun_honest fresh room ran
  · obtain ⟨left, served, _⟩ := serveAll_readRun fresh room (ahead_new (Traced.start r) g).symm
    exact Option.isSome_iff_exists.mpr ⟨left, served⟩
  · intro t inner bs
    constructor
    · intro remaining polled
      have fits := AsyncRead.pollRead_fits polled
      rw [dataCap_eq] at fits
      omega
    · intro polled
      have fits := AsyncRead.pollRead_fits polled
      omega

/-- An empty frame with padding, a frame without any, and a third cut off in its data. -/
def cutWire : Bytes := [0, 0, 2, 9, 9, 0, 2, 0, 1, 2, 0, 5, 1, 3, 4]

theorem decoder_computes_reference_cut :
    parseFrames paddingFrames cutWire = [1, 2, 3, 4] ∧
    DeliversThenEnds (parseFrames paddingFrames cutWire)
      (readRun (freshDecoder (PacedReader.mk cutWire [1, 0, 3]) smallPads) [3, 1, 2, 9, 9, 9]).2 ∧
    (readRun (freshDecoder (PacedReader.mk cutWire [1, 0, 3]) smallPads) [3, 1, 2, 9, 9, 9]).2.flatMap handed =
      parseFrames paddingFrames cutWire := by
  have run := decoder_computes_reference (PacedReader.mk cutWire [1, 0, 3]) smallPads [3, 1, 2, 9, 9, 9]
    (by decide)
  exact ⟨by decide +kernel, run.1, by decide +kernel⟩

end ServerNaive.NaivePaddedTransport
