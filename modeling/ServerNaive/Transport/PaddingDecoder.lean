import ServerNaive.Async.Driver
import ServerNaive.Transport.PaddingCodec

/-! The reading half of the transport over a source of known bytes. The bytes still to
be delivered, and the pieces in which they lie, are a function of the read state and of
what the source has left; every pass keeps them, and a poll takes its result off the front
of the first piece. -/
namespace ServerNaive.NaivePaddedTransport
open AsyncIo PaddingCodec

/-- What holds of the read state between two passes of `poll_read`. -/
structure ReadOk {T : Type} (t : NaivePaddedTransport T) : Prop where
  header_size : t.readHdr.length = 3
  header_open : t.readHdrPos < 3
  frames : t.readFramesDone ≤ paddingFrames
  raw_header : t.readFramesDone = paddingFrames → t.readHdrPos = 0
  data_header : 0 < t.readDataRem → t.readHdrPos = 0 ∧ t.readSkipRem = 0
  skip_header : 0 < t.readSkipRem → t.readHdrPos = 0
  data_skip : t.readDataRem = 0 → t.readPendingSkip = 0

theorem readOk_new {T : Type} (inner : T) (rng : Rng) : ReadOk (new inner rng) where
  header_size := rfl
  header_open := Nat.zero_lt_succ _
  frames := Nat.zero_le _
  raw_header _ := rfl
  data_header h := absurd h (Nat.lt_irrefl 0)
  skip_header h := absurd h (Nat.lt_irrefl 0)
  data_skip _ := rfl

/-- What the codec reads from a wire in the middle of a frame. -/
def carried {T : Type} (t : NaivePaddedTransport T) (wire : Bytes) : Bytes :=
  wire.take t.readDataRem ++
    parseFrames (paddingFrames - t.readFramesDone)
      (t.readHdr.take t.readHdrPos ++
        wire.drop (t.readDataRem + (t.readPendingSkip + t.readSkipRem)))

/-- The same piece by piece, the frame that is being read first. -/
def piecesOf {T : Type} (t : NaivePaddedTransport T) (wire : Bytes) : List Bytes :=
  wire.take t.readDataRem ::
    parsePieces (paddingFrames - t.readFramesDone)
      (t.readHdr.take t.readHdrPos ++
        wire.drop (t.readDataRem + (t.readPendingSkip + t.readSkipRem)))

variable {R : Type} [ByteSource R]

/-- The bytes that the transport has yet to hand to its caller. -/
def upcoming (t : NaivePaddedTransport R) : Bytes := carried t (ByteSource.rest t.inner)

/-- The pieces in which it will find them. -/
def ahead (t : NaivePaddedTransport R) : List Bytes := solid (piecesOf t (ByteSource.rest t.inner))

theorem flatten_ahead (t : NaivePaddedTransport R) : (ahead t).flatten = upcoming t := by
  simp only [ahead, upcoming, carried, piecesOf, flatten_solid, List.flatten_cons, flatten_parsePieces]

@[simp] theorem upcoming_new (inner : R) (rng : Rng) :
    upcoming (new inner rng) = parseFrames paddingFrames (ByteSource.rest inner) := by
  simp only [upcoming, carried, new, List.take_zero, List.nil_append, Nat.sub_zero, Nat.add_zero,
    List.drop_zero]

@[simp] theorem ahead_new (inner : R) (rng : Rng) :
    ahead (new inner rng) = solid (parsePieces paddingFrames (ByteSource.rest inner)) := by
  simp only [ahead, piecesOf, new, List.take_zero, List.nil_append, Nat.sub_zero, Nat.add_zero,
    List.drop_zero, solid_empty]

/-- A source at its end leaves nothing to deliver: a header cut off is no frame. -/
theorem ahead_end {t : NaivePaddedTransport R} (ok : ReadOk t) (none_left : ByteSource.rest t.inner = []) :
    ahead t = [] := by
  rw [ahead, piecesOf, none_left, List.take_nil, List.drop_nil, List.append_nil, solid_empty]
  have size := ok.header_size
  have short := ok.header_open
  cases same : paddingFrames - t.readFramesDone with
  | zero =>
      have full : t.readFramesDone = paddingFrames := by have := ok.frames; omega
      rw [ok.raw_header full, List.take_zero]
      rfl
  | succ left =>
      have few : (t.readHdr.take t.readHdrPos).length < 3 := by
        rw [List.length_take]
        omega
      generalize t.readHdr.take t.readHdrPos = got at few
      match got, few with
      | [], _ => rfl
      | [_], _ => rfl
      | [_, _], _ => rfl

theorem upcoming_end {t : NaivePaddedTransport R} (ok : ReadOk t) (none_left : ByteSource.rest t.inner = []) :
    upcoming t = [] := by
  rw [← flatten_ahead, ahead_end ok none_left]
  rfl

/-- What a poll owes its caller: the bytes it returns are the next ones, and it
returns none only at the end of the source. -/
def Delivers (t last : NaivePaddedTransport R) : PollResult Bytes → Prop
  | .pending => upcoming last = upcoming t
  | .ready (.ok bs) =>
      bs ++ upcoming last = upcoming t ∧ (bs = [] → ByteSource.rest last.inner = [])
  | .ready (.error _) => False

/-- The same in pieces: the bytes it returns are the front of the first piece, never more
than that piece. -/
def Serves (t last : NaivePaddedTransport R) : PollResult Bytes → Prop
  | .pending => ahead last = ahead t
  | .ready (.ok []) => ahead last = ahead t ∧ ByteSource.rest last.inner = []
  | .ready (.ok bs) => ∃ piece later, ahead t = piece :: later ∧ bs <+: piece ∧
      ahead last = solid (piece.drop bs.length :: later)
  | .ready (.error _) => False

theorem Serves.congr {t u last : NaivePaddedTransport R} {r : PollResult Bytes}
    (same : ahead t = ahead u) (h : Serves t last r) : Serves u last r := by
  match r with
  | .pending => exact h.trans same
  | .ready (.ok []) => exact ⟨h.1.trans same, h.2⟩
  | .ready (.ok (b :: bs)) =>
      obtain ⟨piece, later, first, rest⟩ := h
      exact ⟨piece, later, same.symm.trans first, rest⟩
  | .ready (.error _) => exact h

theorem Serves.delivers {t last : NaivePaddedTransport R} {r : PollResult Bytes} (h : Serves t last r) :
    Delivers t last r := by
  match r with
  | .pending =>
      change upcoming last = upcoming t
      rw [← flatten_ahead, ← flatten_ahead, show ahead last = ahead t from h]
  | .ready (.ok []) =>
      refine ⟨?_, fun _ => h.2⟩
      rw [List.nil_append, ← flatten_ahead, ← flatten_ahead, h.1]
  | .ready (.ok (b :: bs)) =>
      obtain ⟨piece, later, first, ⟨tail, rfl⟩, left⟩ := h
      refine ⟨?_, fun empty => absurd empty (List.cons_ne_nil b bs)⟩
      rw [← flatten_ahead, ← flatten_ahead, first, left, flatten_solid, List.drop_left,
        List.flatten_cons, List.flatten_cons, List.append_assoc]
  | .ready (.error _) => exact h

omit [ByteSource R] in
theorem ReadOk.inner {t : NaivePaddedTransport R} (ok : ReadOk t) (inner : R) :
    ReadOk { t with inner } :=
  ⟨ok.header_size, ok.header_open, ok.frames, ok.raw_header, ok.data_header, ok.skip_header,
    ok.data_skip⟩

theorem ahead_inner {t : NaivePaddedTransport R} {inner : R}
    (same : ByteSource.rest inner = ByteSource.rest t.inner) :
    ahead { t with inner } = ahead t := by
  simp only [ahead, same, piecesOf]

theorem serves_end {t : NaivePaddedTransport R} (ok : ReadOk t) {inner : R}
    (none_left : ByteSource.rest t.inner = [])
    (same : [] ++ ByteSource.rest inner = ByteSource.rest t.inner) :
    Serves t { t with inner } (.ready (.ok [])) := by
  have gone : ByteSource.rest inner = [] := by rw [← none_left, ← same, List.nil_append]
  refine ⟨?_, gone⟩
  rw [ahead_end (ok.inner inner) gone, ahead_end ok none_left]

/-- A read that brings nothing leaves the pieces as they are; an end is the end of the source. -/
theorem serves_quiet {t : NaivePaddedTransport R} (ok : ReadOk t) {cap : Nat} (open_cap : 0 < cap) {inner : R}
    {r : PollResult Bytes} (polled : AsyncRead.pollRead t.inner cap = (inner, r))
    (quiet : ∀ bs, r = .ready (.ok bs) → bs = []) : ReadOk { t with inner } ∧ Serves t { t with inner } r := by
  refine ⟨ok.inner inner, ?_⟩
  rcases r with _ | ⟨e | bs⟩
  · exact ahead_inner (ByteSource.pending_rest polled)
  · exact absurd polled ByteSource.never_fails
  · cases quiet bs rfl
    exact serves_end ok (ByteSource.end_rest open_cap polled) (ByteSource.ready_rest polled)

/-- What is returned comes off the first piece when that is where it was read from. -/
theorem serves_front {t last : NaivePaddedTransport R} {bs piece : Bytes} {later : List Bytes}
    (nonempty : bs ≠ []) (front : bs <+: piece) (first : ahead t = solid (piece :: later))
    (left : ahead last = solid (piece.drop bs.length :: later)) : Serves t last (.ready (.ok bs)) := by
  have some_bytes : piece ≠ [] := by
    rintro rfl
    exact nonempty (List.prefix_nil.mp front)
  obtain ⟨b, rest, rfl⟩ := List.exists_cons_of_ne_nil nonempty
  refine ⟨piece, solid later, ?_, front, ?_⟩
  · rw [first, solid_cons some_bytes]
  · rw [left, solid_cons_solid]

theorem readData_serves {remaining : Nat} {t last : NaivePaddedTransport R} {r : PollResult Bytes}
    (ok : ReadOk t) (room : 0 < remaining) (data : 0 < t.readDataRem)
    (ran : readData remaining t = (last, r)) : ReadOk last ∧ Serves t last r := by
  obtain ⟨atStart, noSkip⟩ := ok.data_header data
  have open_cap : 0 < dataCap remaining t := by
    rw [dataCap_eq]
    omega
  obtain ⟨inner, r', polled, ⟨same, quiet⟩ | ⟨bs, nonempty, rfl, same⟩⟩ := readData_cases room t
  · cases same.symm.trans ran
    exact serves_quiet ok open_cap polled quiet
  · cases same.symm.trans ran
    have fits := AsyncRead.pollRead_fits polled
    rw [dataCap_eq] at fits
    have wire := ByteSource.ready_rest polled
    have size : bs.length ≤ t.readDataRem := by omega
    have front : (ByteSource.rest t.inner).take t.readDataRem =
        bs ++ (ByteSource.rest inner).take (t.readDataRem - bs.length) := by
      rw [← wire, List.take_append, List.take_of_length_le size]
    have back (skip : Nat) : (ByteSource.rest inner).drop (t.readDataRem - bs.length + skip) =
        (ByteSource.rest t.inner).drop (t.readDataRem + skip) := by
      rw [← wire, drop_append_past _ (Nat.le_add_right_of_le size)]
      congr 1
      omega
    unfold takeData
    split_ifs with complete
    · refine ⟨⟨ok.header_size, ok.header_open, ok.frames, ok.raw_header,
        fun h => absurd h (Nat.lt_irrefl 0), fun _ => atStart, fun _ => rfl⟩, ?_⟩
      refine serves_front nonempty (front ▸ List.prefix_append _ _) rfl ?_
      have rest := back (t.readPendingSkip + t.readSkipRem)
      rw [complete, noSkip] at rest
      rw [complete, List.take_zero, List.append_nil] at front
      simp only [ahead, piecesOf, atStart, noSkip, front, List.drop_length, List.take_zero, List.nil_append]
      rw [← rest, Nat.add_zero, Nat.zero_add, Nat.zero_add]
    · refine ⟨⟨ok.header_size, ok.header_open, ok.frames, ok.raw_header, fun _ => ⟨atStart, noSkip⟩,
        ok.skip_header, fun h => absurd h complete⟩, ?_⟩
      refine serves_front nonempty (front ▸ List.prefix_append _ _) rfl ?_
      simp only [ahead, piecesOf, back, front, List.drop_left]

theorem skipPadding_serves {t : NaivePaddedTransport R} (ok : ReadOk t)
    (no_data : t.readDataRem = 0) (skip : 0 < t.readSkipRem) :
    (skipPadding t).Holds (fun next => ReadOk next ∧ ahead next = ahead t)
      (fun last r => ReadOk last ∧ Serves t last r) := by
  have open_cap : 0 < min t.readSkipRem 256 := by omega
  obtain ⟨inner, r, polled, ⟨same, quiet⟩ | ⟨bs, nonempty, rfl, same⟩⟩ := skipPadding_cases t
  · rw [same]
    exact serves_quiet ok open_cap polled quiet
  · have fits := AsyncRead.pollRead_fits polled
    have atStart := ok.skip_header skip
    rw [same]
    refine ⟨⟨ok.header_size, ok.header_open, ok.frames, ok.raw_header,
      fun h => absurd h (by rw [no_data]; exact Nat.lt_irrefl 0), fun _ => atStart, ok.data_skip⟩, ?_⟩
    simp only [ahead, piecesOf, ← ByteSource.ready_rest polled, no_data, ok.data_skip no_data,
      List.take_zero, Nat.zero_add]
    rw [drop_append_past _ (by omega)]

/-- The header bytes read so far and the rest of the source, in one piece. -/
def headerWire (t : NaivePaddedTransport R) : Bytes :=
  t.readHdr.take t.readHdrPos ++ ByteSource.rest t.inner

/-- How the header loop ends: with a full header, waiting, or at the end of the source. -/
def HeaderEnds (last : NaivePaddedTransport R) : Option (PollResult Bytes) → Prop
  | none => last.readHdrPos = 3
  | some .pending => last.readHdrPos < 3
  | some (.ready (.ok bs)) => bs = [] ∧ ByteSource.rest last.inner = [] ∧ last.readHdrPos < 3
  | some (.ready (.error _)) => False

theorem headerPass_delivers {t : NaivePaddedTransport R} (size : t.readHdr.length = 3)
    (bound : t.readHdrPos ≤ 3) :
    (headerPass t).Holds
      (fun next => next.readHdr.length = 3 ∧ next.readHdrPos ≤ 3 ∧ headerWire next = headerWire t)
      (fun last r => last.readHdr.length = 3 ∧ headerWire last = headerWire t ∧ HeaderEnds last r) := by
  by_cases short : t.readHdrPos < 3
  · obtain ⟨inner, r, polled, ⟨same, quiet⟩ | ⟨bs, nonempty, rfl, same⟩⟩ := headerPass_cases short
    · rw [same]
      rcases r with _ | ⟨e | bs⟩
      · refine ⟨size, ?_, short⟩
        simp only [headerWire, ByteSource.pending_rest polled]
      · exact absurd polled ByteSource.never_fails
      · cases quiet bs rfl
        have none_left := ByteSource.end_rest (by omega) polled
        have gone := ByteSource.ready_rest polled
        rw [none_left, List.nil_append] at gone
        refine ⟨size, ?_, rfl, gone, short⟩
        simp only [headerWire, gone, none_left]
    · have fits := AsyncRead.pollRead_fits polled
      have inside : t.readHdrPos + bs.length ≤ t.readHdr.length := by omega
      rw [same]
      refine ⟨(length_overwrite inside).trans size, size ▸ inside, ?_⟩
      simp only [headerWire, take_overwrite inside, List.append_assoc, ByteSource.ready_rest polled]
  · rw [headerPass_full short]
    exact ⟨size, rfl, by rw [HeaderEnds]; omega⟩

theorem readHeader_delivers {t last : NaivePaddedTransport R} {r : Option (PollResult Bytes)}
    (size : t.readHdr.length = 3) (bound : t.readHdrPos ≤ 3) (ran : readHeader t = (last, r)) :
    last.readHdr.length = 3 ∧ headerWire last = headerWire t ∧ HeaderEnds last r := by
  refine readHeader_rule
    (I := fun s => s.readHdr.length = 3 ∧ s.readHdrPos ≤ 3 ∧ headerWire s = headerWire t)
    (Q := fun last r => last.readHdr.length = 3 ∧ headerWire last = headerWire t ∧ HeaderEnds last r) ?_
    ⟨size, bound, rfl⟩ ran
  rintro s ⟨sizeS, boundS, wire⟩
  apply (headerPass_delivers sizeS boundS).imp
  · rintro next ⟨sizeN, boundN, kept⟩
    exact ⟨sizeN, boundN, kept.trans wire⟩
  · rintro last r ⟨sizeL, kept, ends⟩
    exact ⟨sizeL, kept.trans wire, ends⟩

/-- A full header starts the frame it announces, at the same place of the stream. -/
theorem parseHeader_ahead {t : NaivePaddedTransport R} (size : t.readHdr.length = 3)
    (full : t.readHdrPos = 3) (left : t.readFramesDone < paddingFrames)
    (no_data : t.readDataRem = 0) (no_skip : t.readSkipRem = 0) (no_pending : t.readPendingSkip = 0) :
    ReadOk (parseHeader t) ∧ ahead (parseHeader t) = ahead t := by
  obtain ⟨hi, lo, pad, header⟩ : ∃ hi lo pad, t.readHdr = [hi, lo, pad] := by
    match t.readHdr, size with
    | [hi, lo, pad], _ => exact ⟨hi, lo, pad, rfl⟩
  have frames : paddingFrames - t.readFramesDone = paddingFrames - (t.readFramesDone + 1) + 1 := by omega
  have data : t.dataSize = ofBe16 hi lo := by rw [dataSize, header]; rfl
  have skip : t.paddingSize = pad.toNat := by rw [paddingSize, header]; rfl
  have start : ahead t = solid ((ByteSource.rest t.inner).take (ofBe16 hi lo) ::
      parsePieces (paddingFrames - (t.readFramesDone + 1))
        ((ByteSource.rest t.inner).drop (ofBe16 hi lo + pad.toNat))) := by
    rw [ahead, piecesOf, no_data, no_skip, no_pending, full, header, frames]
    rfl
  rw [start]
  unfold parseHeader
  split_ifs with empty
  · refine ⟨⟨size, Nat.zero_lt_succ _, left, fun _ => rfl, fun h => absurd h (Nat.lt_irrefl 0),
      fun _ => rfl, fun _ => rfl⟩, ?_⟩
    simp only [ahead, piecesOf, skip, ← data, empty, List.take_zero, List.nil_append, Nat.zero_add]
  · refine ⟨⟨size, Nat.zero_lt_succ _, left, fun _ => rfl, fun _ => ⟨rfl, no_skip⟩, fun _ => rfl,
      fun h => absurd h empty⟩, ?_⟩
    simp only [ahead, piecesOf, skip, data, no_skip, List.take_zero, List.nil_append, Nat.add_zero]

theorem ahead_raw {t : NaivePaddedTransport R} (ok : ReadOk t) (no_data : t.readDataRem = 0)
    (no_skip : t.readSkipRem = 0) (raw : paddingFrames ≤ t.readFramesDone) :
    ahead t = solid [ByteSource.rest t.inner] := by
  have full : t.readFramesDone = paddingFrames := Nat.le_antisymm ok.frames raw
  rw [ahead, piecesOf, no_data, no_skip, ok.data_skip no_data, ok.raw_header full, full, Nat.sub_self]
  rfl

theorem readRaw_serves {remaining : Nat} {t : NaivePaddedTransport R} {inner : R}
    {r : PollResult Bytes} (ok : ReadOk t) (room : 0 < remaining) (no_data : t.readDataRem = 0)
    (no_skip : t.readSkipRem = 0) (raw : paddingFrames ≤ t.readFramesDone)
    (polled : AsyncRead.pollRead t.inner remaining = (inner, r)) :
    Serves t { t with inner } r := by
  match r with
  | .pending => exact ahead_inner (ByteSource.pending_rest polled)
  | .ready (.error e) => exact absurd polled ByteSource.never_fails
  | .ready (.ok []) => exact serves_end ok (ByteSource.end_rest room polled) (ByteSource.ready_rest polled)
  | .ready (.ok (b :: bs)) =>
      have wire := ByteSource.ready_rest polled
      refine serves_front (List.cons_ne_nil b bs) (wire ▸ List.prefix_append _ _)
        (ahead_raw ok no_data no_skip raw) ?_
      rw [ahead_raw (ok.inner inner) no_data no_skip raw, ← wire, List.drop_left]

/-- Between passes only a full header changes the frame that is being read. -/
theorem readHeader_step {t last : NaivePaddedTransport R} {r : Option (PollResult Bytes)}
    (ok : ReadOk t) (no_data : t.readDataRem = 0) (no_skip : t.readSkipRem = 0)
    (left : t.readFramesDone < paddingFrames) (ran : readHeader t = (last, r)) :
    match r with
    | none => ReadOk (parseHeader last) ∧ ahead (parseHeader last) = ahead t
    | some r => ReadOk last ∧ Serves t last r := by
  obtain ⟨size, wire, ends⟩ := readHeader_delivers ok.header_size (Nat.le_of_lt ok.header_open) ran
  have only := (readHeader_holds ran).1
  have data : last.readDataRem = 0 := by rw [only]; exact no_data
  have skip : last.readSkipRem = 0 := by rw [only]; exact no_skip
  have pending : last.readPendingSkip = 0 := by rw [only]; exact ok.data_skip no_data
  have frames : last.readFramesDone = t.readFramesDone := by rw [only]
  have same : ahead last = ahead t := by
    have shape (s : NaivePaddedTransport R) (d : s.readDataRem = 0) (k : s.readSkipRem = 0)
        (p : s.readPendingSkip = 0) :
        ahead s = solid (parsePieces (paddingFrames - s.readFramesDone) (headerWire s)) := by
      rw [ahead, piecesOf, d, k, p]
      rfl
    rw [shape last data skip pending, shape t no_data no_skip (ok.data_skip no_data), frames, wire]
  have resumes (short : last.readHdrPos < 3) : ReadOk last :=
    ⟨size, short, frames ▸ ok.frames, fun h => absurd h (by omega),
      fun h => absurd h (by omega), fun h => absurd h (by omega), fun _ => pending⟩
  match r, ends with
  | none, full =>
      have parsed := parseHeader_ahead size full (frames ▸ left) data skip pending
      exact ⟨parsed.1, parsed.2.trans same⟩
  | some .pending, short => exact ⟨resumes short, same⟩
  | some (.ready (.ok bs)), ⟨empty, none_left, short⟩ =>
      subst empty
      exact ⟨resumes short, same, none_left⟩

/-- Every pass keeps the pieces to come, and the pass that returns hands out the front of the
first one. -/
theorem readPass_serves {remaining : Nat} {t : NaivePaddedTransport R} (ok : ReadOk t)
    (room : 0 < remaining) :
    (readPass remaining t).Holds (fun next => ReadOk next ∧ ahead next = ahead t)
      (fun last r => ReadOk last ∧ Serves t last r) := by
  unfold readPass
  split_ifs with data skip raw
  · exact readData_serves ok room data rfl
  · exact skipPadding_serves ok (by omega) skip
  · exact ⟨ok.inner _, readRaw_serves ok room (by omega) (by omega) raw rfl⟩
  · split
    · rename_i last r ran
      exact readHeader_step ok (by omega) (by omega) (Nat.lt_of_not_le raw) ran
    · rename_i last ran
      exact readHeader_step ok (by omega) (by omega) (Nat.lt_of_not_le raw) ran

theorem pollRead_serves {remaining : Nat} {t last : NaivePaddedTransport R} {r : PollResult Bytes}
    (ok : ReadOk t) (room : 0 < remaining) (ran : pollRead t remaining = (last, r)) :
    ReadOk last ∧ Serves t last r := by
  refine pollRead_rule (I := fun s => ReadOk s ∧ ahead s = ahead t)
    (Q := fun last r => ReadOk last ∧ Serves t last r) ?_ ⟨ok, rfl⟩ ran
  rintro s ⟨okS, same⟩
  apply (readPass_serves okS room).imp
  · rintro next ⟨okNext, kept⟩
    exact ⟨okNext, kept.trans same⟩
  · rintro last r ⟨okLast, serves⟩
    exact ⟨okLast, serves.congr same⟩

/-- A fresh or running decoder hands out what is upcoming and then only end of file. -/
theorem readRun_delivers {t : NaivePaddedTransport R} (ok : ReadOk t) {caps : List Nat}
    (room : ∀ cap ∈ caps, 0 < cap) : DeliversThenEnds (upcoming t) (readRun t caps).2 := by
  induction caps generalizing t with
  | nil => exact .nil _
  | cons cap caps ih =>
      obtain ⟨okLast, serves⟩ := pollRead_serves ok (room cap List.mem_cons_self) rfl
      have rest := ih okLast fun c member => room c (List.mem_cons_of_mem cap member)
      change DeliversThenEnds _ ((pollRead t cap).2 :: (readRun (pollRead t cap).1 caps).2)
      match (pollRead t cap).2, serves.delivers with
      | .pending, same =>
          rw [same] at rest
          exact rest.wait
      | .ready (.ok []), ⟨same, at_end⟩ =>
          have gone := upcoming_end okLast (at_end rfl)
          rw [gone] at same rest
          rw [← same]
          exact rest.ended
      | .ready (.ok (b :: bs)), ⟨same, _⟩ =>
          rw [← same]
          exact rest.chunk (List.cons_ne_nil b bs)

section Waits

variable {S : Type} [AsyncRead S]

theorem headerPass_waits (t : NaivePaddedTransport (Traced S)) :
    (headerPass t).Holds (fun next => readWaits next.inner.calls = readWaits t.inner.calls)
      (fun last r =>
        readWaits last.inner.calls = readWaits t.inner.calls + (r.elim false waiting).toNat) := by
  by_cases short : t.readHdrPos < 3
  · obtain ⟨inner, r, polled, ⟨same, -⟩ | ⟨bs, -, rfl, same⟩⟩ := headerPass_cases short
    all_goals
      rw [same]
      exact Traced.readWaits_pollRead polled
  · rw [headerPass_full short]
    exact rfl

theorem readHeader_waits {t last : NaivePaddedTransport (Traced S)} {r : Option (PollResult Bytes)}
    (ran : readHeader t = (last, r)) :
    readWaits last.inner.calls = readWaits t.inner.calls + (r.elim false waiting).toNat := by
  refine readHeader_rule (I := fun s => readWaits s.inner.calls = readWaits t.inner.calls)
    (Q := fun last r =>
      readWaits last.inner.calls = readWaits t.inner.calls + (r.elim false waiting).toNat) ?_ rfl ran
  intro s same
  apply (headerPass_waits s).imp
  · intro next kept
    exact kept.trans same
  · intro last r kept
    rw [kept, same]

theorem readData_waits (remaining : Nat) (t : NaivePaddedTransport (Traced S)) :
    readWaits (readData remaining t).1.inner.calls =
      readWaits t.inner.calls + (waiting (readData remaining t).2).toNat := by
  rcases Nat.eq_zero_or_pos remaining with rfl | room
  · rfl
  · obtain ⟨inner, r, polled, ⟨same, -⟩ | ⟨bs, -, -, same⟩⟩ := readData_cases room t
    · rw [same]
      exact Traced.readWaits_pollRead polled
    · rw [same, takeData_inner]
      exact Traced.readWaits_pollRead polled

theorem readPass_waits (remaining : Nat) (t : NaivePaddedTransport (Traced S)) :
    (readPass remaining t).Holds (fun next => readWaits next.inner.calls = readWaits t.inner.calls)
      (fun last r => readWaits last.inner.calls = readWaits t.inner.calls + (waiting r).toNat) := by
  unfold readPass
  split_ifs
  · exact readData_waits remaining t
  · obtain ⟨inner, r, polled, ⟨same, -⟩ | ⟨bs, -, rfl, same⟩⟩ := skipPadding_cases t
    all_goals
      rw [same]
      exact Traced.readWaits_pollRead polled
  · exact Traced.readWaits_pollRead rfl
  · split
    · rename_i last r ran
      exact readHeader_waits ran
    · rename_i last ran
      rw [Pass.holds_again, parseHeader_inner]
      exact readHeader_waits ran

theorem pollRead_waits {remaining : Nat} {t last : NaivePaddedTransport (Traced S)}
    {r : PollResult Bytes} (ran : pollRead t remaining = (last, r)) :
    readWaits last.inner.calls = readWaits t.inner.calls + (waiting r).toNat := by
  refine pollRead_rule (I := fun s => readWaits s.inner.calls = readWaits t.inner.calls)
    (Q := fun last r => readWaits last.inner.calls = readWaits t.inner.calls + (waiting r).toNat) ?_ rfl ran
  intro s same
  apply (readPass_waits remaining s).imp
  · intro next kept
    exact kept.trans same
  · intro last r kept
    rw [kept, same]

/-- The decoder makes its caller wait exactly when the stream below made it wait. -/
theorem readRun_waits (t : NaivePaddedTransport (Traced S)) (caps : List Nat) :
    readWaits (readRun t caps).1.inner.calls =
      readWaits t.inner.calls + (readRun t caps).2.countP waiting := by
  induction caps generalizing t with
  | nil => rfl
  | cons cap caps ih =>
      change readWaits (readRun (pollRead t cap).1 caps).1.inner.calls = _ +
        ((pollRead t cap).2 :: (readRun (pollRead t cap).1 caps).2).countP waiting
      have one := pollRead_waits (Prod.mk.eta (p := pollRead t cap)).symm
      rw [ih, one, List.countP_cons, Nat.add_assoc, Nat.add_comm (Bool.toNat _)]
      cases waiting (pollRead t cap).2 <;> rfl

end Waits

end ServerNaive.NaivePaddedTransport
