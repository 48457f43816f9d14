import ServerNaive.Async.Duplex
import ServerNaive.Transport.PaddingDecoder
import ServerNaive.Transport.PaddingExact
import ServerNaive.Transport.QuicheStream

/-! Both halves of the transport, polled in any order over any stream. Nothing is known of the stream
below: what was handed out is compared with what was read from it, and what was accepted with what it
was given. -/
namespace ServerNaive.NaivePaddedTransport
open AsyncIo PaddingCodec

section Halves

variable {T : Type}

/-- The writing half has not moved. -/
structure ReadOnly (t next : NaivePaddedTransport T) : Prop where
  frames : next.writeFramesDone = t.writeFramesDone
  pending : next.writePending = t.writePending
  offset : next.writePendingOff = t.writePendingOff
  rng : next.rng = t.rng

theorem ReadOnly.refl (t : NaivePaddedTransport T) : ReadOnly t t := ⟨rfl, rfl, rfl, rfl⟩

theorem ReadOnly.trans {s t u : NaivePaddedTransport T} (h : ReadOnly s t) (k : ReadOnly t u) : ReadOnly s u :=
  ⟨k.frames.trans h.frames, k.pending.trans h.pending, k.offset.trans h.offset, k.rng.trans h.rng⟩

theorem ReadOnly.unsent {t next : NaivePaddedTransport T} (h : ReadOnly t next) : next.unsent = t.unsent := by
  rw [NaivePaddedTransport.unsent, NaivePaddedTransport.unsent, h.pending, h.offset]

/-- The reading half has not moved. -/
structure WriteOnly (t next : NaivePaddedTransport T) : Prop where
  frames : next.readFramesDone = t.readFramesDone
  header : next.readHdr = t.readHdr
  headerPos : next.readHdrPos = t.readHdrPos
  data : next.readDataRem = t.readDataRem
  skip : next.readSkipRem = t.readSkipRem
  pendingSkip : next.readPendingSkip = t.readPendingSkip

theorem WriteOnly.trans {s t u : NaivePaddedTransport T} (h : WriteOnly s t) (k : WriteOnly t u) : WriteOnly s u :=
  ⟨k.frames.trans h.frames, k.header.trans h.header, k.headerPos.trans h.headerPos, k.data.trans h.data,
    k.skip.trans h.skip, k.pendingSkip.trans h.pendingSkip⟩

theorem WriteOnly.carried {t next : NaivePaddedTransport T} (h : WriteOnly t next) (wire : Bytes) :
    carried next wire = carried t wire := by
  simp only [NaivePaddedTransport.carried, h.frames, h.header, h.headerPos, h.data, h.skip, h.pendingSkip]

theorem WriteOnly.readOk {t next : NaivePaddedTransport T} (h : WriteOnly t next) (ok : ReadOk t) : ReadOk next := by
  obtain ⟨size, opened, frames, raw, data, skip, pending⟩ := ok
  constructor
  all_goals simp only [h.frames, h.header, h.headerPos, h.data, h.skip, h.pendingSkip]
  all_goals assumption

theorem takeData_readOnly (t : NaivePaddedTransport T) (inner : T) (n : Nat) : ReadOnly t (takeData t inner n) := by
  unfold takeData
  split_ifs <;> exact ⟨rfl, rfl, rfl, rfl⟩

theorem parseHeader_readOnly (t : NaivePaddedTransport T) : ReadOnly t (parseHeader t) := by
  unfold parseHeader
  split_ifs <;> exact ⟨rfl, rfl, rfl, rfl⟩

theorem HeaderOnly.readOnly {t next : NaivePaddedTransport T} (only : HeaderOnly t next) : ReadOnly t next := by
  rw [only]
  exact ⟨rfl, rfl, rfl, rfl⟩

theorem DrainOnly.writeOnly {t next : NaivePaddedTransport T} (only : DrainOnly t next) : WriteOnly t next := by
  rw [only]
  exact ⟨rfl, rfl, rfl, rfl, rfl, rfl⟩

theorem advance_writeOnly (t : NaivePaddedTransport T) (frame : Bytes) (inner : T) (n : Nat) :
    WriteOnly t (advance t frame inner n) := by
  unfold advance
  split_ifs <;> exact ⟨rfl, rfl, rfl, rfl, rfl, rfl⟩

section Reads

variable [AsyncRead T]

theorem readData_readOnly (remaining : Nat) (t : NaivePaddedTransport T) : ReadOnly t (readData remaining t).1 := by
  rcases Nat.eq_zero_or_pos remaining with rfl | room
  · exact .refl t
  · obtain ⟨inner, r, -, ⟨same, -⟩ | ⟨bs, -, -, same⟩⟩ := readData_cases room t
    · rw [same]
      exact ⟨rfl, rfl, rfl, rfl⟩
    · rw [same]
      exact takeData_readOnly t inner bs.length

theorem readPass_readOnly (remaining : Nat) (t : NaivePaddedTransport T) :
    (readPass remaining t).Holds (ReadOnly t) fun last _ => ReadOnly t last := by
  unfold readPass
  split_ifs
  · exact readData_readOnly remaining t
  · obtain ⟨inner, r, -, ⟨same, -⟩ | ⟨bs, -, -, same⟩⟩ := skipPadding_cases t
    all_goals
      rw [same]
      exact ⟨rfl, rfl, rfl, rfl⟩
  · exact ⟨rfl, rfl, rfl, rfl⟩
  · split
    · rename_i last r ran
      exact (readHeader_holds ran).1.readOnly
    · rename_i last ran
      exact (readHeader_holds ran).1.readOnly.trans (parseHeader_readOnly last)

theorem pollRead_readOnly {remaining : Nat} {t last : NaivePaddedTransport T} {r : PollResult Bytes}
    (ran : pollRead t remaining = (last, r)) : ReadOnly t last := by
  refine pollRead_rule (I := ReadOnly t) (Q := fun last _ => ReadOnly t last) ?_ (.refl t) ran
  intro s before
  exact (readPass_readOnly remaining s).imp (fun _ only => before.trans only) fun _ _ only => before.trans only

end Reads

section Writes

variable [AsyncWrite T]

theorem writeFrame_writeOnly (t : NaivePaddedTransport T) (buf : Bytes) : WriteOnly t (writeFrame t buf).1 := by
  have queued (inner : T) : WriteOnly t { t.queueFrame buf with inner } := ⟨rfl, rfl, rfl, rfl, rfl, rfl⟩
  obtain ⟨inner, r, -, ⟨e, -, same⟩ | ⟨-, same⟩ | ⟨n, -, -, same⟩⟩ := writeFrame_cases t buf
  · rw [same]
    exact queued inner
  · rw [same]
    exact queued inner
  · rw [same]
    exact (queued t.inner).trans (advance_writeOnly _ _ inner n)

theorem pollWrite_writeOnly {t last : NaivePaddedTransport T} {buf : Bytes} {r : PollResult Nat}
    (ran : pollWrite t buf = (last, r)) : WriteOnly t last := by
  unfold pollWrite at ran
  split at ran
  · rename_i mid drained
    cases ran
    exact (drain_holds drained).1.writeOnly
  · rename_i mid e drained
    cases ran
    exact (drain_holds drained).1.writeOnly
  · rename_i mid drained
    have first : WriteOnly t mid := (drain_holds drained).1.writeOnly
    split_ifs at ran
    · cases ran
      exact first.trans ⟨rfl, rfl, rfl, rfl, rfl, rfl⟩
    · have second := writeFrame_writeOnly mid buf
      rw [ran] at second
      exact first.trans second

theorem pollFlush_writeOnly {t last : NaivePaddedTransport T} {r : PollResult Unit}
    (ran : pollFlush t = (last, r)) : WriteOnly t last := by
  unfold pollFlush at ran
  split at ran
  · rename_i mid drained
    cases ran
    exact (drain_holds drained).1.writeOnly
  · rename_i mid e drained
    cases ran
    exact (drain_holds drained).1.writeOnly
  · rename_i mid drained
    cases ran
    exact (drain_holds drained).1.writeOnly.trans ⟨rfl, rfl, rfl, rfl, rfl, rfl⟩

theorem pollShutdown_writeOnly {t last : NaivePaddedTransport T} {r : PollResult Unit}
    (ran : pollShutdown t = (last, r)) : WriteOnly t last := by
  unfold pollShutdown at ran
  split at ran
  · rename_i mid flushed
    cases ran
    exact pollFlush_writeOnly flushed
  · rename_i mid e flushed
    cases ran
    exact pollFlush_writeOnly flushed
  · rename_i mid flushed
    cases ran
    exact (pollFlush_writeOnly flushed).trans ⟨rfl, rfl, rfl, rfl, rfl, rfl⟩

end Writes

end Halves

/-- What no call on the inner stream disturbs, no call on the transport does. -/
theorem keptByCalls_inner {T : Type} [AsyncRead T] [AsyncWrite T] {I : T → Prop} (h : KeptByCalls I) :
    KeptByCalls fun t : NaivePaddedTransport T => I t.inner where
  read t cap start := (pollRead_quiet h.read cap ⟨start, rfl⟩).1
  write t buf start := pollWrite_open h.phased buf start
  flush t start := pollFlush_open h.phased start Prod.mk.eta.symm
  shutdown t start := by
    have polled := (Prod.mk.eta (p := AsyncWrite.pollShutdown t)).symm
    cases answer : (AsyncWrite.pollShutdown t).2 with
    | pending =>
        rw [answer] at polled
        exact (phased h.phased).waits start polled
    | ready r =>
        rw [answer] at polled
        rcases (phased h.phased).shuts start polled with kept | ⟨kept, -⟩ <;> exact kept

/-! The reading half against what it has read. -/

section Reading

variable {S : Type} [AsyncRead S]

/-- From `t` to `last` the decoder read some bytes from below and gave out `out`. Whatever bytes come
next, it goes on as `t` would on both. -/
def Parses (t last : NaivePaddedTransport (Traced S)) (out : Bytes) : Prop :=
  ReadOk last ∧ ∃ got, returned last.inner.calls = returned t.inner.calls ++ got ∧
    ∀ wire, out ++ carried last wire = carried t (got ++ wire)

omit [AsyncRead S] in
theorem Parses.refl {t : NaivePaddedTransport (Traced S)} (ok : ReadOk t) : Parses t t [] :=
  ⟨ok, [], (List.append_nil _).symm, fun _ => rfl⟩

omit [AsyncRead S] in
theorem Parses.trans {s t u : NaivePaddedTransport (Traced S)} {first second : Bytes} (h : Parses s t first)
    (k : Parses t u second) : Parses s u (first ++ second) := by
  obtain ⟨-, got, grown, same⟩ := h
  obtain ⟨ok, more, grown', same'⟩ := k
  refine ⟨ok, got ++ more, ?_, ?_⟩
  · rw [grown', grown, List.append_assoc]
  · intro wire
    rw [List.append_assoc, same', same, List.append_assoc]

/-- A read that brings nothing changes nothing. -/
theorem parses_quiet {t : NaivePaddedTransport (Traced S)} (ok : ReadOk t) {cap : Nat} {inner : Traced S}
    {r : PollResult Bytes} (polled : AsyncRead.pollRead t.inner cap = (inner, r))
    (quiet : ∀ bs, r = .ready (.ok bs) → bs = []) : Parses t { t with inner } (handed r) := by
  have none_handed : handed r = [] := by
    rcases r with _ | ⟨e | bs⟩
    · rfl
    · rfl
    · exact quiet bs rfl
  rw [none_handed]
  refine ⟨ok.inner inner, [], ?_, fun _ => rfl⟩
  rw [Traced.returned_pollRead polled, Call.given_read, none_handed]

theorem readData_parses (remaining : Nat) {t : NaivePaddedTransport (Traced S)} (ok : ReadOk t)
    (data : 0 < t.readDataRem) : Parses t (readData remaining t).1 (handed (readData remaining t).2) := by
  rcases Nat.eq_zero_or_pos remaining with rfl | room
  · exact .refl ok
  obtain ⟨atStart, noSkip⟩ := ok.data_header data
  obtain ⟨inner, r, polled, ⟨same, quiet⟩ | ⟨bs, nonempty, rfl, same⟩⟩ := readData_cases room t
  · rw [same]
    exact parses_quiet ok polled quiet
  · have fits := AsyncRead.pollRead_fits polled
    rw [dataCap_eq] at fits
    have size : bs.length ≤ t.readDataRem := by omega
    have grown : returned inner.calls = returned t.inner.calls ++ bs := Traced.returned_pollRead polled
    have front (wire : Bytes) : (bs ++ wire).take t.readDataRem = bs ++ wire.take (t.readDataRem - bs.length) := by
      rw [List.take_append, List.take_of_length_le size]
    have back (wire : Bytes) (skip : Nat) : (bs ++ wire).drop (t.readDataRem + skip) =
        wire.drop (t.readDataRem - bs.length + skip) := by
      rw [drop_append_past _ (Nat.le_add_right_of_le size)]
      congr 1
      omega
    rw [same]
    refine ⟨?_, bs, by rw [takeData_inner]; exact grown, ?_⟩
    · unfold takeData
      split_ifs with complete
      · exact ⟨ok.header_size, ok.header_open, ok.frames, ok.raw_header, fun h => absurd h (Nat.lt_irrefl 0),
          fun _ => atStart, fun _ => rfl⟩
      · exact ⟨ok.header_size, ok.header_open, ok.frames, ok.raw_header, fun _ => ⟨atStart, noSkip⟩,
          ok.skip_header, fun h => absurd h complete⟩
    · intro wire
      rw [carried, carried, front, back, List.append_assoc]
      unfold takeData
      split_ifs with complete
      · simp only [handed, complete, noSkip, Nat.zero_add, Nat.add_zero]
      · rfl

theorem skipPadding_parses {t : NaivePaddedTransport (Traced S)} (ok : ReadOk t) (no_data : t.readDataRem = 0)
    (skip : 0 < t.readSkipRem) :
    (skipPadding t).Holds (fun next => Parses t next []) fun last r => Parses t last (handed r) := by
  obtain ⟨inner, r, polled, ⟨same, quiet⟩ | ⟨bs, nonempty, rfl, same⟩⟩ := skipPadding_cases t
  · rw [same]
    exact parses_quiet ok polled quiet
  · have fits := AsyncRead.pollRead_fits polled
    have atStart := ok.skip_header skip
    rw [same]
    refine ⟨⟨ok.header_size, ok.header_open, ok.frames, ok.raw_header,
      fun h => absurd h (by rw [no_data]; exact Nat.lt_irrefl 0), fun _ => atStart, ok.data_skip⟩,
      bs, Traced.returned_pollRead polled, ?_⟩
    intro wire
    simp only [carried, no_data, ok.data_skip no_data, List.take_zero, Nat.zero_add, List.nil_append]
    rw [drop_append_past _ (by omega)]

/-- The header loop has read `got`, which is in the header buffer. -/
def HeaderReads (t s : NaivePaddedTransport (Traced S)) : Prop :=
  s.readHdr.length = 3 ∧ s.readHdrPos ≤ 3 ∧ ∃ got, returned s.inner.calls = returned t.inner.calls ++ got ∧
    s.readHdr.take s.readHdrPos = t.readHdr.take t.readHdrPos ++ got

theorem headerPass_headerReads {t s : NaivePaddedTransport (Traced S)} (h : HeaderReads t s) :
    (headerPass s).Holds (HeaderReads t) fun last r => HeaderReads t last ∧ (r = none ↔ last.readHdrPos = 3) := by
  obtain ⟨size, bound, got, grown, held⟩ := h
  by_cases short : s.readHdrPos < 3
  · obtain ⟨inner, r, polled, ⟨same, quiet⟩ | ⟨bs, nonempty, rfl, same⟩⟩ := headerPass_cases short
    · have none_given : (Call.read (s.readHdr.length - s.readHdrPos) r).given = [] := by
        rcases r with _ | ⟨e | bs⟩
        · rfl
        · rfl
        · exact quiet bs rfl
      rw [same]
      refine ⟨⟨size, bound, got, ?_, held⟩, ?_⟩
      · rw [Traced.returned_pollRead polled, none_given, List.append_nil]
        exact grown
      · exact iff_of_false (fun none_left => by cases none_left) (Nat.ne_of_lt short)
    · have fits := AsyncRead.pollRead_fits polled
      have inside : s.readHdrPos + bs.length ≤ s.readHdr.length := by omega
      rw [same]
      refine ⟨(length_overwrite inside).trans size, size ▸ inside, got ++ bs, ?_, ?_⟩
      · have read := Traced.returned_pollRead polled
        rw [grown, List.append_assoc] at read
        exact read
      · change (overwrite s.readHdr s.readHdrPos bs).take (s.readHdrPos + bs.length) = _
        rw [take_overwrite inside, held, List.append_assoc]
  · rw [headerPass_full short]
    exact ⟨⟨size, bound, got, grown, held⟩, iff_of_true rfl (by omega)⟩

theorem readHeader_headerReads {t last : NaivePaddedTransport (Traced S)} {r : Option (PollResult Bytes)}
    (ok : ReadOk t) (ran : readHeader t = (last, r)) : HeaderReads t last ∧ (r = none ↔ last.readHdrPos = 3) := by
  refine readHeader_rule (I := HeaderReads t)
    (Q := fun last r => HeaderReads t last ∧ (r = none ↔ last.readHdrPos = 3)) ?_ ?_ ran
  · intro s reads
    exact headerPass_headerReads reads
  · exact ⟨ok.header_size, Nat.le_of_lt ok.header_open, [], (List.append_nil _).symm, (List.append_nil _).symm⟩

omit [AsyncRead S] in
/-- Between frames only the header buffer counts. -/
theorem carried_between {t : NaivePaddedTransport (Traced S)} (no_data : t.readDataRem = 0)
    (no_skip : t.readSkipRem = 0) (no_pending : t.readPendingSkip = 0) (wire : Bytes) :
    carried t wire = parseFrames (paddingFrames - t.readFramesDone) (t.readHdr.take t.readHdrPos ++ wire) := by
  rw [carried, no_data, no_skip, no_pending]
  rfl

omit [AsyncRead S] in
/-- A full header starts the frame it announces. -/
theorem parseHeader_parses {t : NaivePaddedTransport (Traced S)} (size : t.readHdr.length = 3)
    (full : t.readHdrPos = 3) (left : t.readFramesDone < paddingFrames) (no_data : t.readDataRem = 0)
    (no_skip : t.readSkipRem = 0) (no_pending : t.readPendingSkip = 0) : Parses t (parseHeader t) [] := by
  obtain ⟨hi, lo, pad, header⟩ : ∃ hi lo pad, t.readHdr = [hi, lo, pad] := by
    obtain ⟨hi, lo, pad, same⟩ := List.length_eq_three.mp size
    exact ⟨hi, lo, pad, same⟩
  have frames : paddingFrames - t.readFramesDone = paddingFrames - (t.readFramesDone + 1) + 1 := by omega
  have data : t.dataSize = ofBe16 hi lo := by rw [dataSize, header]; rfl
  have skip : t.paddingSize = pad.toNat := by rw [paddingSize, header]; rfl
  have announced (wire : Bytes) : carried t wire = wire.take (ofBe16 hi lo) ++
      parseFrames (paddingFrames - (t.readFramesDone + 1)) (wire.drop (ofBe16 hi lo + pad.toNat)) := by
    rw [carried_between no_data no_skip no_pending, full, header, frames]
    rfl
  refine ⟨?_, [], ?_, ?_⟩
  · unfold parseHeader
    split_ifs with empty
    · exact ⟨size, Nat.zero_lt_succ _, left, fun _ => rfl, fun h => absurd h (Nat.lt_irrefl 0), fun _ => rfl,
        fun _ => rfl⟩
    · exact ⟨size, Nat.zero_lt_succ _, left, fun _ => rfl, fun _ => ⟨rfl, no_skip⟩, fun _ => rfl,
        fun h => absurd h empty⟩
  · rw [parseHeader_inner, List.append_nil]
  · intro wire
    rw [List.nil_append, List.nil_append, announced]
    unfold parseHeader
    split_ifs with empty
    · simp only [carried, skip, ← data, empty, List.take_zero, List.nil_append, Nat.zero_add]
    · simp only [carried, skip, data, no_skip, List.take_zero, List.nil_append, Nat.add_zero]

theorem readHeader_parses {t last : NaivePaddedTransport (Traced S)} {r : Option (PollResult Bytes)}
    (ok : ReadOk t) (no_data : t.readDataRem = 0) (no_skip : t.readSkipRem = 0)
    (left : t.readFramesDone < paddingFrames) (ran : readHeader t = (last, r)) :
    (∀ answer, r = some answer → Parses t last (handed answer)) ∧ (r = none → Parses t (parseHeader last) []) := by
  obtain ⟨⟨size, bound, got, grown, held⟩, full⟩ := readHeader_headerReads ok ran
  obtain ⟨only, quiet⟩ := readHeader_holds ran
  have data : last.readDataRem = 0 := by rw [only]; exact no_data
  have skip : last.readSkipRem = 0 := by rw [only]; exact no_skip
  have pending : last.readPendingSkip = 0 := by rw [only]; exact ok.data_skip no_data
  have frames : last.readFramesDone = t.readFramesDone := by rw [only]
  have goes_on (wire : Bytes) : carried last wire = carried t (got ++ wire) := by
    rw [carried_between data skip pending, carried_between no_data no_skip (ok.data_skip no_data), frames, held,
      List.append_assoc]
  constructor
  · rintro answer rfl
    have short : last.readHdrPos < 3 := Nat.lt_of_le_of_ne bound fun is_full => by cases full.mpr is_full
    have none_handed : handed answer = [] := by
      rcases answer with _ | ⟨e | bs⟩
      · rfl
      · rfl
      · exact quiet bs rfl
    rw [none_handed]
    exact ⟨⟨size, short, frames ▸ ok.frames, fun h => absurd h (by omega), fun h => absurd h (by omega),
      fun h => absurd h (by omega), fun _ => pending⟩, got, grown, goes_on⟩
  · intro done
    obtain ⟨okLast, none_got, same, announced⟩ :=
      parseHeader_parses size (full.mp done) (frames ▸ left) data skip pending
    refine ⟨okLast, got ++ none_got, ?_, ?_⟩
    · rw [same, grown, List.append_assoc]
    · intro wire
      rw [announced, goes_on, List.append_assoc]

omit [AsyncRead S] in
theorem carried_raw {t : NaivePaddedTransport (Traced S)} (ok : ReadOk t) (no_data : t.readDataRem = 0)
    (no_skip : t.readSkipRem = 0) (raw : paddingFrames ≤ t.readFramesDone) (wire : Bytes) : carried t wire = wire := by
  have full : t.readFramesDone = paddingFrames := Nat.le_antisymm ok.frames raw
  rw [carried_between no_data no_skip (ok.data_skip no_data), ok.raw_header full, full, Nat.sub_self]
  rfl

theorem readPass_parses (remaining : Nat) {t : NaivePaddedTransport (Traced S)} (ok : ReadOk t) :
    (readPass remaining t).Holds (fun next => Parses t next []) fun last r => Parses t last (handed r) := by
  unfold readPass
  split_ifs with data skip raw
  · exact readData_parses remaining ok data
  · exact skipPadding_parses ok (by omega) skip
  · have no_data : t.readDataRem = 0 := by omega
    have no_skip : t.readSkipRem = 0 := by omega
    cases polled : AsyncRead.pollRead t.inner remaining with
    | mk inner r =>
        refine ⟨ok.inner inner, handed r, ?_, ?_⟩
        · rw [← Call.given_read remaining]
          exact Traced.returned_pollRead polled
        · intro wire
          rw [carried_raw ok no_data no_skip raw, carried_raw (ok.inner inner) no_data no_skip raw]
  · split
    · rename_i last r ran
      exact (readHeader_parses ok (by omega) (by omega) (Nat.lt_of_not_le raw) ran).1 r rfl
    · rename_i last ran
      exact (readHeader_parses ok (by omega) (by omega) (Nat.lt_of_not_le raw) ran).2 rfl

/-- A poll hands out what the bytes it read carry, whatever the stream below does. -/
theorem pollRead_parses {remaining : Nat} {t last : NaivePaddedTransport (Traced S)} {r : PollResult Bytes}
    (ok : ReadOk t) (ran : pollRead t remaining = (last, r)) : Parses t last (handed r) := by
  refine pollRead_rule (I := fun s => Parses t s []) (Q := fun last r => Parses t last (handed r)) ?_ (.refl ok) ran
  intro s before
  apply (readPass_parses remaining before.1).imp
  · intro next parses
    exact before.trans parses
  · intro last r parses
    exact before.trans parses

end Reading

/-! The writing half against what it has accepted. -/

section Writing

variable {S : Type}

/-- The encoding is on the wire, and its frames can express what they hold. -/
structure Conveys (g : Rng) (e : Traced (NaivePaddedTransport (Traced S))) : Prop extends Exact g e where
  fit : FramesFit 0 (padded g (acceptedWrites e.calls))

theorem payload_paddedFrom (g : Rng) (done : Nat) (writes : List Bytes) :
    payload (paddedFrom g done writes) = writes.flatten := by
  induction writes generalizing done with
  | nil => rfl
  | cons data writes ih =>
      rw [List.flatten_cons, ← ih (done + 1)]
      rfl

/-- What is on the wire carries what was accepted. -/
theorem Conveys.parse {g : Rng} {e : Traced (NaivePaddedTransport (Traced S))} (h : Conveys g e) :
    parseFrames paddingFrames e.stream.onWire = accepted e.calls := by
  have carries := parseFrames_wireFrom h.fit
  rw [padded, payload_paddedFrom, flatten_acceptedWrites] at carries
  rw [h.wire]
  exact carries

/-- A call that accepts no write and only drains. -/
theorem Conveys.drains {g : Rng} {e : Traced (NaivePaddedTransport (Traced S))} (h : Conveys g e)
    {last : NaivePaddedTransport (Traced S)} (drains : Drains e.stream last) {c : Call}
    (refused : c.acceptedWrite = none) : Conveys g ⟨last, e.calls ++ [c]⟩ := by
  refine ⟨h.toExact.drains drains refused, ?_⟩
  rw [acceptedWrites_snoc, refused]
  exact (List.append_nil (acceptedWrites e.calls)).symm ▸ h.fit

/-- A read does not touch the wire. -/
theorem Conveys.read {g : Rng} {e : Traced (NaivePaddedTransport (Traced S))} (h : Conveys g e)
    {last : NaivePaddedTransport (Traced S)} (only : ReadOnly e.stream last)
    (grew : Grew (fun c => c.isRead = true) e.stream.inner.calls last.inner.calls) (cap : Nat)
    (r : PollResult Bytes) : Conveys g ⟨last, e.calls ++ [.read cap r]⟩ := by
  have same : acceptedWrites (e.calls ++ [.read cap r]) = acceptedWrites e.calls := by
    rw [acceptedWrites_snoc]
    exact List.append_nil _
  refine ⟨⟨?_, ?_, ?_⟩, ?_⟩
  · rw [same, ← h.wire]
    change accepted last.inner.calls ++ last.unsent = accepted e.stream.inner.calls ++ e.stream.unsent
    rw [grew.accepted, only.unsent]
  · rw [same]
    exact only.frames.trans h.frames
  · change last.rng = rngAfter g last.writeFramesDone
    rw [only.rng, only.frames]
    exact h.rng
  · rw [same]
    exact h.fit

theorem padded_snoc_fit {g : Rng} {writes : List Bytes} {data : Bytes} (fit : FramesFit 0 (padded g writes))
    (last : writes.length < paddingFrames → data.length ≤ maxPaddedPayload) :
    FramesFit 0 (padded g (writes ++ [data])) := by
  rw [padded, paddedFrom_snoc]
  refine FramesFit.snoc fit fun short => ⟨last ?_, ?_⟩
  · rwa [length_paddedFrom] at short
  · exact (fits_frame (rngAfter g (0 + writes.length)) []).2

variable [AsyncWrite S]

theorem pollWrite_conveys {g : Rng} {e : Traced (NaivePaddedTransport (Traced S))} {buf : Bytes}
    {last : NaivePaddedTransport (Traced S)} {r : PollResult Nat} (before : Conveys g e)
    (ran : pollWrite e.stream buf = (last, r)) (unrefused : ∀ failure, r ≠ .ready (.error failure)) :
    Conveys g ⟨last, e.calls ++ [.write buf r]⟩ := by
  cases pollWrite_wrote ran with
  | blocked drains => exact before.drains drains rfl
  | failed drains drained => exact before.drains drains rfl
  | @raw mid drains cleared raw inner r polled =>
      -- only an accepted write puts anything on the wire
      have idle (nothing : (Call.write buf r).taken = []) : Drains mid { mid with inner } :=
        .idle mid (by rw [Traced.accepted_pollWrite polled, nothing, List.append_nil])
      rcases r with _ | ⟨failure | n⟩
      · exact before.drains (drains.trans (idle rfl)) rfl
      · exact before.drains (drains.trans (idle rfl)) rfl
      · refine ⟨before.toExact.raw drains cleared raw polled, ?_⟩
        have long : paddingFrames ≤ (acceptedWrites e.calls).length := by
          have frames := before.frames
          omega
        rw [acceptedWrites_snoc]
        exact padded_snoc_fit before.fit fun short => absurd long (Nat.not_le.mpr short)
  | @framed mid drains drained short last r framed =>
      rcases framed.answer with rfl | ⟨failure, rfl, polled⟩
      · refine ⟨before.toExact.framed drains short framed, ?_⟩
        rw [acceptedWrites_snoc]
        refine padded_snoc_fit before.fit fun _ => ?_
        rw [take_frameData]
        exact (fits_frame g buf).1
      · exact absurd rfl (unrefused failure)

/-- A write that is refused has put nothing more on the wire, even if it has queued its frame. -/
theorem pollWrite_refused {e : Traced (NaivePaddedTransport (Traced S))} {buf : Bytes}
    {last : NaivePaddedTransport (Traced S)} {failure : IoError}
    (ran : pollWrite e.stream buf = (last, .ready (.error failure))) :
    accepted last.inner.calls <+: e.stream.onWire := by
  have below {mid : NaivePaddedTransport (Traced S)} (drains : Drains e.stream mid) :
      accepted mid.inner.calls <+: e.stream.onWire := by
    rw [← drains.onWire]
    exact List.prefix_append _ _
  cases pollWrite_wrote ran with
  | failed drains drained => exact below drains
  | raw drains cleared raw polled =>
      rw [Traced.accepted_pollWrite polled]
      exact (List.append_nil _).symm ▸ below drains
  | framed drains drained short framed =>
      rcases framed.answer with same | ⟨other, -, polled⟩
      · cases same
      · rw [Traced.accepted_pollWrite polled]
        exact (List.append_nil _).symm ▸ below drains

end Writing

/-! Both at once. -/

section Both

variable {S : Type} [AsyncRead S] [AsyncWrite S]

/-- What a transport has handed out and put on the wire, whoever polls it in whatever order. -/
structure Mirrors (g : Rng) (e : Traced (NaivePaddedTransport (Traced S))) : Prop where
  ok : ReadOk e.stream
  parsed : ∀ wire, returned e.calls ++ carried e.stream wire =
    parseFrames paddingFrames (returned e.stream.inner.calls ++ wire)
  conveys : Unrefused e.calls → Conveys g e

omit [AsyncRead S] [AsyncWrite S] in
theorem mirrors_new (s : S) (g : Rng) : Mirrors g (freshEncoder s g) where
  ok := readOk_new (Traced.start s) g
  parsed wire := by
    simp only [freshEncoder, Traced.start, carried, new, List.take_zero, List.nil_append, Nat.sub_zero, Nat.add_zero,
      List.drop_zero]
    rfl
  conveys _ := ⟨exact_new s g, .nil 0⟩

omit [AsyncRead S] [AsyncWrite S] in
/-- A call of the writing half leaves what was read and handed out as it is. -/
theorem Mirrors.write {g : Rng} {e : Traced (NaivePaddedTransport (Traced S))} (h : Mirrors g e)
    {last : NaivePaddedTransport (Traced S)} (only : WriteOnly e.stream last)
    (grew : Grew (fun c => c.isRead = false) e.stream.inner.calls last.inner.calls) {c : Call}
    (unread : c.isRead = false)
    (conveys : Conveys g e → (c.isWrite = true → c.failed = false) → Conveys g ⟨last, e.calls ++ [c]⟩) :
    Mirrors g ⟨last, e.calls ++ [c]⟩ where
  ok := only.readOk h.ok
  parsed wire := by
    rw [only.carried, grew.returned, returned_append, returned_singleton, Call.given_of_unread unread,
      List.append_nil]
    exact h.parsed wire
  conveys clean := by
    obtain ⟨before, unrefused⟩ := unrefused_snoc_iff.mp clean
    exact conveys (h.conveys before) unrefused

theorem mirrors_kept (g : Rng) : KeptByCalls (Mirrors (S := S) g) where
  read e cap h := by
    have ran : pollRead e.stream cap = ((pollRead e.stream cap).1, (pollRead e.stream cap).2) := rfl
    have poll : (AsyncRead.pollRead e cap).1 =
        ⟨(pollRead e.stream cap).1, e.calls ++ [.read cap (pollRead e.stream cap).2]⟩ := rfl
    rw [poll]
    generalize (pollRead e.stream cap).1 = last, (pollRead e.stream cap).2 = r at ran ⊢
    obtain ⟨ok, got, grown, same⟩ := pollRead_parses h.ok ran
    have grew := (pollRead_reads ran).1
    refine ⟨ok, ?_, ?_⟩
    · intro wire
      rw [grown, returned_append, returned_singleton, Call.given_read, List.append_assoc, same, h.parsed,
        List.append_assoc]
    · intro clean
      exact (h.conveys (unrefused_snoc_iff.mp clean).1).read (pollRead_readOnly ran) grew cap r
  write e buf h := by
    have ran : pollWrite e.stream buf = ((pollWrite e.stream buf).1, (pollWrite e.stream buf).2) := rfl
    have poll : (AsyncWrite.pollWrite e buf).1 =
        ⟨(pollWrite e.stream buf).1, e.calls ++ [.write buf (pollWrite e.stream buf).2]⟩ := rfl
    rw [poll]
    generalize (pollWrite e.stream buf).1 = last, (pollWrite e.stream buf).2 = r at ran ⊢
    refine h.write (pollWrite_writeOnly ran) ?_ rfl fun before unrefused => pollWrite_conveys before ran ?_
    · exact (pollWrite_writes ran).1.imp fun c writes => unread_of_keepsOpen c (keepsOpen_of_isWrite c writes)
    · rintro failure rfl
      cases unrefused rfl
  flush e h := by
    have ran : pollFlush e.stream = ((pollFlush e.stream).1, (pollFlush e.stream).2) := rfl
    have poll : (AsyncWrite.pollFlush e).1 =
        ⟨(pollFlush e.stream).1, e.calls ++ [.flush (pollFlush e.stream).2]⟩ := rfl
    rw [poll]
    generalize (pollFlush e.stream).1 = last, (pollFlush e.stream).2 = r at ran ⊢
    exact h.write (pollFlush_writeOnly ran) ((pollFlush_writes ran).1.imp unread_of_keepsOpen) rfl
      fun before _ => before.drains (pollFlush_flushed ran).drains rfl
  shutdown e h := by
    have ran : pollShutdown e.stream = ((pollShutdown e.stream).1, (pollShutdown e.stream).2) := rfl
    have poll : (AsyncWrite.pollShutdown e).1 =
        ⟨(pollShutdown e.stream).1, e.calls ++ [.shutdown (pollShutdown e.stream).2]⟩ := rfl
    rw [poll]
    generalize (pollShutdown e.stream).1 = last, (pollShutdown e.stream).2 = r at ran ⊢
    exact h.write (pollShutdown_writeOnly ran) (pollShutdown_writes ran).1 rfl
      fun before _ => before.drains (pollShutdown_shut ran).drains rfl

/-- More of a wire carries no less. -/
theorem parseFrames_mono (left : Nat) {wire longer : Bytes} (front : wire <+: longer) :
    parseFrames left wire <+: parseFrames left longer := by
  induction left generalizing wire longer with
  | zero => exact front
  | succ left ih =>
      obtain ⟨tail, rfl⟩ := front
      rcases wire with _ | ⟨hi, _ | ⟨lo, _ | ⟨pad, wire⟩⟩⟩
      · exact List.nil_prefix
      · exact List.nil_prefix
      · exact List.nil_prefix
      · simp only [List.cons_append, parseFrames]
        rcases Nat.le_total (ofBe16 hi lo) wire.length with inside | short
        · rw [List.take_append_of_le_length inside]
          exact (List.prefix_append_right_inj _).mpr (ih ((List.prefix_append wire tail).drop _))
        · -- cut off in the data of this frame
          rw [List.take_of_length_le short, List.drop_eq_nil_of_le (by omega), parseFrames_nil, List.append_nil,
            List.take_append, List.take_of_length_le short, List.append_assoc]
          exact List.prefix_append _ _

omit [AsyncRead S] [AsyncWrite S] in
theorem carried_nil {t : NaivePaddedTransport (Traced S)} (ok : ReadOk t) : carried t [] = [] := by
  have empty : ByteSource.rest (Traced.start (PacedReader.mk [] [])) = [] := rfl
  have ends := upcoming_end (t := { t with inner := Traced.start (PacedReader.mk [] []) })
    ⟨ok.header_size, ok.header_open, ok.frames, ok.raw_header, ok.data_header, ok.skip_header, ok.data_skip⟩ empty
  rw [upcoming, empty] at ends
  exact ends

omit [AsyncRead S] [AsyncWrite S] in
/-- Nothing is held back by the decoder. -/
theorem Mirrors.handed_out {g : Rng} {e : Traced (NaivePaddedTransport (Traced S))} (h : Mirrors g e) :
    returned e.calls = parseFrames paddingFrames (returned e.stream.inner.calls) := by
  have all := h.parsed []
  rwa [carried_nil h.ok, List.append_nil, List.append_nil] at all

/-- In any order of calls on a transport over any stream: what it has handed out is the parse of what it
has read, and until it refuses a write, what the stream below has and is owed is the encoding of the
accepted writes. -/
theorem transport_exact (s : S) (g : Rng) (ops : List StreamOp) :
    returned (operate (freshEncoder s g) ops).calls =
        parseFrames paddingFrames (returned (operate (freshEncoder s g) ops).stream.inner.calls) ∧
      (Unrefused (operate (freshEncoder s g) ops).calls →
        accepted (operate (freshEncoder s g) ops).stream.inner.calls ++
            (operate (freshEncoder s g) ops).stream.unsent =
          encoding g (acceptedWrites (operate (freshEncoder s g) ops).calls) ∧
        parseFrames paddingFrames (accepted (operate (freshEncoder s g) ops).stream.inner.calls ++
            (operate (freshEncoder s g) ops).stream.unsent) =
          accepted (operate (freshEncoder s g) ops).calls) := by
  have h := (mirrors_kept g).operate ops (mirrors_new s g)
  exact ⟨h.handed_out, fun unrefused => ⟨(h.conveys unrefused).wire, (h.conveys unrefused).parse⟩⟩

end Both

/-- Writes and reads in turn, over a stream that fails a read in the middle of a frame, waits, and takes
frames in parts. -/
theorem transport_exact_mixed :
    let e := operate (freshEncoder
        (Scripted.mk [.ready (.ok [0, 2, 1, 5]), .ready (.error ⟨.other, "reset"⟩), .ready (.ok [6, 0])]
          [.ready (.ok 4), .pending]) smallPads)
      [.write [1, 2], .read 9, .read 9, .write [3], .read 9, .flush, .read 0, .write [3]]
    returned e.calls = [5, 6] ∧ returned e.calls = parseFrames paddingFrames (returned e.stream.inner.calls) ∧
      accepted e.calls = [1, 2, 3] ∧
      parseFrames paddingFrames (accepted e.stream.inner.calls ++ e.stream.unsent) = accepted e.calls := by
  have run := transport_exact
    (Scripted.mk [.ready (.ok [0, 2, 1, 5]), .ready (.error ⟨.other, "reset"⟩), .ready (.ok [6, 0])]
      [.ready (.ok 4), .pending]) smallPads
    [.write [1, 2], .read 9, .read 9, .write [3], .read 9, .flush, .read 0, .write [3]]
  exact ⟨by decide +kernel, run.1, by decide +kernel, (run.2 (by decide +kernel)).2⟩

end ServerNaive.NaivePaddedTransport
