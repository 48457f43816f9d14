import ServerNaive.Async.Stream

/-! The naive padding transport. The first eight frames of each direction are sent as
`[u16 length][u8 padding size][data][padding]`; after them bytes pass through raw. -/
namespace ServerNaive
open AsyncIo

def paddingFrames : Nat := 8

def maxPaddedPayload : Nat := 65535

/-- The random bytes the polling thread will draw. The supply is arbitrary, so a
statement over all of them covers every padding size and every padding byte. -/
structure Rng where
  supply : Nat → UInt8
  drawn : Nat

def Rng.genRandomBytes (g : Rng) (n : Nat) : Rng × Bytes :=
  ({ g with drawn := g.drawn + n }, (List.range n).map fun i => g.supply (g.drawn + i))

def Rng.randomU8 (g : Rng) : Rng × UInt8 :=
  ({ g with drawn := g.drawn + 1 }, g.supply g.drawn)

/-! The padding header of a response. -/

def paddingChars : List Char :=
  ['!', '#', '$', '(', ')', '+', '<', '>', '?', '@', '[', ']', '^', '\x60', '\x7b', '\x7d']

/-- As `u64::from_le_bytes`. -/
def ofLe (bs : Bytes) : Nat := bs.foldr (fun b n => b.toNat + 256 * n) 0

/-- Sixteen characters of four random bits each, then tildes up to a random length. -/
def generatePaddingHeader (g : Rng) : Rng × String :=
  let (g, r) := g.randomU8
  let (g, bits) := g.genRandomBytes 8
  (g, String.ofList ((List.range 16).map (fun i => paddingChars.getD ((ofLe bits >>> (4 * i)) &&& 15) '~') ++
    List.replicate ((r % 32 + 30).toNat - 16) '~'))

/-- What a header value may hold: visible ASCII and the tab. -/
def isVisibleAscii (n : Nat) : Bool := (32 ≤ n && n < 127) || n == 9

theorem generatePaddingHeader_visible (g : Rng) :
    (generatePaddingHeader g).2.toList.all (fun c => isVisibleAscii c.toNat) = true := by
  have chars : ∀ i, isVisibleAscii (paddingChars.getD i '~').toNat = true := by
    intro i
    by_cases inside : i < paddingChars.length
    · have each : paddingChars.all (fun c => isVisibleAscii c.toNat) = true := by decide
      rw [List.getD_eq_getElem _ _ inside]
      exact List.all_eq_true.mp each _ (List.getElem_mem inside)
    · rw [List.getD_eq_default _ _ (Nat.le_of_not_lt inside)]
      rfl
  simp only [generatePaddingHeader, String.toList_ofList, List.all_append, Bool.and_eq_true, List.all_map,
    List.all_eq_true, List.mem_replicate, Function.comp_apply]
  constructor
  · intro i _
    exact chars _
  · rintro c ⟨_, rfl⟩
    rfl

theorem length_generatePaddingHeader (g : Rng) :
    30 ≤ (generatePaddingHeader g).2.toList.length ∧ (generatePaddingHeader g).2.toList.length ≤ 61 := by
  have size : ∀ r : UInt8, 30 ≤ (r % 32 + 30).toNat ∧ (r % 32 + 30).toNat ≤ 61 := by decide +kernel
  have bounds := size (g.randomU8).2
  simp only [generatePaddingHeader, String.toList_ofList, List.length_append, List.length_map,
    List.length_range, List.length_replicate]
  omega

structure NaivePaddedTransport (T : Type) where
  inner : T
  readFramesDone : Nat
  readHdr : Bytes
  readHdrPos : Nat
  readDataRem : Nat
  readSkipRem : Nat
  readPendingSkip : Nat
  writeFramesDone : Nat
  writePending : Option Bytes
  writePendingOff : Nat
  rng : Rng

namespace NaivePaddedTransport

variable {T : Type}

def new (inner : T) (rng : Rng) : NaivePaddedTransport T where
  inner := inner
  readFramesDone := 0
  readHdr := [0, 0, 0]
  readHdrPos := 0
  readDataRem := 0
  readSkipRem := 0
  readPendingSkip := 0
  writeFramesDone := 0
  writePending := none
  writePendingOff := 0
  rng := rng

def dataSize (t : NaivePaddedTransport T) : Nat :=
  ofBe16 (t.readHdr.getD 0 0) (t.readHdr.getD 1 0)

def paddingSize (t : NaivePaddedTransport T) : Nat := (t.readHdr.getD 2 0).toNat

/-- Starts the frame that a full header announces. -/
def parseHeader (t : NaivePaddedTransport T) : NaivePaddedTransport T :=
  if t.dataSize = 0 then
    { t with
      readHdrPos := 0
      readFramesDone := t.readFramesDone + 1
      readDataRem := 0
      readSkipRem := t.paddingSize
      readPendingSkip := 0 }
  else
    { t with
      readHdrPos := 0
      readFramesDone := t.readFramesDone + 1
      readDataRem := t.dataSize
      readPendingSkip := t.paddingSize }

/-- A caller's buffer larger than the rest of the frame is limited to it. -/
def dataCap (remaining : Nat) (t : NaivePaddedTransport T) : Nat :=
  if remaining > t.readDataRem then t.readDataRem else remaining

theorem dataCap_eq (remaining : Nat) (t : NaivePaddedTransport T) :
    dataCap remaining t = min remaining t.readDataRem := by
  unfold dataCap
  split_ifs <;> omega

/-- What `n` bytes of data leave: the rest of the frame, or its padding. -/
def takeData (t : NaivePaddedTransport T) (inner : T) (n : Nat) : NaivePaddedTransport T :=
  if t.readDataRem - n = 0 then
    { t with inner, readDataRem := 0, readSkipRem := t.readPendingSkip, readPendingSkip := 0 }
  else { t with inner, readDataRem := t.readDataRem - n }

/-- Falls on every pass that goes round again: skipping shortens the padding, and a
new header, whatever padding it announces, uses up one of the eight frames. -/
def readMeasure (t : NaivePaddedTransport T) : Nat :=
  (paddingFrames - t.readFramesDone) * 256 + t.readSkipRem

/-- The part of the pending frame that the inner writer has not taken. -/
def unsent (t : NaivePaddedTransport T) : Bytes :=
  match t.writePending with
  | none => []
  | some frame => frame.drop t.writePendingOff

def drainMeasure (t : NaivePaddedTransport T) : Nat :=
  match t.writePending with
  | none => 0
  | some frame => frame.length - t.writePendingOff + 1

/-- The padded frame `[u16 data_len][u8 pad_size][data][padding]`. -/
def frameBytes (data pad : Bytes) : Bytes :=
  be16 data.length ++ [UInt8.ofNat pad.length] ++ data ++ pad

def drawPad (g : Rng) : Rng × Bytes :=
  let (g, padSize) := g.randomU8
  g.genRandomBytes padSize.toNat

def frameData (buf : Bytes) : Bytes := buf.take (min buf.length maxPaddedPayload)

def nextFrame (t : NaivePaddedTransport T) (buf : Bytes) : Bytes :=
  frameBytes (frameData buf) (drawPad t.rng).2

def queueFrame (t : NaivePaddedTransport T) (buf : Bytes) : NaivePaddedTransport T :=
  { t with
    rng := (drawPad t.rng).1
    writePending := some (t.nextFrame buf)
    writePendingOff := 0
    writeFramesDone := t.writeFramesDone + 1 }

@[simp] theorem length_frameData (buf : Bytes) :
    (frameData buf).length = min buf.length maxPaddedPayload := by
  simp only [frameData, List.length_take]
  omega

/-- How the loop over `write_pending` ends. -/
inductive Drain where
  | cleared
  | blocked
  | failed (e : IoError)
  deriving DecidableEq

/-- How the loop ends on a write that took nothing. -/
def stalled (zeroText : String) : PollResult Nat → Drain
  | .pending => .blocked
  | .ready (.error e) => .failed e
  | .ready (.ok _) => .failed ⟨.writeZero, zeroText⟩

theorem stalled_ne_cleared (zeroText : String) (r : PollResult Nat) : stalled zeroText r ≠ .cleared := by
  rcases r with _ | ⟨e | n⟩ <;> intro same <;> cases same

theorem pending_of_stalled {zeroText : String} {r : PollResult Nat} (blocked : stalled zeroText r = .blocked) :
    r = .pending := by
  rcases r with _ | ⟨e | n⟩
  · rfl
  · cases blocked
  · cases blocked

/-- What `n` bytes more of the pending frame leave: the frame is dropped when all of it is sent. -/
def advance (t : NaivePaddedTransport T) (frame : Bytes) (inner : T) (n : Nat) : NaivePaddedTransport T :=
  if frame.length ≤ t.writePendingOff + n then { t with inner, writePending := none, writePendingOff := 0 }
  else { t with inner, writePendingOff := t.writePendingOff + n }

@[simp] theorem advance_inner (t : NaivePaddedTransport T) (frame : Bytes) (inner : T) (n : Nat) :
    (advance t frame inner n).inner = inner := by
  unfold advance
  split_ifs <;> rfl

/-- Reading a header touches the inner stream and the header buffer only, and gives
the caller no byte. -/
def HeaderOnly (t next : NaivePaddedTransport T) : Prop :=
  next = { t with inner := next.inner, readHdr := next.readHdr, readHdrPos := next.readHdrPos }

theorem HeaderOnly.refl (t : NaivePaddedTransport T) : HeaderOnly t t := rfl

theorem HeaderOnly.trans {s t u : NaivePaddedTransport T} (h : HeaderOnly s t) (k : HeaderOnly t u) :
    HeaderOnly s u := by
  rw [HeaderOnly, h] at k
  exact k

/-- Draining touches the inner stream and the pending frame only. -/
def DrainOnly (t next : NaivePaddedTransport T) : Prop :=
  next = { t with
    inner := next.inner, writePending := next.writePending, writePendingOff := next.writePendingOff }

theorem DrainOnly.refl (t : NaivePaddedTransport T) : DrainOnly t t := rfl

theorem DrainOnly.trans {s t u : NaivePaddedTransport T} (h : DrainOnly s t) (k : DrainOnly t u) :
    DrainOnly s u := by
  rw [DrainOnly, h] at k
  exact k

section Read

variable [AsyncRead T]

/-- Phase 1: data of the current frame. -/
def readData (remaining : Nat) (t : NaivePaddedTransport T) :
    NaivePaddedTransport T × PollResult Bytes :=
  if remaining = 0 then (t, .ready (.ok []))
  else match AsyncRead.pollRead t.inner (dataCap remaining t) with
    | (inner, .pending) => ({ t with inner }, .pending)
    | (inner, .ready (.error e)) => ({ t with inner }, .ready (.error e))
    | (inner, .ready (.ok [])) => ({ t with inner }, .ready (.ok []))
    | (inner, .ready (.ok bs)) =>
        if t.readDataRem - bs.length = 0 then
          ({ t with
              inner
              readDataRem := 0
              readSkipRem := t.readPendingSkip
              readPendingSkip := 0 }, .ready (.ok bs))
        else ({ t with inner, readDataRem := t.readDataRem - bs.length }, .ready (.ok bs))

/-- Phase 2: one read into the scratch buffer of 256 bytes. -/
def skipPadding (t : NaivePaddedTransport T) : Pass (NaivePaddedTransport T) (PollResult Bytes) :=
  match AsyncRead.pollRead t.inner (min t.readSkipRem 256) with
  | (inner, .pending) => .leave { t with inner } .pending
  | (inner, .ready (.error e)) => .leave { t with inner } (.ready (.error e))
  | (inner, .ready (.ok [])) => .leave { t with inner } (.ready (.ok []))
  | (inner, .ready (.ok bs)) => .again { t with inner, readSkipRem := t.readSkipRem - bs.length }

/-- Phase 4, one read of the header; `none` leaves the inner loop with a full header. -/
def headerPass (t : NaivePaddedTransport T) :
    Pass (NaivePaddedTransport T) (Option (PollResult Bytes)) :=
  if t.readHdrPos < 3 then
    match AsyncRead.pollRead t.inner (t.readHdr.length - t.readHdrPos) with
    | (inner, .pending) => .leave { t with inner } (some .pending)
    | (inner, .ready (.error e)) => .leave { t with inner } (some (.ready (.error e)))
    | (inner, .ready (.ok [])) => .leave { t with inner } (some (.ready (.ok [])))
    | (inner, .ready (.ok bs)) => .again
        { t with
          inner
          readHdr := overwrite t.readHdr t.readHdrPos bs
          readHdrPos := t.readHdrPos + bs.length }
  else .leave t none

def readHeader (t : NaivePaddedTransport T) :
    NaivePaddedTransport T × Option (PollResult Bytes) :=
  runLoop headerPass (3 - t.readHdrPos + 1) none t

/-- One pass of the loop of `poll_read`. -/
def readPass (remaining : Nat) (t : NaivePaddedTransport T) :
    Pass (NaivePaddedTransport T) (PollResult Bytes) :=
  if 0 < t.readDataRem then
    match readData remaining t with
    | (t, r) => .leave t r
  else if 0 < t.readSkipRem then skipPadding t
  else if paddingFrames ≤ t.readFramesDone then
    match AsyncRead.pollRead t.inner remaining with
    | (inner, r) => .leave { t with inner } r
  else match readHeader t with
    | (t, some r) => .leave t r
    | (t, none) => .again (parseHeader t)

def pollRead (t : NaivePaddedTransport T) (remaining : Nat) :
    NaivePaddedTransport T × PollResult Bytes :=
  runLoop (readPass remaining) (t.readMeasure + 1) .pending t

omit [AsyncRead T] in
@[simp] theorem takeData_inner (t : NaivePaddedTransport T) (inner : T) (n : Nat) : (takeData t inner n).inner = inner := by
  unfold takeData
  split_ifs <;> rfl

omit [AsyncRead T] in
@[simp] theorem parseHeader_inner (t : NaivePaddedTransport T) : (parseHeader t).inner = t.inner := by
  unfold parseHeader
  split_ifs <;> rfl

/-- A read that brings nothing is passed on; one that brings data is counted first. -/
theorem readData_cases {remaining : Nat} (room : 0 < remaining) (t : NaivePaddedTransport T) :
    ∃ inner r, AsyncRead.pollRead t.inner (dataCap remaining t) = (inner, r) ∧
      (readData remaining t = ({ t with inner }, r) ∧ (∀ bs, r = .ready (.ok bs) → bs = []) ∨
        ∃ bs, bs ≠ [] ∧ r = .ready (.ok bs) ∧ readData remaining t = (takeData t inner bs.length, r)) := by
  obtain ⟨⟨inner, r⟩, polled⟩ : ∃ outcome, AsyncRead.pollRead t.inner (dataCap remaining t) = outcome := ⟨_, rfl⟩
  refine ⟨inner, r, polled, ?_⟩
  rw [readData, if_neg (Nat.ne_of_gt room), polled]
  rcases r with _ | ⟨e | bs⟩
  · exact .inl ⟨rfl, by intro bs same; cases same⟩
  · exact .inl ⟨rfl, by intro bs same; cases same⟩
  · cases bs with
    | nil => exact .inl ⟨rfl, by intro bs same; cases same; rfl⟩
    | cons b bs =>
        refine .inr ⟨b :: bs, List.cons_ne_nil b bs, rfl, ?_⟩
        unfold takeData
        dsimp only
        split_ifs <;> rfl

/-- A read that brings nothing is passed on; one that brings something is followed by another pass. -/
theorem skipPadding_cases (t : NaivePaddedTransport T) :
    ∃ inner r, AsyncRead.pollRead t.inner (min t.readSkipRem 256) = (inner, r) ∧
      (skipPadding t = .leave { t with inner } r ∧ (∀ bs, r = .ready (.ok bs) → bs = []) ∨
        ∃ bs, bs ≠ [] ∧ r = .ready (.ok bs) ∧
          skipPadding t = .again { t with inner, readSkipRem := t.readSkipRem - bs.length }) := by
  obtain ⟨⟨inner, r⟩, polled⟩ : ∃ outcome, AsyncRead.pollRead t.inner (min t.readSkipRem 256) = outcome := ⟨_, rfl⟩
  refine ⟨inner, r, polled, ?_⟩
  unfold skipPadding
  rw [polled]
  rcases r with _ | ⟨e | bs⟩
  · exact .inl ⟨rfl, by intro bs same; cases same⟩
  · exact .inl ⟨rfl, by intro bs same; cases same⟩
  · cases bs with
    | nil => exact .inl ⟨rfl, by intro bs same; cases same; rfl⟩
    | cons b bs => exact .inr ⟨b :: bs, List.cons_ne_nil b bs, rfl, rfl⟩

theorem headerPass_cases {t : NaivePaddedTransport T} (short : t.readHdrPos < 3) :
    ∃ inner r, AsyncRead.pollRead t.inner (t.readHdr.length - t.readHdrPos) = (inner, r) ∧
      (headerPass t = .leave { t with inner } (some r) ∧ (∀ bs, r = .ready (.ok bs) → bs = []) ∨
        ∃ bs, bs ≠ [] ∧ r = .ready (.ok bs) ∧ headerPass t = .again
          { t with
            inner
            readHdr := overwrite t.readHdr t.readHdrPos bs
            readHdrPos := t.readHdrPos + bs.length }) := by
  obtain ⟨⟨inner, r⟩, polled⟩ : ∃ outcome, AsyncRead.pollRead t.inner (t.readHdr.length - t.readHdrPos) = outcome :=
    ⟨_, rfl⟩
  refine ⟨inner, r, polled, ?_⟩
  unfold headerPass
  rw [if_pos short, polled]
  rcases r with _ | ⟨e | bs⟩
  · exact .inl ⟨rfl, by intro bs same; cases same⟩
  · exact .inl ⟨rfl, by intro bs same; cases same⟩
  · cases bs with
    | nil => exact .inl ⟨rfl, by intro bs same; cases same; rfl⟩
    | cons b bs => exact .inr ⟨b :: bs, List.cons_ne_nil b bs, rfl, rfl⟩

theorem headerPass_full {t : NaivePaddedTransport T} (full : ¬ t.readHdrPos < 3) : headerPass t = .leave t none :=
  if_neg full

theorem headerPass_holds (t : NaivePaddedTransport T) :
    (headerPass t).Holds
      (fun next => HeaderOnly t next ∧ 3 - next.readHdrPos < 3 - t.readHdrPos)
      (fun last r => HeaderOnly t last ∧ ∀ bs, r = some (.ready (.ok bs)) → bs = []) := by
  by_cases short : t.readHdrPos < 3
  · obtain ⟨inner, r, -, ⟨same, quiet⟩ | ⟨bs, nonempty, -, same⟩⟩ := headerPass_cases short
    · rw [same]
      exact ⟨rfl, fun bs given => quiet bs (Option.some.inj given)⟩
    · have positive : 0 < bs.length := List.length_pos_iff.mpr nonempty
      rw [same]
      refine ⟨rfl, ?_⟩
      change 3 - (t.readHdrPos + bs.length) < 3 - t.readHdrPos
      omega
  · rw [headerPass_full short]
    exact ⟨rfl, by intro bs h; cases h⟩

/-- What every pass of the header loop keeps holds when it ends. -/
theorem readHeader_rule {I : NaivePaddedTransport T → Prop} {Q : NaivePaddedTransport T → Option (PollResult Bytes) → Prop}
    (pass : ∀ s, I s → (headerPass s).Holds I Q) {t last : NaivePaddedTransport T} {r : Option (PollResult Bytes)}
    (start : I t) (ran : readHeader t = (last, r)) : Q last r := by
  refine runLoop_holds (fun s : NaivePaddedTransport T => 3 - s.readHdrPos) ?_ start (Nat.lt_succ_self _) ran
  intro s its
  apply ((pass s its).and (headerPass_holds s)).imp
  · rintro next ⟨kept, -, less⟩
    exact ⟨kept, less⟩
  · rintro last r ⟨reached, -⟩
    exact reached

theorem readHeader_holds {t last : NaivePaddedTransport T} {r : Option (PollResult Bytes)}
    (ran : readHeader t = (last, r)) :
    HeaderOnly t last ∧ ∀ bs, r = some (.ready (.ok bs)) → bs = [] := by
  refine readHeader_rule (I := HeaderOnly t)
    (Q := fun last r => HeaderOnly t last ∧ ∀ bs, r = some (.ready (.ok bs)) → bs = []) ?_ (.refl t) ran
  intro s same
  apply (headerPass_holds s).imp
  · rintro next ⟨only, -⟩
    exact same.trans only
  · rintro last r ⟨only, quiet⟩
    exact ⟨same.trans only, quiet⟩

omit [AsyncRead T] in
theorem parseHeader_measure {t : NaivePaddedTransport T} (left : t.readFramesDone < paddingFrames)
    (skipped : t.readSkipRem = 0) : readMeasure (parseHeader t) < readMeasure t := by
  have byte : t.paddingSize < 2 ^ 8 := (t.readHdr.getD 2 0).toNat_lt
  unfold parseHeader
  split_ifs <;> simp only [readMeasure, paddingFrames] at left ⊢ <;> omega

theorem readData_fits (remaining : Nat) (t : NaivePaddedTransport T) {bs : Bytes}
    (h : (readData remaining t).2 = .ready (.ok bs)) :
    bs.length ≤ remaining ∧ bs.length ≤ t.readDataRem := by
  rcases Nat.eq_zero_or_pos remaining with rfl | room
  · cases h
    exact ⟨Nat.zero_le _, Nat.zero_le _⟩
  · obtain ⟨inner, r, polled, ⟨same, quiet⟩ | ⟨data, -, rfl, same⟩⟩ := readData_cases room t
    · rw [same] at h
      rw [quiet bs h]
      exact ⟨Nat.zero_le _, Nat.zero_le _⟩
    · rw [same] at h
      cases h
      have fits := AsyncRead.pollRead_fits polled
      rw [dataCap_eq] at fits
      omega

theorem readPass_holds (remaining : Nat) (t : NaivePaddedTransport T) :
    (readPass remaining t).Holds (fun next => readMeasure next < readMeasure t)
      (fun _ r => ∀ bs, r = .ready (.ok bs) → bs.length ≤ remaining) := by
  unfold readPass
  split_ifs with data skip raw
  · intro bs h
    exact (readData_fits remaining t h).1
  · obtain ⟨inner, r, -, ⟨same, quiet⟩ | ⟨bs, nonempty, -, same⟩⟩ := skipPadding_cases t
    · rw [same]
      intro bs given
      rw [quiet bs given]
      exact Nat.zero_le _
    · have positive : 0 < bs.length := List.length_pos_iff.mpr nonempty
      rw [same]
      change (paddingFrames - t.readFramesDone) * 256 + (t.readSkipRem - bs.length) < _
      rw [readMeasure]
      omega
  · intro bs h
    exact AsyncRead.pollRead_fits (Prod.ext rfl h)
  · split
    · rename_i last r ran
      intro bs h
      rw [(readHeader_holds ran).2 bs (congrArg some h)]
      exact Nat.zero_le _
    · rename_i last ran
      have only := (readHeader_holds ran).1
      have same : readMeasure last = readMeasure t := by rw [only]; rfl
      have frames : last.readFramesDone = t.readFramesDone := by rw [only]
      have skips : last.readSkipRem = t.readSkipRem := by rw [only]
      rw [Pass.holds_again, ← same]
      exact parseHeader_measure (by omega) (by omega)

/-- What every pass of the loop of `poll_read` keeps holds when it ends. -/
theorem pollRead_rule {remaining : Nat} {I : NaivePaddedTransport T → Prop}
    {Q : NaivePaddedTransport T → PollResult Bytes → Prop} (pass : ∀ s, I s → (readPass remaining s).Holds I Q)
    {t last : NaivePaddedTransport T} {r : PollResult Bytes} (start : I t) (ran : pollRead t remaining = (last, r)) :
    Q last r := by
  refine runLoop_holds readMeasure ?_ start (Nat.lt_succ_self _) ran
  intro s its
  apply ((pass s its).and (readPass_holds remaining s)).imp
  · rintro next both
    exact both
  · rintro last r ⟨reached, -⟩
    exact reached

instance : AsyncRead (NaivePaddedTransport T) where
  pollRead := pollRead
  pollRead_fits := by
    intro t cap t' bs h
    refine pollRead_rule (I := fun _ => True) (Q := fun _ r => ∀ bs, r = .ready (.ok bs) → bs.length ≤ cap) ?_ trivial h
      bs rfl
    intro s _
    exact (readPass_holds cap s).imp (fun _ _ => trivial) fun _ _ fits => fits

end Read

section Write

variable [AsyncWrite T]

/-- The drain loops of `poll_write` and `poll_flush` differ in this text only. -/
def drainPass (zeroText : String) (t : NaivePaddedTransport T) :
    Pass (NaivePaddedTransport T) Drain :=
  match t.writePending with
  | none => .leave t .cleared
  | some frame =>
      match AsyncWrite.pollWrite t.inner (frame.drop t.writePendingOff) with
      | (inner, .pending) => .leave { t with inner } .blocked
      | (inner, .ready (.error e)) => .leave { t with inner } (.failed e)
      | (inner, .ready (.ok 0)) => .leave { t with inner } (.failed ⟨.writeZero, zeroText⟩)
      | (inner, .ready (.ok n)) =>
          if frame.length ≤ t.writePendingOff + n then
            .again { t with inner, writePending := none, writePendingOff := 0 }
          else .again { t with inner, writePendingOff := t.writePendingOff + n }

def drain (zeroText : String) (t : NaivePaddedTransport T) : NaivePaddedTransport T × Drain :=
  runLoop (drainPass zeroText) (t.unsent.length + 2) .blocked t

/-- Queue the padded frame, count it, and offer it once. -/
def writeFrame (t : NaivePaddedTransport T) (buf : Bytes) : NaivePaddedTransport T × PollResult Nat :=
  match AsyncWrite.pollWrite t.inner (t.nextFrame buf) with
  | (inner, .pending) => ({ t.queueFrame buf with inner }, .ready (.ok (frameData buf).length))
  | (inner, .ready (.error e)) => ({ t.queueFrame buf with inner }, .ready (.error e))
  | (inner, .ready (.ok 0)) => ({ t.queueFrame buf with inner }, .ready (.ok (frameData buf).length))
  | (inner, .ready (.ok n)) =>
      if (t.nextFrame buf).length ≤ n then
        ({ t.queueFrame buf with inner, writePending := none, writePendingOff := 0 },
          .ready (.ok (frameData buf).length))
      else ({ t.queueFrame buf with inner, writePendingOff := n }, .ready (.ok (frameData buf).length))

def pollWrite (t : NaivePaddedTransport T) (buf : Bytes) : NaivePaddedTransport T × PollResult Nat :=
  match drain "transport write returned zero" t with
  | (t, .blocked) => (t, .pending)
  | (t, .failed e) => (t, .ready (.error e))
  | (t, .cleared) =>
      if paddingFrames ≤ t.writeFramesDone then
        match AsyncWrite.pollWrite t.inner buf with
        | (inner, r) => ({ t with inner }, r)
      else writeFrame t buf

def pollFlush (t : NaivePaddedTransport T) : NaivePaddedTransport T × PollResult Unit :=
  match drain "transport write returned zero during flush" t with
  | (t, .blocked) => (t, .pending)
  | (t, .failed e) => (t, .ready (.error e))
  | (t, .cleared) =>
      match AsyncWrite.pollFlush t.inner with
      | (inner, r) => ({ t with inner }, r)

def pollShutdown (t : NaivePaddedTransport T) : NaivePaddedTransport T × PollResult Unit :=
  match pollFlush t with
  | (t, .pending) => (t, .pending)
  | (t, .ready (.error e)) => (t, .ready (.error e))
  | (t, .ready (.ok ())) =>
      match AsyncWrite.pollShutdown t.inner with
      | (inner, r) => ({ t with inner }, r)

omit [AsyncWrite T] in
theorem drainMeasure_lt (t : NaivePaddedTransport T) : drainMeasure t < t.unsent.length + 2 := by
  unfold drainMeasure unsent
  split <;> simp only [List.length_nil, List.length_drop] <;> omega

theorem drainPass_idle {zeroText : String} {t : NaivePaddedTransport T} (idle : t.writePending = none) :
    drainPass zeroText t = .leave t .cleared := by
  rw [drainPass, idle]

/-- A write that takes nothing ends the loop; one that takes something is followed by another pass. -/
theorem drainPass_cases (zeroText : String) {t : NaivePaddedTransport T} {frame : Bytes}
    (queued : t.writePending = some frame) :
    ∃ inner r, AsyncWrite.pollWrite t.inner (frame.drop t.writePendingOff) = (inner, r) ∧
      (drainPass zeroText t = .leave { t with inner } (stalled zeroText r) ∧ (∀ n, r = .ready (.ok n) → n = 0) ∨
        ∃ n, 0 < n ∧ r = .ready (.ok n) ∧ drainPass zeroText t = .again (advance t frame inner n)) := by
  obtain ⟨⟨inner, r⟩, polled⟩ : ∃ outcome, AsyncWrite.pollWrite t.inner (frame.drop t.writePendingOff) = outcome :=
    ⟨_, rfl⟩
  refine ⟨inner, r, polled, ?_⟩
  rw [drainPass, queued]
  dsimp only
  rw [polled]
  rcases r with _ | ⟨e | n⟩
  · exact .inl ⟨rfl, by intro n same; cases same⟩
  · exact .inl ⟨rfl, by intro n same; cases same⟩
  · cases n with
    | zero => exact .inl ⟨rfl, by intro n same; cases same; rfl⟩
    | succ n =>
        refine .inr ⟨n + 1, Nat.succ_pos n, rfl, ?_⟩
        by_cases complete : frame.length ≤ t.writePendingOff + (n + 1)
        · rw [advance, if_pos complete]
          exact if_pos complete
        · rw [advance, if_neg complete, queued]
          exact if_neg complete

/-- However the first offer of a frame goes, the frame is queued from where the inner writer has got to. -/
theorem writeFrame_cases (t : NaivePaddedTransport T) (buf : Bytes) :
    ∃ inner r, AsyncWrite.pollWrite t.inner (t.nextFrame buf) = (inner, r) ∧
      ((∃ e, r = .ready (.error e) ∧ writeFrame t buf = ({ t.queueFrame buf with inner }, .ready (.error e))) ∨
        (r = .pending ∨ r = .ready (.ok 0)) ∧
          writeFrame t buf = ({ t.queueFrame buf with inner }, .ready (.ok (frameData buf).length)) ∨
        ∃ n, 0 < n ∧ r = .ready (.ok n) ∧
          writeFrame t buf = (advance (t.queueFrame buf) (t.nextFrame buf) inner n,
            .ready (.ok (frameData buf).length))) := by
  obtain ⟨⟨inner, r⟩, polled⟩ : ∃ outcome, AsyncWrite.pollWrite t.inner (t.nextFrame buf) = outcome := ⟨_, rfl⟩
  refine ⟨inner, r, polled, ?_⟩
  rw [writeFrame, polled]
  rcases r with _ | ⟨e | n⟩
  · exact .inr (.inl ⟨.inl rfl, rfl⟩)
  · exact .inl ⟨e, rfl, rfl⟩
  · cases n with
    | zero => exact .inr (.inl ⟨.inr rfl, rfl⟩)
    | succ n =>
        refine .inr (.inr ⟨n + 1, Nat.succ_pos n, rfl, ?_⟩)
        have offset : (t.queueFrame buf).writePendingOff + (n + 1) = n + 1 := Nat.zero_add _
        by_cases complete : (t.nextFrame buf).length ≤ n + 1
        · rw [advance, offset, if_pos complete]
          exact if_pos complete
        · rw [advance, offset, if_neg complete]
          exact if_neg complete

theorem drainPass_holds (zeroText : String) (t : NaivePaddedTransport T) :
    (drainPass zeroText t).Holds
      (fun next => DrainOnly t next ∧ drainMeasure next < drainMeasure t)
      (fun last d => DrainOnly t last ∧ (d = .cleared → last.writePending = none)) := by
  cases queued : t.writePending with
  | none =>
      rw [drainPass_idle queued]
      exact ⟨rfl, fun _ => queued⟩
  | some frame =>
      obtain ⟨inner, r, -, ⟨same, -⟩ | ⟨n, positive, -, same⟩⟩ := drainPass_cases zeroText queued
      · rw [same]
        exact ⟨rfl, fun cleared => absurd cleared (stalled_ne_cleared zeroText r)⟩
      · have start : drainMeasure t = frame.length - t.writePendingOff + 1 := by rw [drainMeasure, queued]
        rw [same, Pass.holds_again, start, advance]
        split_ifs with complete
        · exact ⟨rfl, Nat.succ_pos _⟩
        · refine ⟨rfl, ?_⟩
          simp only [drainMeasure, queued]
          omega

/-- What every pass of the drain loop keeps holds when it ends. -/
theorem drain_rule {zeroText : String} {I : NaivePaddedTransport T → Prop} {Q : NaivePaddedTransport T → Drain → Prop}
    (pass : ∀ s, I s → (drainPass zeroText s).Holds I Q) {t last : NaivePaddedTransport T} {d : Drain} (start : I t)
    (ran : drain zeroText t = (last, d)) : Q last d := by
  refine runLoop_holds drainMeasure ?_ start (drainMeasure_lt t) ran
  intro s its
  apply ((pass s its).and (drainPass_holds zeroText s)).imp
  · rintro next ⟨kept, -, less⟩
    exact ⟨kept, less⟩
  · rintro last d ⟨reached, -⟩
    exact reached

theorem drain_holds {zeroText : String} {t last : NaivePaddedTransport T} {d : Drain}
    (ran : drain zeroText t = (last, d)) :
    DrainOnly t last ∧ (d = .cleared → last.writePending = none) := by
  refine drain_rule (I := DrainOnly t)
    (Q := fun last d => DrainOnly t last ∧ (d = .cleared → last.writePending = none)) ?_ (.refl t) ran
  intro s same
  apply (drainPass_holds zeroText s).imp
  · rintro next ⟨only, -⟩
    exact same.trans only
  · rintro last d ⟨only, cleared⟩
    exact ⟨same.trans only, cleared⟩

theorem writeFrame_le (t : NaivePaddedTransport T) (buf : Bytes) {n : Nat}
    (h : (writeFrame t buf).2 = .ready (.ok n)) : n = min buf.length maxPaddedPayload := by
  obtain ⟨inner, r, -, ⟨e, -, same⟩ | ⟨-, same⟩ | ⟨m, -, -, same⟩⟩ := writeFrame_cases t buf
  · rw [same] at h
    cases h
  · rw [same] at h
    cases h
    exact length_frameData buf
  · rw [same] at h
    cases h
    exact length_frameData buf

instance : AsyncWrite (NaivePaddedTransport T) where
  pollWrite := pollWrite
  pollFlush := pollFlush
  pollShutdown := pollShutdown
  pollWrite_le := by
    intro t buf t' n h
    replace h := congrArg Prod.snd h
    unfold pollWrite at h
    split at h
    · cases h
    · cases h
    · split_ifs at h with raw
      · exact AsyncWrite.pollWrite_le (Prod.ext rfl h)
      · rw [writeFrame_le _ _ h]
        exact Nat.min_le_left _ _

end Write

end NaivePaddedTransport

end ServerNaive
