import ServerNaive.Transport.Padding

/-! The stream format in its own terms: what a list of accepted writes looks like on
the wire, and which bytes a wire carries. No transport state occurs here. -/
namespace ServerNaive.PaddingCodec
open AsyncIo NaivePaddedTransport

/-- One accepted write and the padding that was drawn for it. -/
structure Accepted where
  data : Bytes
  pad : Bytes
  deriving DecidableEq

def payload (ws : List Accepted) : Bytes := ws.flatMap Accepted.data

/-- The wire bytes of one write when `done` writes came before it. -/
def wireOf (done : Nat) (w : Accepted) : Bytes :=
  if done < paddingFrames then frameBytes w.data w.pad else w.data

def wireFrom : Nat → List Accepted → Bytes
  | _, [] => []
  | done, w :: ws => wireOf done w ++ wireFrom (done + 1) ws

/-- What a wire carries when `left` frames are still to come. A wire cut off inside
a frame carries the data bytes that are there. -/
def parseFrames : Nat → Bytes → Bytes
  | 0, wire => wire
  | left + 1, hi :: lo :: pad :: wire =>
      wire.take (ofBe16 hi lo) ++ parseFrames left (wire.drop (ofBe16 hi lo + pad.toNat))
  | _ + 1, _ => []

/-- The same wire piece by piece: the data of each frame whose header is there, then the
raw bytes. -/
def parsePieces : Nat → Bytes → List Bytes
  | 0, wire => [wire]
  | left + 1, hi :: lo :: pad :: wire =>
      wire.take (ofBe16 hi lo) :: parsePieces left (wire.drop (ofBe16 hi lo + pad.toNat))
  | _ + 1, _ => []

theorem flatten_parsePieces (left : Nat) (wire : Bytes) :
    (parsePieces left wire).flatten = parseFrames left wire := by
  induction left generalizing wire with
  | zero => simp only [parsePieces, parseFrames, List.flatten_cons, List.flatten_nil, List.append_nil]
  | succ left ih =>
      match wire with
      | [] => rfl
      | [_] => rfl
      | [_, _] => rfl
      | hi :: lo :: pad :: wire => simp only [parsePieces, parseFrames, List.flatten_cons, ih]

/-- The pieces that hold anything. -/
def solid (pieces : List Bytes) : List Bytes := pieces.filter (· ≠ [])

@[simp] theorem solid_empty (pieces : List Bytes) : solid ([] :: pieces) = solid pieces := rfl

theorem solid_cons {piece : Bytes} (some_bytes : piece ≠ []) (pieces : List Bytes) :
    solid (piece :: pieces) = piece :: solid pieces :=
  List.filter_cons_of_pos (by simpa using some_bytes)

@[simp] theorem solid_cons_solid (piece : Bytes) (pieces : List Bytes) :
    solid (piece :: solid pieces) = solid (piece :: pieces) := by
  have twice : solid (solid pieces) = solid pieces := by
    simp only [solid, List.filter_filter, Bool.and_self]
  by_cases empty : piece = []
  · rw [empty, solid_empty, solid_empty, twice]
  · rw [solid_cons empty, solid_cons empty, twice]

theorem flatten_solid (pieces : List Bytes) : (solid pieces).flatten = pieces.flatten := by
  induction pieces with
  | nil => rfl
  | cons piece pieces ih =>
      by_cases empty : piece = []
      · rw [empty, solid_empty, ih]
        rfl
      · rw [solid_cons empty, List.flatten_cons, List.flatten_cons, ih]

/-- The sizes that a frame header can express. -/
def Accepted.Fits (w : Accepted) : Prop :=
  w.data.length ≤ maxPaddedPayload ∧ w.pad.length ≤ 255

/-- Every write that is framed fits its header; the raw ones are not limited. -/
def FramesFit (done : Nat) (ws : List Accepted) : Prop :=
  ∀ w ∈ ws.take (paddingFrames - done), w.Fits

@[simp] theorem payload_append (xs ys : List Accepted) :
    payload (xs ++ ys) = payload xs ++ payload ys := List.flatMap_append

@[simp] theorem payload_singleton (w : Accepted) : payload [w] = w.data := by
  simp only [payload, List.flatMap_cons, List.flatMap_nil, List.append_nil]

theorem wireFrom_append (done : Nat) (xs ys : List Accepted) :
    wireFrom done (xs ++ ys) = wireFrom done xs ++ wireFrom (done + xs.length) ys := by
  induction xs generalizing done with
  | nil => rfl
  | cons x xs ih =>
      simp only [List.cons_append, wireFrom, ih, List.append_assoc, List.length_cons]
      rw [Nat.add_right_comm, Nat.add_assoc]

theorem wireFrom_snoc (done : Nat) (ws : List Accepted) (w : Accepted) :
    wireFrom done (ws ++ [w]) = wireFrom done ws ++ wireOf (done + ws.length) w := by
  rw [wireFrom_append]
  simp only [wireFrom, List.append_nil]

theorem wireFrom_raw {done : Nat} (raw : paddingFrames ≤ done) (ws : List Accepted) :
    wireFrom done ws = payload ws := by
  induction ws generalizing done with
  | nil => rfl
  | cons w ws ih =>
      rw [wireFrom, wireOf, if_neg (Nat.not_lt.mpr raw), ih (Nat.le_succ_of_le raw)]
      rfl

theorem FramesFit.nil (done : Nat) : FramesFit done [] := by
  intro w member
  simp only [List.take_nil, List.not_mem_nil] at member

theorem FramesFit.snoc {ws : List Accepted} {w : Accepted} (fit : FramesFit 0 ws)
    (last : ws.length < paddingFrames → w.Fits) : FramesFit 0 (ws ++ [w]) := by
  intro v member
  rw [List.take_append] at member
  rcases List.mem_append.mp member with old | new
  · exact fit v old
  · have one := List.mem_of_mem_take new
    rw [List.mem_singleton.mp one]
    apply last
    by_contra full
    rw [Nat.sub_zero, Nat.sub_eq_zero_of_le (Nat.le_of_not_lt full), List.take_zero] at new
    cases new

theorem parseFrames_frame {left : Nat} {w : Accepted} (fits : w.Fits) (wire : Bytes) :
    parseFrames (left + 1) (frameBytes w.data w.pad ++ wire) = w.data ++ parseFrames left wire := by
  have pads : (UInt8.ofNat w.pad.length).toNat = w.pad.length := by
    have small : w.pad.length < 256 := Nat.lt_succ_of_le fits.2
    simp only [UInt8.toNat_ofNat', Nat.reducePow, Nat.mod_eq_of_lt small]
  have size := ofBe16_be16 fits.1
  simp only [frameBytes, be16, List.cons_append, List.nil_append, List.append_assoc, parseFrames,
    size, pads, List.take_left]
  rw [← List.append_assoc, ← List.length_append, List.drop_left]

@[simp] theorem parseFrames_nil (left : Nat) : parseFrames left [] = [] := by
  cases left <;> rfl

/-- Reading the wire of a list of writes gives back their data, in order. -/
theorem parseFrames_wireFrom {done : Nat} {ws : List Accepted} (fit : FramesFit done ws) :
    parseFrames (paddingFrames - done) (wireFrom done ws) = payload ws := by
  induction ws generalizing done with
  | nil => exact parseFrames_nil _
  | cons w ws ih =>
      by_cases framed : done < paddingFrames
      · obtain ⟨left, same⟩ : ∃ left, paddingFrames - done = left + 1 :=
          ⟨paddingFrames - done - 1, by omega⟩
        have next : paddingFrames - (done + 1) = left := by omega
        rw [FramesFit, same, List.take_succ_cons] at fit
        have rest : FramesFit (done + 1) ws := by
          intro v member
          rw [next] at member
          exact fit v (List.mem_cons_of_mem w member)
        rw [same, wireFrom, wireOf, if_pos framed, parseFrames_frame (fit w List.mem_cons_self),
          ← next, ih rest]
        rfl
      · have raw : paddingFrames - done = 0 := by omega
        rw [raw, parseFrames, wireFrom_raw (Nat.le_of_not_lt framed)]

end ServerNaive.PaddingCodec
