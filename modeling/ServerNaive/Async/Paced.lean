import ServerNaive.Async.Stream

/-! Streams with a fixed pace, to run code on: each entry of `pace` answers one call,
`0` by waiting and `n + 1` by moving at most that many bytes. At the end of the pace
every call moves all it can. -/
namespace AsyncIo

structure PacedReader where
  bytes : Bytes
  pace : List Nat
  deriving DecidableEq

namespace PacedReader

/-- How many bytes the next call may move; `none` makes the caller wait. -/
def step (cap : Nat) : List Nat → Option Nat
  | [] => some cap
  | 0 :: _ => none
  | (n + 1) :: _ => some (min (n + 1) cap)

def pollRead (r : PacedReader) (cap : Nat) : PacedReader × PollResult Bytes :=
  match step cap r.pace with
  | none => ({ r with pace := r.pace.tail }, .pending)
  | some n => (⟨r.bytes.drop n, r.pace.tail⟩, .ready (.ok (r.bytes.take n)))

theorem step_le {cap n : Nat} {pace : List Nat} (h : step cap pace = some n) : n ≤ cap := by
  match pace, h with
  | [], h => cases h; exact le_rfl
  | (m + 1) :: _, h => cases h; exact Nat.min_le_right _ _

theorem step_pos {cap n : Nat} {pace : List Nat} (room : 0 < cap) (h : step cap pace = some n) :
    0 < n := by
  match pace, h with
  | [], h => cases h; exact room
  | (m + 1) :: _, h => cases h; exact Nat.lt_min.mpr ⟨Nat.succ_pos m, room⟩

theorem pollRead_cases {r r' : PacedReader} {cap : Nat} {outcome : PollResult Bytes}
    (h : pollRead r cap = (r', outcome)) :
    (outcome = .pending ∧ r'.bytes = r.bytes) ∨
      ∃ n, step cap r.pace = some n ∧ outcome = .ready (.ok (r.bytes.take n)) ∧
        r'.bytes = r.bytes.drop n := by
  unfold pollRead at h
  split at h
  · cases h
    exact .inl ⟨rfl, rfl⟩
  · rename_i n moved
    cases h
    exact .inr ⟨n, moved, rfl, rfl⟩

instance : ByteSource PacedReader where
  pollRead := pollRead
  pollRead_fits h := by
    obtain ⟨same, _⟩ | ⟨n, moved, same, _⟩ := pollRead_cases h
    · cases same
    · cases same
      exact (List.length_take_le _ _).trans (step_le moved)
  rest r := r.bytes
  pending_rest h := by
    obtain ⟨_, kept⟩ | ⟨n, _, same, _⟩ := pollRead_cases h
    · exact kept
    · cases same
  ready_rest h := by
    obtain ⟨same, _⟩ | ⟨n, _, same, left⟩ := pollRead_cases h
    · cases same
    · cases same
      rw [left]
      exact List.take_append_drop _ _
  end_rest room h := by
    obtain ⟨same, _⟩ | ⟨n, moved, same, _⟩ := pollRead_cases h
    · cases same
    · have positive := step_pos room moved
      rcases List.take_eq_nil_iff.mp (Except.ok.inj (Poll.ready.inj same)).symm with zero | empty
      · omega
      · exact empty
  never_fails h := by
    obtain ⟨same, _⟩ | ⟨n, _, same, _⟩ := pollRead_cases h <;> cases same

end PacedReader

structure PacedWriter where
  pace : List Nat
  deriving DecidableEq

namespace PacedWriter

def pollWrite (w : PacedWriter) (buf : Bytes) : PacedWriter × PollResult Nat :=
  match PacedReader.step buf.length w.pace with
  | none => (⟨w.pace.tail⟩, .pending)
  | some n => (⟨w.pace.tail⟩, .ready (.ok n))

instance : AsyncWrite PacedWriter where
  pollWrite := pollWrite
  pollFlush w := (w, .ready (.ok ()))
  pollShutdown w := (w, .ready (.ok ()))
  pollWrite_le h := by
    unfold pollWrite at h
    split at h
    · cases h
    · rename_i moved
      cases h
      exact PacedReader.step_le moved

theorem obliging : Obliging PacedWriter where
  write w buf e := by
    change (pollWrite w buf).2 ≠ _
    unfold pollWrite
    split <;> exact nofun
  progress w buf nonempty := by
    change (pollWrite w buf).2 ≠ _
    unfold pollWrite
    split
    · exact nofun
    · rename_i moved
      intro same
      cases same
      exact absurd (PacedReader.step_pos (List.length_pos_iff.mpr nonempty) moved) (Nat.lt_irrefl 0)
  flush w e := nofun
  shutdown w e := nofun

end PacedWriter

/-- Both halves of a stream with its answers laid down. A list of answers that has run
out makes the reader wait and takes whatever is written. -/
structure Scripted where
  reads : List (PollResult Bytes)
  writes : List (PollResult Nat)
  deriving DecidableEq

namespace Scripted

def pollRead (s : Scripted) (cap : Nat) : Scripted × PollResult Bytes :=
  match s.reads with
  | [] => (s, .pending)
  | .ready (.ok bs) :: reads =>
      if bs.length ≤ cap then ({ s with reads }, .ready (.ok bs))
      else ({ s with reads := .ready (.ok (bs.drop cap)) :: reads }, .ready (.ok (bs.take cap)))
  | r :: reads => ({ s with reads }, r)

def pollWrite (s : Scripted) (buf : Bytes) : Scripted × PollResult Nat :=
  match s.writes with
  | [] => (s, .ready (.ok buf.length))
  | .ready (.ok n) :: writes => ({ s with writes }, .ready (.ok (min n buf.length)))
  | r :: writes => ({ s with writes }, r)

instance : AsyncRead Scripted where
  pollRead := pollRead
  pollRead_fits h := by
    unfold pollRead at h
    split at h
    · cases h
    · split_ifs at h with fits
      · cases h
        exact fits
      · cases h
        exact List.length_take_le _ _
    · rename_i r reads other _
      cases h
      exact (other _ rfl).elim

instance : AsyncWrite Scripted where
  pollWrite := pollWrite
  pollFlush s := (s, .ready (.ok ()))
  pollShutdown s := (s, .ready (.ok ()))
  pollWrite_le h := by
    unfold pollWrite at h
    split at h
    · cases h
      exact le_rfl
    · cases h
      exact Nat.min_le_right _ _
    · rename_i r writes other _
      cases h
      exact (other _ rfl).elim

end Scripted

end AsyncIo
