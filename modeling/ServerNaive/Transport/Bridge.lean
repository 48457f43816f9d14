import ServerNaive.Async.Pipe
import ServerNaive.Async.Schedule

/-! The bridge between the session of a client and the tunnel task, as one task among the client
and the tunnel, which both may do what they like. Each step of the bridge ends at an await. -/
namespace ServerNaive
open AsyncIo Chunk

def bridgeBuf : Nat := 64 * 1024

/-- Where `run_session_bridge` waits: in its `select!`, in the write of one arm, or nowhere any
more. -/
inductive BridgePhase (γ : Type) where
  | selecting
  | writingUp (rest : γ)
  | writingDown (rest : γ)
  | left
  deriving DecidableEq

/-- What `read_body_or_idle` returns: a chunk of the body, its end, or that the client is lost. -/
inductive BodyRead (γ : Type) where
  | chunk (bytes : γ)
  | ended
  | failed
  deriving DecidableEq

/-- What the session holds of its client: the body chunks that have arrived, whether the client ended
its side and whether a read returns that end, whether the client was lost, and how much more it lets the
session send. What was given to the client is kept as history. -/
structure DownstreamSession (γ : Type) where
  inbox : List γ
  fin : Bool
  bodyEnd : Bool
  lost : Bool
  window : Nat
  unread : Nat
  given : γ
  endMarks : Nat
  deriving DecidableEq

/-- `read_body_or_idle(false)`, or `none` while it waits. Once the body is read it returns the end of the
body or idles until the client is lost. -/
def DownstreamSession.readBodyOrIdle {γ : Type} (s : DownstreamSession γ) :
    Option (BodyRead γ × DownstreamSession γ) :=
  if s.lost then some (.failed, s)
  else match s.inbox with
    | bytes :: inbox => some (.chunk bytes, { s with inbox })
    | [] => if s.bodyEnd then some (.ended, s) else none

/-- A read returns the end of the client's side, instead of idling behind it. -/
def DownstreamSession.ReportsEnd {γ : Type} (s : DownstreamSession γ) : Prop := s.fin = true → s.bodyEnd = true

/-- The session, the flags of the loop, the two halves of the pipe and whether the tunnel has
dropped its end. What was put in the upload half is kept as history. -/
structure Bridge (γ : Type) extends DownstreamSession γ where
  phase : BridgePhase γ
  upEof : Bool
  downEof : Bool
  upload : Pipe γ
  download : Pipe γ
  forwarded : γ
  tunnelOver : Bool
  deriving DecidableEq

/-- The configured buffer size, and how much the client lets the session send at first. -/
structure BridgeConfig where
  bufferSize : Nat
  window : Nat
  opens : 0 < window

def BridgeConfig.capacity (cfg : BridgeConfig) : Nat := max cfg.bufferSize bridgeBuf

theorem BridgeConfig.capacity_pos (cfg : BridgeConfig) : 0 < cfg.capacity :=
  Nat.lt_of_lt_of_le (by decide) (Nat.le_max_right cfg.bufferSize bridgeBuf)

/-- A step of the bridge, or of its surroundings. The end of the client's side comes with what the session
makes of it: whether `read_body_or_idle` returns it, or idles. -/
inductive BridgeEvent (γ : Type) where
  | bridge
  | clientSends (chunk : γ)
  | clientEnds (returned : Bool)
  | clientLost
  | clientReads (n : Nat)
  | tunnelReads (n : Nat)
  | tunnelWrites (chunk : γ)
  | tunnelShuts
  | tunnelEnds
  deriving DecidableEq

namespace Bridge

variable {γ : Type} [Chunk γ]

def start (cfg : BridgeConfig) : Bridge γ where
  inbox := []
  fin := false
  bodyEnd := false
  lost := false
  window := cfg.window
  unread := 0
  given := empty
  endMarks := 0
  phase := .selecting
  upEof := false
  downEof := false
  upload := .new
  download := .new
  forwarded := empty
  tunnelOver := false

/-- `io_write.shutdown()`, which does not wait. -/
def endUpload (s : Bridge γ) : Bridge γ := { s with upload := s.upload.close, upEof := true }

/-- The upload arm of the `select!`, if what it waits for is there. -/
def uploadArm (s : Bridge γ) : Option (Bridge γ) :=
  if s.upEof then none
  else match s.readBodyOrIdle with
    | some (.chunk bytes, session) => some { s with toDownstreamSession := session, phase := .writingUp bytes }
    | some (.ended, _) => some s.endUpload
    | some (.failed, _) => some s.endUpload
    | none => none

/-- The download arm; at the end of the half it writes the end of the response. -/
def downloadArm (s : Bridge γ) : Option (Bridge γ) :=
  if s.downEof then none
  else if 0 < size s.download.data then
    some { s with
      phase := .writingDown (take bridgeBuf s.download.data)
      download := s.download.read bridgeBuf }
  else if s.download.closed then some { s with downEof := true, endMarks := s.endMarks + 1 }
  else none

/-- The end of the bridge drops its end of the pipe. -/
def leave (s : Bridge γ) : Bridge γ :=
  { s with phase := .left, upload := s.upload.close, download := s.download.close }

/-- `io_write.write_all`. -/
def writeUp (capacity : Nat) (rest : γ) (s : Bridge γ) : Option (Bridge γ) :=
  if size rest = 0 then some { s with phase := .selecting }
  else if s.upload.closed then some { s with phase := .selecting, upEof := true }
  else if s.upload.room capacity = 0 then none
  else some { s with
    phase := .writingUp (drop (s.upload.room capacity) rest)
    upload := s.upload.write (take (s.upload.room capacity) rest)
    forwarded := append s.forwarded (take (s.upload.room capacity) rest) }

/-- `write_response_body`, which waits for the client to let it send. -/
def writeDown (rest : γ) (s : Bridge γ) : Option (Bridge γ) :=
  if size rest = 0 then some { s with phase := .selecting }
  else if s.lost then some { s with phase := .selecting, downEof := true }
  else if s.window = 0 then none
  else some { s with
    phase := .writingDown (drop s.window rest)
    window := s.window - min s.window (size rest)
    unread := s.unread + min s.window (size rest)
    given := append s.given (take s.window rest) }

/-- The next step of `run_session_bridge`; the `select!` is biased. -/
def advance (capacity : Nat) (s : Bridge γ) : Option (Bridge γ) :=
  match s.phase with
  | .selecting =>
      if s.upEof ∧ s.downEof then some s.leave
      else match s.uploadArm with
        | some t => some t
        | none => s.downloadArm
  | .writingUp rest => s.writeUp capacity rest
  | .writingDown rest => s.writeDown rest
  | .left => none

def step (cfg : BridgeConfig) (s : Bridge γ) : BridgeEvent γ → Option (Bridge γ)
  | .bridge => s.advance cfg.capacity
  | .clientSends chunk => if s.fin ∨ s.lost then none else some { s with inbox := s.inbox ++ [chunk] }
  | .clientEnds returned =>
      if s.fin ∨ s.lost then none else some { s with fin := true, bodyEnd := returned }
  | .clientLost => some { s with lost := true, inbox := [] }
  | .clientReads n =>
      if 0 < n ∧ n ≤ s.unread then some { s with unread := s.unread - n, window := s.window + n } else none
  | .tunnelReads n =>
      if s.tunnelOver = false ∧ 0 < n ∧ n ≤ size s.upload.data then some { s with upload := s.upload.read n }
      else none
  | .tunnelWrites chunk =>
      if s.download.closed = false ∧ 0 < size chunk ∧ size chunk ≤ s.download.room cfg.capacity then
        some { s with download := s.download.write chunk }
      else none
  | .tunnelShuts => if s.tunnelOver then none else some { s with download := s.download.close }
  | .tunnelEnds =>
      if s.tunnelOver then none
      else some { s with tunnelOver := true, upload := s.upload.close, download := s.download.close }

/-- What the bridge has taken from the session and not yet put in the upload half. -/
def upRest (s : Bridge γ) : Nat :=
  match s.phase with
  | .writingUp rest => size rest
  | _ => 0

/-- What it has taken from the download half and not yet given to the session. -/
def downRest (s : Bridge γ) : Nat :=
  match s.phase with
  | .writingDown rest => size rest
  | _ => 0

/-- Everything a step of the bridge can do, with the guard it does it under. -/
inductive Moves (capacity : Nat) (s : Bridge γ) : Bridge γ → Prop
  | leave (phase : s.phase = .selecting) (up : s.upEof = true) (down : s.downEof = true) : Moves capacity s s.leave
  | ended (phase : s.phase = .selecting) (up : s.upEof = false)
      (why : s.lost = true ∨ s.inbox = [] ∧ s.bodyEnd = true) :
      Moves capacity s s.endUpload
  | take (chunk : γ) (inbox : List γ) (phase : s.phase = .selecting) (up : s.upEof = false) (lost : s.lost = false)
      (arrived : s.inbox = chunk :: inbox) : Moves capacity s { s with inbox, phase := .writingUp chunk }
  | fetch (phase : s.phase = .selecting) (idle : s.upEof = true ∨ s.lost = false ∧ s.inbox = [] ∧ s.bodyEnd = false)
      (down : s.downEof = false) (data : 0 < size s.download.data) :
      Moves capacity s { s with
        phase := .writingDown (Chunk.take bridgeBuf s.download.data)
        download := s.download.read bridgeBuf }
  | finish (phase : s.phase = .selecting) (idle : s.upEof = true ∨ s.lost = false ∧ s.inbox = [] ∧ s.bodyEnd = false)
      (down : s.downEof = false) (data : size s.download.data = 0) (closed : s.download.closed = true) :
      Moves capacity s { s with downEof := true, endMarks := s.endMarks + 1 }
  | upDone (rest : γ) (phase : s.phase = .writingUp rest) (done : size rest = 0) :
      Moves capacity s { s with phase := .selecting }
  | upBroken (rest : γ) (phase : s.phase = .writingUp rest) (more : 0 < size rest) (closed : s.upload.closed = true) :
      Moves capacity s { s with phase := .selecting, upEof := true }
  | up (rest : γ) (phase : s.phase = .writingUp rest) (more : 0 < size rest) (opened : s.upload.closed = false)
      (room : 0 < s.upload.room capacity) :
      Moves capacity s { s with
        phase := .writingUp (drop (s.upload.room capacity) rest)
        upload := s.upload.write (Chunk.take (s.upload.room capacity) rest)
        forwarded := append s.forwarded (Chunk.take (s.upload.room capacity) rest) }
  | downDone (rest : γ) (phase : s.phase = .writingDown rest) (done : size rest = 0) :
      Moves capacity s { s with phase := .selecting }
  | downBroken (rest : γ) (phase : s.phase = .writingDown rest) (more : 0 < size rest) (lost : s.lost = true) :
      Moves capacity s { s with phase := .selecting, downEof := true }
  | down (rest : γ) (phase : s.phase = .writingDown rest) (more : 0 < size rest) (lost : s.lost = false)
      (window : 0 < s.window) :
      Moves capacity s { s with
        phase := .writingDown (drop s.window rest)
        window := s.window - min s.window (size rest)
        unread := s.unread + min s.window (size rest)
        given := append s.given (Chunk.take s.window rest) }

omit [Chunk γ] in
/-- Everything `read_body_or_idle` can answer, with what it answers it to. -/
theorem readBodyOrIdle_cases (s : DownstreamSession γ) :
    s.lost = true ∧ s.readBodyOrIdle = some (.failed, s) ∨
    (∃ bytes inbox, s.lost = false ∧ s.inbox = bytes :: inbox ∧
      s.readBodyOrIdle = some (.chunk bytes, { s with inbox })) ∨
    s.inbox = [] ∧ s.bodyEnd = true ∧ s.readBodyOrIdle = some (.ended, s) ∨
    s.lost = false ∧ s.inbox = [] ∧ s.bodyEnd = false ∧ s.readBodyOrIdle = none := by
  unfold DownstreamSession.readBodyOrIdle
  rcases s with ⟨inbox, fin, bodyEnd, lost, window, unread, given, endMarks⟩
  cases lost with
  | true => exact .inl ⟨rfl, rfl⟩
  | false =>
      right
      cases inbox with
      | cons bytes inbox => exact .inl ⟨bytes, inbox, rfl, rfl, rfl⟩
      | nil =>
          right
          cases bodyEnd with
          | true => exact .inl ⟨rfl, rfl, rfl⟩
          | false => exact .inr ⟨rfl, rfl, rfl, rfl⟩

omit [Chunk γ] in
theorem uploadArm_none {s : Bridge γ} (idle : s.uploadArm = none) :
    s.upEof = true ∨ s.lost = false ∧ s.inbox = [] ∧ s.bodyEnd = false := by
  by_cases up : s.upEof = true
  · exact .inl up
  · right
    rw [uploadArm, if_neg up] at idle
    obtain ⟨-, read⟩ | ⟨bytes, inbox, -, -, read⟩ | ⟨-, -, read⟩ | ⟨lost, empty, bodyEnd, -⟩ :=
      readBodyOrIdle_cases s.toDownstreamSession
    · rw [read] at idle
      cases idle
    · rw [read] at idle
      cases idle
    · rw [read] at idle
      cases idle
    · exact ⟨lost, empty, bodyEnd⟩

theorem uploadArm_moves {capacity : Nat} {s t : Bridge γ} (phase : s.phase = .selecting)
    (taken : s.uploadArm = some t) : Moves capacity s t := by
  unfold uploadArm at taken
  split_ifs at taken with open_up
  have up := Bool.not_eq_true _ ▸ open_up
  obtain ⟨lost, read⟩ | ⟨bytes, inbox, connected, arrived, read⟩ | ⟨empty, bodyEnd, read⟩ | ⟨-, -, -, read⟩ :=
    readBodyOrIdle_cases s.toDownstreamSession
  · rw [read] at taken
    cases taken
    exact .ended phase up (.inl lost)
  · rw [read] at taken
    cases taken
    exact .take bytes inbox phase up connected arrived
  · rw [read] at taken
    cases taken
    exact .ended phase up (.inr ⟨empty, bodyEnd⟩)
  · rw [read] at taken
    cases taken

theorem advance_moves {capacity : Nat} {s t : Bridge γ} (moved : s.advance capacity = some t) : Moves capacity s t := by
  unfold advance at moved
  split at moved
  · rename_i phase
    split_ifs at moved with both
    · cases moved
      exact .leave phase both.1 both.2
    · split at moved
      · rename_i next taken
        cases moved
        exact uploadArm_moves phase taken
      · rename_i idle
        unfold downloadArm at moved
        split_ifs at moved with down data closed
        · cases moved
          exact .fetch phase (uploadArm_none idle) (Bool.not_eq_true _ ▸ down) data
        · cases moved
          exact .finish phase (uploadArm_none idle) (Bool.not_eq_true _ ▸ down) (Nat.eq_zero_of_not_pos data) closed
  · rename_i rest phase
    unfold writeUp at moved
    split_ifs at moved with done closed room
    · cases moved
      exact .upDone rest phase done
    · cases moved
      exact .upBroken rest phase (Nat.pos_of_ne_zero done) closed
    · cases moved
      exact .up rest phase (Nat.pos_of_ne_zero done) (Bool.not_eq_true _ ▸ closed) (Nat.pos_of_ne_zero room)
  · rename_i rest phase
    unfold writeDown at moved
    split_ifs at moved with done lost window
    · cases moved
      exact .downDone rest phase done
    · cases moved
      exact .downBroken rest phase (Nat.pos_of_ne_zero done) lost
    · cases moved
      exact .down rest phase (Nat.pos_of_ne_zero done) (Bool.not_eq_true _ ▸ lost) (Nat.pos_of_ne_zero window)
  · cases moved

/-- Why the bridge cannot step. -/
inductive Waits (capacity : Nat) (s : Bridge γ) : Prop
  | left (phase : s.phase = .left)
  | selecting (phase : s.phase = .selecting) (some_open : ¬ (s.upEof = true ∧ s.downEof = true))
      (up : s.upEof = true ∨ s.lost = false ∧ s.inbox = [] ∧ s.bodyEnd = false)
      (down : s.downEof = true ∨ size s.download.data = 0 ∧ s.download.closed = false)
  | writingUp (rest : γ) (phase : s.phase = .writingUp rest) (more : 0 < size rest)
      (opened : s.upload.closed = false) (full : s.upload.room capacity = 0)
  | writingDown (rest : γ) (phase : s.phase = .writingDown rest) (more : 0 < size rest) (lost : s.lost = false)
      (shut : s.window = 0)

theorem advance_none {capacity : Nat} {s : Bridge γ} (waits : s.advance capacity = none) : Waits capacity s := by
  unfold advance at waits
  split at waits
  · rename_i phase
    split_ifs at waits with both
    split at waits
    · cases waits
    · rename_i idle
      unfold downloadArm at waits
      split_ifs at waits with down data closed
      · exact .selecting phase both (uploadArm_none idle) (.inl down)
      · exact .selecting phase both (uploadArm_none idle)
          (.inr ⟨Nat.eq_zero_of_not_pos data, Bool.not_eq_true _ ▸ closed⟩)
  · rename_i rest phase
    unfold writeUp at waits
    split_ifs at waits with done closed room
    exact .writingUp rest phase (Nat.pos_of_ne_zero done) (Bool.not_eq_true _ ▸ closed) room
  · rename_i rest phase
    unfold writeDown at waits
    split_ifs at waits with done lost window
    exact .writingDown rest phase (Nat.pos_of_ne_zero done) (Bool.not_eq_true _ ▸ lost) window
  · rename_i phase
    exact .left phase

/-- What holds in every reachable state. -/
structure Valid (cfg : BridgeConfig) (s : Bridge γ) : Prop where
  windows : s.window + s.unread = cfg.window
  upload_le : size s.upload.data ≤ cfg.capacity
  lost_inbox : s.lost = true → s.inbox = []
  bodyEnd_fin : s.bodyEnd = true → s.fin = true
  upEof_closed : s.upEof = true → s.upload.closed = true
  upEof_inbox : s.upEof = true → s.tunnelOver = true ∨ s.lost = true ∨ s.fin = true ∧ s.inbox = []
  closed_upEof : s.upload.closed = true → s.upEof = true ∨ s.tunnelOver = true
  over_closed : s.tunnelOver = true → s.upload.closed = true ∧ s.download.closed = true
  downEof_drained : s.downEof = true → s.lost = true ∨ s.download.closed = true ∧ size s.download.data = 0
  writing_up : ∀ rest, s.phase = .writingUp rest → s.upEof = false
  left_eof : s.phase = .left → s.upEof = true ∧ s.downEof = true

theorem start_valid (cfg : BridgeConfig) : (start cfg : Bridge γ).Valid cfg := by
  constructor <;> simp [start, Pipe.new]

theorem advance_valid {cfg : BridgeConfig} {s t : Bridge γ} (h : s.Valid cfg)
    (moved : s.advance cfg.capacity = some t) : t.Valid cfg := by
  cases advance_moves moved with
  | leave phase up down =>
      exact { h with
        upEof_closed := fun _ => rfl
        closed_upEof := fun _ => .inl up
        over_closed := fun _ => ⟨rfl, rfl⟩
        downEof_drained := fun _ => (h.downEof_drained down).imp id fun drained => ⟨rfl, drained.2⟩
        writing_up := nofun
        left_eof := fun _ => ⟨up, down⟩ }
  | ended phase up why =>
      exact { h with
        upEof_closed := fun _ => rfl
        upEof_inbox := fun _ => .inr (why.imp id fun read => ⟨h.bodyEnd_fin read.2, read.1⟩)
        closed_upEof := fun _ => .inl rfl
        over_closed := fun dropped => ⟨rfl, (h.over_closed dropped).2⟩
        writing_up := fun rest writing => by cases phase.symm.trans writing
        left_eof := fun left => by cases phase.symm.trans left }
  | take chunk inbox phase up lost arrived =>
      exact { h with
        lost_inbox := fun gone => by cases lost.symm.trans gone
        upEof_inbox := fun ended => by cases up.symm.trans ended
        writing_up := fun _ _ => up
        left_eof := nofun }
  | fetch phase idle down data =>
      exact { h with
        downEof_drained := fun ended => by cases down.symm.trans ended
        writing_up := nofun
        left_eof := nofun }
  | finish phase idle down data closed =>
      exact { h with
        downEof_drained := fun _ => .inr ⟨closed, data⟩
        left_eof := fun left => by cases phase.symm.trans left }
  | upDone rest phase done => exact { h with writing_up := nofun, left_eof := nofun }
  | upBroken rest phase more closed =>
      have dropped : s.tunnelOver = true := by
        rcases h.closed_upEof closed with ended | dropped
        · cases (h.writing_up rest phase).symm.trans ended
        · exact dropped
      exact { h with
        upEof_closed := fun _ => closed
        upEof_inbox := fun _ => .inl dropped
        closed_upEof := fun _ => .inl rfl
        writing_up := nofun
        left_eof := nofun }
  | up rest phase more opened room =>
      have fits : size (s.upload.write (Chunk.take (s.upload.room cfg.capacity) rest)).data ≤ cfg.capacity := by
        rw [Pipe.size_write, size_take]
        unfold Pipe.room at room ⊢
        omega
      exact { h with
        upload_le := fits
        writing_up := fun _ _ => h.writing_up rest phase
        left_eof := nofun }
  | downDone rest phase done => exact { h with writing_up := nofun, left_eof := nofun }
  | downBroken rest phase more lost =>
      exact { h with
        downEof_drained := fun _ => .inl lost
        writing_up := nofun
        left_eof := nofun }
  | down rest phase more lost window =>
      have windows := h.windows
      exact { h with
        windows := by dsimp only; omega
        writing_up := nofun
        left_eof := nofun }

theorem step_valid {cfg : BridgeConfig} {s t : Bridge γ} {e : BridgeEvent γ} (h : s.Valid cfg)
    (stepped : s.step cfg e = some t) : t.Valid cfg := by
  cases e with
  | bridge => exact advance_valid h stepped
  | clientSends chunk =>
      rw [step] at stepped
      split_ifs at stepped with ended
      cases stepped
      exact { h with
        lost_inbox := fun lost => absurd (.inr lost) ended
        upEof_inbox := fun up => (h.upEof_inbox up).imp id (.imp id fun fin => absurd (.inl fin.1) ended) }
  | clientEnds returned =>
      rw [step] at stepped
      split_ifs at stepped with ended
      cases stepped
      exact { h with
        bodyEnd_fin := fun _ => rfl
        upEof_inbox := fun up => (h.upEof_inbox up).imp id (.imp id fun fin => ⟨rfl, fin.2⟩) }
  | clientLost =>
      cases stepped
      exact { h with
        lost_inbox := fun _ => rfl
        upEof_inbox := fun _ => .inr (.inl rfl)
        downEof_drained := fun _ => .inl rfl }
  | clientReads n =>
      rw [step] at stepped
      split_ifs at stepped with some_unread
      cases stepped
      have windows := h.windows
      exact { h with windows := by dsimp only; omega }
  | tunnelReads n =>
      rw [step] at stepped
      split_ifs at stepped with some_there
      cases stepped
      have upload_le := h.upload_le
      exact { h with upload_le := by rw [Pipe.size_read]; omega }
  | tunnelWrites chunk =>
      rw [step] at stepped
      split_ifs at stepped with fits
      cases stepped
      refine { h with downEof_drained := fun ended => .inl ?_ }
      rcases h.downEof_drained ended with lost | ⟨closed, _⟩
      · exact lost
      · cases fits.1.symm.trans closed
  | tunnelShuts =>
      rw [step] at stepped
      split_ifs at stepped with dropped
      cases stepped
      exact { h with
        over_closed := fun again => absurd again dropped
        downEof_drained := fun ended => (h.downEof_drained ended).imp id fun drained => ⟨rfl, drained.2⟩ }
  | tunnelEnds =>
      rw [step] at stepped
      split_ifs at stepped with dropped
      cases stepped
      exact { h with
        upEof_closed := fun _ => rfl
        upEof_inbox := fun _ => .inl rfl
        closed_upEof := fun _ => .inr rfl
        over_closed := fun _ => ⟨rfl, rfl⟩
        downEof_drained := fun ended => (h.downEof_drained ended).imp id fun drained => ⟨rfl, drained.2⟩ }

theorem run_valid {cfg : BridgeConfig} {schedule : List (BridgeEvent γ)} {s : Bridge γ}
    (ran : follow (step cfg) (start cfg) schedule = some s) : s.Valid cfg :=
  follow_invariant step_valid (start_valid cfg) ran

/-- What a step cannot undo, and what alone closes the download half. -/
structure Irreversible (e : BridgeEvent γ) (s t : Bridge γ) : Prop where
  lost : s.lost = true → t.lost = true
  dropped : s.tunnelOver = true → t.tunnelOver = true
  ended : s.upload.closed = true → size s.upload.data = 0 → t.upload.closed = true ∧ size t.upload.data = 0
  closes : t.download.closed = true →
    s.download.closed = true ∨ t.tunnelOver = true ∨ t.lost = true ∨ e = .tunnelShuts

theorem step_irreversible {cfg : BridgeConfig} {s t : Bridge γ} {e : BridgeEvent γ} (valid : s.Valid cfg)
    (stepped : s.step cfg e = some t) : Irreversible e s t := by
  cases e with
  | bridge =>
      cases advance_moves stepped with
      | leave phase up down =>
          refine ⟨id, id, fun _ empty => ⟨rfl, empty⟩, fun _ => ?_⟩
          rcases valid.downEof_drained down with lost | ⟨closed, _⟩
          · exact .inr (.inr (.inl lost))
          · exact .inl closed
      | ended phase up why => exact ⟨id, id, fun _ empty => ⟨rfl, empty⟩, .inl⟩
      | up rest phase more opened room =>
          refine ⟨id, id, fun closed => ?_, .inl⟩
          cases opened.symm.trans closed
      | take | fetch | finish | upDone | upBroken | downDone | downBroken | down =>
          exact ⟨id, id, fun closed empty => ⟨closed, empty⟩, .inl⟩
  | clientLost =>
      cases stepped
      exact ⟨fun _ => rfl, id, fun closed empty => ⟨closed, empty⟩, .inl⟩
  | tunnelReads n =>
      rw [step] at stepped
      split_ifs at stepped with there
      cases stepped
      refine ⟨id, id, fun _ empty => ?_, .inl⟩
      omega
  | tunnelShuts =>
      rw [step] at stepped
      split_ifs at stepped
      cases stepped
      exact ⟨id, id, fun closed empty => ⟨closed, empty⟩, fun _ => .inr (.inr (.inr rfl))⟩
  | tunnelEnds =>
      rw [step] at stepped
      split_ifs at stepped
      cases stepped
      exact ⟨id, fun _ => rfl, fun _ empty => ⟨rfl, empty⟩, fun _ => .inr (.inl rfl)⟩
  | clientSends | clientEnds | clientReads | tunnelWrites =>
      rw [step] at stepped
      split_ifs at stepped
      cases stepped
      exact ⟨id, id, fun closed empty => ⟨closed, empty⟩, .inl⟩

end Bridge

end ServerNaive
