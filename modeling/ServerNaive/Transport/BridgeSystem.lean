import ServerNaive.Core.RelaySteps
import ServerNaive.Transport.BridgeProgress
import ServerNaive.Transport.Padding

/-! The bridge with a TCP tunnel behind it, to an origin that echoes what it reads and reads
only when it has nothing left to write. Behind the bridge only amounts matter. -/
namespace ServerNaive
open AsyncIo Chunk

/-- The cursors of one direction of the relay: it holds `buf[pos..filled]`. -/
@[ext] structure Cursor where
  pos : Nat
  filled : Nat
  deriving DecidableEq

namespace Cursor

def unsent (c : Cursor) : Nat := c.filled - c.pos

/-- The room of the next read: behind what is held, or all of an empty buffer. -/
def free (bufferSize : Nat) (c : Cursor) : Nat :=
  if c.pos < c.filled then bufferSize - c.filled else bufferSize

def fill (c : Cursor) (n : Nat) : Cursor := if c.pos < c.filled then ⟨c.pos, c.filled + n⟩ else ⟨0, n⟩

def drain (c : Cursor) (n : Nat) : Cursor := ⟨c.pos + n, c.filled⟩

end Cursor

def DirectionalBuffer.cursor (d : DirectionalBuffer) : Cursor := ⟨d.pos, d.cap⟩

/-- Each step of `poll_copy` leaves the cursors, drains what a writer took, or fills in what a
reader brought. -/
theorem CopyStep.cursor {v w : Progress} (step : CopyStep v w) :
    w.dir.cursor = v.dir.cursor ∨
      (∃ n, 0 < n ∧ n ≤ v.dir.cursor.unsent ∧ w.dir.cursor = v.dir.cursor.drain n) ∨
      ∃ n, 0 < n ∧ n ≤ v.dir.cursor.free v.dir.buf.length ∧ w.dir.cursor = v.dir.cursor.fill n := by
  cases step with
  | wrote holds positive fits =>
      rename_i n
      refine .inr (.inl ⟨n, positive, ?_, rfl⟩)
      rw [DirectionalBuffer.held, length_window] at fits
      simp only [DirectionalBuffer.cursor, Cursor.unsent]
      omega
  | readAhead going ahead nonempty fits =>
      rename_i room bs
      obtain ⟨holds, space, rfl⟩ := ahead
      refine .inr (.inr ⟨bs.length, List.length_pos_iff.mpr nonempty, ?_, ?_⟩)
      · rw [Cursor.free, if_pos (by exact holds)]
        exact fits
      · exact (if_pos holds).symm
  | readNext going next nonempty fits =>
      rename_i room bs
      obtain ⟨empty, rfl⟩ := next
      refine .inr (.inr ⟨bs.length, List.length_pos_iff.mpr nonempty, ?_, ?_⟩)
      · rw [Cursor.free, if_neg (by exact Nat.not_lt.mpr empty)]
        exact fits
      · exact (if_neg (Nat.not_lt.mpr empty)).symm
  | unwritten | flushed | shutdown | finished | sawEnd | swallowed | readWaits => exact .inl rfl

/-- The sizes of the buffers: of the relay, of the sockets in each direction, and of the origin. -/
structure EchoConfig extends BridgeConfig where
  socket : Nat
  originBuf : Nat
  sized : 0 < bufferSize
  connected : 0 < socket
  reading : 0 < originBuf

/-- The bridge, the two directions of the relay, the frame that the padding layer has not yet
written, what is on its way to the origin, in it, and on its way back, and how far the client's
end has come. -/
structure Echo (γ : Type) where
  bridge : Bridge γ
  toRemote : Cursor
  toClient : Cursor
  pending : Nat
  framesDone : Nat
  outgoing : Nat
  held : Nat
  incoming : Nat
  remoteFin : Bool
  originFin : Bool
  deriving DecidableEq

inductive EchoEvent (γ : Type) where
  | outside (e : BridgeEvent γ)
  | pull (n payload : Nat)
  | send (n : Nat)
  | echoRead (n : Nat)
  | echoWrite (n : Nat)
  | receive (n : Nat)
  | frame (n pad : Nat)
  | pushFrame (chunk : γ)
  | pushRaw (chunk : γ)
  | forwardEnd
  | echoEnd
  | shutClient
  deriving DecidableEq

/-- What the bridge and the client do, and the end of the tunnel; the rest is the relay's. -/
def BridgeEvent.isOutside {γ : Type} : BridgeEvent γ → Bool
  | .tunnelReads _ => false
  | .tunnelWrites _ => false
  | .tunnelShuts => false
  | _ => true

/-- The steps that move what was sent; the client may always send more, and give up, and the
tunnel may be ended. -/
def EchoEvent.moves {γ : Type} : EchoEvent γ → Bool
  | .outside .bridge => true
  | .outside (.clientReads _) => true
  | .outside _ => false
  | _ => true

namespace Echo

variable {γ : Type} [Chunk γ]

def start (cfg : EchoConfig) : Echo γ where
  bridge := .start cfg.toBridgeConfig
  toRemote := ⟨0, 0⟩
  toClient := ⟨0, 0⟩
  pending := 0
  framesDone := 0
  outgoing := 0
  held := 0
  incoming := 0
  remoteFin := false
  originFin := false

def step (cfg : EchoConfig) (s : Echo γ) : EchoEvent γ → Option (Echo γ)
  | .outside e =>
      if e.isOutside then (s.bridge.step cfg.toBridgeConfig e).map fun bridge => { s with bridge } else none
  -- the padding layer keeps the payload and drops headers and padding
  | .pull n payload =>
      if 0 < s.toRemote.free cfg.bufferSize ∧ payload ≤ n ∧ payload ≤ s.toRemote.free cfg.bufferSize then
        (s.bridge.step cfg.toBridgeConfig (.tunnelReads n)).map fun bridge =>
          { s with bridge, toRemote := s.toRemote.fill payload }
      else none
  | .send n =>
      if 0 < n ∧ n ≤ s.toRemote.unsent ∧ s.outgoing + n ≤ cfg.socket then
        some { s with toRemote := s.toRemote.drain n, outgoing := s.outgoing + n }
      else none
  | .echoRead n =>
      if s.held = 0 ∧ 0 < n ∧ n ≤ s.outgoing ∧ n ≤ cfg.originBuf then
        some { s with held := n, outgoing := s.outgoing - n }
      else none
  | .echoWrite n =>
      if 0 < n ∧ n ≤ s.held ∧ s.incoming + n ≤ cfg.socket then
        some { s with held := s.held - n, incoming := s.incoming + n }
      else none
  | .receive n =>
      if 0 < n ∧ n ≤ s.incoming ∧ n ≤ s.toClient.free cfg.bufferSize then
        some { s with incoming := s.incoming - n, toClient := s.toClient.fill n }
      else none
  -- a frame is taken over whole, and written before anything else
  | .frame n pad =>
      if s.framesDone < paddingFrames ∧ s.pending = 0 ∧ 0 < n ∧ n ≤ s.toClient.unsent ∧ n ≤ maxPaddedPayload ∧
          pad < 256 then
        some { s with toClient := s.toClient.drain n, pending := 3 + n + pad, framesDone := s.framesDone + 1 }
      else none
  | .pushFrame chunk =>
      if size chunk ≤ s.pending then
        (s.bridge.step cfg.toBridgeConfig (.tunnelWrites chunk)).map fun bridge =>
          { s with bridge, pending := s.pending - size chunk }
      else none
  | .pushRaw chunk =>
      if paddingFrames ≤ s.framesDone ∧ s.pending = 0 ∧ size chunk ≤ s.toClient.unsent then
        (s.bridge.step cfg.toBridgeConfig (.tunnelWrites chunk)).map fun bridge =>
          { s with bridge, toClient := s.toClient.drain (size chunk) }
      else none
  | .forwardEnd =>
      if s.bridge.upload.closed ∧ size s.bridge.upload.data = 0 ∧ s.toRemote.unsent = 0 ∧ s.remoteFin = false then
        some { s with remoteFin := true }
      else none
  | .echoEnd =>
      if s.remoteFin ∧ s.outgoing = 0 ∧ s.held = 0 ∧ s.originFin = false then some { s with originFin := true }
      else none
  | .shutClient =>
      if s.originFin ∧ s.incoming = 0 ∧ s.toClient.unsent = 0 ∧ s.pending = 0 then
        (s.bridge.step cfg.toBridgeConfig .tunnelShuts).map fun bridge => { s with bridge }
      else none

/-- The bridge's invariant, and how far the end of the client's side has come: past each place
that it has passed there is nothing left. -/
structure Valid (cfg : EchoConfig) (s : Echo γ) : Prop where
  bridge : s.bridge.Valid cfg.toBridgeConfig
  remote : s.remoteFin = true →
    s.bridge.upload.closed = true ∧ size s.bridge.upload.data = 0 ∧ s.toRemote.unsent = 0
  origin : s.originFin = true → s.remoteFin = true ∧ s.outgoing = 0 ∧ s.held = 0
  closed : s.bridge.download.closed = true → s.bridge.tunnelOver = true ∨ s.bridge.lost = true ∨
    s.originFin = true ∧ s.incoming = 0 ∧ s.toClient.unsent = 0 ∧ s.pending = 0

/-- What a bridge step that does not shut the download half keeps of the invariant. -/
theorem Valid.bridge_step {cfg : EchoConfig} {s : Echo γ} {e : BridgeEvent γ} {bridge : Bridge γ}
    (h : s.Valid cfg) (taken : s.bridge.step cfg.toBridgeConfig e = some bridge) (other : e ≠ .tunnelShuts) :
    { s with bridge }.Valid cfg := by
  have kept := Bridge.step_irreversible h.bridge taken
  refine ⟨Bridge.step_valid h.bridge taken, ?_, h.origin, ?_⟩
  · intro forwarded
    obtain ⟨closed, empty, unsent⟩ := h.remote forwarded
    exact ⟨(kept.ended closed empty).1, (kept.ended closed empty).2, unsent⟩
  · intro closed
    rcases kept.closes closed with before | dropped | lost | shut
    · exact (h.closed before).imp kept.dropped (.imp kept.lost id)
    · exact .inl dropped
    · exact .inr (.inl lost)
    · exact absurd shut other

theorem step_valid {cfg : EchoConfig} {s t : Echo γ} {e : EchoEvent γ} (h : s.Valid cfg)
    (stepped : s.step cfg e = some t) : t.Valid cfg := by
  cases e with
  | outside e =>
      rw [step] at stepped
      split_ifs at stepped with outer
      obtain ⟨bridge, taken, rfl⟩ := Option.map_eq_some_iff.mp stepped
      apply h.bridge_step taken
      rintro rfl
      cases outer
  | pull n payload =>
      rw [step] at stepped
      split_ifs at stepped with fits
      obtain ⟨bridge, taken, rfl⟩ := Option.map_eq_some_iff.mp stepped
      have after := h.bridge_step taken (by intro ended; cases ended)
      refine { after with remote := fun forwarded => ?_ }
      -- nothing is left to pull behind the end
      rw [Bridge.step] at taken
      split_ifs at taken with there
      have empty := (h.remote forwarded).2.1
      omega
  | send n =>
      rw [step] at stepped
      split_ifs at stepped with fits
      cases stepped
      have unended : s.remoteFin = false := by
        by_contra forwarded
        have unsent := (h.remote (Bool.not_eq_false _ ▸ forwarded)).2.2
        omega
      refine { h with remote := fun forwarded => ?_, origin := fun ended => ?_ }
      · cases unended.symm.trans forwarded
      · cases unended.symm.trans (h.origin ended).1
  | echoRead n =>
      rw [step] at stepped
      split_ifs at stepped with fits
      cases stepped
      refine { h with origin := fun ended => ?_ }
      have empty := (h.origin ended).2.1
      omega
  | echoWrite n =>
      rw [step] at stepped
      split_ifs at stepped with fits
      cases stepped
      have unended : s.originFin = false := by
        by_contra ended
        have empty := (h.origin (Bool.not_eq_false _ ▸ ended)).2.2
        omega
      refine { h with origin := fun ended => ?_, closed := fun closed => ?_ }
      · cases unended.symm.trans ended
      · exact (h.closed closed).imp id (.imp id fun shut => by cases unended.symm.trans shut.1)
  | receive n =>
      rw [step] at stepped
      split_ifs at stepped with fits
      cases stepped
      refine { h with closed := fun closed => (h.closed closed).imp id (.imp id fun shut => ?_) }
      omega
  | frame n pad =>
      rw [step] at stepped
      split_ifs at stepped with fits
      cases stepped
      refine { h with closed := fun closed => (h.closed closed).imp id (.imp id fun shut => ?_) }
      omega
  | pushFrame chunk =>
      rw [step] at stepped
      split_ifs at stepped with fits
      obtain ⟨bridge, taken, rfl⟩ := Option.map_eq_some_iff.mp stepped
      have after := h.bridge_step taken (by intro ended; cases ended)
      refine { after with closed := fun closed => (after.closed closed).imp id (.imp id fun shut => ?_) }
      obtain ⟨ended, nothing, unsent, written⟩ := shut
      exact ⟨ended, nothing, unsent, Nat.sub_eq_zero_of_le (written ▸ Nat.zero_le _)⟩
  | pushRaw chunk =>
      rw [step] at stepped
      split_ifs at stepped with fits
      obtain ⟨bridge, taken, rfl⟩ := Option.map_eq_some_iff.mp stepped
      have after := h.bridge_step taken (by intro ended; cases ended)
      refine { after with closed := fun closed => (after.closed closed).imp id (.imp id fun shut => ?_) }
      obtain ⟨ended, nothing, unsent, written⟩ := shut
      refine ⟨ended, nothing, ?_, written⟩
      change s.toClient.unsent = 0 at unsent
      simp only [Cursor.unsent, Cursor.drain] at unsent ⊢
      omega
  | forwardEnd =>
      rw [step] at stepped
      split_ifs at stepped with ready
      cases stepped
      exact { h with
        remote := fun _ => ⟨ready.1, ready.2.1, ready.2.2.1⟩
        origin := fun ended => ⟨rfl, (h.origin ended).2⟩ }
  | echoEnd =>
      rw [step] at stepped
      split_ifs at stepped with ready
      cases stepped
      exact { h with
        origin := fun _ => ⟨ready.1, ready.2.1, ready.2.2.1⟩
        closed := fun closed => (h.closed closed).imp id (.imp id fun shut => ⟨rfl, shut.2⟩) }
  | shutClient =>
      rw [step] at stepped
      split_ifs at stepped with ready
      obtain ⟨bridge, taken, rfl⟩ := Option.map_eq_some_iff.mp stepped
      have kept := Bridge.step_irreversible h.bridge taken
      refine ⟨Bridge.step_valid h.bridge taken, ?_, h.origin, fun _ => .inr (.inr ready)⟩
      intro forwarded
      obtain ⟨closed, empty, unsent⟩ := h.remote forwarded
      exact ⟨(kept.ended closed empty).1, (kept.ended closed empty).2, unsent⟩

theorem start_valid (cfg : EchoConfig) : (start cfg : Echo γ).Valid cfg where
  bridge := Bridge.start_valid _
  remote := nofun
  origin := nofun
  closed := nofun

theorem run_valid {cfg : EchoConfig} {schedule : List (EchoEvent γ)} {s : Echo γ}
    (ran : follow (step cfg) (start cfg) schedule = some s) : s.Valid cfg :=
  follow_invariant step_valid (start_valid cfg) ran

/-- All that has left the client and has not come back to it. -/
def inTransit (s : Echo γ) : Nat :=
  total s.bridge.inbox + s.bridge.upRest + size s.bridge.upload.data + s.toRemote.unsent + s.outgoing + s.held +
    s.incoming + s.toClient.unsent + s.pending + size s.bridge.download.data + s.bridge.downRest

/-- The client is there, the tunnel runs, something is on its way, and nothing can move it. -/
structure Stuck (cfg : EchoConfig) (s : Echo γ) : Prop where
  lost : s.bridge.lost = false
  running : s.bridge.tunnelOver = false
  something : 0 < s.inTransit
  nothing_moves : ∀ e : EchoEvent γ, e.moves = true → s.step cfg e = none

section Stuck

variable {cfg : EchoConfig} {s : Echo γ}

theorem Stuck.bridge_waits (h : s.Stuck cfg) : s.bridge.advance cfg.capacity = none := by
  have refused := h.nothing_moves (.outside .bridge) rfl
  rw [step, if_pos (by rfl)] at refused
  exact Option.map_eq_none_iff.mp refused

theorem Stuck.read (h : s.Stuck cfg) : s.bridge.unread = 0 := by
  by_contra unread
  have refused := h.nothing_moves (.outside (.clientReads s.bridge.unread)) rfl
  rw [step, if_pos (by rfl), Bridge.step, if_pos ⟨Nat.pos_of_ne_zero unread, le_rfl⟩] at refused
  cases refused

/-- With an empty download half everything behind it has run dry, back to the upload half. -/
theorem Stuck.dry (h : s.Stuck cfg) (valid : s.Valid cfg) (empty : size s.bridge.download.data = 0) :
    s.pending = 0 ∧ s.toClient.unsent = 0 ∧ s.incoming = 0 ∧ s.held = 0 ∧ s.outgoing = 0 ∧ s.toRemote.unsent = 0 ∧
      size s.bridge.upload.data = 0 := by
  have moves := h.nothing_moves
  have room : size (Chunk.unit : γ) ≤ s.bridge.download.room cfg.capacity := by
    have positive := cfg.capacity_pos
    rw [Pipe.room, empty, size_unit]
    omega
  have accepts (more : 0 < s.pending ∨ 0 < s.toClient.unsent) : ∃ bridge,
      s.bridge.step cfg.toBridgeConfig (.tunnelWrites Chunk.unit) = some bridge := by
    refine ⟨_, if_pos ⟨?_, by rw [size_unit]; exact Nat.one_pos, room⟩⟩
    by_contra closed
    rcases valid.closed (Bool.not_eq_false _ ▸ closed) with dropped | lost | ⟨_, _, unsent, written⟩
    · cases h.running.symm.trans dropped
    · cases h.lost.symm.trans lost
    · omega
  have pending : s.pending = 0 := by
    by_contra waiting
    obtain ⟨bridge, taken⟩ := accepts (.inl (Nat.pos_of_ne_zero waiting))
    have refused := moves (.pushFrame Chunk.unit) rfl
    rw [step, if_pos (by rw [size_unit]; omega), taken] at refused
    cases refused
  have toClient : s.toClient.unsent = 0 := by
    by_contra unsent
    by_cases framed : s.framesDone < paddingFrames
    · have refused := moves (.frame 1 0) rfl
      rw [step, if_pos ⟨framed, pending, by omega, by omega, by decide, by decide⟩] at refused
      cases refused
    · obtain ⟨bridge, taken⟩ := accepts (.inr (Nat.pos_of_ne_zero unsent))
      have refused := moves (.pushRaw Chunk.unit) rfl
      rw [step, if_pos ⟨by omega, pending, by rw [size_unit]; omega⟩, taken] at refused
      cases refused
  have incoming : s.incoming = 0 := by
    by_contra there
    have free : s.toClient.free cfg.bufferSize = cfg.bufferSize := if_neg (by unfold Cursor.unsent at toClient; omega)
    have refused := moves (.receive 1) rfl
    rw [step, if_pos ⟨by omega, by omega, by rw [free]; exact cfg.sized⟩] at refused
    cases refused
  have held : s.held = 0 := by
    by_contra there
    have refused := moves (.echoWrite 1) rfl
    rw [step, if_pos ⟨by omega, by omega, by have socket := cfg.connected; omega⟩] at refused
    cases refused
  have outgoing : s.outgoing = 0 := by
    by_contra there
    have refused := moves (.echoRead 1) rfl
    rw [step, if_pos ⟨held, by omega, by omega, cfg.reading⟩] at refused
    cases refused
  have toRemote : s.toRemote.unsent = 0 := by
    by_contra unsent
    have refused := moves (.send 1) rfl
    rw [step, if_pos ⟨by omega, by omega, by have socket := cfg.connected; omega⟩] at refused
    cases refused
  have upload : size s.bridge.upload.data = 0 := by
    by_contra there
    have free : s.toRemote.free cfg.bufferSize = cfg.bufferSize := if_neg (by unfold Cursor.unsent at toRemote; omega)
    have refused := moves (.pull 1 0) rfl
    rw [step, if_pos ⟨by rw [free]; exact cfg.sized, by omega, by omega⟩, Bridge.step,
      if_pos ⟨h.running, by omega, by omega⟩] at refused
    cases refused
  exact ⟨pending, toClient, incoming, held, outgoing, toRemote, upload⟩

theorem Stuck.inbox_empty (h : s.Stuck cfg) (valid : s.Valid cfg) (up : s.bridge.upEof = true) :
    s.bridge.inbox = [] := by
  rcases valid.bridge.upEof_inbox up with dropped | lost | ⟨_, empty⟩
  · cases h.running.symm.trans dropped
  · cases h.lost.symm.trans lost
  · exact empty

theorem Stuck.download_empty (h : s.Stuck cfg) (valid : s.Valid cfg) (down : s.bridge.downEof = true) :
    size s.bridge.download.data = 0 := by
  rcases valid.bridge.downEof_drained down with lost | ⟨_, empty⟩
  · cases h.lost.symm.trans lost
  · exact empty

theorem not_stuck (valid : s.Valid cfg) (clear : s.bridge.DownClear cfg.toBridgeConfig) : ¬ s.Stuck cfg := by
  intro h
  have something := h.something
  have window : 0 < s.bridge.window := by
    have windows := valid.bridge.windows
    have opens := cfg.opens
    have read := h.read
    omega
  unfold inTransit at something
  cases Bridge.advance_none h.bridge_waits with
  | left phase =>
      obtain ⟨up, down⟩ := valid.bridge.left_eof phase
      have empty := h.download_empty valid down
      have dry := h.dry valid empty
      simp only [Bridge.upRest, Bridge.downRest, phase, h.inbox_empty valid up, total_nil] at something
      omega
  | selecting phase some_open up down =>
      have inbox : s.bridge.inbox = [] := up.elim (h.inbox_empty valid) fun idle => idle.2.1
      have empty : size s.bridge.download.data = 0 := down.elim (h.download_empty valid) And.left
      have dry := h.dry valid empty
      simp only [Bridge.upRest, Bridge.downRest, phase, inbox, total_nil] at something
      omega
  | writingUp rest phase more opened full =>
      have empty : size s.bridge.download.data = 0 := by
        by_contra there
        have roomy := (clear (Nat.pos_of_ne_zero there) h.lost window).resolve_left
          (by rw [opened]; exact Bool.noConfusion)
        simp only [Bridge.upRest, phase] at roomy
        change cfg.capacity - size s.bridge.upload.data = 0 at full
        omega
      have dry := h.dry valid empty
      have positive := cfg.capacity_pos
      change cfg.capacity - size s.bridge.upload.data = 0 at full
      omega
  | writingDown rest phase more lost shut => omega

end Stuck

/-- The two directions of the bridge. Behind any tunnel, in every reachable state, each goes on
without the other exactly when the other has room for what stands before it; and with a TCP
tunnel to an echoing origin that room on the upload side keeps the whole from getting stuck. -/
theorem bridge_independent_iff (cfg : EchoConfig) :
    (∀ (schedule : List (BridgeEvent γ)) (s : Bridge γ),
      follow (Bridge.step cfg.toBridgeConfig) (Bridge.start cfg.toBridgeConfig) schedule = some s →
        (s.ForwardsDown cfg.toBridgeConfig ∧ s.ForwardsUp cfg.toBridgeConfig ↔
          s.DownClear cfg.toBridgeConfig ∧ s.UpClear cfg.toBridgeConfig)) ∧
    (∀ (schedule : List (EchoEvent γ)) (s : Echo γ), follow (step cfg) (start cfg) schedule = some s →
      (s.bridge.ForwardsDown cfg.toBridgeConfig ∧ s.bridge.ForwardsUp cfg.toBridgeConfig ∧ ¬ s.Stuck cfg ↔
        s.bridge.DownClear cfg.toBridgeConfig ∧ s.bridge.UpClear cfg.toBridgeConfig)) := by
  constructor
  · intro schedule s ran
    exact Bridge.forwards_iff (Bridge.run_valid ran)
  · intro schedule s ran
    have valid := run_valid ran
    have independent := Bridge.forwards_iff valid.bridge
    constructor
    · rintro ⟨down, up, _⟩
      exact independent.mp ⟨down, up⟩
    · intro clear
      obtain ⟨down, up⟩ := independent.mpr clear
      exact ⟨down, up, not_stuck valid clear.1⟩

/-- The default buffer size, and sockets and an origin of 32 KiB. -/
def defaultEcho : EchoConfig where
  toBridgeConfig := Bridge.defaultConfig
  socket := 32 * 1024
  originBuf := 32 * 1024
  sized := by decide
  connected := by decide
  reading := by decide

/-- The bridge has taken a short request. -/
def requested : Echo Nat :=
  let rest : Echo Nat := start defaultEcho
  { rest with bridge := { rest.bridge with phase := .writingUp 100 } }

theorem bridge_independent_requested :
    follow (step defaultEcho) (start defaultEcho) [.outside (.clientSends 100), .outside .bridge] = some requested ∧
      requested.bridge.ForwardsDown defaultEcho.toBridgeConfig ∧
      requested.bridge.ForwardsUp defaultEcho.toBridgeConfig ∧ ¬ requested.Stuck defaultEcho := by
  have ran : follow (step defaultEcho) (start defaultEcho)
      [.outside (.clientSends 100), .outside .bridge] = some requested := by decide +kernel
  have clear : requested.bridge.DownClear defaultEcho.toBridgeConfig ∧
      requested.bridge.UpClear defaultEcho.toBridgeConfig := by
    unfold Bridge.DownClear Bridge.UpClear
    decide +kernel
  exact ⟨ran, ((bridge_independent_iff defaultEcho).2 _ _ ran).mpr clear⟩

/-- A client that sends 64 KiB at a time: the bridge takes one piece and writes it. -/
def feed : List (EchoEvent Nat) := [.outside (.clientSends 65536), .outside .bridge, .outside .bridge]

/-- A frame of `n` bytes goes through the upload side to the origin, and its echo into the
socket. -/
def carry (n : Nat) : List (EchoEvent Nat) := [.pull (3 + n) n, .send n, .echoRead n, .echoWrite n]

/-- The run in which all buffers fill up. -/
def flood : List (EchoEvent Nat) := List.flatten [
  -- two frames come back as far as the download half, which is full then
  feed, carry 32768, [.receive 32768, .frame 32768 0, .pushFrame 32771],
  carry 32762, [.receive 32762, .frame 32762 0, .pushFrame 32765, .outside .bridge],
  -- the padding layer and the relay's buffer
  feed, carry 32768, [.receive 32768, .frame 32768 0],
  carry 32762, [.receive 32762, .outside .bridge],
  -- the sockets and the origin
  feed, carry 32768, [.receive 6],
  [.pull 32765 32762, .send 32762, .echoRead 32762, .echoWrite 6, .outside .bridge],
  -- the upload direction; its eight frames are over then
  feed, [.pull 32771 32768, .send 32768, .pull 32765 32762, .outside .bridge],
  feed, [.pull 6 6, .outside .bridge],
  feed]

/-- The bridge waits for the upload half while the download half is full and the client would
read. -/
def flooded : Echo Nat where
  bridge := {
    inbox := []
    fin := false
    bodyEnd := false
    lost := false
    window := 65535
    unread := 0
    given := 0
    endMarks := 0
    phase := .writingUp 65530
    upEof := false
    downEof := false
    upload := ⟨65536, false⟩
    download := ⟨65536, false⟩
    forwarded := 327686
    tunnelOver := false }
  toRemote := ⟨0, 32768⟩
  toClient := ⟨0, 32768⟩
  pending := 32771
  framesDone := 3
  outgoing := 32768
  held := 32756
  incoming := 32768
  remoteFin := false
  originFin := false

theorem flooded_stuck : flooded.Stuck defaultEcho where
  lost := rfl
  running := rfl
  something := by decide +kernel
  nothing_moves e moves := by
    cases e with
    | outside e =>
        cases e with
        | bridge => decide +kernel
        | clientReads n =>
            have refused : ¬ (0 < n ∧ n ≤ flooded.bridge.unread) := by
              change ¬ (0 < n ∧ n ≤ 0)
              omega
            rw [step, if_pos (by rfl), Bridge.step, if_neg refused]
            rfl
        | clientSends | clientEnds | clientLost | tunnelReads | tunnelWrites | tunnelShuts | tunnelEnds => cases moves
    | pull n payload =>
        rw [step]
        exact if_neg fun ready => absurd ready.1 (by decide +kernel)
    | send n =>
        have full : ¬ (0 < n ∧ 32768 + n ≤ 32768) := by omega
        rw [step]
        exact if_neg fun ready => full ⟨ready.1, ready.2.2⟩
    | echoRead n =>
        rw [step]
        exact if_neg fun ready => absurd ready.1 (by decide +kernel)
    | echoWrite n =>
        have full : ¬ (0 < n ∧ 32768 + n ≤ 32768) := by omega
        rw [step]
        exact if_neg fun ready => full ⟨ready.1, ready.2.2⟩
    | receive n =>
        have full : flooded.toClient.free defaultEcho.bufferSize = 0 := by decide +kernel
        rw [step, full]
        exact if_neg (by omega)
    | frame n pad =>
        rw [step]
        exact if_neg fun ready => absurd ready.2.1 (by decide +kernel)
    | pushFrame chunk =>
        have full : flooded.bridge.download.room defaultEcho.capacity = 0 := by decide +kernel
        have refused : flooded.bridge.step defaultEcho.toBridgeConfig (.tunnelWrites chunk) = none := by
          rw [Bridge.step, full]
          exact if_neg (by omega)
        rw [step, refused]
        exact ite_self _
    | pushRaw chunk =>
        rw [step]
        exact if_neg fun ready => absurd ready.1 (by decide +kernel)
    | forwardEnd =>
        rw [step]
        exact if_neg fun ready => absurd ready.1 (by decide +kernel)
    | echoEnd =>
        rw [step]
        exact if_neg fun ready => absurd ready.1 (by decide +kernel)
    | shutClient =>
        rw [step]
        exact if_neg fun ready => absurd ready.1 (by decide +kernel)

/-- A client that would read gets nothing: the download half is full, and the bridge waits in
the write of its other arm, for a tunnel that waits for an origin that waits for the bridge. -/
theorem bridge_floods :
    follow (step defaultEcho) (start defaultEcho) flood = some flooded ∧ 0 < size flooded.bridge.download.data ∧
      flooded.bridge.lost = false ∧ 0 < flooded.bridge.window ∧
      ¬ flooded.bridge.ForwardsDown defaultEcho.toBridgeConfig ∧ flooded.Stuck defaultEcho := by
  have ran : follow (step defaultEcho) (start defaultEcho) flood = some flooded := by decide +kernel
  refine ⟨ran, by decide, rfl, by decide, ?_, flooded_stuck⟩
  intro forwards
  have clear := Bridge.clear_of_forwardsDown (run_valid ran).bridge forwards (by decide) rfl (by decide)
  exact absurd clear (by decide +kernel)

end Echo

end ServerNaive
