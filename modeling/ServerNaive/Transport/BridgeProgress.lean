import ServerNaive.Async.Stream
import ServerNaive.Transport.Bridge

/-! What the bridge can do without the help of one of its two sides. -/
namespace ServerNaive
open AsyncIo Chunk

namespace Bridge

variable {γ : Type} [Chunk γ]

/-! The end of the bridge behind the end of the tunnel. -/

/-- The bridge leaves its loop by steps of its own. -/
def CanLeave (cfg : BridgeConfig) (s : Bridge γ) : Prop :=
  Leads (step cfg) (· = .bridge) (fun t => t.phase = .left) s

/-- The upload side is over, or the session has something to give that will end it: its own end,
or bytes that the dropped pipe refuses. -/
def UploadEnds (s : Bridge γ) : Prop :=
  s.upEof = true ∨ s.lost = true ∨ s.bodyEnd = true ∨ 0 < s.upRest + total s.inbox

/-- Steps to the end of the loop. -/
def leavingMeasure (s : Bridge γ) : Nat :=
  2 * s.inbox.length + (if s.upEof then 0 else 1) + (if s.downEof then 0 else 1) +
    match s.phase with
    | .left => 0
    | .selecting => 1
    | .writingUp _ => 2
    | .writingDown _ => 2

/-- The tunnel is over and all that it wrote has been given to the client. -/
structure Drained (cfg : BridgeConfig) (s : Bridge γ) : Prop where
  valid : s.Valid cfg
  dropped : s.tunnelOver = true
  empty : size s.download.data = 0
  written : s.downRest = 0

theorem Drained.waits {cfg : BridgeConfig} {s : Bridge γ} (h : s.Drained cfg) (ends : s.UploadEnds)
    (waits : s.advance cfg.capacity = none) : s.phase = .left := by
  obtain ⟨up_closed, down_closed⟩ := h.valid.over_closed h.dropped
  cases advance_none waits with
  | left phase => exact phase
  | selecting phase some_open up down =>
      exfalso
      rcases down with ended | ⟨_, opened⟩
      · rcases up with up | ⟨lost, empty, bodyEnd⟩
        · exact some_open ⟨up, ended⟩
        · simp only [UploadEnds, upRest, phase, lost, empty, bodyEnd, total_nil] at ends
          simp only [Bool.false_eq_true, or_false, Nat.add_zero, Nat.lt_irrefl] at ends
          exact some_open ⟨ends, ended⟩
      · cases down_closed.symm.trans opened
  | writingUp rest phase more opened full => cases up_closed.symm.trans opened
  | writingDown rest phase more lost shut =>
      have written := h.written
      simp only [downRest, phase] at written
      omega

theorem Drained.advance {cfg : BridgeConfig} {s t : Bridge γ} (h : s.Drained cfg) (ends : s.UploadEnds)
    (moved : s.advance cfg.capacity = some t) :
    t.Drained cfg ∧ t.UploadEnds ∧ t.leavingMeasure < s.leavingMeasure := by
  have valid := advance_valid h.valid moved
  have closed := h.valid.over_closed h.dropped
  have dropped := h.dropped
  have empty := h.empty
  have written := h.written
  cases advance_moves moved with
  | leave phase up down =>
      exact ⟨⟨valid, dropped, empty, rfl⟩, .inl up, by simp [leavingMeasure, leave, phase, up, down]⟩
  | ended phase up why =>
      exact ⟨⟨valid, dropped, empty, by simp [downRest, endUpload, phase]⟩, .inl rfl,
        by simp [leavingMeasure, endUpload, phase, up]⟩
  | take chunk inbox phase up lost arrived =>
      refine ⟨⟨valid, dropped, empty, rfl⟩, ?_, ?_⟩
      · simpa [UploadEnds, upRest, phase, arrived] using ends
      · simp only [leavingMeasure, phase, arrived, List.length_cons]
        omega
  | fetch phase idle down data => omega
  | finish phase idle down data closed =>
      refine ⟨⟨valid, dropped, empty, ?_⟩, ?_, ?_⟩
      · simp [downRest, phase]
      · simpa [UploadEnds, upRest, phase] using ends
      · simp [leavingMeasure, phase, down]
  | upDone rest phase done =>
      refine ⟨⟨valid, dropped, empty, rfl⟩, ?_, ?_⟩
      · simpa [UploadEnds, upRest, phase, done] using ends
      · simp [leavingMeasure, phase]
  | upBroken rest phase more refused =>
      refine ⟨⟨valid, dropped, empty, rfl⟩, .inl rfl, ?_⟩
      simp only [leavingMeasure, phase, if_true]
      omega
  | up rest phase more opened room => cases closed.1.symm.trans opened
  | downDone rest phase done =>
      refine ⟨⟨valid, dropped, empty, rfl⟩, ?_, ?_⟩
      · simpa [UploadEnds, upRest, phase] using ends
      · simp [leavingMeasure, phase]
  | downBroken rest phase more lost =>
      simp only [downRest, phase] at written
      omega
  | down rest phase more lost window =>
      simp only [downRest, phase] at written
      omega

theorem canLeave_of_uploadEnds {cfg : BridgeConfig} {s : Bridge γ} (h : s.Drained cfg) (ends : s.UploadEnds) :
    s.CanLeave cfg := by
  apply leads_of_progress leavingMeasure (I := fun t => t.Drained cfg ∧ t.UploadEnds) _ ⟨h, ends⟩
  rintro t ⟨drained, ends⟩ staying
  cases moved : t.advance cfg.capacity with
  | none => exact absurd (drained.waits ends moved) staying
  | some next =>
      obtain ⟨kept, still, lower⟩ := drained.advance ends moved
      exact ⟨.bridge, next, rfl, moved, ⟨kept, still⟩, lower⟩

/-- A silent client, of whose side the session returns no end. -/
structure Idle (s : Bridge γ) : Prop where
  up : s.upEof = false
  lost : s.lost = false
  bodyEnd : s.bodyEnd = false
  nothing : s.upRest + total s.inbox = 0

theorem not_uploadEnds_iff {s : Bridge γ} : ¬ s.UploadEnds ↔ s.Idle := by
  unfold UploadEnds
  constructor
  · intro silent
    push Not at silent
    obtain ⟨up, lost, bodyEnd, nothing⟩ := silent
    exact ⟨Bool.not_eq_true _ ▸ up, Bool.not_eq_true _ ▸ lost, Bool.not_eq_true _ ▸ bodyEnd, Nat.le_zero.mp nothing⟩
  · rintro ⟨up, lost, bodyEnd, nothing⟩
    simp [up, lost, bodyEnd, nothing]

/-- Without the client the bridge stays as it is: its loop also waits for the upload side. -/
theorem Idle.advance {capacity : Nat} {s t : Bridge γ} (h : s.Idle) (stays : s.phase ≠ .left)
    (moved : s.advance capacity = some t) : t.Idle ∧ t.phase ≠ .left := by
  obtain ⟨up, lost, bodyEnd, nothing⟩ := h
  cases advance_moves moved with
  | leave phase ended down => cases up.symm.trans ended
  | ended phase _ why =>
      rcases why with gone | ⟨_, ended⟩
      · cases lost.symm.trans gone
      · cases bodyEnd.symm.trans ended
  | take chunk inbox phase _ _ arrived =>
      refine ⟨⟨up, lost, bodyEnd, ?_⟩, nofun⟩
      simpa [upRest, phase, arrived] using nothing
  | fetch phase idle down data =>
      refine ⟨⟨up, lost, bodyEnd, ?_⟩, nofun⟩
      simpa [upRest, phase] using nothing
  | finish phase idle down data closed => exact ⟨⟨up, lost, bodyEnd, by simpa [upRest] using nothing⟩, stays⟩
  | upDone rest phase done =>
      refine ⟨⟨up, lost, bodyEnd, ?_⟩, nofun⟩
      simpa [upRest, phase, done] using nothing
  | upBroken rest phase more closed =>
      simp only [upRest, phase] at nothing
      omega
  | up rest phase more opened room =>
      simp only [upRest, phase] at nothing
      omega
  | downDone rest phase done =>
      refine ⟨⟨up, lost, bodyEnd, ?_⟩, nofun⟩
      simpa [upRest, phase] using nothing
  | downBroken rest phase more gone => cases lost.symm.trans gone
  | down rest phase more _ window =>
      refine ⟨⟨up, lost, bodyEnd, ?_⟩, nofun⟩
      simpa [upRest, phase] using nothing

/-- In every reachable state in which the tunnel is over and drained, the bridge leaves by
itself exactly when its upload side is over or about to be. -/
theorem bridge_ends_iff {cfg : BridgeConfig} {schedule : List (BridgeEvent γ)} {s : Bridge γ}
    (ran : follow (step cfg) (start cfg) schedule = some s) (dropped : s.tunnelOver = true)
    (empty : size s.download.data = 0) (written : s.downRest = 0) : s.CanLeave cfg ↔ s.UploadEnds := by
  have valid := run_valid ran
  constructor
  · intro leaves
    by_contra silent
    have idle := not_uploadEnds_iff.mp silent
    have stays : s.phase ≠ .left := by
      intro left
      cases idle.up.symm.trans (valid.left_eof left).1
    obtain ⟨t, ⟨_, staying⟩, left⟩ := leaves.invariant (I := fun t => t.Idle ∧ t.phase ≠ .left) ⟨idle, stays⟩
      fun kept own moved => kept.1.advance kept.2 (own ▸ moved)
    exact staying left
  · exact canLeave_of_uploadEnds ⟨valid, dropped, empty, written⟩

/-- The default buffer size and the usual window of a stream. -/
def defaultConfig : BridgeConfig := ⟨32 * 1024, 65535, by decide⟩

/-- The client ends its side and then the tunnel ends. -/
def finSchedule (returned : Bool) : List (BridgeEvent Bytes) := [.clientEnds returned, .tunnelEnds]

/-- A client that has ended its side lets the bridge go if the session returns the end, and not if it
idles. -/
theorem bridge_ends_after_fin :
    (∃ s, follow (step defaultConfig) (start defaultConfig) (finSchedule true) = some s ∧
      s.CanLeave defaultConfig) ∧
    ∃ s, follow (step defaultConfig) (start defaultConfig) (finSchedule false) = some s ∧
      s.fin = true ∧ ¬ s.CanLeave defaultConfig := by
  have returned : follow (step defaultConfig) (start defaultConfig) (finSchedule true) = some _ := rfl
  have idles : follow (step defaultConfig) (start defaultConfig) (finSchedule false) = some _ := rfl
  refine ⟨⟨_, returned, (bridge_ends_iff returned rfl rfl rfl).mpr (.inr (.inr (.inl rfl)))⟩, _, idles, rfl, ?_⟩
  exact (bridge_ends_iff idles rfl rfl rfl).not.mpr (not_uploadEnds_iff.mpr ⟨rfl, rfl, rfl, rfl⟩)

/-- A silent client does not: the tunnel is over, the end of the response is written, and the
bridge waits for the session. -/
theorem bridge_outlives_tunnel :
    ∃ s : Bridge Bytes, follow (step defaultConfig) (start defaultConfig) [.tunnelEnds, .bridge] = some s ∧
      s.tunnelOver = true ∧ size s.download.data = 0 ∧ s.downRest = 0 ∧ s.endMarks = 1 ∧
      s.advance defaultConfig.capacity = none ∧ ¬ s.CanLeave defaultConfig := by
  refine ⟨_, rfl, rfl, rfl, rfl, rfl, rfl, ?_⟩
  intro leaves
  obtain ⟨t, ⟨_, staying⟩, left⟩ := leaves.invariant (I := fun t => t.Idle ∧ t.phase ≠ .left)
    ⟨⟨rfl, rfl, rfl, rfl⟩, nofun⟩ fun kept own moved => kept.1.advance kept.2 (own ▸ moved)
  exact staying left

/-! Download without the tunnel's reads. -/

/-- All that stands in the download half reaches a client that reads, by steps of the bridge and
reads of the client. -/
def ForwardsDown (cfg : BridgeConfig) (s : Bridge γ) : Prop :=
  0 < size s.download.data → s.lost = false → 0 < s.window →
    Leads (step cfg) (fun e => e = .bridge ∨ ∃ n, e = .clientReads n)
      (fun t => size t.given = size s.given + s.downRest + size s.download.data) s

/-- When there is something to give to the client, the upload half has room for all that the
client has sent, or is closed. -/
def DownClear (cfg : BridgeConfig) (s : Bridge γ) : Prop :=
  0 < size s.download.data → s.lost = false → 0 < s.window →
    s.upload.closed = true ∨ s.upRest + total s.inbox + size s.upload.data ≤ cfg.capacity

def downMeasure (s : Bridge γ) : Nat :=
  4 * s.inbox.length + 4 * size s.download.data + (if s.upEof then 0 else 1) + (if s.window = 0 then 1 else 0) +
    match s.phase with
    | .writingUp rest => if size rest = 0 then 1 else 2
    | .writingDown rest => 2 * size rest + 1
    | _ => 0

/-- On the way to `n` given to the client. -/
structure DownGoing (cfg : BridgeConfig) (n : Nat) (s : Bridge γ) : Prop where
  valid : s.Valid cfg
  lost : s.lost = false
  fits : s.upload.closed = true ∨ s.upRest + total s.inbox + size s.upload.data ≤ cfg.capacity
  count : size s.given + s.downRest + size s.download.data = n

theorem DownGoing.advance {cfg : BridgeConfig} {n : Nat} {s t : Bridge γ} (h : s.DownGoing cfg n)
    (short : size s.given ≠ n) (moved : s.advance cfg.capacity = some t) :
    t.DownGoing cfg n ∧ t.downMeasure < s.downMeasure := by
  have valid := advance_valid h.valid moved
  obtain ⟨before, lost, fits, count⟩ := h
  cases advance_moves moved with
  | leave phase up down =>
      exfalso
      rcases before.downEof_drained down with gone | ⟨_, empty⟩
      · cases lost.symm.trans gone
      · simp only [downRest, phase] at count
        omega
  | ended phase up why =>
      refine ⟨⟨valid, lost, .inl rfl, ?_⟩, ?_⟩
      · simpa [endUpload, downRest] using count
      · simp only [downMeasure, endUpload, phase, up, if_true, Bool.false_eq_true, if_false]
        split_ifs <;> omega
  | take chunk inbox phase up _ arrived =>
      refine ⟨⟨valid, lost, ?_, ?_⟩, ?_⟩
      · simpa [upRest, phase, arrived] using fits
      · simpa [downRest, phase] using count
      · simp only [downMeasure, phase, arrived, List.length_cons]
        split_ifs <;> omega
  | fetch phase idle down data =>
      refine ⟨⟨valid, lost, ?_, ?_⟩, ?_⟩
      · simpa [upRest, phase] using fits
      · simp only [downRest, phase] at count
        simp only [downRest, Pipe.size_read, size_take]
        omega
      · simp only [downMeasure, phase, Pipe.size_read, size_take, bridgeBuf]
        omega
  | finish phase idle down data closed =>
      simp only [downRest, phase] at count
      omega
  | upDone rest phase done =>
      refine ⟨⟨valid, lost, ?_, ?_⟩, ?_⟩
      · simpa [upRest, phase, done] using fits
      · simpa [downRest, phase] using count
      · simp [downMeasure, phase, done]
  | upBroken rest phase more closed =>
      refine ⟨⟨valid, lost, .inl closed, ?_⟩, ?_⟩
      · simpa [downRest, phase] using count
      · simp only [downMeasure, phase, if_true, if_neg more.ne']
        omega
  | up rest phase more opened room =>
      have roomy := fits.resolve_left (by rw [opened]; exact Bool.noConfusion)
      simp only [upRest, phase] at roomy
      have whole : size rest ≤ s.upload.room cfg.capacity := by
        unfold Pipe.room
        omega
      refine ⟨⟨valid, lost, .inr ?_, ?_⟩, ?_⟩
      · simp only [upRest, Pipe.size_write, size_take, size_drop]
        omega
      · simpa [downRest, phase] using count
      · simp only [downMeasure, phase, size_drop, if_neg more.ne', Nat.sub_eq_zero_of_le whole, if_true]
        omega
  | downDone rest phase done =>
      refine ⟨⟨valid, lost, ?_, ?_⟩, ?_⟩
      · simpa [upRest, phase] using fits
      · simpa [downRest, phase, done] using count
      · simp [downMeasure, phase]
  | downBroken rest phase more gone => cases lost.symm.trans gone
  | down rest phase more _ window =>
      refine ⟨⟨valid, lost, ?_, ?_⟩, ?_⟩
      · simpa [upRest, phase] using fits
      · simp only [downRest, phase] at count
        simp only [downRest, size_append, size_take, size_drop]
        omega
      · simp only [downMeasure, phase, size_drop, if_neg window.ne']
        split_ifs <;> omega

/-- Some step of the bridge, or a read of the client, goes on. -/
theorem DownGoing.progress {cfg : BridgeConfig} {n : Nat} {s : Bridge γ} (h : s.DownGoing cfg n)
    (short : size s.given ≠ n) :
    ∃ e t, (e = .bridge ∨ ∃ n, e = .clientReads n) ∧ s.step cfg e = some t ∧ t.DownGoing cfg n ∧
      t.downMeasure < s.downMeasure := by
  have count := h.count
  cases moved : s.advance cfg.capacity with
  | some t =>
      obtain ⟨kept, lower⟩ := h.advance short moved
      exact ⟨.bridge, t, .inl rfl, moved, kept, lower⟩
  | none =>
      cases advance_none moved with
      | left phase =>
          rcases h.valid.downEof_drained (h.valid.left_eof phase).2 with gone | ⟨_, empty⟩
          · cases h.lost.symm.trans gone
          · simp only [downRest, phase] at count
            omega
      | selecting phase some_open up down =>
          simp only [downRest, phase] at count
          rcases down with ended | ⟨empty, _⟩
          · rcases h.valid.downEof_drained ended with gone | ⟨_, empty⟩
            · cases h.lost.symm.trans gone
            · omega
          · omega
      | writingUp rest phase more opened full =>
          have roomy := h.fits.resolve_left (by rw [opened]; exact Bool.noConfusion)
          simp only [upRest, phase] at roomy
          unfold Pipe.room at full
          omega
      | writingDown rest phase more _ shut =>
          -- only here does the bridge need the client, which has something to read
          have windows := h.valid.windows
          have unread : 0 < s.unread := by
            have opens := cfg.opens
            omega
          have stepped : s.step cfg (.clientReads s.unread) =
              some { s with unread := s.unread - s.unread, window := s.window + s.unread } :=
            if_pos ⟨unread, le_rfl⟩
          refine ⟨_, _, .inr ⟨_, rfl⟩, stepped, ⟨step_valid h.valid stepped, h.lost, h.fits, h.count⟩, ?_⟩
          simp only [downMeasure, shut, Nat.zero_add, if_true, if_neg unread.ne']
          omega

theorem forwardsDown_of_clear {cfg : BridgeConfig} {s : Bridge γ} (valid : s.Valid cfg) (clear : s.DownClear cfg) :
    s.ForwardsDown cfg := by
  intro data lost window
  have going : s.DownGoing cfg (size s.given + s.downRest + size s.download.data) :=
    ⟨valid, lost, clear data lost window, rfl⟩
  exact leads_of_progress downMeasure (fun _ => DownGoing.progress) going

/-- The client has sent more than the upload half has room for; nothing is fetched from the
download half until the tunnel reads. -/
structure UpClogged (cfg : BridgeConfig) (given : Nat) (s : Bridge γ) : Prop where
  valid : s.Valid cfg
  lost : s.lost = false
  opened : s.upload.closed = false
  over_full : cfg.capacity < s.upRest + total s.inbox + size s.upload.data
  data : 0 < size s.download.data
  count : size s.given + s.downRest = given

theorem UpClogged.selecting {cfg : BridgeConfig} {given : Nat} {s : Bridge γ} (h : s.UpClogged cfg given)
    (phase : s.phase = .selecting) : s.upEof = false ∧ s.inbox ≠ [] := by
  constructor
  · by_contra ended
    have closed := h.valid.upEof_closed (Bool.not_eq_false _ ▸ ended)
    cases h.opened.symm.trans closed
  · intro empty
    have over_full := h.over_full
    have upload_le := h.valid.upload_le
    simp only [upRest, phase, empty, total_nil] at over_full
    omega

theorem UpClogged.advance {cfg : BridgeConfig} {given : Nat} {s t : Bridge γ} (h : s.UpClogged cfg given)
    (moved : s.advance cfg.capacity = some t) : t.UpClogged cfg given := by
  have valid := advance_valid h.valid moved
  have selecting := h.selecting
  obtain ⟨before, lost, opened, over_full, data, count⟩ := h
  cases advance_moves moved with
  | leave phase up down => cases (selecting phase).1.symm.trans up
  | ended phase up why =>
      rcases why with gone | ⟨empty, _⟩
      · cases lost.symm.trans gone
      · exact absurd empty (selecting phase).2
  | take chunk inbox phase up _ arrived =>
      refine ⟨valid, lost, opened, ?_, data, ?_⟩
      · simpa [upRest, phase, arrived] using over_full
      · simpa [downRest, phase] using count
  | fetch phase idle down _ =>
      rcases idle with up | ⟨_, empty, _⟩
      · cases (selecting phase).1.symm.trans up
      · exact absurd empty (selecting phase).2
  | finish phase idle down empty closed => omega
  | upDone rest phase done =>
      refine ⟨valid, lost, opened, ?_, data, ?_⟩
      · simpa [upRest, phase, done] using over_full
      · simpa [downRest, phase] using count
  | upBroken rest phase more closed => cases opened.symm.trans closed
  | up rest phase more _ room =>
      refine ⟨valid, lost, opened, ?_, data, ?_⟩
      · simp only [upRest, phase] at over_full
        simp only [upRest, Pipe.size_write, size_take, size_drop]
        omega
      · simpa [downRest, phase] using count
  | downDone rest phase done =>
      refine ⟨valid, lost, opened, ?_, data, ?_⟩
      · simpa [upRest, phase] using over_full
      · simpa [downRest, phase, done] using count
  | downBroken rest phase more gone => cases lost.symm.trans gone
  | down rest phase more _ window =>
      refine ⟨valid, lost, opened, ?_, data, ?_⟩
      · simpa [upRest, phase] using over_full
      · simp only [downRest, phase] at count
        simp only [downRest, size_append, size_take, size_drop]
        omega

theorem clear_of_forwardsDown {cfg : BridgeConfig} {s : Bridge γ} (valid : s.Valid cfg)
    (forwards : s.ForwardsDown cfg) : s.DownClear cfg := by
  intro data lost window
  by_contra clogged
  push Not at clogged
  have start : s.UpClogged cfg (size s.given + s.downRest) :=
    ⟨valid, lost, Bool.not_eq_true _ ▸ clogged.1, clogged.2, data, rfl⟩
  obtain ⟨t, kept, reached⟩ := (forwards data lost window).invariant start (by
    intro s e t h own stepped
    rcases own with rfl | ⟨n, rfl⟩
    · exact h.advance stepped
    · have valid := step_valid h.valid stepped
      rw [step] at stepped
      split_ifs at stepped
      cases stepped
      exact { h with valid })
  have count := kept.count
  omega

/-! Upload without the client's reads. -/

/-- All that the client has sent gets into the upload half, by steps of the bridge and reads of
the tunnel. -/
def ForwardsUp (cfg : BridgeConfig) (s : Bridge γ) : Prop :=
  0 < total s.inbox → s.upload.closed = false → 0 < s.upload.room cfg.capacity →
    Leads (step cfg) (fun e => e = .bridge ∨ ∃ n, e = .tunnelReads n)
      (fun t => size t.forwarded = size s.forwarded + s.upRest + total s.inbox) s

/-- When there is something to take from the client, the client lets the session send all that
the bridge holds for it. -/
def UpClear (cfg : BridgeConfig) (s : Bridge γ) : Prop :=
  0 < total s.inbox → s.upload.closed = false → 0 < s.upload.room cfg.capacity → s.downRest ≤ s.window

def upMeasure (cfg : BridgeConfig) (s : Bridge γ) : Nat :=
  2 * total s.inbox + 2 * s.inbox.length + (if s.upload.room cfg.capacity = 0 then 1 else 0) +
    match s.phase with
    | .writingUp rest => 2 * size rest + 1
    | .writingDown rest => 2 * size rest + 1
    | _ => 0

/-- On the way to `n` in the upload half. -/
structure UpGoing (cfg : BridgeConfig) (n : Nat) (s : Bridge γ) : Prop where
  valid : s.Valid cfg
  lost : s.lost = false
  opened : s.upload.closed = false
  allowed : s.downRest ≤ s.window
  count : size s.forwarded + s.upRest + total s.inbox = n

theorem UpGoing.selecting {cfg : BridgeConfig} {n : Nat} {s : Bridge γ} (h : s.UpGoing cfg n)
    (short : size s.forwarded ≠ n) (phase : s.phase = .selecting) : s.upEof = false ∧ s.inbox ≠ [] := by
  constructor
  · by_contra ended
    have closed := h.valid.upEof_closed (Bool.not_eq_false _ ▸ ended)
    cases h.opened.symm.trans closed
  · intro empty
    have count := h.count
    simp only [upRest, phase, empty, total_nil] at count
    omega

theorem UpGoing.advance {cfg : BridgeConfig} {n : Nat} {s t : Bridge γ} (h : s.UpGoing cfg n)
    (short : size s.forwarded ≠ n) (moved : s.advance cfg.capacity = some t) :
    t.UpGoing cfg n ∧ t.upMeasure cfg < s.upMeasure cfg := by
  have valid := advance_valid h.valid moved
  have selecting := h.selecting short
  obtain ⟨before, lost, opened, allowed, count⟩ := h
  cases advance_moves moved with
  | leave phase up down => cases (selecting phase).1.symm.trans up
  | ended phase up why =>
      rcases why with gone | ⟨empty, _⟩
      · cases lost.symm.trans gone
      · exact absurd empty (selecting phase).2
  | take chunk inbox phase up _ arrived =>
      refine ⟨⟨valid, lost, opened, ?_, ?_⟩, ?_⟩
      · simp [downRest]
      · simp only [upRest, phase, arrived, total_cons] at count
        simp only [upRest]
        omega
      · simp only [upMeasure, phase, arrived, total_cons, List.length_cons]
        omega
  | fetch phase idle down _ =>
      rcases idle with up | ⟨_, empty, _⟩
      · cases (selecting phase).1.symm.trans up
      · exact absurd empty (selecting phase).2
  | finish phase idle down _ closed =>
      rcases idle with up | ⟨_, empty, _⟩
      · cases (selecting phase).1.symm.trans up
      · exact absurd empty (selecting phase).2
  | upDone rest phase done =>
      refine ⟨⟨valid, lost, opened, ?_, ?_⟩, ?_⟩
      · simp [downRest]
      · simpa [upRest, phase, done] using count
      · simp [upMeasure, phase, done]
  | upBroken rest phase more closed => cases opened.symm.trans closed
  | up rest phase more _ room =>
      refine ⟨⟨valid, lost, opened, ?_, ?_⟩, ?_⟩
      · simp [downRest]
      · simp only [upRest, phase] at count
        simp only [upRest, size_append, size_take, size_drop]
        omega
      · simp only [upMeasure, phase, size_drop, if_neg room.ne']
        split_ifs <;> omega
  | downDone rest phase done =>
      refine ⟨⟨valid, lost, opened, ?_, ?_⟩, ?_⟩
      · simp [downRest]
      · simpa [upRest, phase] using count
      · simp [upMeasure, phase, done]
  | downBroken rest phase more gone => cases lost.symm.trans gone
  | down rest phase more _ window =>
      simp only [downRest, phase] at allowed
      refine ⟨⟨valid, lost, opened, ?_, ?_⟩, ?_⟩
      · simp only [downRest, size_drop]
        omega
      · simpa [upRest, phase] using count
      · simp only [upMeasure, phase, size_drop]
        omega

theorem UpGoing.progress {cfg : BridgeConfig} {n : Nat} {s : Bridge γ} (h : s.UpGoing cfg n)
    (short : size s.forwarded ≠ n) :
    ∃ e t, (e = .bridge ∨ ∃ n, e = .tunnelReads n) ∧ s.step cfg e = some t ∧ t.UpGoing cfg n ∧
      t.upMeasure cfg < s.upMeasure cfg := by
  cases moved : s.advance cfg.capacity with
  | some t =>
      obtain ⟨kept, lower⟩ := h.advance short moved
      exact ⟨.bridge, t, .inl rfl, moved, kept, lower⟩
  | none =>
      cases advance_none moved with
      | left phase =>
          have closed := h.valid.upEof_closed (h.valid.left_eof phase).1
          cases h.opened.symm.trans closed
      | selecting phase some_open up down =>
          rcases up with ended | ⟨_, empty, _⟩
          · cases (h.selecting short phase).1.symm.trans ended
          · exact absurd empty (h.selecting short phase).2
      | writingUp rest phase more _ full =>
          have there : 0 < size s.upload.data := by
            have positive := cfg.capacity_pos
            unfold Pipe.room at full
            omega
          have running : s.tunnelOver = false := by
            by_contra dropped
            have closed := (h.valid.over_closed (Bool.not_eq_false _ ▸ dropped)).1
            cases h.opened.symm.trans closed
          have stepped : s.step cfg (.tunnelReads (size s.upload.data)) =
              some { s with upload := s.upload.read (size s.upload.data) } :=
            if_pos ⟨running, there, le_rfl⟩
          have opens : (s.upload.read (size s.upload.data)).room cfg.capacity ≠ 0 := by
            have positive := cfg.capacity_pos
            rw [Pipe.room, Pipe.size_read]
            omega
          refine ⟨_, _, .inr ⟨_, rfl⟩, stepped,
            ⟨step_valid h.valid stepped, h.lost, h.opened, h.allowed, h.count⟩, ?_⟩
          simp only [upMeasure, full, if_true, if_neg opens]
          omega
      | writingDown rest phase more _ shut =>
          have allowed := h.allowed
          simp only [downRest, phase] at allowed
          omega

theorem forwardsUp_of_clear {cfg : BridgeConfig} {s : Bridge γ} (valid : s.Valid cfg) (clear : s.UpClear cfg) :
    s.ForwardsUp cfg := by
  intro sent opened room
  have lost : s.lost = false := by
    by_contra gone
    rw [valid.lost_inbox (Bool.not_eq_false _ ▸ gone)] at sent
    exact Nat.lt_irrefl 0 sent
  have going : s.UpGoing cfg (size s.forwarded + s.upRest + total s.inbox) :=
    ⟨valid, lost, opened, clear sent opened room, rfl⟩
  exact leads_of_progress (upMeasure cfg) (fun _ => UpGoing.progress) going

/-- The bridge holds more for the client than the client lets it send; nothing is taken from
the session until the client reads. -/
structure DownClogged (forwarded : Nat) (s : Bridge γ) : Prop where
  lost : s.lost = false
  over_full : s.window < s.downRest
  count : size s.forwarded + s.upRest = forwarded

theorem DownClogged.advance {capacity : Nat} {forwarded : Nat} {s t : Bridge γ} (h : s.DownClogged forwarded)
    (moved : s.advance capacity = some t) : t.DownClogged forwarded := by
  obtain ⟨lost, over_full, count⟩ := h
  cases advance_moves moved with
  | down rest phase more _ window =>
      simp only [downRest, phase] at over_full
      refine ⟨lost, ?_, ?_⟩
      · simp only [downRest, size_drop]
        omega
      · simpa [upRest, phase] using count
  | downDone rest phase done =>
      simp only [downRest, phase] at over_full
      omega
  | downBroken rest phase more gone => cases lost.symm.trans gone
  | leave phase up down => simp [downRest, phase] at over_full
  | ended phase up why => simp [downRest, phase] at over_full
  | take chunk inbox phase up _ arrived => simp [downRest, phase] at over_full
  | fetch phase idle down data => simp [downRest, phase] at over_full
  | finish phase idle down data closed => simp [downRest, phase] at over_full
  | upDone rest phase done => simp [downRest, phase] at over_full
  | upBroken rest phase more closed => simp [downRest, phase] at over_full
  | up rest phase more opened room => simp [downRest, phase] at over_full

theorem clear_of_forwardsUp {cfg : BridgeConfig} {s : Bridge γ} (valid : s.Valid cfg)
    (forwards : s.ForwardsUp cfg) : s.UpClear cfg := by
  intro sent opened room
  by_contra clogged
  have lost : s.lost = false := by
    by_contra gone
    rw [valid.lost_inbox (Bool.not_eq_false _ ▸ gone)] at sent
    exact Nat.lt_irrefl 0 sent
  have start : s.DownClogged (size s.forwarded + s.upRest) := ⟨lost, Nat.lt_of_not_le clogged, rfl⟩
  obtain ⟨t, kept, reached⟩ := (forwards sent opened room).invariant start (by
    intro s e t h own stepped
    rcases own with rfl | ⟨n, rfl⟩
    · exact h.advance stepped
    · rw [step] at stepped
      split_ifs at stepped
      cases stepped
      exact ⟨h.lost, h.over_full, h.count⟩)
  have count := kept.count
  omega

/-- In every reachable state each direction goes on without the other exactly when the other
is clear of it. -/
theorem forwards_iff {cfg : BridgeConfig} {s : Bridge γ} (valid : s.Valid cfg) :
    s.ForwardsDown cfg ∧ s.ForwardsUp cfg ↔ s.DownClear cfg ∧ s.UpClear cfg := by
  constructor
  · rintro ⟨down, up⟩
    exact ⟨clear_of_forwardsDown valid down, clear_of_forwardsUp valid up⟩
  · rintro ⟨down, up⟩
    exact ⟨forwardsDown_of_clear valid down, forwardsUp_of_clear valid up⟩

end Bridge

end ServerNaive
