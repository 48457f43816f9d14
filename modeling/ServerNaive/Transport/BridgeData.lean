import ServerNaive.Async.Bytes
import ServerNaive.Transport.BridgeProgress

/-! What the bridge moves. Its loop is followed here outcome by outcome of the calls it awaits, with
surroundings that may answer as they like: a write to the client may fail at any time, and the tunnel
may go away. The bridge with its pipes and its flow control is one such run. -/
namespace ServerNaive
open AsyncIo

/-- A call of `write_response_body`. -/
inductive ClientWrite where
  | body (chunk : Bytes)
  | eos
  deriving DecidableEq

def ClientWrite.data : ClientWrite → Bytes
  | .body chunk => chunk
  | .eos => []

/-- Where the loop is, its flags, what the session gave it, what it put in the upload half, what the
tunnel wrote and what of it is still in the download half, what it offered to the client and what the
client got. -/
structure BridgeLog where
  phase : BridgePhase Bytes
  upEof : Bool
  downEof : Bool
  received : Bytes
  put : Bytes
  wrote : Bytes
  unread : Bytes
  toClient : List ClientWrite
  given : Bytes
  shut : Bool
  dropped : Bool
  deriving DecidableEq

/-- How a call that the bridge awaits comes out, or what the tunnel does. -/
inductive BridgeOutcome where
  | body (chunk : Bytes)
  | bodyEnd
  | bodyError
  | upTakes (n : Nat)
  | upDone
  | upFails
  | read (n : Nat)
  | readEnd
  | downTakes (n : Nat)
  | downDone
  | downFails
  | leave
  | tunnelWrites (chunk : Bytes)
  | tunnelShuts
  | tunnelDrops
  deriving DecidableEq

namespace BridgeLog

def start : BridgeLog := ⟨.selecting, false, false, [], [], [], [], [], [], false, false⟩

/-- The `select!` of the loop: the upload arm while the client has not ended, the download arm while the
tunnel has not, and the end of the loop after both. While the end of the response is being written the
bridge does nothing else, so that write is one step. -/
def selectStep (s : BridgeLog) : BridgeOutcome → Option BridgeLog
  | .body chunk =>
      if s.upEof then none else some { s with received := s.received ++ chunk, phase := .writingUp chunk }
  | .bodyEnd => if s.upEof then none else some { s with upEof := true }
  | .bodyError => if s.upEof then none else some { s with upEof := true }
  | .read n =>
      if s.downEof = false ∧ 0 < n ∧ n ≤ bridgeBuf ∧ s.unread ≠ [] then
        some { s with
          unread := s.unread.drop n
          toClient := s.toClient ++ [.body (s.unread.take n)]
          phase := .writingDown (s.unread.take n) }
      else none
  | .readEnd =>
      if s.downEof = false ∧ s.unread = [] ∧ s.shut then
        some { s with toClient := s.toClient ++ [.eos], downEof := true }
      else none
  | .leave => if s.upEof ∧ s.downEof then some { s with phase := .left } else none
  | _ => none

/-- `io_write.write_all`, which the duplex refuses once the tunnel has dropped its end. -/
def writeUpStep (rest : Bytes) (s : BridgeLog) : BridgeOutcome → Option BridgeLog
  | .upTakes n =>
      if 0 < n ∧ rest ≠ [] ∧ s.dropped = false then
        some { s with put := s.put ++ rest.take n, phase := .writingUp (rest.drop n) }
      else none
  | .upDone => if rest = [] then some { s with phase := .selecting } else none
  | .upFails => if rest ≠ [] ∧ s.dropped then some { s with phase := .selecting, upEof := true } else none
  | _ => none

/-- `write_response_body`, which may fail after any part. -/
def writeDownStep (rest : Bytes) (s : BridgeLog) : BridgeOutcome → Option BridgeLog
  | .downTakes n =>
      if 0 < n ∧ rest ≠ [] then
        some { s with given := s.given ++ rest.take n, phase := .writingDown (rest.drop n) }
      else none
  | .downDone => if rest = [] then some { s with phase := .selecting } else none
  | .downFails => some { s with phase := .selecting, downEof := true }
  | _ => none

def loopStep (s : BridgeLog) (outcome : BridgeOutcome) : Option BridgeLog :=
  match s.phase with
  | .selecting => s.selectStep outcome
  | .writingUp rest => s.writeUpStep rest outcome
  | .writingDown rest => s.writeDownStep rest outcome
  | .left => none

def step (s : BridgeLog) : BridgeOutcome → Option BridgeLog
  | .tunnelWrites chunk =>
      if s.shut = false ∧ s.phase ≠ .left then
        some { s with wrote := s.wrote ++ chunk, unread := s.unread ++ chunk }
      else none
  | .tunnelShuts => some { s with shut := true }
  | .tunnelDrops => some { s with shut := true, dropped := true }
  | outcome => s.loopStep outcome

/-- What was received and is not yet in the upload half. -/
def upRest (s : BridgeLog) : Bytes :=
  match s.phase with
  | .writingUp rest => rest
  | _ => []

/-- What was offered and the client has not taken yet. -/
def downRest (s : BridgeLog) : Bytes :=
  match s.phase with
  | .writingDown rest => rest
  | _ => []

def offered (s : BridgeLog) : Bytes := s.toClient.flatMap ClientWrite.data

/-- Everything a step can do, with the guard it does it under. -/
inductive Moves (s : BridgeLog) : BridgeLog → Prop
  | body (chunk : Bytes) (phase : s.phase = .selecting) (up : s.upEof = false) :
      Moves s { s with received := s.received ++ chunk, phase := .writingUp chunk }
  | ended (phase : s.phase = .selecting) (up : s.upEof = false) : Moves s { s with upEof := true }
  | upTakes (rest : Bytes) (n : Nat) (phase : s.phase = .writingUp rest) (some_room : 0 < n) (more : rest ≠ [])
      (opened : s.dropped = false) :
      Moves s { s with put := s.put ++ rest.take n, phase := .writingUp (rest.drop n) }
  | upDone (phase : s.phase = .writingUp []) : Moves s { s with phase := .selecting }
  | upFails (rest : Bytes) (phase : s.phase = .writingUp rest) (more : rest ≠ []) (dropped : s.dropped = true) :
      Moves s { s with phase := .selecting, upEof := true }
  | read (n : Nat) (phase : s.phase = .selecting) (down : s.downEof = false) (some_room : 0 < n) (fits : n ≤ bridgeBuf)
      (data : s.unread ≠ []) :
      Moves s { s with
        unread := s.unread.drop n
        toClient := s.toClient ++ [.body (s.unread.take n)]
        phase := .writingDown (s.unread.take n) }
  | readEnd (phase : s.phase = .selecting) (down : s.downEof = false) (empty : s.unread = []) (shut : s.shut = true) :
      Moves s { s with toClient := s.toClient ++ [.eos], downEof := true }
  | downTakes (rest : Bytes) (n : Nat) (phase : s.phase = .writingDown rest) (some_room : 0 < n) (more : rest ≠ []) :
      Moves s { s with given := s.given ++ rest.take n, phase := .writingDown (rest.drop n) }
  | downDone (phase : s.phase = .writingDown []) : Moves s { s with phase := .selecting }
  | downFails (rest : Bytes) (phase : s.phase = .writingDown rest) :
      Moves s { s with phase := .selecting, downEof := true }
  | leave (phase : s.phase = .selecting) (up : s.upEof = true) (down : s.downEof = true) :
      Moves s { s with phase := .left }
  | tunnelWrites (chunk : Bytes) (opened : s.shut = false) (runs : s.phase ≠ .left) :
      Moves s { s with wrote := s.wrote ++ chunk, unread := s.unread ++ chunk }
  | tunnelShuts : Moves s { s with shut := true }
  | tunnelDrops : Moves s { s with shut := true, dropped := true }

theorem selectStep_moves {s t : BridgeLog} {outcome : BridgeOutcome} (phase : s.phase = .selecting)
    (moved : s.selectStep outcome = some t) : Moves s t := by
  cases outcome with
  | body chunk =>
      rw [selectStep] at moved
      split_ifs at moved with up
      cases moved
      exact .body chunk phase (eq_false_of_ne_true up)
  | bodyEnd | bodyError =>
      rw [selectStep] at moved
      split_ifs at moved with up
      cases moved
      exact .ended phase (eq_false_of_ne_true up)
  | read n =>
      rw [selectStep] at moved
      split_ifs at moved with guard
      cases moved
      obtain ⟨down, some_room, fits, data⟩ := guard
      exact .read n phase down some_room fits data
  | readEnd =>
      rw [selectStep] at moved
      split_ifs at moved with guard
      cases moved
      obtain ⟨down, empty, shut⟩ := guard
      exact .readEnd phase down empty shut
  | leave =>
      rw [selectStep] at moved
      split_ifs at moved with both
      cases moved
      exact .leave phase both.1 both.2
  | _ => cases moved

theorem writeUpStep_moves {s t : BridgeLog} {rest : Bytes} {outcome : BridgeOutcome} (phase : s.phase = .writingUp rest)
    (moved : s.writeUpStep rest outcome = some t) : Moves s t := by
  cases outcome with
  | upTakes n =>
      rw [writeUpStep] at moved
      split_ifs at moved with guard
      cases moved
      obtain ⟨some_room, more, opened⟩ := guard
      exact .upTakes rest n phase some_room more opened
  | upDone =>
      rw [writeUpStep] at moved
      split_ifs at moved with done
      cases moved
      subst done
      exact .upDone phase
  | upFails =>
      rw [writeUpStep] at moved
      split_ifs at moved with guard
      cases moved
      exact .upFails rest phase guard.1 guard.2
  | _ => cases moved

theorem writeDownStep_moves {s t : BridgeLog} {rest : Bytes} {outcome : BridgeOutcome}
    (phase : s.phase = .writingDown rest) (moved : s.writeDownStep rest outcome = some t) : Moves s t := by
  cases outcome with
  | downTakes n =>
      rw [writeDownStep] at moved
      split_ifs at moved with guard
      cases moved
      exact .downTakes rest n phase guard.1 guard.2
  | downDone =>
      rw [writeDownStep] at moved
      split_ifs at moved with done
      cases moved
      subst done
      exact .downDone phase
  | downFails =>
      cases moved
      exact .downFails rest phase
  | _ => cases moved

theorem loopStep_moves {s t : BridgeLog} {outcome : BridgeOutcome} (moved : s.loopStep outcome = some t) :
    Moves s t := by
  unfold loopStep at moved
  split at moved
  · rename_i phase
    exact selectStep_moves phase moved
  · rename_i rest phase
    exact writeUpStep_moves phase moved
  · rename_i rest phase
    exact writeDownStep_moves phase moved
  · cases moved

theorem step_moves {s t : BridgeLog} {outcome : BridgeOutcome} (moved : s.step outcome = some t) : Moves s t := by
  cases outcome with
  | tunnelWrites chunk =>
      rw [step] at moved
      split_ifs at moved with guard
      cases moved
      exact .tunnelWrites chunk guard.1 guard.2
  | tunnelShuts =>
      cases moved
      exact .tunnelShuts
  | tunnelDrops =>
      cases moved
      exact .tunnelDrops
  | _ => exact loopStep_moves moved

/-- Each of these is a step. -/
theorem Moves.outcome {s t : BridgeLog} (moves : Moves s t) : ∃ outcome, s.step outcome = some t := by
  cases moves with
  | body chunk phase up => exact ⟨.body chunk, by simp [step, loopStep, selectStep, phase, up]⟩
  | ended phase up => exact ⟨.bodyEnd, by simp [step, loopStep, selectStep, phase, up]⟩
  | upTakes rest n phase some_room more opened =>
      exact ⟨.upTakes n, by simp [step, loopStep, writeUpStep, phase, some_room, more, opened]⟩
  | upDone phase => exact ⟨.upDone, by simp [step, loopStep, writeUpStep, phase]⟩
  | upFails rest phase more dropped => exact ⟨.upFails, by simp [step, loopStep, writeUpStep, phase, more, dropped]⟩
  | read n phase down some_room fits data =>
      exact ⟨.read n, by simp [step, loopStep, selectStep, phase, down, some_room, fits, data]⟩
  | readEnd phase down empty shut => exact ⟨.readEnd, by simp [step, loopStep, selectStep, phase, down, empty, shut]⟩
  | downTakes rest n phase some_room more =>
      exact ⟨.downTakes n, by simp [step, loopStep, writeDownStep, phase, some_room, more]⟩
  | downDone phase => exact ⟨.downDone, by simp [step, loopStep, writeDownStep, phase]⟩
  | downFails rest phase => exact ⟨.downFails, by simp [step, loopStep, writeDownStep, phase]⟩
  | leave phase up down => exact ⟨.leave, by simp [step, loopStep, selectStep, phase, up, down]⟩
  | tunnelWrites chunk opened runs => exact ⟨.tunnelWrites chunk, if_pos ⟨opened, runs⟩⟩
  | tunnelShuts => exact ⟨.tunnelShuts, rfl⟩
  | tunnelDrops => exact ⟨.tunnelDrops, rfl⟩

/-- The upload side: what is not in the upload half is what is being written, unless the tunnel is gone
and the rest was given up. -/
structure UploadSound (s : BridgeLog) : Prop where
  front : s.put <+: s.received
  whole : s.upEof = false ∨ s.dropped = false → s.put ++ s.upRest = s.received
  writing : ∀ rest, s.phase = .writingUp rest → s.upEof = false

/-- The download side: what the tunnel wrote was offered or waits in the half, and what was offered the
client has or is being given, unless a write failed. -/
structure DownloadSound (s : BridgeLog) : Prop where
  wrote : s.offered ++ s.unread = s.wrote
  front : s.given <+: s.offered
  whole : s.downEof = false → s.given ++ s.downRest = s.offered
  writing : ∀ rest, s.phase = .writingDown rest → s.downEof = false

/-- The end of the response is the last thing written, and all of it came before. -/
def EosLast (s : BridgeLog) : Prop :=
  .eos ∉ s.toClient ∨ s.downEof = true ∧ s.shut = true ∧ s.unread = [] ∧
    ∃ bodies, s.toClient = bodies ++ [.eos] ∧ .eos ∉ bodies

theorem upRest_of {s : BridgeLog} (phase : s.phase = .selecting) : s.upRest = [] := by rw [upRest, phase]

theorem downRest_of {s : BridgeLog} (phase : s.phase = .selecting) : s.downRest = [] := by rw [downRest, phase]

theorem UploadSound.step {s t : BridgeLog} (h : UploadSound s) (moves : Moves s t) : UploadSound t := by
  cases moves with
  | body chunk phase up =>
      have all := h.whole (.inl up)
      rw [upRest_of phase, List.append_nil] at all
      refine ⟨h.front.trans (List.prefix_append _ _), fun _ => ?_, fun _ _ => up⟩
      change s.put ++ chunk = s.received ++ chunk
      rw [all]
  | ended phase up =>
      refine ⟨h.front, fun _ => h.whole (.inl up), ?_⟩
      intro rest writing
      cases phase.symm.trans writing
  | upTakes rest n phase some_room more opened =>
      have all := h.whole (.inr opened)
      rw [upRest, phase] at all
      have moved : s.put ++ rest.take n ++ rest.drop n = s.received := by
        rw [List.append_assoc, List.take_append_drop]
        exact all
      refine ⟨⟨rest.drop n, moved⟩, fun _ => moved, fun _ _ => h.writing rest phase⟩
  | upDone phase =>
      have all := h.whole (.inl (h.writing [] phase))
      rw [upRest, phase] at all
      exact ⟨h.front, fun _ => all, nofun⟩
  | upFails rest phase more dropped =>
      refine ⟨h.front, fun either => ?_, nofun⟩
      rcases either with up | opened
      · cases up
      · cases dropped.symm.trans opened
  | read n phase down some_room fits data =>
      have kept := h.whole
      rw [upRest_of phase] at kept
      exact ⟨h.front, kept, nofun⟩
  | readEnd phase down empty shut => exact ⟨h.front, h.whole, h.writing⟩
  | downTakes rest n phase some_room more =>
      have kept := h.whole
      rw [upRest, phase] at kept
      exact ⟨h.front, kept, nofun⟩
  | downDone phase =>
      have kept := h.whole
      rw [upRest, phase] at kept
      exact ⟨h.front, kept, nofun⟩
  | downFails rest phase =>
      have kept := h.whole
      rw [upRest, phase] at kept
      exact ⟨h.front, kept, nofun⟩
  | leave phase up down =>
      have kept := h.whole
      rw [upRest_of phase] at kept
      exact ⟨h.front, kept, nofun⟩
  | tunnelWrites chunk opened runs => exact ⟨h.front, h.whole, h.writing⟩
  | tunnelShuts => exact ⟨h.front, h.whole, h.writing⟩
  | tunnelDrops =>
      refine ⟨h.front, fun either => h.whole (either.imp id fun opened => ?_), h.writing⟩
      cases opened

theorem offered_snoc (s : BridgeLog) (w : ClientWrite) :
    (s.toClient ++ [w]).flatMap ClientWrite.data = s.offered ++ w.data := by
  rw [List.flatMap_append, List.flatMap_singleton]
  rfl

theorem DownloadSound.step {s t : BridgeLog} (h : DownloadSound s) (moves : Moves s t) : DownloadSound t := by
  cases moves with
  | body chunk phase up =>
      have kept := h.whole
      rw [downRest_of phase] at kept
      exact ⟨h.wrote, h.front, kept, nofun⟩
  | ended phase up => exact ⟨h.wrote, h.front, h.whole, h.writing⟩
  | upTakes rest n phase some_room more opened =>
      have kept := h.whole
      rw [downRest, phase] at kept
      exact ⟨h.wrote, h.front, kept, nofun⟩
  | upDone phase =>
      have kept := h.whole
      rw [downRest, phase] at kept
      exact ⟨h.wrote, h.front, kept, nofun⟩
  | upFails rest phase more dropped =>
      have kept := h.whole
      rw [downRest, phase] at kept
      exact ⟨h.wrote, h.front, kept, nofun⟩
  | read n phase down some_room fits data =>
      have all := h.whole down
      rw [downRest_of phase, List.append_nil] at all
      have more := offered_snoc s (.body (s.unread.take n))
      refine ⟨?_, ?_, fun _ => ?_, fun _ _ => down⟩
      · change (s.toClient ++ [_]).flatMap _ ++ s.unread.drop n = s.wrote
        rw [more, List.append_assoc, ClientWrite.data, List.take_append_drop]
        exact h.wrote
      · change s.given <+: (s.toClient ++ [_]).flatMap _
        rw [more]
        exact h.front.trans (List.prefix_append _ _)
      · change s.given ++ s.unread.take n = (s.toClient ++ [_]).flatMap _
        rw [more, all]
        rfl
  | readEnd phase down empty shut =>
      have more : (s.toClient ++ [ClientWrite.eos]).flatMap ClientWrite.data = s.offered :=
        (offered_snoc s .eos).trans (List.append_nil _)
      refine ⟨?_, ?_, nofun, ?_⟩
      · change (s.toClient ++ [ClientWrite.eos]).flatMap _ ++ s.unread = s.wrote
        rw [more]
        exact h.wrote
      · change s.given <+: (s.toClient ++ [ClientWrite.eos]).flatMap _
        rw [more]
        exact h.front
      · intro rest writing
        cases phase.symm.trans writing
  | downTakes rest n phase some_room more =>
      have down := h.writing rest phase
      have all := h.whole down
      rw [downRest, phase] at all
      have moved : s.given ++ rest.take n ++ rest.drop n = s.offered := by
        rw [List.append_assoc, List.take_append_drop]
        exact all
      exact ⟨h.wrote, ⟨rest.drop n, moved⟩, fun _ => moved, fun _ _ => down⟩
  | downDone phase =>
      have kept := h.whole
      rw [downRest, phase] at kept
      exact ⟨h.wrote, h.front, kept, nofun⟩
  | downFails rest phase => exact ⟨h.wrote, h.front, nofun, nofun⟩
  | leave phase up down =>
      have kept := h.whole
      rw [downRest_of phase] at kept
      exact ⟨h.wrote, h.front, kept, nofun⟩
  | tunnelWrites chunk opened runs =>
      refine ⟨?_, h.front, h.whole, h.writing⟩
      change s.offered ++ (s.unread ++ chunk) = s.wrote ++ chunk
      rw [← List.append_assoc, h.wrote]
  | tunnelShuts => exact ⟨h.wrote, h.front, h.whole, h.writing⟩
  | tunnelDrops => exact ⟨h.wrote, h.front, h.whole, h.writing⟩

theorem EosLast.step {s t : BridgeLog} (download : DownloadSound s) (h : EosLast s) (moves : Moves s t) : EosLast t := by
  cases moves with
  | read n phase down some_room fits data =>
      rcases h with none_yet | ⟨ended, -⟩
      · refine .inl fun member => ?_
        rcases List.mem_append.mp member with old | new
        · exact none_yet old
        · cases List.mem_singleton.mp new
      · cases down.symm.trans ended
  | readEnd phase down empty shut =>
      rcases h with none_yet | ⟨ended, -⟩
      · exact .inr ⟨rfl, shut, empty, s.toClient, rfl, none_yet⟩
      · cases down.symm.trans ended
  | tunnelWrites chunk opened runs =>
      rcases h with none_yet | ⟨-, shut, -⟩
      · exact .inl none_yet
      · cases opened.symm.trans shut
  | downFails rest phase =>
      rcases h with none_yet | ⟨ended, -⟩
      · exact .inl none_yet
      · cases (download.writing rest phase).symm.trans ended
  | tunnelShuts => exact h.imp id fun ⟨ended, _, rest⟩ => ⟨ended, rfl, rest⟩
  | tunnelDrops => exact h.imp id fun ⟨ended, _, rest⟩ => ⟨ended, rfl, rest⟩
  | body | ended | upTakes | upDone | upFails | downTakes | downDone | leave => exact h

structure Sound (s : BridgeLog) : Prop where
  upload : UploadSound s
  download : DownloadSound s
  eos : EosLast s

theorem start_sound : Sound start where
  upload := ⟨List.nil_prefix, fun _ => rfl, nofun⟩
  download := ⟨rfl, List.nil_prefix, fun _ => rfl, nofun⟩
  eos := .inl List.not_mem_nil

theorem step_sound {s t : BridgeLog} {outcome : BridgeOutcome} (h : Sound s) (moved : s.step outcome = some t) :
    Sound t where
  upload := h.upload.step (step_moves moved)
  download := h.download.step (step_moves moved)
  eos := h.eos.step h.download (step_moves moved)

/-- At every point of every run: the upload half has got a front of what the client sent, and all of it
that is not being written, unless the tunnel closed its end; the client has got a front of what the
tunnel wrote; and the end of the response is written once at most, after all that the tunnel wrote was
offered, and last. -/
theorem bridge_faithful (schedule : List BridgeOutcome) (s : BridgeLog) (ran : follow step start schedule = some s) :
    s.put <+: s.received ∧ (s.dropped = false → s.put ++ s.upRest = s.received) ∧ s.given <+: s.wrote ∧
      ∀ before after, s.toClient = before ++ .eos :: after →
        after = [] ∧ .eos ∉ before ∧ before.flatMap ClientWrite.data = s.wrote := by
  have sound : Sound s := follow_invariant step_sound start_sound ran
  refine ⟨sound.upload.front, fun opened => sound.upload.whole (.inr opened), ?_, ?_⟩
  · rw [← sound.download.wrote]
    exact sound.download.front.trans (List.prefix_append _ _)
  · intro before after written
    rcases sound.eos with none_yet | ⟨-, -, empty, bodies, last, fresh⟩
    · exact absurd (written ▸ List.mem_append_right before List.mem_cons_self) none_yet
    · -- there is one end only, so the two ways to cut the list are the same
      have cut : bodies ++ [.eos] = before ++ .eos :: after := last.symm.trans written
      obtain ⟨rfl, -, rfl⟩ := (List.append_cons_inj_of_notMem fresh List.not_mem_nil).mp cut
      refine ⟨rfl, fresh, ?_⟩
      have all := sound.download.wrote
      rw [empty, List.append_nil, offered, written, List.flatMap_append] at all
      exact (List.append_nil _).symm.trans all

/-- The tunnel goes away in the middle of an upload, with some of its own bytes not yet read. -/
def brokenUpload : List BridgeOutcome :=
  [.body [1, 2, 3], .upTakes 2, .tunnelWrites [7, 8, 9], .tunnelDrops, .upFails, .read 2, .downTakes 1, .downTakes 1,
    .downDone, .read 4, .downTakes 4, .downDone, .readEnd, .leave]

theorem bridge_faithful_brokenUpload :
    ∃ s, follow step start brokenUpload = some s ∧ s.put = [1, 2] ∧ s.put <+: s.received ∧
      s.toClient = [.body [7, 8], .body [9], .eos] ∧ s.given <+: s.wrote := by
  have ran : follow step start brokenUpload = some _ := rfl
  have faithful := bridge_faithful brokenUpload _ ran
  exact ⟨_, ran, rfl, faithful.1, rfl, faithful.2.2.1⟩

/-! The bridge among its pipes and the session's flow control. -/

/-- The run `s` of outcomes is a view of the bridge `b`. -/
structure Shows (b : Bridge Bytes) (s : BridgeLog) : Prop where
  phase : s.phase = b.phase
  upEof : s.upEof = b.upEof
  downEof : s.downEof = b.downEof
  put : s.put = b.forwarded
  given : s.given = b.given
  unread : s.unread = b.download.data
  marks : s.toClient.count .eos = b.endMarks
  dropped : s.dropped = b.tunnelOver
  shut : b.phase ≠ .left → s.shut = b.download.closed
  left : b.phase = .left → b.download.closed = true

theorem start_shows (cfg : BridgeConfig) : Shows (.start cfg) start where
  phase := rfl
  upEof := rfl
  downEof := rfl
  put := rfl
  given := rfl
  unread := rfl
  marks := rfl
  dropped := rfl
  shut _ := rfl
  left gone := by cases gone

/-- Some outcomes lead from `s` to a view of `b`. -/
def Reaches (s : BridgeLog) (b : Bridge Bytes) : Prop :=
  ∃ outcomes t, follow step s outcomes = some t ∧ Shows b t

theorem Shows.reaches {s : BridgeLog} {b : Bridge Bytes} (shown : Shows b s) : Reaches s b := ⟨[], s, rfl, shown⟩

theorem Moves.reaches {s t : BridgeLog} {b : Bridge Bytes} (moves : Moves s t) (shown : Shows b t) : Reaches s b := by
  obtain ⟨outcome, stepped⟩ := moves.outcome
  refine ⟨[outcome], t, ?_, shown⟩
  rw [follow, stepped]
  rfl

theorem ne_nil_of_size {chunk : Bytes} (some_there : 0 < Chunk.size chunk) : chunk ≠ [] := by
  rintro rfl
  cases some_there

theorem advance_shows {cfg : BridgeConfig} {b c : Bridge Bytes} {s : BridgeLog} (valid : b.Valid cfg) (h : Shows b s)
    (moved : b.advance cfg.capacity = some c) : Reaches s c := by
  cases Bridge.advance_moves moved with
  | leave phase up down =>
      exact (Moves.leave (h.phase.trans phase) (h.upEof.trans up) (h.downEof.trans down)).reaches
        { h with phase := rfl, shut := fun stays => absurd rfl stays, left := fun _ => rfl }
  | ended phase up why =>
      exact (Moves.ended (h.phase.trans phase) (h.upEof.trans up)).reaches { h with upEof := rfl }
  | take chunk inbox phase up lost arrived =>
      exact (Moves.body chunk (h.phase.trans phase) (h.upEof.trans up)).reaches
        { h with phase := rfl, shut := fun _ => h.shut (by rw [phase]; nofun), left := nofun }
  | fetch phase idle down data =>
      have some_there : s.unread ≠ [] := h.unread ▸ ne_nil_of_size data
      exact (Moves.read bridgeBuf (h.phase.trans phase) (h.downEof.trans down) (by decide) le_rfl some_there).reaches
        { h with
          phase := congrArg (fun unread => BridgePhase.writingDown (unread.take bridgeBuf)) h.unread
          unread := congrArg (List.drop bridgeBuf) h.unread
          marks := by rw [List.count_append, h.marks]; rfl
          shut := fun _ => h.shut (by rw [phase]; nofun)
          left := nofun }
  | finish phase idle down data closed =>
      have shut := h.shut (by rw [phase]; nofun)
      have empty : s.unread = [] := h.unread.trans (List.length_eq_zero_iff.mp data)
      exact (Moves.readEnd (h.phase.trans phase) (h.downEof.trans down) empty (shut.trans closed)).reaches
        { h with downEof := rfl, marks := by rw [List.count_append, h.marks]; rfl }
  | upDone rest phase done =>
      cases List.length_eq_zero_iff.mp done
      exact (Moves.upDone (h.phase.trans phase)).reaches
        { h with phase := rfl, shut := fun _ => h.shut (by rw [phase]; nofun), left := nofun }
  | upBroken rest phase more closed =>
      have dropped : b.tunnelOver = true := by
        rcases valid.closed_upEof closed with ended | dropped
        · cases (valid.writing_up rest phase).symm.trans ended
        · exact dropped
      exact (Moves.upFails rest (h.phase.trans phase) (ne_nil_of_size more) (h.dropped.trans dropped)).reaches
        { h with phase := rfl, upEof := rfl, shut := fun _ => h.shut (by rw [phase]; nofun), left := nofun }
  | up rest phase more opened room =>
      have stays : b.tunnelOver = false := by
        refine eq_false_of_ne_true fun dropped => ?_
        cases opened.symm.trans (valid.over_closed dropped).1
      exact (Moves.upTakes rest _ (h.phase.trans phase) room (ne_nil_of_size more) (h.dropped.trans stays)).reaches
        { h with
          phase := rfl
          put := congrArg (· ++ rest.take _) h.put
          shut := fun _ => h.shut (by rw [phase]; nofun)
          left := nofun }
  | downDone rest phase done =>
      cases List.length_eq_zero_iff.mp done
      exact (Moves.downDone (h.phase.trans phase)).reaches
        { h with phase := rfl, shut := fun _ => h.shut (by rw [phase]; nofun), left := nofun }
  | downBroken rest phase more lost =>
      exact (Moves.downFails rest (h.phase.trans phase)).reaches
        { h with phase := rfl, downEof := rfl, shut := fun _ => h.shut (by rw [phase]; nofun), left := nofun }
  | down rest phase more lost window =>
      exact (Moves.downTakes rest b.window (h.phase.trans phase) window (ne_nil_of_size more)).reaches
        { h with
          phase := rfl
          given := congrArg (· ++ rest.take b.window) h.given
          shut := fun _ => h.shut (by rw [phase]; nofun)
          left := nofun }

theorem step_shows {cfg : BridgeConfig} {b c : Bridge Bytes} {e : BridgeEvent Bytes} {s : BridgeLog}
    (valid : b.Valid cfg) (h : Shows b s) (stepped : b.step cfg e = some c) : Reaches s c := by
  cases e with
  | bridge => exact advance_shows valid h stepped
  | clientSends chunk | clientEnds | clientReads n | tunnelReads n =>
      rw [Bridge.step] at stepped
      split_ifs at stepped
      cases stepped
      exact Shows.reaches { h with }
  | clientLost =>
      cases stepped
      exact Shows.reaches { h with }
  | tunnelWrites chunk =>
      rw [Bridge.step] at stepped
      split_ifs at stepped with fits
      cases stepped
      have runs : b.phase ≠ .left := fun left => by cases fits.1.symm.trans (h.left left)
      exact (Moves.tunnelWrites chunk ((h.shut runs).trans fits.1) (h.phase ▸ runs)).reaches
        { h with unread := congrArg (· ++ chunk) h.unread }
  | tunnelShuts =>
      rw [Bridge.step] at stepped
      split_ifs at stepped
      cases stepped
      exact Moves.tunnelShuts.reaches { h with shut := fun _ => rfl, left := fun _ => rfl }
  | tunnelEnds =>
      rw [Bridge.step] at stepped
      split_ifs at stepped
      cases stepped
      exact Moves.tunnelDrops.reaches { h with dropped := rfl, shut := fun _ => rfl, left := fun _ => rfl }

/-- Every run of the bridge is a run of outcomes. -/
theorem run_shows {cfg : BridgeConfig} {schedule : List (BridgeEvent Bytes)} {b : Bridge Bytes}
    (ran : follow (Bridge.step cfg) (.start cfg) schedule = some b) : Reaches start b := by
  obtain ⟨outcomes, s, went, -, shown⟩ := follow_refines (R := fun b s => b.Valid cfg ∧ Shows b s)
    (fun both stepped => by
      obtain ⟨outcomes, t, went, shown⟩ := step_shows both.1 both.2 stepped
      exact ⟨outcomes, t, went, Bridge.step_valid both.1 stepped, shown⟩)
    ⟨Bridge.start_valid cfg, start_shows cfg⟩ ran
  exact ⟨outcomes, s, went, shown⟩

/-- So the bridge writes the end of the response once at most. -/
theorem endMarks_le_one {cfg : BridgeConfig} {schedule : List (BridgeEvent Bytes)} {b : Bridge Bytes}
    (ran : follow (Bridge.step cfg) (.start cfg) schedule = some b) : b.endMarks ≤ 1 := by
  obtain ⟨outcomes, s, went, shown⟩ := run_shows ran
  have sound : Sound s := follow_invariant step_sound start_sound went
  rw [← shown.marks]
  rcases sound.eos with none_yet | ⟨-, -, -, bodies, last, fresh⟩
  · rw [List.count_eq_zero_of_not_mem none_yet]
    exact Nat.zero_le 1
  · rw [last, List.count_append, List.count_eq_zero_of_not_mem fresh]
    decide

end BridgeLog

end ServerNaive
