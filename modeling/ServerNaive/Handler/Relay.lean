import ServerNaive.Async.Driver
import ServerNaive.Async.Paced
import ServerNaive.Config
import ServerNaive.Core.RelayFidelity
import ServerNaive.Core.RelayPlain
import ServerNaive.Transport.Padding

/-! The relay of a tunnel as the handler runs it: raced against the tunnel's cancel
token, with the traffic recorded by the relay's own future. -/
namespace ServerNaive
open AsyncIo

/-- One poll of the `select!`: the passes and the time of the relay's poll, which branch
is polled first, and whether the token has fired when its branch is polled. -/
structure Turn where
  fuel : Nat
  now : Nat
  cancelFirst : Bool
  cancelled : Bool

inductive Selected where
  | running
  | pending
  | finished (result : IoResult Bool)
  | kicked
  deriving DecidableEq

/-- The branch of the `select!` that ended it, if one did. -/
def Selected.ended : Selected → Bool
  | .finished _ => true
  | .kicked => true
  | _ => false

namespace Relay

variable {A B : Type} [AsyncRead A] [AsyncWrite A] [AsyncRead B] [AsyncWrite B]

def select (turn : Turn) (s : Relay A B) : Relay A B × Selected :=
  if turn.cancelFirst ∧ turn.cancelled then (s, .kicked)
  else match s.poll turn.fuel turn.now with
    | (t, .ready r) => (t, .finished r)
    | (t, .running) => (t, .running)
    | (t, .pending) => if turn.cancelled then (t, .kicked) else (t, .pending)

def selectRun (s : Relay A B) : List Turn → Relay A B × Selected
  | [] => (s, .pending)
  | turn :: turns => match s.select turn with
      | (t, .pending) => selectRun t turns
      | (t, r) => (t, r)

end Relay

/-- A tunnel's streams after `relay`, what was recorded for its user, and how it ended. -/
structure RelayOutcome (A B : Type) where
  a : A
  b : B
  recorded : Recorded
  selected : Selected

def relay {A B : Type} [AsyncRead A] [AsyncWrite A] [AsyncRead B] [AsyncWrite B]
    (config : ConnConfig) (padded : A) (remote : B) (start : Nat) (turns : List Turn)
    (closing : Nat × Nat) : RelayOutcome A B :=
  match (Relay.new padded remote start config.idleTimeoutSecs config.bufferSize false).selectRun turns with
  | (t, .finished r) => ⟨t.a, t.b, t.record, .finished r⟩
  -- the dropped future takes its counters with it
  | (t, .kicked) => ⟨shutdownWithin closing.1 t.a, shutdownWithin closing.2 t.b, ⟨[], []⟩, .kicked⟩
  | (t, r) => ⟨t.a, t.b, ⟨[], []⟩, r⟩

/-- How a relay leaves its `select!`, with what that means for its outcome. -/
inductive RelayRun {A B : Type} [AsyncRead A] [AsyncWrite A] [AsyncRead B] [AsyncWrite B] (config : ConnConfig)
    (a : A) (b : B) (start : Nat) (turns : List Turn) (closing : Nat × Nat) : RelayOutcome A B → Prop
  | finished {t : Relay A B} {result : IoResult Bool}
      (ran : (Relay.new a b start config.idleTimeoutSecs config.bufferSize false).selectRun turns =
        (t, .finished result)) :
      RelayRun config a b start turns closing ⟨t.a, t.b, t.record, .finished result⟩
  | kicked {t : Relay A B}
      (ran : (Relay.new a b start config.idleTimeoutSecs config.bufferSize false).selectRun turns = (t, .kicked)) :
      RelayRun config a b start turns closing
        ⟨shutdownWithin closing.1 t.a, shutdownWithin closing.2 t.b, ⟨[], []⟩, .kicked⟩
  | unended {t : Relay A B} {r : Selected}
      (ran : (Relay.new a b start config.idleTimeoutSecs config.bufferSize false).selectRun turns = (t, r))
      (runs : r.ended = false) : RelayRun config a b start turns closing ⟨t.a, t.b, ⟨[], []⟩, r⟩

theorem relay_run {A B : Type} [AsyncRead A] [AsyncWrite A] [AsyncRead B] [AsyncWrite B] (config : ConnConfig) (a : A)
    (b : B) (start : Nat) (turns : List Turn) (closing : Nat × Nat) :
    RelayRun config a b start turns closing (relay config a b start turns closing) := by
  unfold relay
  split
  · rename_i t result ran
    exact .finished ran
  · rename_i t ran
    exact .kicked ran
  · rename_i t r unfinished unkicked ran
    refine .unended ran ?_
    cases r with
    | running | pending => rfl
    | finished result => exact absurd rfl (unfinished result)
    | kicked => exact absurd rfl unkicked

/-- What was recorded is what each end accepted. -/
def Accounted {A B : Type} (r : RelayOutcome (Traced A) (Traced B)) : Prop :=
  r.recorded.uploads.sum = (accepted r.b.calls).length ∧
    r.recorded.downloads.sum = (accepted r.a.calls).length

instance {A B : Type} (r : RelayOutcome (Traced A) (Traced B)) : Decidable (Accounted r) :=
  inferInstanceAs (Decidable (_ ∧ _))

namespace Relay

section State

variable {A B : Type}

/-- A byte has been handed to either end. -/
def Moved (s : Relay A B) : Prop := 0 < s.aToB.bytesTransferred ∨ 0 < s.bToA.bytesTransferred

theorem sum_noted (n : Nat) : (if 0 < n then [n] else []).sum = n := by
  split_ifs with noted
  · exact Nat.add_zero n
  · exact (Nat.eq_zero_of_not_pos noted).symm

end State

variable {A B : Type} [AsyncRead A] [AsyncWrite A] [AsyncRead B] [AsyncWrite B]

theorem select_cases {turn : Turn} {s t : Relay A B} {r : Selected} (selected : s.select turn = (t, r)) :
    (r = .kicked ∧ t = s ∧ turn.cancelFirst = true ∧ turn.cancelled = true) ∨
      (∃ polled, s.poll turn.fuel turn.now = (t, polled) ∧
        ((polled = .pending ∧ turn.cancelFirst = false ∧ turn.cancelled = true ∧ r = .kicked) ∨
          (r ≠ .kicked ∧ (polled = .pending → turn.cancelled = false)))) := by
  unfold select at selected
  by_cases first : turn.cancelFirst ∧ turn.cancelled
  · rw [if_pos first] at selected
    cases selected
    exact .inl ⟨rfl, rfl, first⟩
  · rw [if_neg first] at selected
    right
    split at selected
    · rename_i last answer polled
      cases selected
      exact ⟨_, polled, .inr ⟨nofun, nofun⟩⟩
    · rename_i last polled
      cases selected
      exact ⟨_, polled, .inr ⟨nofun, nofun⟩⟩
    · rename_i last polled
      split_ifs at selected with fired
      · cases selected
        have second : turn.cancelFirst = false :=
          eq_false_of_ne_true fun cancelFirst => first ⟨cancelFirst, fired⟩
        exact ⟨_, polled, .inl ⟨rfl, second, fired, rfl⟩⟩
      · cases selected
        exact ⟨_, polled, .inr ⟨nofun, fun _ => eq_false_of_ne_true fired⟩⟩

/-- The turn ends in a kick, in a state with `P`. -/
def KicksIn (P : Relay A B → Prop) (turn : Turn) (s : Relay A B) : Prop :=
  turn.cancelled = true ∧
    ((turn.cancelFirst = true ∧ P s) ∨
      (turn.cancelFirst = false ∧ (s.poll turn.fuel turn.now).2 = .pending ∧
        P (s.poll turn.fuel turn.now).1))

/-- No turn, from the state it finds, ends in a kick in a state with `P`. -/
def Spares (P : Relay A B → Prop) (s : Relay A B) : List Turn → Prop
  | [] => True
  | turn :: turns => ¬ s.KicksIn P turn ∧
      ((s.select turn).2 = .pending → (s.select turn).1.Spares P turns)

theorem kicksIn_iff {P : Relay A B → Prop} {turn : Turn} {s t : Relay A B} {r : Selected}
    (selected : s.select turn = (t, r)) : s.KicksIn P turn ↔ r = .kicked ∧ P t := by
  rcases select_cases selected with ⟨rfl, rfl, first, fired⟩ |
    ⟨polled, same, ⟨rfl, second, fired, rfl⟩ | ⟨unkicked, unfired⟩⟩
  · simp only [KicksIn, fired, first, true_and, Bool.true_eq_false, false_and, or_false]
  · simp only [KicksIn, fired, second, same, true_and, Bool.false_eq_true, false_and, false_or]
  · constructor
    · rintro ⟨fired, ⟨first, -⟩ | ⟨-, pending, -⟩⟩
      · simp only [select, first, fired, and_self, if_true] at selected
        exact absurd (Prod.mk.inj selected).2.symm unkicked
      · rw [same] at pending
        exact absurd ((unfired pending).symm.trans fired) Bool.false_ne_true
    · rintro ⟨kicked, -⟩
      exact absurd kicked unkicked

theorem selectRun_spares_iff {P : Relay A B → Prop} {s t : Relay A B} {turns : List Turn} {r : Selected}
    (ran : s.selectRun turns = (t, r)) : s.Spares P turns ↔ ¬ (r = .kicked ∧ P t) := by
  induction turns generalizing s with
  | nil =>
      cases ran
      simp only [Spares, reduceCtorEq, false_and, not_false_eq_true]
  | cons turn turns ih =>
      rw [selectRun] at ran
      rw [Spares, kicksIn_iff Prod.mk.eta.symm]
      split at ran
      · rename_i next waits
        simp only [waits, reduceCtorEq, false_and, not_false_eq_true, true_and, true_imp_iff]
        exact ih ran
      · rename_i last answer ends selected
        cases ran
        rw [selected]
        refine and_iff_left_of_imp fun _ pending => ?_
        exact absurd pending (ends ·)

/-- No turn, from the state it finds, drops a relay that has moved bytes. -/
def Spared (s : Relay A B) (turns : List Turn) : Prop := s.Spares Moved turns

theorem selectRun_spared_iff {s t : Relay A B} {turns : List Turn} {r : Selected}
    (ran : s.selectRun turns = (t, r)) : s.Spared turns ↔ ¬ (r = .kicked ∧ t.Moved) :=
  selectRun_spares_iff ran

theorem selectRun_faithful {A B : Type} [AsyncRead A] [AsyncWrite A] [AsyncRead B] [AsyncWrite B]
    {s t : Relay (Traced A) (Traced B)} {turns : List Turn} {r : Selected}
    (up : Faithful s.upload.own) (down : Faithful s.download.own)
    (ran : s.selectRun turns = (t, r)) : Faithful t.upload.own ∧ Faithful t.download.own := by
  induction turns generalizing s with
  | nil =>
      cases ran
      exact ⟨up, down⟩
  | cons turn turns ih =>
      have one : ∀ {u : Relay (Traced A) (Traced B)} {answer}, s.select turn = (u, answer) →
          Faithful u.upload.own ∧ Faithful u.download.own := by
        intro u answer selected
        rcases select_cases selected with ⟨-, rfl, -⟩ | ⟨polled, same, -⟩
        · exact ⟨up, down⟩
        · have advances := poll_advances same
          exact ⟨up.ends advances.upload, down.ends advances.download⟩
      rw [selectRun] at ran
      split at ran
      · rename_i next waits
        exact ih (one waits).1 (one waits).2 ran
      · rename_i last answer _ selected
        cases ran
        exact one selected

/-- The counters of a relay are what its ends accepted, whenever it is looked at. -/
theorem selectRun_counted {A B : Type} [AsyncRead A] [AsyncWrite A] [AsyncRead B] [AsyncWrite B]
    {a : A} {b : B} {start idleTimeoutSecs bufferSize : Nat} {suppress : Bool} {turns : List Turn}
    {t : Relay (Traced A) (Traced B)} {r : Selected}
    (ran : (Relay.new (.start a) (.start b) start idleTimeoutSecs bufferSize suppress).selectRun turns =
      (t, r)) :
    t.aToB.bytesTransferred = (accepted t.b.calls).length ∧
      t.bToA.bytesTransferred = (accepted t.a.calls).length := by
  obtain ⟨up, down⟩ : Faithful t.upload.own ∧ Faithful t.download.own := by
    refine selectRun_faithful ?_ ?_ ran
    · exact Faithful.start bufferSize suppress
    · exact Faithful.start bufferSize false
  exact ⟨up.of_own.counted, down.of_own.counted⟩

theorem plain_select (turn : Turn) (s : Relay (Traced A) (Traced B)) :
    s.plain.select turn = ((s.select turn).1.plain, (s.select turn).2) := by
  unfold select
  by_cases first : turn.cancelFirst ∧ turn.cancelled
  · rw [if_pos first, if_pos first]
  · rw [if_neg first, if_neg first, plain_poll]
    rcases s.poll turn.fuel turn.now with ⟨t, _ | _ | _⟩
    · rfl
    · dsimp only
      split_ifs <;> rfl
    · rfl

theorem plain_selectRun (s : Relay (Traced A) (Traced B)) (turns : List Turn) :
    s.plain.selectRun turns = ((s.selectRun turns).1.plain, (s.selectRun turns).2) := by
  induction turns generalizing s with
  | nil => rfl
  | cons turn turns ih =>
      rw [selectRun, selectRun, plain_select]
      rcases s.select turn with ⟨t, _ | _ | _ | _⟩
      · rfl
      · exact ih t
      · rfl
      · rfl

end Relay

section Plain

variable {A B : Type}

/-- The outcome without the records of the streams. -/
abbrev RelayOutcome.plain (out : RelayOutcome (Traced A) (Traced B)) : RelayOutcome A B :=
  { out with a := out.a.stream, b := out.b.stream }

variable [AsyncRead A] [AsyncWrite A] [AsyncRead B] [AsyncWrite B]

/-- Tracing its streams changes nothing of a relay. -/
theorem relay_plain (config : ConnConfig) (a : A) (b : B) (start : Nat) (turns : List Turn) (closing : Nat × Nat) :
    relay config a b start turns closing =
      (relay config (Traced.start a) (Traced.start b) start turns closing).plain := by
  have same := (Relay.new (Traced.start a) (Traced.start b) start config.idleTimeoutSecs config.bufferSize
    false).plain_selectRun turns
  change (Relay.new a b start config.idleTimeoutSecs config.bufferSize false).selectRun turns = _ at same
  unfold relay
  rw [same]
  rcases (Relay.new (Traced.start a) (Traced.start b) start config.idleTimeoutSecs config.bufferSize
    false).selectRun turns with ⟨t, _ | _ | _ | _⟩
  · rfl
  · rfl
  · rfl
  · dsimp only [RelayOutcome.plain]
    rw [stream_shutdownWithin, stream_shutdownWithin]

end Plain

section Accounting

variable {A B : Type} [AsyncRead A] [AsyncWrite A] [AsyncRead B] [AsyncWrite B] (config : ConnConfig) (a : A) (b : B)
  (start : Nat) (turns : List Turn) (closing : Nat × Nat)

/-- A relay that has ended accounts for its traffic, between any two streams, unless it was dropped with
bytes moved. -/
theorem accounted_iff_spared
    (ended : (relay config (Traced.start a) (Traced.start b) start turns closing).selected.ended) :
    Accounted (relay config (Traced.start a) (Traced.start b) start turns closing) ↔
      (Relay.new (Traced.start a) (Traced.start b) start config.idleTimeoutSecs config.bufferSize
        false).Spared turns := by
  have run := relay_run config (Traced.start a) (Traced.start b) start turns closing
  generalize relay config (Traced.start a) (Traced.start b) start turns closing = out at run ended ⊢
  cases run with
  | finished ran =>
      obtain ⟨uploaded, downloaded⟩ := Relay.selectRun_counted ran
      rw [Relay.selectRun_spared_iff ran]
      refine iff_of_true ⟨?_, ?_⟩ nofun
      · exact (Relay.sum_noted _).trans uploaded
      · exact (Relay.sum_noted _).trans downloaded
  | kicked ran =>
      obtain ⟨uploaded, downloaded⟩ := Relay.selectRun_counted ran
      rw [Relay.selectRun_spared_iff ran]
      simp only [Accounted, Relay.Moved, accepted_shutdownWithin, ← uploaded, ← downloaded, List.sum_nil,
        true_and, not_or, Nat.not_lt, Nat.le_zero, eq_comm]
  | unended ran runs => cases runs.symm.trans ended

/-- What is recorded has been moved. -/
theorem relay_recorded_le :
    let out := relay config (Traced.start a) (Traced.start b) start turns closing
    out.recorded.uploads.sum ≤ (accepted out.b.calls).length ∧
      out.recorded.downloads.sum ≤ (accepted out.a.calls).length := by
  have run := relay_run config (Traced.start a) (Traced.start b) start turns closing
  dsimp only
  generalize relay config (Traced.start a) (Traced.start b) start turns closing = out at run ⊢
  cases run with
  | finished ran =>
      obtain ⟨uploaded, downloaded⟩ := Relay.selectRun_counted ran
      exact ⟨((Relay.sum_noted _).trans uploaded).le, ((Relay.sum_noted _).trans downloaded).le⟩
  | kicked ran => exact ⟨Nat.zero_le _, Nat.zero_le _⟩
  | unended ran runs => exact ⟨Nat.zero_le _, Nat.zero_le _⟩

end Accounting

/-- The traffic of a tunnel that has ended is accounted for exactly when its cancel token
did not find bytes that the relay had already moved. -/
theorem relay_accounted_iff {T S : Type} [AsyncRead T] [AsyncWrite T] [AsyncRead S] [AsyncWrite S]
    (config : ConnConfig) (padded : NaivePaddedTransport T) (remote : S)
    (start : Nat) (turns : List Turn) (closing : Nat × Nat)
    (ended : (relay config (Traced.start padded) (Traced.start remote) start turns closing).selected.ended) :
    Accounted (relay config (Traced.start padded) (Traced.start remote) start turns closing) ↔
      (Relay.new (Traced.start padded) (Traced.start remote) start config.idleTimeoutSecs
        config.bufferSize false).Spared turns :=
  accounted_iff_spared config padded remote start turns closing ended

/-- A client that sends one frame of three bytes, and what else it does. -/
def threeBytes (more : List (PollResult Bytes)) : NaivePaddedTransport Scripted :=
  .new ⟨.ready (.ok [0, 3, 0, 7, 8, 9]) :: more, []⟩ ⟨fun _ => 0, 0⟩

/-- The default settings with a small buffer. -/
def smallBuffer : ConnConfig := .fromCli { CliArgs.defaults 1 with bufferSize := 16 }

/-- The client stays, the upload is relayed at time 0, and the token fires before time 1. -/
def kickedUpload : RelayOutcome (Traced (NaivePaddedTransport Scripted)) (Traced Scripted) :=
  relay smallBuffer (.start (threeBytes [])) (.start ⟨[], []⟩) 0
    [⟨9, 0, false, false⟩, ⟨9, 1, true, true⟩] (1, 1)

theorem kicked_upload_unrecorded : kickedUpload.selected = .kicked ∧
    accepted kickedUpload.b.calls = [7, 8, 9] ∧ kickedUpload.recorded.uploads = [] ∧
    ¬ Accounted kickedUpload := by
  decide +kernel

/-- A remote that answers with two bytes and closes. -/
def twoBytes : Scripted := ⟨[.ready (.ok [1, 2]), .ready (.ok [])], []⟩

/-- Both ends close after their bytes, and the token fires too late. -/
theorem relay_accounted_late_kick :
    (relay smallBuffer (Traced.start (threeBytes [.ready (.ok [])])) (Traced.start twoBytes) 0
      [⟨9, 0, false, true⟩] (1, 1)).selected = .finished (.ok true) ∧
    (Relay.new (Traced.start (threeBytes [.ready (.ok [])])) (Traced.start twoBytes) 0 60 16 false).Spared
      [⟨9, 0, false, true⟩] := by
  refine ⟨by decide +kernel, ?_⟩
  exact (relay_accounted_iff smallBuffer (threeBytes [.ready (.ok [])]) twoBytes 0
    [⟨9, 0, false, true⟩] (1, 1) (by decide +kernel)).mp (by decide +kernel)

end ServerNaive
