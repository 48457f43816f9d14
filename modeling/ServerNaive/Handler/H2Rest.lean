import ServerNaive.Handler.H2Tunnel
import ServerNaive.Handler.TunnelRest

/-! An H2 tunnel at rest. The bridge and the tunnel task each wait for the other at times, and through
each other for the client and the remote end. When neither can go on, one of the two outside holds them
up, or nothing is left to be delivered. -/
namespace ServerNaive
open AsyncIo PaddingCodec NaivePaddedTransport

/-! The tunnel's end of the pipe after a call it did not answer. -/

section End

/-- There is nothing to read, and not the end either. -/
def DryEnd (x : Traced DuplexEnd) : Prop := x.stream.incoming.data = [] ∧ x.stream.incoming.closed = false

theorem dryEnd_kept : KeptByCalls DryEnd where
  read x cap h := by
    change (DuplexEnd.pollRead x.stream cap).1.incoming.data = [] ∧ _
    change _ ∧ (DuplexEnd.pollRead x.stream cap).1.incoming.closed = false
    unfold DuplexEnd.pollRead
    split_ifs with yields some_there closed
    · exact h
    · exact absurd h.1 some_there
    · exact h
    · exact h
  write x buf h := by
    change (DuplexEnd.pollWrite x.stream buf).1.incoming.data = [] ∧ _
    change _ ∧ (DuplexEnd.pollWrite x.stream buf).1.incoming.closed = false
    unfold DuplexEnd.pollWrite
    split_ifs <;> exact h
  flush _ h := h
  shutdown _ h := h

/-- There is no room for what is to be written, if the half is still open. -/
def FullEnd (x : Traced DuplexEnd) : Prop :=
  x.stream.outgoing.closed = true ∨ x.stream.outgoing.room x.stream.capacity = 0

theorem fullEnd_kept : KeptByCalls FullEnd where
  read x cap h := by
    change (DuplexEnd.pollRead x.stream cap).1.outgoing.closed = true ∨
      (DuplexEnd.pollRead x.stream cap).1.outgoing.room (DuplexEnd.pollRead x.stream cap).1.capacity = 0
    unfold DuplexEnd.pollRead
    split_ifs <;> exact h
  write x buf h := by
    change (DuplexEnd.pollWrite x.stream buf).1.outgoing.closed = true ∨
      (DuplexEnd.pollWrite x.stream buf).1.outgoing.room (DuplexEnd.pollWrite x.stream buf).1.capacity = 0
    unfold DuplexEnd.pollWrite
    split_ifs with yields closed full
    · exact h
    · exact h
    · exact h
    · rcases h with shut | no_room
      · exact absurd shut closed
      · exact absurd no_room full
  flush _ h := h
  shutdown _ _ := .inl rfl

/-- The end since its record was `base`. The runtime has not made its caller give way, and nobody else uses
the pipes meanwhile, so a read that found nothing and a write that found no room are still right. -/
structure Since (base : List Call) (x : Traced DuplexEnd) : Prop where
  steady : true ∉ x.stream.yields
  grown : base <+: x.calls
  dry : HeldUp Call.silent base x → DryEnd x
  full : HeldUp Call.unready base x → FullEnd x

namespace Since

variable {base : List Call} {x next : Traced DuplexEnd}

theorem start (steady : true ∉ x.stream.yields) : Since x.calls x :=
  ⟨steady, List.prefix_refl _, fun held_up => absurd held_up not_heldUp_self,
    fun held_up => absurd held_up not_heldUp_self⟩

theorem unyielding (h : Since base x) : ¬ x.stream.yields.headD false = true := by
  intro yielding
  cases yields : x.stream.yields with
  | nil =>
      rw [yields] at yielding
      cases yielding
  | cons head tail =>
      rw [yields] at yielding
      cases (yielding : head = true)
      exact h.steady (yields ▸ List.mem_cons_self)

theorem call (h : Since base x) {c : Call} (last : next.calls = x.calls ++ [c])
    (yields : ∀ b ∈ next.stream.yields, b ∈ x.stream.yields) (dry : DryEnd x → DryEnd next)
    (full : FullEnd x → FullEnd next) (silent : c.silent = true → DryEnd next)
    (unready : c.unready = true → FullEnd next) : Since base next where
  steady yielding := h.steady (yields _ yielding)
  grown := h.grown.trans ⟨_, last.symm⟩
  dry held_up := (heldUp_snoc h.grown last held_up).elim (fun before => dry (h.dry before)) silent
  full held_up := (heldUp_snoc h.grown last held_up).elim (fun before => full (h.full before)) unready

theorem kept (base : List Call) : KeptByCalls (Since base) where
  read x cap h := by
    have unyielding := h.unyielding
    refine h.call (Traced.calls_pollRead Prod.mk.eta.symm) ?_ (dryEnd_kept.read x cap) (fullEnd_kept.read x cap) ?_
      fun other => by cases other
    · change ∀ b ∈ (DuplexEnd.pollRead x.stream cap).1.yields, _
      unfold DuplexEnd.pollRead
      split_ifs <;> exact fun _ => List.mem_of_mem_tail
    · intro silent
      change (Call.read cap (DuplexEnd.pollRead x.stream cap).2).silent = true at silent
      change (DuplexEnd.pollRead x.stream cap).1.incoming.data = [] ∧ _
      change _ ∧ (DuplexEnd.pollRead x.stream cap).1.incoming.closed = false
      unfold DuplexEnd.pollRead at silent ⊢
      rw [if_neg unyielding] at silent ⊢
      split_ifs at silent ⊢ with some_there closed
      · cases silent
      · cases silent
      · exact ⟨not_not.mp some_there, Bool.not_eq_true _ ▸ closed⟩
  write x buf h := by
    have unyielding := h.unyielding
    refine h.call (Traced.calls_pollWrite Prod.mk.eta.symm) ?_ (dryEnd_kept.write x buf) (fullEnd_kept.write x buf)
      (fun other => by cases other) ?_
    · change ∀ b ∈ (DuplexEnd.pollWrite x.stream buf).1.yields, _
      unfold DuplexEnd.pollWrite
      split_ifs <;> exact fun _ => List.mem_of_mem_tail
    · intro unready
      change (Call.write buf (DuplexEnd.pollWrite x.stream buf).2).unready = true at unready
      change _ ∨ (DuplexEnd.pollWrite x.stream buf).1.outgoing.room (DuplexEnd.pollWrite x.stream buf).1.capacity = 0
      unfold DuplexEnd.pollWrite at unready ⊢
      rw [if_neg unyielding] at unready ⊢
      split_ifs at unready ⊢ with closed full
      · cases unready
      · exact .inr full
      · cases unready
  flush x h :=
    h.call (Traced.calls_pollFlush Prod.mk.eta.symm) (fun _ => id) id id (fun other => by cases other)
      fun other => by cases other
  shutdown x h :=
    h.call (Traced.calls_pollShutdown Prod.mk.eta.symm) (fun _ => id) id (fun _ => .inl rfl)
      (fun other => by cases other) fun other => by cases other

end Since

end End

/-! Both parties at rest. -/

namespace H2Tunnel

variable {B : Type} {cfg : BridgeConfig} {g : Rng} {s : H2Tunnel B}

/-- Each side has all that the other has given so far, and a direction that is not done waits for its
sender: the session returns no end of the client's side, so the client has not ended it if the session
returns ends at all. -/
structure Delivered (base : List Call) (s : H2Tunnel B) : Prop where
  up : accepted s.relay.b.calls = parseFrames paddingFrames s.sent
  down : parseFrames paddingFrames s.bridge.given = returned s.relay.b.calls
  sender : s.relay.aToB.isDone = false → s.bridge.bodyEnd = false ∧ (s.bridge.ReportsEnd → s.bridge.fin = false)
  answerer : s.relay.bToA.isDone = false → HeldUp Call.silent base s.relay.b

section Bridge

theorem Joined.upload (h : s.Joined cfg) : s.bridge.upload = s.pipeEnd.stream.incoming :=
  congrArg Bridge.upload h.pipes.symm

theorem Joined.download (h : s.Joined cfg) : s.bridge.download = s.pipeEnd.stream.outgoing :=
  congrArg Bridge.download h.pipes.symm

theorem room_of_empty (cfg : BridgeConfig) {p : Pipe Bytes} (empty : p.data = []) : p.room cfg.capacity ≠ 0 := by
  have positive := cfg.capacity_pos
  rw [Pipe.room, empty]
  exact Nat.ne_of_gt positive

/-- A bridge that rests beside a full pipe to the client is held up by the client or by the other pipe. -/
theorem Joined.full_rest (h : s.Joined cfg) (valid : s.bridge.Valid cfg) (connected : s.bridge.lost = false)
    (waits : s.bridge.Waits cfg.capacity) (opened : s.bridge.download.closed = false) (full : FullEnd s.pipeEnd)
    (window : s.bridge.window ≠ 0) : s.bridge.upload.room cfg.capacity = 0 := by
  rw [FullEnd, ← h.download, h.capacity] at full
  have no_room : s.bridge.download.room cfg.capacity = 0 :=
    full.resolve_left fun closed => by cases opened.symm.trans closed
  have unended : s.bridge.downEof ≠ true := by
    intro ended
    rcases valid.downEof_drained ended with lost | ⟨closed, -⟩
    · cases connected.symm.trans lost
    · cases opened.symm.trans closed
  cases waits with
  | left phase => exact absurd (valid.left_eof phase).2 unended
  | selecting phase some_open up down =>
      rcases down with ended | ⟨empty, -⟩
      · exact absurd ended unended
      · exact absurd no_room (room_of_empty cfg (List.eq_nil_of_length_eq_zero empty))
  | writingUp rest phase more opened full => exact full
  | writingDown rest phase more lost shut => exact absurd shut window

/-- One that rests beside an empty pipe from the client has forwarded all that the client has sent. -/
theorem Joined.dry_rest (h : s.Joined cfg)
    (ledger : Bridge.Ledger cfg s.sent (returned s.pipeEnd.calls) (accepted s.pipeEnd.calls) s.bridge)
    (connected : s.bridge.lost = false) (waits : s.bridge.Waits cfg.capacity) (dry : DryEnd s.pipeEnd)
    (window : s.bridge.window ≠ 0) : returned s.pipeEnd.calls = s.sent ∧ s.bridge.bodyEnd = false := by
  obtain ⟨empty, opened⟩ := dry
  rw [← h.upload] at empty opened
  have unended : s.bridge.upEof ≠ true := fun ended => by cases opened.symm.trans (ledger.valid.upEof_closed ended)
  cases waits with
  | left phase => exact absurd (ledger.valid.left_eof phase).1 unended
  | selecting phase some_open up down =>
      rcases up with ended | ⟨-, idle, going⟩
      · exact absurd ended unended
      · have whole := ledger.up.whole connected (.inr h.runs)
        have upload := ledger.up.upload
        rw [Bridge.upPart_of phase, idle, List.flatten_nil, List.append_nil, List.append_nil] at whole
        rw [empty, List.append_nil] at upload
        exact ⟨upload.trans whole, going⟩
  | writingUp rest phase more opened full => exact absurd full (room_of_empty cfg empty)
  | writingDown rest phase more lost shut => exact absurd shut window

/-- The client has been given all that is past the padding layer. -/
theorem given_rest
    (ledger : Bridge.Ledger cfg s.sent (returned s.pipeEnd.calls) (accepted s.pipeEnd.calls) s.bridge)
    (connected : s.bridge.lost = false) (waits : s.bridge.Waits cfg.capacity)
    (room : s.bridge.upload.room cfg.capacity ≠ 0) (window : s.bridge.window ≠ 0) :
    s.bridge.given = accepted s.pipeEnd.calls := by
  have of_ended (ended : s.bridge.downEof = true) : s.bridge.given = accepted s.pipeEnd.calls := by
    rcases ledger.down.unmarked ended with mark | lost
    · exact ledger.given_all mark
    · cases connected.symm.trans lost
  cases waits with
  | left phase => exact of_ended (ledger.valid.left_eof phase).2
  | selecting phase some_open up down =>
      by_cases ended : s.bridge.downEof = true
      · exact of_ended ended
      · obtain ⟨empty, -⟩ := down.resolve_left ended
        have offered := ledger.down.offered (.inl (Bool.not_eq_true _ ▸ ended))
        rw [Bridge.downPart_of phase, List.eq_nil_of_length_eq_zero empty, List.append_nil, List.append_nil] at offered
        exact offered
  | writingUp rest phase more opened full => exact absurd full room
  | writingDown rest phase more lost shut => exact absurd shut window

end Bridge

section Rest

variable {r : Relay (Padded DuplexEnd) (Traced B)}

/-- The upload at rest, unless the remote end takes no more. -/
theorem Relayed.upload_rest (h : s.Relayed cfg g) (joined : s.Joined cfg)
    (ledger : Bridge.Ledger cfg s.sent (returned s.pipeEnd.calls) (accepted s.pipeEnd.calls) s.bridge)
    (positive : 0 < cfg.bufferSize) (connected : s.bridge.lost = false) (waits : s.bridge.Waits cfg.capacity)
    (window : s.bridge.window ≠ 0) (since : Since r.a.stream.inner.calls s.pipeEnd)
    (taken : ¬ HeldUp Call.refuses r.b.calls s.relay.b) (stops : UploadStops r s.relay) :
    accepted s.relay.b.calls = parseFrames paddingFrames s.sent ∧ s.bridge.upload.data = [] ∧
      (s.relay.aToB.isDone = false → s.bridge.bodyEnd = false) := by
  rw [joined.upload]
  rcases stops with done | waiting
  · obtain ⟨empty, ended⟩ := h.conducts.upload_done done
    obtain ⟨⟨-, drained⟩, same, -⟩ := h.taken_all joined ledger positive connected ended
    rw [← same]
    exact ⟨h.conducts.upload_drained empty, drained, fun undone => by cases undone.symm.trans done⟩
  · cases waiting with
    | reads silent empty flushed =>
        have dry := since.dry silent
        obtain ⟨same, going⟩ := joined.dry_rest ledger connected waits dry window
        rw [← same]
        exact ⟨h.conducts.upload_drained empty, dry.1, fun _ => going⟩
    | writes refused => exact absurd refused taken

/-- The download at rest beside a bridge that has no full pipe in front of it. -/
theorem Relayed.download_rest (h : s.Relayed cfg g) (joined : s.Joined cfg) (unrefused : Unrefused s.relay.a.calls)
    (valid : s.bridge.Valid cfg) (positive : 0 < cfg.bufferSize) (connected : s.bridge.lost = false)
    (waits : s.bridge.Waits cfg.capacity) (window : s.bridge.window ≠ 0)
    (room : s.bridge.upload.room cfg.capacity ≠ 0) (since : Since r.a.stream.inner.calls s.pipeEnd)
    (stops : DownloadStops r s.relay) :
    parseFrames paddingFrames (accepted s.pipeEnd.calls) = returned s.relay.b.calls ∧
      (s.relay.bToA.isDone = false → HeldUp Call.silent r.b.calls s.relay.b) := by
  cases done : s.relay.bToA.isDone with
  | true => exact ⟨(h.answered unrefused positive connected done).1, fun undone => by cases undone⟩
  | false =>
      have opened : s.bridge.download.closed = false := by
        cases closed : s.bridge.download.closed with
        | false => rfl
        | true => cases done.symm.trans (h.done_of_closed joined connected closed)
      have unfilled : ¬ HeldUpBelow Call.unready r.a.stream.inner.calls s.relay.a := fun unready =>
        room (joined.full_rest valid connected waits opened (since.full unready) window)
      rcases stops with ended | waiting
      · cases done.symm.trans ended
      · cases waiting with
        | reads silent empty flushed =>
            exact ⟨h.conducts.download_drained unrefused empty (flushed.resolve_right unfilled), fun _ => silent⟩
        | writes unready => exact absurd unready unfilled

end Rest

variable [AsyncRead B] [AsyncWrite B]

/-- The server's side of a tunnel never waits for itself. Where the task has taken its turn and neither it
nor the bridge can go on, the remote end has kept a write or the shutdown of this turn waiting, or the
client has left its whole window unread, or each side has all that the other has given so far. -/
theorem h2_rest_delivered (cfg : BridgeConfig) (g : Rng) (yields : List Bool) (remote : B) (idleTimeoutSecs : Nat)
    (schedule : List H2Event) (s t : H2Tunnel B) (turn : Turn)
    (ran : follow (step cfg) (start cfg g yields remote idleTimeoutSecs) schedule = some s)
    (positive : 0 < cfg.bufferSize) (connected : s.bridge.lost = false) (steady : true ∉ s.pipeEnd.stream.yields)
    (stepped : s.step cfg (.turn turn) = some t) (goes_on : t.stage = .relaying)
    (rests : t.bridge.step cfg .bridge = none) :
    HeldUp Call.refuses s.relay.b.calls t.relay.b ∨ (t.bridge.window = 0 ∧ t.bridge.unread = cfg.window) ∨
      t.Delivered s.relay.b.calls := by
  have before : s.Sound cfg g := follow_invariant step_sound (sound_start cfg g yields remote idleTimeoutSecs) ran
  have sound : t.Sound cfg g := before.turn stepped
  have joined := sound.joined fun result other => by cases goes_on.symm.trans other
  obtain ⟨relayed, unrefused⟩ := sound.relaying (.inr goes_on)
  obtain ⟨selected, still⟩ : s.relay.select turn = (t.relay, .pending) ∧ t.bridge.lost = false := by
    rw [step] at stepped
    split_ifs at stepped
    split at stepped
    · cases stepped
    · rename_i relay selected
      cases stepped
      exact ⟨selected, connected⟩
    · cases stepped
      cases goes_on
    · obtain ⟨bridge, -, rfl⟩ := Option.map_eq_some_iff.mp stepped
      cases goes_on
  obtain ⟨up, down⟩ := select_stops selected
  have since := Relay.select_kept (keptByCalls_inner (Since.kept s.pipeEnd.calls)).traced (Since.start steady) selected
  have waits := Bridge.advance_none rests
  by_cases window : t.bridge.window = 0
  · have windows := sound.ledger.valid.windows
    rw [window, Nat.zero_add] at windows
    exact .inr (.inl ⟨window, windows⟩)
  by_cases taken : HeldUp Call.refuses s.relay.b.calls t.relay.b
  · exact .inl taken
  obtain ⟨uploaded, empty, sender⟩ := relayed.upload_rest joined sound.ledger positive still waits window since taken up
  have room := room_of_empty cfg empty
  obtain ⟨downloaded, answerer⟩ := relayed.download_rest joined unrefused sound.ledger.valid positive still waits window
    room since down
  refine .inr (.inr ⟨uploaded, ?_, fun undone => ⟨sender undone, fun reports => ?_⟩, answerer⟩)
  · rw [given_rest sound.ledger still waits room window]
    exact downloaded
  · cases fin : t.bridge.fin with
    | false => rfl
    | true => cases (sender undone).symm.trans (reports fin)

/-- A remote end that answers one byte and then nothing. -/
def briefRemote : Scripted := ⟨[.ready (.ok [5])], []⟩

/-- A byte goes up, a byte comes down, and the client has read it. -/
def oneAnswer : List H2Event :=
  [.connected 0, .outside (.clientSends [0, 1, 0, 7]), .outside .bridge, .outside .bridge, .outside .bridge,
    .turn ⟨40, 1, false, false⟩, .outside .bridge, .outside .bridge, .outside (.clientReads 3), .outside .bridge,
    .outside .bridge]

theorem oneAnswer_runs :
    (follow (step smallBridge) (start smallBridge smallPads [] briefRemote 60) oneAnswer).isSome = true := by
  decide +kernel

/-- Where it leads. -/
def answeredOnce : H2Tunnel Scripted :=
  (follow (step smallBridge) (start smallBridge smallPads [] briefRemote 60) oneAnswer).get oneAnswer_runs

theorem answeredOnce_turns : (answeredOnce.step smallBridge (.turn ⟨40, 2, false, false⟩)).isSome = true := by
  decide +kernel

/-- The same after one more turn. -/
def atRest : H2Tunnel Scripted := (answeredOnce.step smallBridge (.turn ⟨40, 2, false, false⟩)).get answeredOnce_turns

theorem h2_rest_delivered_atRest :
    atRest.bridge.step smallBridge .bridge = none ∧ atRest.bridge.given = [0, 1, 0, 5] ∧
      atRest.Delivered answeredOnce.relay.b.calls := by
  have rests : atRest.bridge.step smallBridge .bridge = none := by decide +kernel
  have given : atRest.bridge.given = [0, 1, 0, 5] := by decide +kernel
  have takes : ¬ HeldUp Call.refuses answeredOnce.relay.b.calls atRest.relay.b := by decide +kernel
  have window : atRest.bridge.window ≠ 0 := by decide +kernel
  refine ⟨rests, given, ?_⟩
  rcases h2_rest_delivered smallBridge smallPads [] briefRemote 60 oneAnswer answeredOnce atRest
      ⟨40, 2, false, false⟩ (Option.some_get oneAnswer_runs).symm (by decide) (by decide +kernel) (by decide +kernel)
      (Option.some_get answeredOnce_turns).symm (by decide +kernel) rests with refused | ⟨shut, -⟩ | delivered
  · exact absurd refused takes
  · exact absurd shut window
  · exact delivered

end H2Tunnel

end ServerNaive
