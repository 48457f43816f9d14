import ServerNaive.Transport.PaddingWire

/-! The writing half of the transport. The bytes the inner writer has taken, followed
by what is left of the pending frame, are at all times the wire of the accepted writes. -/
namespace ServerNaive.NaivePaddedTransport
open AsyncIo PaddingCodec

variable {W : Type} [AsyncWrite W]

/-- The transport has accepted the writes `ws`, and owes the inner writer `unsent`. -/
structure Encodes (t : NaivePaddedTransport (Traced W)) (ws : List Accepted) : Prop where
  wire : accepted t.inner.calls ++ t.unsent = wireFrom 0 ws
  frames : t.writeFramesDone = min paddingFrames ws.length
  fit : FramesFit 0 ws
  offset : ∀ frame, t.writePending = some frame → t.writePendingOff < frame.length

omit [AsyncWrite W] in
theorem encodes_new (w : W) (g : Rng) : Encodes (new (Traced.start w) g) [] where
  wire := rfl
  frames := rfl
  fit := .nil 0
  offset frame queued := by cases queued

omit [AsyncWrite W] in
/-- Draining changes nothing of what is on the wire. -/
theorem Encodes.drains {t next : NaivePaddedTransport (Traced W)} {ws : List Accepted} (h : Encodes t ws)
    (drains : Drains t next) : Encodes next ws where
  wire := drains.onWire.trans h.wire
  frames := drains.frames.trans h.frames
  fit := h.fit
  offset := drains.inside h.offset

/-- A writer that takes part of every offer clears the frame or makes its caller wait. -/
theorem drainPass_unfailing (zeroText : String) (obliging : Obliging W)
    {t : NaivePaddedTransport (Traced W)} (inside : OffsetInside t) :
    (drainPass zeroText t).Holds (fun _ => True) (fun _ d => ∀ e, d ≠ .failed e) := by
  cases queued : t.writePending with
  | none =>
      rw [drainPass_idle queued]
      intro e failed
      cases failed
  | some frame =>
      have offer : frame.drop t.writePendingOff ≠ [] := by
        have short := inside frame queued
        intro empty
        exact absurd (List.drop_eq_nil_iff.mp empty) (by omega)
      obtain ⟨inner, r, polled, ⟨same, nothing⟩ | ⟨n, -, -, same⟩⟩ := drainPass_cases zeroText queued
      · rw [same]
        intro e failed
        rcases r with _ | ⟨e' | n⟩
        · cases failed
        · exact absurd (congrArg Prod.snd polled) ((Traced.obliging obliging).write _ _ e')
        · cases nothing n rfl
          exact absurd (congrArg Prod.snd polled) ((Traced.obliging obliging).progress _ _ offer)
      · rw [same]
        trivial

theorem drain_unfailing {zeroText : String} (obliging : Obliging W)
    {t last : NaivePaddedTransport (Traced W)} {d : Drain} (inside : OffsetInside t)
    (ran : drain zeroText t = (last, d)) (e : IoError) : d ≠ .failed e := by
  refine drain_rule (I := OffsetInside) (Q := fun _ d => ∀ e, d ≠ .failed e) ?_ inside ran e
  intro s its
  apply ((drainPass_drains zeroText s).and (drainPass_unfailing zeroText obliging its)).imp
  · rintro next ⟨drains, -⟩
    exact drains.inside its
  · rintro last d ⟨-, fine⟩
    exact fine

/-- A call that took `taken` off its caller leaves a wire that carries it too. -/
def Extends (ws : List Accepted) (taken : Bytes) (last : NaivePaddedTransport (Traced W)) : Prop :=
  ∃ more, Encodes last (ws ++ more) ∧ payload more = taken

omit [AsyncWrite W] in
theorem Encodes.extends_nil {t : NaivePaddedTransport (Traced W)} {ws : List Accepted}
    (h : Encodes t ws) : Extends ws [] t :=
  ⟨[], by rwa [List.append_nil], rfl⟩

/-- After eight frames a write goes straight to the inner writer. -/
theorem rawWrite_extends {t : NaivePaddedTransport (Traced W)} {ws : List Accepted} {buf : Bytes}
    {inner : Traced W} {r : PollResult Nat} (h : Encodes t ws) (cleared : t.writePending = none)
    (raw : paddingFrames ≤ t.writeFramesDone) (polled : AsyncWrite.pollWrite t.inner buf = (inner, r)) :
    Extends ws (Call.write buf r).taken { t with inner } := by
  have long : paddingFrames ≤ ws.length := by
    rw [h.frames] at raw
    exact raw.trans (Nat.min_le_right _ _)
  refine ⟨[⟨(Call.write buf r).taken, []⟩], ⟨?_, ?_, h.fit.snoc fun short => absurd long (by omega), ?_⟩,
    payload_singleton _⟩
  · rw [wireFrom_snoc, ← h.wire, Nat.zero_add, wireOf, if_neg (Nat.not_lt.mpr long)]
    exact rawWrite_onWire cleared polled
  · rw [List.length_append, List.length_singleton]
    change t.writeFramesDone = _
    rw [h.frames]
    omega
  · intro frame queued
    cases cleared.symm.trans queued

theorem length_drawPad (g : Rng) : (drawPad g).2.length = (g.supply g.drawn).toNat := by
  simp only [drawPad, Rng.randomU8, Rng.genRandomBytes, List.length_map, List.length_range]

theorem fits_frame (g : Rng) (buf : Bytes) : (Accepted.mk (frameData buf) (drawPad g).2).Fits := by
  refine ⟨?_, ?_⟩
  · rw [length_frameData]
    exact Nat.min_le_right _ _
  · have byte := (g.supply g.drawn).toNat_lt
    rw [length_drawPad]
    omega

theorem take_frameData (buf : Bytes) : buf.take (frameData buf).length = frameData buf := by
  rw [length_frameData]
  rfl

/-- A frame that is on the wire is one more write. -/
theorem framed_extends {t last : NaivePaddedTransport (Traced W)} {ws : List Accepted} {buf : Bytes}
    {r : PollResult Nat} (h : Encodes t ws) (short : t.writeFramesDone < paddingFrames)
    (framed : Framed t buf last r) : Extends ws (frameData buf) last := by
  have few : ws.length < paddingFrames := by
    rw [h.frames] at short
    omega
  refine ⟨[⟨frameData buf, (drawPad t.rng).2⟩],
    ⟨?_, ?_, h.fit.snoc fun _ => fits_frame t.rng buf, framed.inside⟩, payload_singleton _⟩
  · rw [wireFrom_snoc, ← h.wire, Nat.zero_add, wireOf, if_pos few]
    exact framed.wire
  · rw [framed.frames, h.frames, List.length_append, List.length_singleton]
    omega

theorem pollWrite_extends (obliging : Obliging W) {t last : NaivePaddedTransport (Traced W)}
    {ws : List Accepted} {buf : Bytes} {r : PollResult Nat} (h : Encodes t ws)
    (ran : pollWrite t buf = (last, r)) :
    Extends ws (Call.write buf r).taken last ∧ ∀ e, r ≠ .ready (.error e) := by
  cases pollWrite_wrote ran with
  | blocked drains =>
      refine ⟨(h.drains drains).extends_nil, ?_⟩
      intro e failed
      cases failed
  | failed drains drained => exact absurd rfl (drain_unfailing obliging h.offset drained _)
  | raw drains cleared raw polled =>
      refine ⟨rawWrite_extends (h.drains drains) cleared (drains.frames.symm ▸ raw) polled, ?_⟩
      intro e failed
      exact (Traced.obliging obliging).write _ _ e ((congrArg Prod.snd polled).trans failed)
  | framed drains drained short framed =>
      rcases framed.answer with rfl | ⟨e, -, polled⟩
      · have whole : (Call.write buf (.ready (.ok (frameData buf).length))).taken = frameData buf :=
          take_frameData buf
        rw [whole]
        refine ⟨framed_extends (h.drains drains) (drains.frames.symm ▸ short) framed, ?_⟩
        intro e failed
        cases failed
      · exact absurd (congrArg Prod.snd polled) ((Traced.obliging obliging).write _ _ e)

theorem pollFlush_encodes {t last : NaivePaddedTransport (Traced W)} {ws : List Accepted} {r : PollResult Unit}
    (h : Encodes t ws) (ran : pollFlush t = (last, r)) : Encodes last ws :=
  h.drains (pollFlush_flushed ran).drains

theorem pollShutdown_encodes {t last : NaivePaddedTransport (Traced W)} {ws : List Accepted} {r : PollResult Unit}
    (h : Encodes t ws) (ran : pollShutdown t = (last, r)) :
    Encodes last ws ∧ (r = .ready (.ok ()) → last.writePending = none) := by
  have shut := pollShutdown_shut ran
  refine ⟨h.drains shut.drains, ?_⟩
  rintro rfl
  exact shut.cleared

end ServerNaive.NaivePaddedTransport
