import ServerNaive.Handler.RelayGuard
import ServerNaive.Transport.PaddingDuplex

/-! What a tunnel carries between the stream under its padding layer and the remote end, while the relay
is polled, kicked or left with an error. The stream below may do anything, also between two polls. -/
namespace ServerNaive
open AsyncIo PaddingCodec NaivePaddedTransport

/-- The client's stream of a tunnel: the padding layer over `S`. -/
abbrev Padded (S : Type) := Traced (NaivePaddedTransport (Traced S))

/-- The same over another stream, with the record of the one below. -/
def Padded.onto {S : Type} (e : Padded S) (x : S) : Padded S :=
  { e with stream := { e.stream with inner := { e.stream.inner with stream := x } } }

theorem NaivePaddedTransport.Mirrors.onto {S : Type} {g : Rng} {e : Padded S} (h : Mirrors g e) (x : S) :
    Mirrors g (Padded.onto e x) where
  ok := h.ok.inner _
  parsed := h.parsed
  conveys unrefused :=
    let conveys := h.conveys unrefused
    ⟨⟨conveys.wire, conveys.frames, conveys.rng⟩, conveys.fit⟩

section Client

variable {S : Type}

/-- The last call was a write that was refused, and what is out on the wire still carries a front of
what was accepted. -/
structure WriteRefused (e : Padded S) : Prop where
  front : parseFrames paddingFrames (accepted e.stream.inner.calls) <+: accepted e.calls
  last : ∃ calls buf failure, e.calls = calls ++ [.write buf (.ready (.error failure))]

def Accepting (g : Rng) (e : Padded S) : Prop := Mirrors g e ∧ Unrefused e.calls

def Refusing (g : Rng) (e : Padded S) : Prop := Mirrors g e ∧ WriteRefused e

variable [AsyncRead S] [AsyncWrite S]

theorem accepting_read (g : Rng) : KeptByReads (Accepting (S := S) g) := by
  intro e cap h
  refine ⟨(mirrors_kept g).read e cap h.1, ?_⟩
  rw [Traced.calls_pollRead Prod.mk.eta.symm]
  exact unrefused_snoc_iff.mpr ⟨h.2, fun write => by cases write⟩

theorem accepting_guarded (g : Rng) : Guarded (Accepting (S := S) g) (Refusing g) where
  write {e next buf r} h polled fine := by
    have mirrors := (mirrors_kept g).write e buf h.1
    rw [polled] at mirrors
    refine ⟨mirrors, ?_⟩
    rw [Traced.calls_pollWrite polled]
    refine unrefused_snoc_iff.mpr ⟨h.2, fun _ => ?_⟩
    rcases r with _ | ⟨failure | n⟩
    · rfl
    · exact absurd rfl (fine failure)
    · rfl
  refused {e next buf failure} h polled := by
    have mirrors := (mirrors_kept g).write e buf h.1
    rw [polled] at mirrors
    have calls := Traced.calls_pollWrite polled
    refine ⟨mirrors, ?_, e.calls, buf, failure, calls⟩
    have ran : pollWrite e.stream buf = (next.stream, .ready (.error failure)) :=
      Prod.ext (congrArg (fun p => p.1.stream) polled)
        (show (AsyncWrite.pollWrite e buf).2 = _ from congrArg Prod.snd polled)
    have same : accepted next.calls = accepted e.calls := by
      rw [calls, accepted_append, accepted_singleton]
      exact List.append_nil _
    rw [same, ← (h.1.conveys h.2).parse]
    exact parseFrames_mono _ (pollWrite_refused ran)
  flush e h := by
    refine ⟨(mirrors_kept g).flush e h.1, ?_⟩
    rw [Traced.calls_pollFlush Prod.mk.eta.symm]
    exact unrefused_snoc_iff.mpr ⟨h.2, fun write => by cases write⟩
  shutdown e h := by
    refine ⟨(mirrors_kept g).shutdown e h.1, ?_⟩
    rw [Traced.calls_pollShutdown Prod.mk.eta.symm]
    exact unrefused_snoc_iff.mpr ⟨h.2, fun write => by cases write⟩

omit [AsyncRead S] [AsyncWrite S] in
theorem Accepting.front {g : Rng} {e : Padded S} (h : Accepting g e) :
    parseFrames paddingFrames (accepted e.stream.inner.calls) <+: accepted e.calls := by
  rw [← (h.1.conveys h.2).parse]
  exact parseFrames_mono _ (List.prefix_append _ _)

omit [AsyncRead S] [AsyncWrite S] in
theorem accepting_new (s : S) (g : Rng) : Accepting g (freshEncoder s g) :=
  ⟨mirrors_new s g, fun _ member => by cases member⟩

end Client

/-- A direction with room in its buffer stops reading only after a read that found the end or failed. -/
structure Heard (size : Nat) (v : Progress) : Prop where
  sized : v.dir.buf.length = size
  ended : 0 < size → v.dir.readDone = true → ∃ room, 0 < room ∧
    (.read room (.ready (.ok [])) ∈ v.reads ∨ ∃ e, .read room (.ready (.error e)) ∈ v.reads)

namespace Heard

variable {size : Nat} {v w : Progress}

theorem start (size : Nat) (suppress : Bool) : Heard size ⟨.new size suppress, [], []⟩ :=
  ⟨List.length_replicate, fun _ ended => by cases ended⟩

theorem kept (h : Heard size v) (length : w.dir.buf.length = v.dir.buf.length)
    (done : w.dir.readDone = v.dir.readDone) (reads : ∃ more, w.reads = v.reads ++ more) : Heard size w := by
  refine ⟨length.trans h.sized, ?_⟩
  intro positive ended
  obtain ⟨more, same⟩ := reads
  obtain ⟨room, asked, heard⟩ := h.ended positive (done.symm.trans ended)
  refine ⟨room, asked, ?_⟩
  rw [same]
  rcases heard with eof | ⟨e, failed⟩
  · exact .inl (List.mem_append_left _ eof)
  · exact .inr ⟨e, List.mem_append_left _ failed⟩

theorem room_pos {room : Nat} (h : Heard size v) (positive : 0 < size) (asked : v.Ahead room ∨ v.Next room) :
    0 < room := by
  have sized := h.sized
  rcases asked with ⟨-, space, rfl⟩ | ⟨-, rfl⟩ <;> omega

theorem step (h : Heard size v) (step : CopyStep v w) : Heard size w := by
  have length := step.settings.1
  cases step with
  | wrote | unwritten | flushed | shutdown | finished => exact h.kept length rfl ⟨[], (List.append_nil _).symm⟩
  | readAhead going ahead nonempty fits => exact h.kept length rfl ⟨_, rfl⟩
  | readNext going next nonempty fits => exact h.kept length rfl ⟨_, rfl⟩
  | readWaits going asked => exact h.kept length rfl ⟨_, rfl⟩
  | sawEnd going asked =>
      refine ⟨h.sized, fun positive _ => ⟨_, h.room_pos positive asked, .inl ?_⟩⟩
      exact List.mem_append_right _ (List.mem_singleton_self _)
  | swallowed e going ahead =>
      refine ⟨h.sized, fun positive _ => ⟨_, h.room_pos positive (.inl ahead), .inr ⟨e, ?_⟩⟩⟩
      exact List.mem_append_right _ (List.mem_singleton_self _)

theorem ends {failed : IoError → Prop} (h : Heard size v) (ends : CopyEnds failed v w) : Heard size w := by
  refine ends.invariant (fun _ _ heard step => heard.step step) ?_ h
  intro x y e heard failing
  obtain ⟨-, room, -, rfl⟩ := failing
  exact heard.kept rfl rfl ⟨_, rfl⟩

end Heard

namespace Relay

variable {A B : Type} [AsyncRead A] [AsyncWrite A] [AsyncRead B] [AsyncWrite B] {s t : Relay A B} {turn : Turn}
  {r : Selected}

theorem select_staged {Open Shut : A → Prop} (opened : KeptByReads Open) (shut : KeptByReads Shut)
    (phased : Phased Open Shut) (h : Staged Open Shut s) (selected : s.select turn = (t, r)) : Staged Open Shut t := by
  rcases select_cases selected with ⟨-, rfl, -⟩ | ⟨polled, same, -⟩
  · exact h
  · have next := poll_staged opened shut phased turn.fuel turn.now h
    rw [same] at next
    exact next

/-- What no call on the client's stream disturbs. -/
theorem select_kept {I : A → Prop} (kept : KeptByCalls I) (start : I s.a) (selected : s.select turn = (t, r)) : I t.a := by
  rcases select_sane kept.read kept.guarded start selected with held | ⟨held, -⟩ <;> exact held

theorem selectRun_kept {I : A → Prop} (kept : KeptByCalls I) {turns : List Turn} (start : I s.a)
    (ran : s.selectRun turns = (t, r)) : I t.a := by
  rcases selectRun_sane kept.read kept.guarded start ran with held | ⟨held, -⟩ <;> exact held

end Relay

/-- What holds of a running relay over a padded client. -/
structure Conducts {S B : Type} (g : Rng) (size : Nat) (t : Relay (Padded S) (Traced B)) : Prop where
  client : Mirrors g t.a
  state : Unrefused t.a.calls ∨ WriteRefused t.a
  up : Faithful t.upload.own
  down : Faithful t.download.own
  upHeard : Heard size t.upload.own
  downHeard : Heard size t.download.own

namespace Conducts

variable {S B : Type} {g : Rng} {size : Nat} {s t : Relay (Padded S) (Traced B)}

theorem new (client : S) (remote : B) (g : Rng) (start idleTimeoutSecs bufferSize : Nat) (suppress : Bool) :
    Conducts g bufferSize
      (Relay.new (freshEncoder client g) (Traced.start remote) start idleTimeoutSecs bufferSize suppress) where
  client := mirrors_new client g
  state := .inl fun _ member => by cases member
  up := Faithful.start bufferSize suppress
  down := Faithful.start bufferSize false
  upHeard := Heard.start bufferSize suppress
  downHeard := Heard.start bufferSize false

theorem upload_exact (h : Conducts g size t) : accepted t.b.calls ++ t.aToB.held = returned t.a.calls :=
  h.up.of_own.exact

theorem download_exact (h : Conducts g size t) : accepted t.a.calls ++ t.bToA.held = returned t.b.calls :=
  h.down.of_own.exact

/-- The remote end has a front of what the bytes read from the client carry. -/
theorem upload_front (h : Conducts g size t) :
    accepted t.b.calls <+: parseFrames paddingFrames (returned t.a.stream.inner.calls) := by
  rw [← h.client.handed_out, ← h.upload_exact]
  exact List.prefix_append _ _

/-- What is out on the client's wire carries a front of what the remote end gave. -/
theorem download_front (h : Conducts g size t) :
    parseFrames paddingFrames (accepted t.a.stream.inner.calls) <+: returned t.b.calls := by
  have front : parseFrames paddingFrames (accepted t.a.stream.inner.calls) <+: accepted t.a.calls := by
    rcases h.state with unrefused | refusal
    · exact Accepting.front ⟨h.client, unrefused⟩
    · exact refusal.front
  refine front.trans ?_
  rw [← h.download_exact]
  exact List.prefix_append _ _

/-- Once the buffer is empty the remote end has all that the bytes read from the client carry. -/
theorem upload_drained (h : Conducts g size t) (empty : t.aToB.held = []) :
    accepted t.b.calls = parseFrames paddingFrames (returned t.a.stream.inner.calls) := by
  have exact := h.upload_exact
  rw [empty, List.append_nil] at exact
  exact exact.trans h.client.handed_out

/-- The remote end is told of an end only when it has everything. -/
theorem upload_told (h : Conducts g size t) {r : PollResult Unit} (told : .shutdown r ∈ t.b.calls) :
    accepted t.b.calls = parseFrames paddingFrames (returned t.a.stream.inner.calls) ∧ t.aToB.readDone = true := by
  obtain ⟨ended, drained, -⟩ := h.up.of_own.told _ told rfl
  exact ⟨h.upload_drained (DirectionalBuffer.held_eq_nil (Nat.le_of_eq (Eq.symm drained))), ended⟩

/-- Once the buffer and the padding layer are empty, all that the remote end gave is on the client's wire. -/
theorem download_drained (h : Conducts g size t) (unrefused : Unrefused t.a.calls) (empty : t.bToA.held = [])
    (cleared : t.a.stream.writePending = none) :
    parseFrames paddingFrames (accepted t.a.stream.inner.calls) = returned t.b.calls := by
  rw [← h.download_exact, empty, List.append_nil, ← (h.client.conveys unrefused).parse, onWire_none cleared]

/-- The client is told only then, too. -/
theorem download_told (h : Conducts g size t) {r : PollResult Unit} (told : .shutdown r ∈ t.a.calls)
    (cleared : t.a.stream.writePending = none) :
    parseFrames paddingFrames (accepted t.a.stream.inner.calls) = returned t.b.calls ∧ t.bToA.readDone = true := by
  obtain ⟨ended, drained, -⟩ := h.down.of_own.told _ told rfl
  refine ⟨?_, ended⟩
  rcases h.state with unrefused | ⟨-, calls, buf, failure, last⟩
  · exact h.download_drained unrefused (DirectionalBuffer.held_eq_nil (Nat.le_of_eq (Eq.symm drained))) cleared
  · -- no write follows a shutdown, so the last call cannot be the refused one
    have order := h.down.of_own.told_last
    change t.a.calls.Pairwise _ at order
    rw [last] at order told
    rcases List.mem_append.mp told with before | itself
    · cases (List.pairwise_append.mp order).2.2 _ before _ (List.mem_singleton_self _) rfl
    · cases List.mem_singleton.mp itself

/-- A direction that is done has handed over everything. -/
theorem download_done (h : Conducts g size t) (unrefused : Unrefused t.a.calls) (done : t.bToA.isDone = true)
    (cleared : t.a.stream.writePending = none) :
    parseFrames paddingFrames (accepted t.a.stream.inner.calls) = returned t.b.calls ∧ t.bToA.readDone = true := by
  obtain ⟨ended, drained⟩ := h.down.of_own.done done
  exact ⟨h.download_drained unrefused (DirectionalBuffer.held_eq_nil (Nat.le_of_eq (Eq.symm drained))) cleared, ended⟩

theorem upload_done (h : Conducts g size t) (done : t.aToB.isDone = true) :
    t.aToB.held = [] ∧ t.aToB.readDone = true := by
  obtain ⟨ended, drained⟩ := h.up.of_own.done done
  exact ⟨DirectionalBuffer.held_eq_nil (Nat.le_of_eq (Eq.symm drained)), ended⟩

theorem upload_ended (h : Conducts g size t) (positive : 0 < size) (ended : t.aToB.readDone = true) :
    ∃ room, 0 < room ∧
      (.read room (.ready (.ok [])) ∈ t.a.calls ∨ ∃ e, .read room (.ready (.error e)) ∈ t.a.calls) := by
  obtain ⟨room, asked, heard⟩ := h.upHeard.ended positive ended
  refine ⟨room, asked, ?_⟩
  rcases heard with eof | ⟨e, failed⟩
  · exact .inl (List.mem_of_mem_filter eof)
  · exact .inr ⟨e, List.mem_of_mem_filter failed⟩

theorem download_ended (h : Conducts g size t) (positive : 0 < size) (ended : t.bToA.readDone = true) :
    ∃ room, 0 < room ∧
      (.read room (.ready (.ok [])) ∈ t.b.calls ∨ ∃ e, .read room (.ready (.error e)) ∈ t.b.calls) := by
  obtain ⟨room, asked, heard⟩ := h.downHeard.ended positive ended
  refine ⟨room, asked, ?_⟩
  rcases heard with eof | ⟨e, failed⟩
  · exact .inl (List.mem_of_mem_filter eof)
  · exact .inr ⟨e, List.mem_of_mem_filter failed⟩

/-- The stream below may change between two polls. -/
theorem onto (h : Conducts g size t) (x : S) : Conducts g size { t with a := Padded.onto t.a x } where
  client := h.client.onto x
  state := by
    rcases h.state with unrefused | ⟨front, last⟩
    · exact .inl unrefused
    · exact .inr ⟨front, last⟩
  up := h.up
  down := h.down
  upHeard := h.upHeard
  downHeard := h.downHeard

variable [AsyncRead S] [AsyncWrite S] [AsyncRead B] [AsyncWrite B]

/-- One turn of the `select!`: a refused write ends it with an error. -/
theorem select (h : Conducts g size s) (going : Unrefused s.a.calls) {turn : Turn} {r : Selected}
    (selected : s.select turn = (t, r)) :
    Conducts g size t ∧ (Unrefused t.a.calls ∨ ∃ e, r = .finished (.error e)) := by
  have advances : Faithful t.upload.own ∧ Faithful t.download.own ∧ Heard size t.upload.own ∧
      Heard size t.download.own := by
    rcases Relay.select_cases selected with ⟨-, rfl, -⟩ | ⟨polled, same, -⟩
    · exact ⟨h.up, h.down, h.upHeard, h.downHeard⟩
    · have advances := Relay.poll_advances same
      exact ⟨h.up.ends advances.upload, h.down.ends advances.download, h.upHeard.ends advances.upload,
        h.downHeard.ends advances.download⟩
  obtain ⟨up, down, upHeard, downHeard⟩ := advances
  rcases Relay.select_sane (accepting_read g) (accepting_guarded g) (s := s) ⟨h.client, going⟩ selected with
    ⟨mirrors, unrefused⟩ | ⟨⟨mirrors, refusal⟩, failed⟩
  · exact ⟨⟨mirrors, .inl unrefused, up, down, upHeard, downHeard⟩, .inl unrefused⟩
  · exact ⟨⟨mirrors, .inr refusal, up, down, upHeard, downHeard⟩, .inr failed⟩

theorem selectRun (h : Conducts g size s) (going : Unrefused s.a.calls) {turns : List Turn} {r : Selected}
    (ran : s.selectRun turns = (t, r)) :
    Conducts g size t ∧ (Unrefused t.a.calls ∨ ∃ e, r = .finished (.error e)) := by
  induction turns generalizing s with
  | nil =>
      cases ran
      exact ⟨h, .inl going⟩
  | cons turn turns ih =>
      rw [Relay.selectRun] at ran
      split at ran
      · rename_i next waits
        obtain ⟨conducts, unrefused | ⟨e, failed⟩⟩ := h.select going waits
        · exact ih conducts unrefused ran
        · cases failed
      · rename_i last answer _ selected
        cases ran
        exact h.select going selected

end Conducts

end ServerNaive
