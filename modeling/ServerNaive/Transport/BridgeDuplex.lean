import ServerNaive.Async.DuplexPipe
import ServerNaive.Transport.BridgeData

/-! The bridge with a tunnel on the other end of its pipe. Every call of the tunnel on its end is an event
of the bridge or changes nothing, and the bytes of all parties are accounted for at every event. -/
namespace ServerNaive
open AsyncIo

namespace BridgeEvent

/-- What the client sends. -/
def sends : BridgeEvent Bytes → Bytes
  | .clientSends chunk => chunk
  | _ => []

/-- What the tunnel takes from the upload half. -/
def takes (b : Bridge Bytes) : BridgeEvent Bytes → Bytes
  | .tunnelReads n => b.upload.data.take n
  | _ => []

/-- What the tunnel puts into the download half. -/
def puts : BridgeEvent Bytes → Bytes
  | .tunnelWrites chunk => chunk
  | _ => []

end BridgeEvent

namespace Bridge

/-- What the bridge is writing into the upload half. -/
def upPart (b : Bridge Bytes) : Bytes :=
  match b.phase with
  | .writingUp rest => rest
  | _ => []

/-- What the bridge is giving to the client. -/
def downPart (b : Bridge Bytes) : Bytes :=
  match b.phase with
  | .writingDown rest => rest
  | _ => []

/-- Where the bytes are that the client has sent, `taken` of which the tunnel has taken. A client that is
lost loses what the bridge has not read yet, and so does a tunnel that is over. -/
structure Uploaded (sent taken : Bytes) (b : Bridge Bytes) : Prop where
  upload : taken ++ b.upload.data = b.forwarded
  front : b.forwarded ++ b.upPart <+: sent
  whole : b.lost = false → b.upEof = false ∨ b.tunnelOver = false →
    b.forwarded ++ (b.upPart ++ b.inbox.flatten) = sent

/-- Where the bytes are that the tunnel has put in. The end is marked only behind all of them. -/
structure Downloaded (put : Bytes) (b : Bridge Bytes) : Prop where
  given : b.given ++ b.downPart <+: put
  offered : b.downEof = false ∨ 0 < b.endMarks → b.given ++ (b.downPart ++ b.download.data) = put
  marked : 0 < b.endMarks → b.downEof = true ∧ b.download.closed = true ∧ b.download.data = []
  unmarked : b.downEof = true → 0 < b.endMarks ∨ b.lost = true
  writing : ∀ rest, b.phase = .writingDown rest → b.downEof = false

section Parts

variable {sent taken put : Bytes} {b c : Bridge Bytes}

theorem upPart_of (phase : b.phase = .selecting) : b.upPart = [] := by rw [upPart, phase]

theorem downPart_of (phase : b.phase = .selecting) : b.downPart = [] := by rw [downPart, phase]

theorem Uploaded.same (h : Uploaded sent taken b) (data : c.upload.data = b.upload.data)
    (forwarded : c.forwarded = b.forwarded) (part : c.upPart = b.upPart) (inbox : c.inbox = b.inbox)
    (lost : c.lost = false → b.lost = false)
    (opened : c.upEof = false ∨ c.tunnelOver = false → b.upEof = false ∨ b.tunnelOver = false) :
    Uploaded sent taken c := by
  refine ⟨?_, ?_, ?_⟩
  · rw [data, forwarded]
    exact h.upload
  · rw [forwarded, part]
    exact h.front
  · intro connected still
    rw [forwarded, part, inbox]
    exact h.whole (lost connected) (opened still)

theorem Downloaded.same (h : Downloaded put b) (given : c.given = b.given) (part : c.downPart = b.downPart)
    (data : c.download.data = b.download.data) (down : c.downEof = b.downEof) (marks : c.endMarks = b.endMarks)
    (closed : b.download.closed = true → c.download.closed = true) (lost : b.lost = true → c.lost = true)
    (writing : ∀ rest, c.phase = .writingDown rest → b.phase = .writingDown rest) : Downloaded put c := by
  constructor
  · rw [given, part]
    exact h.given
  · intro ended
    rw [down, marks] at ended
    rw [given, part, data]
    exact h.offered ended
  · intro mark
    rw [marks] at mark
    obtain ⟨ended, shut, empty⟩ := h.marked mark
    exact ⟨down.trans ended, closed shut, data.trans empty⟩
  · intro ended
    rw [down] at ended
    rw [marks]
    exact (h.unmarked ended).imp id lost
  · intro rest phase
    exact down.trans (h.writing rest (writing rest phase))

theorem Downloaded.endMarks_zero (h : Downloaded put b) (down : b.downEof = false) : ¬ 0 < b.endMarks := by
  intro mark
  cases down.symm.trans (h.marked mark).1

theorem Uploaded.advance {cfg : BridgeConfig} (valid : b.Valid cfg) (h : Uploaded sent taken b)
    (moves : Moves cfg.capacity b c) : Uploaded sent taken c := by
  cases moves with
  | leave phase up down => exact h.same rfl rfl (upPart_of phase).symm rfl id id
  | ended phase up why => exact h.same rfl rfl rfl rfl id fun _ => .inl up
  | take chunk inbox phase up lost arrived =>
      have whole := h.whole lost (.inl up)
      rw [upPart_of phase, arrived, List.flatten_cons, List.nil_append] at whole
      refine ⟨h.upload, ?_, fun _ _ => whole⟩
      rw [← whole, ← List.append_assoc]
      exact List.prefix_append _ _
  | fetch phase idle down data => exact h.same rfl rfl (upPart_of phase).symm rfl id id
  | finish phase idle down data closed => exact h.same rfl rfl rfl rfl id id
  | upDone rest phase done =>
      obtain rfl : rest = [] := List.eq_nil_of_length_eq_zero done
      exact h.same rfl rfl (by rw [upPart, upPart, phase]) rfl id id
  | upBroken rest phase more closed =>
      have dropped : b.tunnelOver = true := by
        rcases valid.closed_upEof closed with ended | dropped
        · cases (valid.writing_up rest phase).symm.trans ended
        · exact dropped
      refine ⟨h.upload, ?_, ?_⟩
      · exact (List.append_nil b.forwarded).symm ▸ (List.prefix_append _ _).trans h.front
      · rintro _ (opened | opened)
        · cases opened
        · cases dropped.symm.trans opened
  | up rest phase more opened room =>
      have part : b.upPart = rest := by rw [upPart, phase]
      have cut : rest.take (b.upload.room cfg.capacity) ++ rest.drop (b.upload.room cfg.capacity) = rest :=
        List.take_append_drop _ rest
      refine ⟨?_, ?_, ?_⟩
      · change taken ++ (b.upload.data ++ rest.take _) = b.forwarded ++ rest.take _
        rw [← h.upload, List.append_assoc]
      · change (b.forwarded ++ rest.take _) ++ rest.drop _ <+: sent
        rw [List.append_assoc, cut, ← part]
        exact h.front
      · intro lost _
        change (b.forwarded ++ rest.take _) ++ (rest.drop _ ++ b.inbox.flatten) = sent
        rw [List.append_assoc, ← List.append_assoc (rest.take _), cut, ← part]
        exact h.whole lost (.inl (valid.writing_up rest phase))
  | downDone rest phase done => exact h.same rfl rfl (by rw [upPart, upPart, phase]) rfl id id
  | downBroken rest phase more lost => exact h.same rfl rfl (by rw [upPart, upPart, phase]) rfl id id
  | down rest phase more lost window => exact h.same rfl rfl (by rw [upPart, upPart, phase]) rfl id id

theorem Downloaded.advance {capacity : Nat} (h : Downloaded put b) (moves : Moves capacity b c) : Downloaded put c := by
  have elsewhere {phase : BridgePhase Bytes} (other : ∀ rest, phase ≠ .writingDown rest) (rest : Bytes) :
      phase = .writingDown rest → b.phase = .writingDown rest := fun writing => absurd writing (other rest)
  cases moves with
  | leave phase up down =>
      exact h.same rfl (downPart_of phase).symm rfl rfl rfl (fun _ => rfl) id (elsewhere fun _ left => by cases left)
  | ended phase up why => exact h.same rfl rfl rfl rfl rfl id id fun _ writing => writing
  | take chunk inbox phase up lost arrived =>
      exact h.same rfl (downPart_of phase).symm rfl rfl rfl id id (elsewhere fun _ other => by cases other)
  | fetch phase idle down data =>
      have offered := h.offered (.inl down)
      rw [downPart_of phase, List.nil_append] at offered
      have cut : b.download.data.take bridgeBuf ++ b.download.data.drop bridgeBuf = b.download.data :=
        List.take_append_drop bridgeBuf b.download.data
      have none_marked := h.endMarks_zero down
      refine ⟨?_, ?_, fun mark => absurd mark none_marked, h.unmarked, fun _ _ => down⟩
      · change b.given ++ b.download.data.take bridgeBuf <+: put
        rw [← offered]
        exact (List.prefix_append_right_inj _).mpr (List.take_prefix _ _)
      · intro _
        change b.given ++ (b.download.data.take bridgeBuf ++ b.download.data.drop bridgeBuf) = put
        rw [cut]
        exact offered
  | finish phase idle down data closed =>
      refine ⟨h.given, fun _ => h.offered (.inl down), ?_, fun _ => .inl (Nat.succ_pos _), ?_⟩
      · intro _
        exact ⟨rfl, closed, List.eq_nil_of_length_eq_zero data⟩
      · intro rest writing
        cases phase.symm.trans writing
  | upDone rest phase done =>
      exact h.same rfl (by rw [downPart, downPart, phase]) rfl rfl rfl id id (elsewhere fun _ other => by cases other)
  | upBroken rest phase more closed =>
      exact h.same rfl (by rw [downPart, downPart, phase]) rfl rfl rfl id id (elsewhere fun _ other => by cases other)
  | up rest phase more opened room =>
      exact h.same rfl (by rw [downPart, downPart, phase]) rfl rfl rfl id id (elsewhere fun _ other => by cases other)
  | downDone rest phase done =>
      obtain rfl : rest = [] := List.eq_nil_of_length_eq_zero done
      exact h.same rfl (by rw [downPart, downPart, phase]) rfl rfl rfl id id (elsewhere fun _ other => by cases other)
  | downBroken rest phase more lost =>
      have none_marked := h.endMarks_zero (h.writing rest phase)
      refine ⟨?_, ?_, fun mark => absurd mark none_marked, fun _ => .inr lost, fun _ writing => by cases writing⟩
      · exact (List.append_nil b.given).symm ▸ (List.prefix_append _ _).trans h.given
      · rintro (ended | mark)
        · cases ended
        · exact absurd mark none_marked
  | down rest phase more lost window =>
      have part : b.downPart = rest := by rw [downPart, phase]
      have cut : rest.take b.window ++ rest.drop b.window = rest := List.take_append_drop _ rest
      refine ⟨?_, ?_, h.marked, h.unmarked, fun _ _ => h.writing rest phase⟩
      · change (b.given ++ rest.take b.window) ++ rest.drop b.window <+: put
        rw [List.append_assoc, cut, ← part]
        exact h.given
      · intro ended
        change (b.given ++ rest.take b.window) ++ (rest.drop b.window ++ b.download.data) = put
        rw [List.append_assoc, ← List.append_assoc (rest.take _), cut, ← part]
        exact h.offered ended

end Parts

/-- A run of the bridge among parties that do what they like leads to `b`. -/
def Reached (cfg : BridgeConfig) (b : Bridge Bytes) : Prop :=
  ∃ schedule, follow (Bridge.step cfg) (.start cfg) schedule = some b

theorem Reached.step {cfg : BridgeConfig} {b c : Bridge Bytes} {e : BridgeEvent Bytes} (h : Reached cfg b)
    (stepped : b.step cfg e = some c) : Reached cfg c := by
  obtain ⟨schedule, ran⟩ := h
  refine ⟨schedule ++ [e], follow_append ran ?_⟩
  rw [follow, stepped]
  rfl

/-- The whole account. -/
structure Ledger (cfg : BridgeConfig) (sent taken put : Bytes) (b : Bridge Bytes) : Prop where
  reached : Reached cfg b
  up : Uploaded sent taken b
  down : Downloaded put b

namespace Ledger

variable {cfg : BridgeConfig} {sent taken put : Bytes} {b c : Bridge Bytes}

theorem valid (h : Ledger cfg sent taken put b) : b.Valid cfg := by
  obtain ⟨schedule, ran⟩ := h.reached
  exact run_valid ran

theorem start (cfg : BridgeConfig) : Ledger cfg [] [] [] (.start cfg) where
  reached := ⟨[], rfl⟩
  up := ⟨rfl, List.prefix_refl [], fun _ _ => rfl⟩
  down := ⟨List.prefix_refl [], fun _ => rfl, fun mark => absurd mark (Nat.lt_irrefl 0),
    (fun ended => by cases ended), fun _ writing => by cases writing⟩

/-- Every event keeps the account, with what it sends, takes and puts in. -/
theorem step {e : BridgeEvent Bytes} (h : Ledger cfg sent taken put b) (stepped : b.step cfg e = some c) :
    Ledger cfg (sent ++ e.sends) (taken ++ e.takes b) (put ++ e.puts) c := by
  have reached := h.reached.step stepped
  cases e with
  | bridge =>
      have moves := advance_moves stepped
      simp only [BridgeEvent.sends, BridgeEvent.takes, BridgeEvent.puts, List.append_nil]
      exact ⟨reached, h.up.advance h.valid moves, h.down.advance moves⟩
  | clientSends chunk =>
      rw [Bridge.step] at stepped
      split_ifs at stepped with ended
      cases stepped
      simp only [BridgeEvent.sends, BridgeEvent.takes, BridgeEvent.puts, List.append_nil]
      refine ⟨reached, ⟨h.up.upload, h.up.front.trans (List.prefix_append _ _), ?_⟩, ?_⟩
      · intro connected opened
        change b.forwarded ++ (b.upPart ++ (b.inbox ++ [chunk]).flatten) = sent ++ chunk
        rw [← h.up.whole connected opened, List.flatten_append, List.flatten_singleton]
        simp only [List.append_assoc]
      · exact h.down.same rfl rfl rfl rfl rfl id id fun _ writing => writing
  | clientEnds =>
      rw [Bridge.step] at stepped
      split_ifs at stepped with ended
      cases stepped
      simp only [BridgeEvent.sends, BridgeEvent.takes, BridgeEvent.puts, List.append_nil]
      exact ⟨reached, h.up.same rfl rfl rfl rfl id id, h.down.same rfl rfl rfl rfl rfl id id fun _ writing => writing⟩
  | clientLost =>
      cases stepped
      simp only [BridgeEvent.sends, BridgeEvent.takes, BridgeEvent.puts, List.append_nil]
      exact ⟨reached, ⟨h.up.upload, h.up.front, fun connected => by cases connected⟩,
        h.down.same rfl rfl rfl rfl rfl id (fun _ => rfl) fun _ writing => writing⟩
  | clientReads n =>
      rw [Bridge.step] at stepped
      split_ifs at stepped with unread
      cases stepped
      simp only [BridgeEvent.sends, BridgeEvent.takes, BridgeEvent.puts, List.append_nil]
      exact ⟨reached, h.up.same rfl rfl rfl rfl id id, h.down.same rfl rfl rfl rfl rfl id id fun _ writing => writing⟩
  | tunnelReads n =>
      rw [Bridge.step] at stepped
      split_ifs at stepped with there
      cases stepped
      simp only [BridgeEvent.sends, BridgeEvent.takes, BridgeEvent.puts, List.append_nil]
      refine ⟨reached, ⟨?_, h.up.front, h.up.whole⟩, ?_⟩
      · change (taken ++ b.upload.data.take n) ++ b.upload.data.drop n = b.forwarded
        rw [List.append_assoc, List.take_append_drop]
        exact h.up.upload
      · exact h.down.same rfl rfl rfl rfl rfl id id fun _ writing => writing
  | tunnelWrites chunk =>
      rw [Bridge.step] at stepped
      split_ifs at stepped with fits
      cases stepped
      have none_marked : ¬ 0 < b.endMarks := by
        intro mark
        cases fits.1.symm.trans (h.down.marked mark).2.1
      simp only [BridgeEvent.sends, BridgeEvent.takes, BridgeEvent.puts, List.append_nil]
      refine ⟨reached, h.up.same rfl rfl rfl rfl id id, h.down.given.trans (List.prefix_append _ _), ?_,
        fun mark => absurd mark none_marked, h.down.unmarked, h.down.writing⟩
      intro ended
      change b.given ++ (b.downPart ++ (b.download.data ++ chunk)) = put ++ chunk
      rw [← h.down.offered ended]
      simp only [List.append_assoc]
  | tunnelShuts =>
      rw [Bridge.step] at stepped
      split_ifs at stepped with dropped
      cases stepped
      simp only [BridgeEvent.sends, BridgeEvent.takes, BridgeEvent.puts, List.append_nil]
      exact ⟨reached, h.up.same rfl rfl rfl rfl id id,
        h.down.same rfl rfl rfl rfl rfl (fun _ => rfl) id fun _ writing => writing⟩
  | tunnelEnds =>
      rw [Bridge.step] at stepped
      split_ifs at stepped with dropped
      cases stepped
      simp only [BridgeEvent.sends, BridgeEvent.takes, BridgeEvent.puts, List.append_nil]
      refine ⟨reached, h.up.same rfl rfl rfl rfl id ?_,
        h.down.same rfl rfl rfl rfl rfl (fun _ => rfl) id fun _ writing => writing⟩
      rintro (opened | opened)
      · exact .inl opened
      · cases opened

/-- A client that is not lost, and whose end the tunnel has found, has ended, and the tunnel has taken
all that it sent. -/
theorem taken_all (h : Ledger cfg sent taken put b) (connected : b.lost = false) (runs : b.tunnelOver = false)
    (closed : b.upload.closed = true) (empty : b.upload.data = []) : taken = sent ∧ b.fin = true := by
  have ended : b.upEof = true := by
    rcases h.valid.closed_upEof closed with ended | dropped
    · exact ended
    · cases runs.symm.trans dropped
  obtain ⟨fin, drained⟩ : b.fin = true ∧ b.inbox = [] := by
    rcases h.valid.upEof_inbox ended with dropped | lost | fin
    · cases runs.symm.trans dropped
    · cases connected.symm.trans lost
    · exact fin
  have idle : b.upPart = [] := by
    unfold upPart
    split
    · rename_i rest writing
      cases (h.valid.writing_up rest writing).symm.trans ended
    · rfl
  have whole := h.up.whole connected (.inr runs)
  have upload := h.up.upload
  rw [idle, drained, List.flatten_nil, List.append_nil, List.append_nil] at whole
  rw [empty, List.append_nil] at upload
  exact ⟨upload.trans whole, fin⟩

/-- Where the end is marked, the client has been given all that the tunnel has put in. -/
theorem given_all (h : Ledger cfg sent taken put b) (mark : 0 < b.endMarks) : b.given = put := by
  obtain ⟨ended, -, empty⟩ := h.down.marked mark
  have idle : b.downPart = [] := by
    unfold downPart
    split
    · rename_i rest writing
      cases (h.down.writing rest writing).symm.trans ended
    · rfl
  have offered := h.down.offered (.inr mark)
  rw [idle, empty, List.append_nil, List.append_nil] at offered
  exact offered

end Ledger

/-! The tunnel's end of the pipe. -/

/-- The bridge with its pipe as the other end has left it. -/
def withPipes (b : Bridge Bytes) (x : DuplexEnd) : Bridge Bytes := { b with upload := x.incoming, download := x.outgoing }

section Calls

variable {cfg : BridgeConfig} {b : Bridge Bytes}

/-- A call on the tunnel's end is an event of the bridge, or it moves nothing. -/
def AtMostOne (cfg : BridgeConfig) (b : Bridge Bytes) (x next : Traced DuplexEnd) : Prop :=
  next.stream.capacity = x.stream.capacity ∧
    (b.withPipes next.stream = b.withPipes x.stream ∧ returned next.calls = returned x.calls ∧
        accepted next.calls = accepted x.calls ∨
      ∃ e : BridgeEvent Bytes, (b.withPipes x.stream).step cfg e = some (b.withPipes next.stream) ∧ e.sends = [] ∧
        returned next.calls = returned x.calls ++ e.takes (b.withPipes x.stream) ∧
        accepted next.calls = accepted x.calls ++ e.puts)

theorem read_min (p : Pipe Bytes) (n : Nat) : p.read (min n p.data.length) = p.read n := by
  rcases Nat.le_total n p.data.length with short | long
  · rw [Nat.min_eq_left short]
  · have rest : p.data.drop p.data.length = p.data.drop n := by
      rw [List.drop_length, List.drop_of_length_le long]
    rw [Nat.min_eq_right long]
    exact congrArg (fun data => ({ p with data } : Pipe Bytes)) rest

theorem step_tunnelReads {n : Nat} (runs : b.tunnelOver = false) (positive : 0 < n) (there : n ≤ b.upload.data.length) :
    b.step cfg (.tunnelReads n) = some { b with upload := b.upload.read n } :=
  if_pos ⟨runs, positive, there⟩

theorem step_tunnelWrites {chunk : Bytes} (opened : b.download.closed = false) (positive : 0 < chunk.length)
    (fits : chunk.length ≤ b.download.room cfg.capacity) :
    b.step cfg (.tunnelWrites chunk) = some { b with download := b.download.write chunk } :=
  if_pos ⟨opened, positive, fits⟩

theorem pollRead_event (x : Traced DuplexEnd) (cap : Nat) (runs : b.tunnelOver = false) :
    AtMostOne cfg b x (AsyncRead.pollRead x cap).1 := by
  cases polled : DuplexEnd.pollRead x.stream cap with
  | mk y r =>
      have next : (AsyncRead.pollRead x cap).1 = ⟨y, x.calls ++ [.read cap r]⟩ := by
        simp only [AsyncRead.pollRead, polled]
      have took : accepted (x.calls ++ [.read cap r]) = accepted x.calls := by
        rw [accepted_append, accepted_singleton]
        exact List.append_nil _
      have gave : returned (x.calls ++ [.read cap r]) = returned x.calls ++ handed r := by
        rw [returned_append, returned_singleton, Call.given_read]
      rw [next, AtMostOne, took, gave]
      unfold DuplexEnd.pollRead at polled
      split_ifs at polled with yields some_there closed
      · cases polled
        exact ⟨rfl, .inl ⟨rfl, List.append_nil _, rfl⟩⟩
      · cases polled
        refine ⟨rfl, ?_⟩
        rcases Nat.eq_zero_or_pos cap with rfl | room
        · exact .inl ⟨rfl, List.append_nil _, rfl⟩
        · -- no more than there is
          have there : 0 < x.stream.incoming.data.length := List.length_pos_iff.mpr some_there
          refine .inr ⟨.tunnelReads (min cap x.stream.incoming.data.length), ?_, rfl, ?_, (List.append_nil _).symm⟩
          · refine (step_tunnelReads (b := b.withPipes x.stream) runs (Nat.lt_min.mpr ⟨room, there⟩)
              (Nat.min_le_right _ _)).trans ?_
            exact congrArg (fun upload => some { b.withPipes x.stream with upload }) (read_min x.stream.incoming cap)
          · exact congrArg (returned x.calls ++ ·) List.take_eq_take_min
      · cases polled
        exact ⟨rfl, .inl ⟨rfl, List.append_nil _, rfl⟩⟩
      · cases polled
        exact ⟨rfl, .inl ⟨rfl, List.append_nil _, rfl⟩⟩

theorem pollWrite_event (x : Traced DuplexEnd) (buf : Bytes) (capacity : x.stream.capacity = cfg.capacity) :
    AtMostOne cfg b x (AsyncWrite.pollWrite x buf).1 := by
  cases polled : DuplexEnd.pollWrite x.stream buf with
  | mk y r =>
      have next : (AsyncWrite.pollWrite x buf).1 = ⟨y, x.calls ++ [.write buf r]⟩ := by
        simp only [AsyncWrite.pollWrite, polled]
      have took : accepted (x.calls ++ [.write buf r]) = accepted x.calls ++ (Call.write buf r).taken := by
        rw [accepted_append, accepted_singleton]
      have gave : returned (x.calls ++ [.write buf r]) = returned x.calls := by
        rw [returned_append, returned_singleton]
        exact List.append_nil _
      rw [next, AtMostOne, took, gave]
      unfold DuplexEnd.pollWrite at polled
      split_ifs at polled with yields closed full
      · cases polled
        exact ⟨rfl, .inl ⟨rfl, rfl, List.append_nil _⟩⟩
      · cases polled
        exact ⟨rfl, .inl ⟨rfl, rfl, List.append_nil _⟩⟩
      · cases polled
        exact ⟨rfl, .inl ⟨rfl, rfl, List.append_nil _⟩⟩
      · cases polled
        refine ⟨rfl, ?_⟩
        have part : buf.take (min buf.length (x.stream.outgoing.room x.stream.capacity)) =
            buf.take (x.stream.outgoing.room x.stream.capacity) := by
          rw [Nat.min_comm]
          exact List.take_eq_take_min.symm
        by_cases nothing : buf = []
        · subst nothing
          refine .inl ⟨?_, rfl, ?_⟩
          · have same : x.stream.outgoing.write ([].take (x.stream.outgoing.room x.stream.capacity)) =
                x.stream.outgoing := by
              rw [List.take_nil, Pipe.write]
              exact congrArg (Pipe.mk · _) (List.append_nil _)
            exact congrArg (fun download => { b.withPipes x.stream with download }) same
          · rw [Call.taken, List.take_nil, List.append_nil]
        · refine .inr ⟨.tunnelWrites (buf.take (x.stream.outgoing.room x.stream.capacity)), ?_, rfl,
            (List.append_nil _).symm, congrArg (accepted x.calls ++ ·) part⟩
          have some_left : 0 < (buf.take (x.stream.outgoing.room x.stream.capacity)).length := by
            rw [List.length_take]
            exact Nat.lt_min.mpr ⟨Nat.pos_of_ne_zero full, List.length_pos_iff.mpr nothing⟩
          refine step_tunnelWrites (b := b.withPipes x.stream) (eq_false_of_ne_true closed) some_left ?_
          rw [← capacity]
          exact List.length_take_le _ _

theorem pollFlush_event (x : Traced DuplexEnd) : AtMostOne cfg b x (AsyncWrite.pollFlush x).1 := by
  refine ⟨rfl, .inl ⟨rfl, ?_, ?_⟩⟩
  · rw [Traced.calls_pollFlush Prod.mk.eta.symm, returned_append, returned_singleton]
    exact List.append_nil _
  · exact Traced.accepted_pollFlush Prod.mk.eta.symm

theorem pollShutdown_event (x : Traced DuplexEnd) (runs : b.tunnelOver = false) :
    AtMostOne cfg b x (AsyncWrite.pollShutdown x).1 := by
  refine ⟨rfl, .inr ⟨.tunnelShuts, ?_, rfl, ?_, ?_⟩⟩
  · have unended : ¬ (b.withPipes x.stream).tunnelOver = true := by
      change ¬ b.tunnelOver = true
      rw [runs]
      exact Bool.false_ne_true
    rw [Bridge.step, if_neg unended]
    rfl
  · rw [Traced.calls_pollShutdown Prod.mk.eta.symm, returned_append, returned_singleton]
    rfl
  · rw [Traced.accepted_pollShutdown Prod.mk.eta.symm]
    exact (List.append_nil _).symm

/-- The bridge's account with the record of the tunnel's end. -/
structure Hosts (cfg : BridgeConfig) (b : Bridge Bytes) (sent : Bytes) (x : Traced DuplexEnd) : Prop where
  ledger : Ledger cfg sent (returned x.calls) (accepted x.calls) (b.withPipes x.stream)
  capacity : x.stream.capacity = cfg.capacity

theorem Hosts.event {sent : Bytes} {x next : Traced DuplexEnd} (h : Hosts cfg b sent x) (event : AtMostOne cfg b x next) :
    Hosts cfg b sent next := by
  obtain ⟨capacity, ⟨same, gave, took⟩ | ⟨e, stepped, unsent, gave, took⟩⟩ := event
  · refine ⟨?_, capacity.trans h.capacity⟩
    rw [same, gave, took]
    exact h.ledger
  · refine ⟨?_, capacity.trans h.capacity⟩
    have ledger := h.ledger.step stepped
    rw [unsent, List.append_nil, ← gave, ← took] at ledger
    exact ledger

/-- Whatever the tunnel calls on its end, the account holds. -/
theorem hosts_kept (runs : b.tunnelOver = false) (sent : Bytes) : KeptByCalls (Hosts cfg b sent) where
  read x cap h := h.event (pollRead_event x cap runs)
  write x buf h := h.event (pollWrite_event x buf h.capacity)
  flush x h := h.event (pollFlush_event x)
  shutdown x h := h.event (pollShutdown_event x runs)

end Calls

end Bridge

end ServerNaive
