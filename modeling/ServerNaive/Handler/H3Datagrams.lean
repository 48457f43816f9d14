import ServerNaive.Handler.H3Tunnel
import ServerNaive.Transport.PaddingSource
import ServerNaive.Uot.Input
import ServerNaive.Uot.Traffic

/-! The datagrams of an H3 tunnel to one of the magic names: from the frames of the request, through the
padding layer, to the socket, and from the socket back to the frames of the response. -/
namespace ServerNaive
open AsyncIo PaddingCodec NaivePaddedTransport

namespace Uot

/-- The datagrams handed to the socket are those that the payload of the request's frames asks for, in
order, and the input side gets to the last of them. -/
theorem h3_datagrams_exact {C S : Type} [Receiver C InboundFrame] (udp : UdpBehaviour) (version : UotVersion)
    (cache : DnsCache) (recv : C) (sender : S) (g : Rng) (fuel : Nat) :
    let client : H3Stream (H3StreamReader C) S := ⟨.new recv, ⟨⟨sender, []⟩⟩⟩
    let payload := parseFrames paddingFrames (bodyBytes (Receiver.queue recv))
    (inputSide udp version cache (PaddedReader.new client g) fuel).Holds (fun _ _ => False)
      (fun _ t => t.sent = egress udp version cache payload)
      (fun t => t.sent <+: egress udp version cache payload ∧
        fuel ≤ 2 * payload.length + readWaits t.reader.calls + 1) := by
  intro client payload
  have start : ByteSource.rest (PaddedReader.new client g) = payload := PaddedReader.rest_new client g
  have sends := handleUotInput_holds udp version fuel (Traced.start (PaddedReader.new client g)) cache
  have earns := earns_handleUotInput udp version fuel (Session.start (Traced.start (PaddedReader.new client g)) cache)
  rw [inputSide]
  cases ran : handleUotInput udp version fuel (Session.start (Traced.start (PaddedReader.new client g)) cache) with
  | done value t left =>
      rw [ran] at sends
      exact sends
  | failed e t left =>
      rw [ran] at sends
      rw [← start]
      exact sends
  | cut t =>
      rw [ran] at sends earns
      refine ⟨start ▸ sends, ?_⟩
      change (fuel : Int) + (0 - 2 * ((ByteSource.rest (PaddedReader.new client g)).length : Int)) + min (-1) 0 ≤
        readWaits t.reader.calls - 2 * ((ByteSource.rest t.reader).length : Int) at earns
      rw [start] at earns
      omega

/-- The output half of a session on the stream of a fresh H3 tunnel. -/
def h3Output {R S : Type} [AsyncRead R] [OutboundFrameSender S] (isConnect : Bool) (events : List OutputEvent)
    (closing fuel : Nat) (request : R) (sender : S) (g : Rng) : Output (Padded (H3Stream R S)) :=
  (handleUotOutput isConnect events closing fuel ⟨freshEncoder ⟨request, ⟨⟨sender, []⟩⟩⟩ g, [], false⟩).state

/-- The frames of the response carry a front of the packets of the datagrams that came in, and once the
end is out they carry every packet that was counted. -/
theorem h3_replies_faithful {R S : Type} [AsyncRead R] [OutboundFrameSender S] (isConnect : Bool)
    (events : List OutputEvent) (closing fuel : Nat) (request : R) (sender : S) (g : Rng) :
    let last := h3Output isConnect events closing fuel request sender g
    let response := framesOut last.writer
    let carried := parseFrames paddingFrames (responseBytes response)
    Unrefused last.writer.calls →
      carried <+: packetsBytes isConnect (receivedOf events) ∧
      (finFrame ∈ response → Ended response ∧ ∃ sent rest, receivedOf events = sent ++ rest ∧
        last.downloads = sent.map (fun p => p.data.length) ∧ packetsBytes isConnect sent <+: carried) := by
  intro last response carried unrefused
  let client : H3Stream R S := ⟨request, ⟨⟨sender, []⟩⟩⟩
  have replies : Replies isConnect (receivedOf events) ⟨freshEncoder client g, [], false⟩ last :=
    handleUotOutput_replies isConnect events closing fuel ⟨freshEncoder client g, [], false⟩
  have boxed : Boxed last.writer.stream.inner := by
    rcases handleUotOutput_shuts (keptByCalls_inner (boxed_kept (R := R) (S := S))).traced.phased isConnect events
      closing fuel (s := ⟨freshEncoder client g, [], false⟩) rfl with kept | kept <;> exact kept
  have mirrors : Mirrors g last.writer := by
    rcases handleUotOutput_shuts (mirrors_kept g).phased isConnect events closing fuel
      (s := ⟨freshEncoder client g, [], false⟩) (mirrors_new client g) with kept | kept <;> exact kept
  have conveys := (mirrors.conveys unrefused).parse
  have same : responseBytes response = accepted last.writer.stream.inner.calls := boxed
  have front : carried <+: accepted last.writer.calls := by
    change parseFrames paddingFrames (responseBytes response) <+: _
    rw [same, ← conveys]
    exact parseFrames_mono _ (List.prefix_append _ _)
  refine ⟨front.trans (replies.front rfl), fun fin => ?_⟩
  obtain ⟨ended, clear⟩ : Ended response ∧ last.writer.stream.writePending = none := by
    rcases handleUotOutput_shuts (answer_phased (R := R) (S := S)) isConnect events closing fuel
      (s := ⟨freshEncoder client g, [], false⟩) bodies_nil with still | still | ended
    · exact absurd fin (Bodies.fin_notMem still)
    · exact absurd fin (Bodies.fin_notMem still)
    · exact ended
  have all : carried = accepted last.writer.calls := by
    change parseFrames paddingFrames (responseBytes response) = _
    rw [same, ← conveys, onWire_none clear]
  obtain ⟨sent, rest, front, whole, -, counted, taken⟩ := replies
  refine ⟨ended, sent, rest, whole, counted, ?_⟩
  rw [all]
  exact taken ▸ List.prefix_append _ _

/-- Two answers and then a kick, over a channel that is full at first. -/
def twoAnswers : List OutputEvent :=
  [.received ⟨⟨.v4 ⟨9, 9, 9, 9⟩, 53⟩, [7, 8], by decide⟩, .received ⟨⟨.v4 ⟨8, 8, 8, 8⟩, 53⟩, [9], by decide⟩,
    .cancelled]

def answeredSession : Output (Padded (H3Stream Scripted ScriptedSender)) :=
  h3Output false twoAnswers 2 40 ⟨[], []⟩ ⟨[.pending]⟩ smallPads

theorem h3_replies_faithful_twoAnswers :
    finFrame ∈ framesOut answeredSession.writer ∧ answeredSession.downloads = [2, 1] ∧
      ∃ sent rest, receivedOf twoAnswers = sent ++ rest ∧
        answeredSession.downloads = sent.map (fun p => p.data.length) ∧
        packetsBytes false sent <+: parseFrames paddingFrames (responseBytes (framesOut answeredSession.writer)) := by
  have unrefused : Unrefused answeredSession.writer.calls := by decide +kernel
  have fin : finFrame ∈ framesOut answeredSession.writer := by decide +kernel
  have counted : answeredSession.downloads = [2, 1] := by decide +kernel
  unfold answeredSession at unrefused fin counted ⊢
  have faithful := h3_replies_faithful false twoAnswers 2 40 (Scripted.mk [] []) (ScriptedSender.mk [.pending])
    smallPads unrefused
  exact ⟨fin, counted, (faithful.2 fin).2⟩

end Uot

end ServerNaive
