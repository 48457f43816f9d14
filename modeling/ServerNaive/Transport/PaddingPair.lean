import ServerNaive.Async.DuplexPipe
import ServerNaive.Transport.PaddingDuplex

/-! Two transports at the ends of one in-memory stream, polled by two callers in any order. Each of them
encodes and decodes; the pipes between them are bounded and either end may close its own. -/
namespace ServerNaive
open AsyncIo PaddingCodec NaivePaddedTransport

abbrev PaddedEnd := Traced (NaivePaddedTransport (Traced DuplexEnd))

namespace PaddedEnd

def pipes (e : PaddedEnd) : DuplexEnd := e.stream.inner.stream

/-- The end finds the pipes as its peer left them. -/
def rejoin (e peer : PaddedEnd) : PaddedEnd :=
  ⟨{ e.stream with inner := ⟨e.pipes.rejoin peer.pipes.outgoing peer.pipes.incoming, e.stream.inner.calls⟩ }, e.calls⟩

end PaddedEnd

structure PaddedPair where
  left : PaddedEnd
  right : PaddedEnd

inductive Side where
  | left
  | right
  deriving DecidableEq

namespace PaddedPair

def fresh (left right : DuplexEnd) (g g' : Rng) : PaddedPair := ⟨freshEncoder left g, freshEncoder right g'⟩

def swap (p : PaddedPair) : PaddedPair := ⟨p.right, p.left⟩

/-- A call on the left end. -/
def stepLeft (p : PaddedPair) (op : StreamOp) : PaddedPair :=
  ⟨operate p.left [op], p.right.rejoin (operate p.left [op])⟩

def step (p : PaddedPair) : Side × StreamOp → PaddedPair
  | (.left, op) => p.stepLeft op
  | (.right, op) => (p.swap.stepLeft op).swap

def run (p : PaddedPair) (ops : List (Side × StreamOp)) : PaddedPair := ops.foldl step p

/-- The ends share their pipes, and what one of them has put in a pipe and the other has not taken out
is in it. -/
structure Linked (g g' : Rng) (p : PaddedPair) : Prop where
  left : Mirrors g p.left
  right : Mirrors g' p.right
  incoming : p.right.pipes.incoming = p.left.pipes.outgoing
  outgoing : p.right.pipes.outgoing = p.left.pipes.incoming
  toRight : accepted p.left.stream.inner.calls = returned p.right.stream.inner.calls ++ p.left.pipes.outgoing.data
  toLeft : accepted p.right.stream.inner.calls = returned p.left.stream.inner.calls ++ p.left.pipes.incoming.data

theorem Linked.swap {g g' : Rng} {p : PaddedPair} (h : Linked g g' p) : Linked g' g p.swap where
  left := h.right
  right := h.left
  incoming := h.outgoing.symm
  outgoing := h.incoming.symm
  toRight := by
    have flows := h.toLeft
    rw [← h.outgoing] at flows
    exact flows
  toLeft := by
    have flows := h.toRight
    rw [← h.incoming] at flows
    exact flows

/-- The pipes are no part of what an end mirrors. -/
theorem mirrors_rejoin {g : Rng} {e : PaddedEnd} (h : Mirrors g e) (peer : PaddedEnd) : Mirrors g (e.rejoin peer) where
  ok := h.ok.inner _
  parsed := h.parsed
  conveys clean := by
    obtain ⟨⟨wire, frames, rng⟩, fit⟩ := h.conveys clean
    exact ⟨⟨wire, frames, rng⟩, fit⟩

theorem Linked.stepLeft {g g' : Rng} {p : PaddedPair} (h : Linked g g' p) (op : StreamOp) :
    Linked g g' (p.stepLeft op) := by
  obtain ⟨⟨sent, took, filled⟩, got, gave, left⟩ :=
    (keptByCalls_inner (DuplexEnd.Flow.kept p.left.stream.inner)).traced.operate [op] (.refl p.left.stream.inner)
  refine ⟨(mirrors_kept g).operate [op] h.left, mirrors_rejoin h.right _, rfl, rfl, ?_, ?_⟩
  · change accepted (operate p.left [op]).stream.inner.calls =
      returned p.right.stream.inner.calls ++ (operate p.left [op]).pipes.outgoing.data
    rw [took, h.toRight, List.append_assoc]
    exact congrArg (returned p.right.stream.inner.calls ++ ·) filled.symm
  · change accepted p.right.stream.inner.calls =
      returned (operate p.left [op]).stream.inner.calls ++ (operate p.left [op]).pipes.incoming.data
    rw [gave, h.toLeft, List.append_assoc]
    exact congrArg (returned p.left.stream.inner.calls ++ ·) left

theorem Linked.step {g g' : Rng} {p : PaddedPair} (h : Linked g g' p) (move : Side × StreamOp) :
    Linked g g' (p.step move) := by
  obtain ⟨side, op⟩ := move
  cases side with
  | left => exact h.stepLeft op
  | right => exact (h.swap.stepLeft op).swap

theorem Linked.run {g g' : Rng} {p : PaddedPair} (h : Linked g g' p) (ops : List (Side × StreamOp)) :
    Linked g g' (p.run ops) := by
  induction ops generalizing p with
  | nil => exact h
  | cons move ops ih => exact ih (h.step move)

/-- The bytes between two ends: in the pipe, and waiting in the sender for room in it. -/
def onTheWay (sender : PaddedEnd) : Bytes := sender.pipes.outgoing.data ++ sender.stream.unsent

/-- What the receiver has handed out, and what it will make of the bytes on their way, is all that the
sender has accepted. -/
structure Arrives (sender receiver : PaddedEnd) : Prop where
  wire : parseFrames paddingFrames (returned receiver.stream.inner.calls ++ onTheWay sender) = accepted sender.calls
  whole : returned receiver.calls ++ carried receiver.stream (onTheWay sender) = accepted sender.calls
  front : returned receiver.calls <+: accepted sender.calls
  settled : sender.stream.writePending = none → sender.pipes.outgoing.data = [] →
    returned receiver.calls = accepted sender.calls

theorem Linked.arrives {g g' : Rng} {p : PaddedPair} (h : Linked g g' p) (clean : Unrefused p.left.calls) :
    Arrives p.left p.right := by
  have wire : parseFrames paddingFrames (returned p.right.stream.inner.calls ++ onTheWay p.left) =
      accepted p.left.calls := by
    rw [← (h.left.conveys clean).parse, onWire, h.toRight, List.append_assoc]
    rfl
  -- the decoder is in the middle of a frame perhaps, so it is its state that reads the rest of the wire
  have whole := (h.right.parsed (onTheWay p.left)).trans wire
  refine ⟨wire, whole, ⟨_, whole⟩, ?_⟩
  intro cleared empty
  rw [h.right.handed_out, ← wire, onTheWay, empty, unsent_none cleared, List.append_nil, List.append_nil]

theorem linked_fresh (capacity : Nat) (yields yields' : List Bool) (g g' : Rng) :
    Linked g g' (fresh (.new capacity yields) (.new capacity yields') g g') :=
  ⟨mirrors_new _ g, mirrors_new _ g', rfl, rfl, rfl, rfl⟩

/-- Two padded ends of one stream, used by two callers in any order with calls of any kind: neither
direction loses, repeats or reorders a byte, and neither disturbs the other. -/
theorem padded_pair_faithful (capacity : Nat) (yields yields' : List Bool) (g g' : Rng)
    (ops : List (Side × StreamOp)) :
    (Unrefused ((fresh (.new capacity yields) (.new capacity yields') g g').run ops).left.calls →
      Arrives ((fresh (.new capacity yields) (.new capacity yields') g g').run ops).left
        ((fresh (.new capacity yields) (.new capacity yields') g g').run ops).right) ∧
    (Unrefused ((fresh (.new capacity yields) (.new capacity yields') g g').run ops).right.calls →
      Arrives ((fresh (.new capacity yields) (.new capacity yields') g g').run ops).right
        ((fresh (.new capacity yields) (.new capacity yields') g g').run ops).left) := by
  have linked := (linked_fresh capacity yields yields' g g').run ops
  exact ⟨linked.arrives, linked.swap.arrives⟩

/-- Both ends write, read and give way in turn over a pipe of four bytes. -/
def crossTalk : List (Side × StreamOp) :=
  [(.left, .write [1, 2]), (.right, .write [7]), (.right, .read 8), (.left, .flush), (.left, .read 8), (.right, .read 8),
    (.right, .flush), (.left, .flush), (.right, .read 8), (.left, .read 1), (.left, .shutdown), (.right, .read 8)]

theorem padded_pair_faithful_crossTalk :
    let p := (fresh (.new 4 [false, true]) (.new 4 []) smallPads smallPads).run crossTalk
    returned p.right.calls = [1, 2] ∧ accepted p.left.calls = [1, 2] ∧ returned p.left.calls = [7] ∧
      Arrives p.left p.right ∧ Arrives p.right p.left := by
  intro p
  have faithful := padded_pair_faithful 4 [false, true] [] smallPads smallPads crossTalk
  exact ⟨by decide +kernel, by decide +kernel, by decide +kernel, faithful.1 (by decide +kernel),
    faithful.2 (by decide +kernel)⟩

end PaddedPair

end ServerNaive
