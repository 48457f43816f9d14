import ServerNaive.Async.Emission
import ServerNaive.Async.Phase
import ServerNaive.Uot.RoundTrip

/-! The traffic of a UDP-over-TCP session: what the socket and the client's stream have taken, and what
was recorded for it. -/
namespace ServerNaive.Uot
open AsyncIo StdNet

/-! What the input half keeps. -/

section Input

variable {R : Type} {J : R → Prop} {I : Session R → Prop} {udp : UdpBehaviour}

/-- A property of a session over a reader with `J` that a read, an answer of the resolver and a send with
its record keep. -/
structure SessionKept (udp : UdpBehaviour) (J : R → Prop) (I : Session R → Prop) : Prop where
  reader : ∀ s, I s → J s.reader
  read : ∀ s reader, I s → J reader → I { s with reader }
  resolved : ∀ s cache, I s → I { s with cache }
  sends : ∀ dest payload, Task.Keeps I (sendTo udp dest payload >>= recordUpload)

theorem SessionKept.onReader (kept : SessionKept udp J I) {α : Type} {m : Task R IoError α} (h : Task.Keeps J m) :
    Task.Keeps I (onReader m) :=
  h.on kept.reader kept.read

theorem SessionKept.resolve (kept : SessionKept udp J I) (host : String) (port : UInt16) :
    Task.Keeps I (resolve host port) := by
  refine Task.keeps_tick.bind fun _ => ?_
  intro fuel s start
  dsimp only
  split <;> exact kept.resolved s _ start

/-- Binding and connecting the socket leaves the session as it is. -/
theorem keeps_openSocket (udp : UdpBehaviour) (fixed : Option Destination) : Task.Keeps I (openSocket udp fixed) := by
  refine Task.keeps_tick.bind fun _ => ?_
  split
  · exact Task.keeps_fail _
  · split
    · exact Task.keeps_pure _
    · split
      · exact Task.keeps_fail _
      · exact Task.keeps_pure _

variable [AsyncRead R]

theorem keeps_readAddr (reads : KeptByReads J) (codes : AddrCodes) :
    Task.Keeps J (readAddr codes : Task R IoError (String × UInt16)) := by
  refine (Task.keeps_readU8 reads).bind fun ty => ?_
  split_ifs
  · exact (Task.keeps_readExact reads 4).bind fun ip => (Task.keeps_readU16 reads).bind fun port => Task.keeps_pure _
  · exact (Task.keeps_readExact reads 16).bind fun ip => (Task.keeps_readU16 reads).bind fun port => Task.keeps_pure _
  · refine (Task.keeps_readU8 reads).bind fun len => (Task.keeps_readExact reads _).bind fun domain =>
      (Task.keeps_readU16 reads).bind fun port => ?_
    cases fromUtf8 domain with
    | none => exact Task.keeps_fail _
    | some domain => exact Task.keeps_pure _
  · exact Task.keeps_fail _

theorem SessionKept.readRequest (kept : SessionKept udp J I) (reads : KeptByReads J) (version : UotVersion) :
    Task.Keeps I (readRequest version) := by
  cases version with
  | v1 => exact Task.keeps_pure _
  | v2 =>
      have head : Task.Keeps J (readRequestHead : Task R IoError _) :=
        (Task.keeps_readU8 reads).bind fun _ => (keeps_readAddr reads socksaddrSerializer).bind fun _ =>
          Task.keeps_pure _
      refine (kept.onReader head).bind fun asked => ?_
      dsimp only
      split_ifs
      · exact (kept.resolve _ _).bind fun _ => Task.keeps_pure _
      · exact Task.keeps_pure _

theorem SessionKept.inputPacket (kept : SessionKept udp J I) (reads : KeptByReads J) (fixed : Option Destination) :
    Task.Keeps I (inputPacket udp fixed) := by
  have chosen : Task.Keeps I (chooseDestination fixed) := by
    cases fixed with
    | some dest => exact Task.keeps_pure _
    | none => exact (kept.onReader (keeps_readAddr reads addrParser)).bind fun _ => kept.resolve _ _
  refine chosen.bind fun dest => (kept.onReader (Task.keeps_readU16 reads)).bind fun len => ?_
  split_ifs
  · exact Task.keeps_pure _
  · exact (kept.onReader (Task.keeps_readExact reads _)).bind fun payload => kept.sends dest payload

end Input

/-! What the socket has taken. -/

section Uploads

variable {R : Type}

/-- How much the socket took of each datagram that it sent. -/
def sentSizes (udp : UdpBehaviour) (sent : List Datagram) : List Nat :=
  (List.range sent.length).filterMap fun n => (udp.send n).toOption

/-- Every send that succeeded is recorded, and nothing else. -/
def UploadsExact (udp : UdpBehaviour) (s : Session R) : Prop := s.uploads = sentSizes udp s.sent

theorem sentSizes_snoc (udp : UdpBehaviour) (sent : List Datagram) (datagram : Datagram) :
    sentSizes udp (sent ++ [datagram]) = sentSizes udp sent ++ (udp.send sent.length).toOption.toList := by
  rw [sentSizes, List.length_append, List.length_singleton, List.range_succ, List.filterMap_append]
  cases answer : udp.send sent.length <;> simp [answer, Except.toOption, sentSizes]

/-- No await stands between a send and its record. -/
theorem uploadsExact_kept (udp : UdpBehaviour) : SessionKept udp (fun _ : R => True) (UploadsExact udp) where
  reader _ _ := trivial
  read _ _ exact_before _ := exact_before
  resolved _ _ exact_before := exact_before
  sends dest payload := by
    refine Task.keeps_of_holds fun fuel s exact_before => Task.holds_bind ?_
    refine (sendTo_holds udp dest payload fuel s).imp ?_ ?_ fun t same => same ▸ exact_before
    · -- the datagram is the next one, so the answer is that of the next size
      rintro n t ⟨answer, rfl⟩ left
      change s.uploads ++ [n] = sentSizes udp (s.sent ++ [⟨dest, payload⟩])
      rw [sentSizes_snoc, answer, exact_before]
      rfl
    · rintro e t ⟨answer, rfl⟩
      change s.uploads = sentSizes udp (s.sent ++ [⟨dest, payload⟩])
      rw [sentSizes_snoc, answer, exact_before]
      exact (List.append_nil _).symm

end Uploads

/-! What the output loop has put on its stream, whatever the stream does. -/

section Output

variable {W : Type}

def OutputEvent.datagram : OutputEvent → Option Received
  | .received datagram => some datagram
  | _ => none

/-- The datagrams among what the loop woke up for. -/
def receivedOf (events : List OutputEvent) : List Received := events.filterMap OutputEvent.datagram

/-- The packets of `ps` are written and counted. -/
structure Wrote (isConnect : Bool) (ps : List Received) (s last : Output (Traced W)) : Prop where
  taken : accepted last.writer.calls = accepted s.writer.calls ++ packetsBytes isConnect ps
  counted : last.downloads = s.downloads ++ ps.map fun p => p.data.length

/-- Nothing of the packets, or a front of the first. -/
def Begun (isConnect : Bool) (ps : List Received) (front : Bytes) : Prop :=
  front = [] ∨ ∃ p more, ps = p :: more ∧ front <+: packetBytes isConnect p ∧
    front.length < (packetBytes isConnect p).length

/-- The first packets of `ps` are written and counted, and the next perhaps in part. -/
def Replies (isConnect : Bool) (ps : List Received) (s last : Output (Traced W)) : Prop :=
  ∃ sent rest front, ps = sent ++ rest ∧ Begun isConnect rest front ∧
    last.downloads = s.downloads ++ sent.map (fun p => p.data.length) ∧
    accepted last.writer.calls = accepted s.writer.calls ++ (packetsBytes isConnect sent ++ front)

variable {isConnect : Bool} {ps qs : List Received} {s mid last : Output (Traced W)}

theorem packetsBytes_append (isConnect : Bool) (ps qs : List Received) :
    packetsBytes isConnect (ps ++ qs) = packetsBytes isConnect ps ++ packetsBytes isConnect qs :=
  List.flatMap_append

theorem Begun.more {front : Bytes} (h : Begun isConnect ps front) : Begun isConnect (ps ++ qs) front := by
  rcases h with rfl | ⟨p, more, rfl, before, short⟩
  · exact .inl rfl
  · exact .inr ⟨p, more ++ qs, rfl, before, short⟩

theorem Begun.front {front : Bytes} (h : Begun isConnect ps front) : front <+: packetsBytes isConnect ps := by
  rcases h with rfl | ⟨p, more, rfl, before, -⟩
  · exact List.nil_prefix
  · exact before.trans (List.prefix_append _ _)

theorem Wrote.replies (h : Wrote isConnect ps s last) : Replies isConnect ps s last :=
  ⟨ps, [], [], (List.append_nil ps).symm, .inl rfl, h.counted,
    (List.append_nil (packetsBytes isConnect ps)).symm ▸ h.taken⟩

theorem Replies.more (h : Replies isConnect ps s last) : Replies isConnect (ps ++ qs) s last := by
  obtain ⟨sent, rest, front, rfl, begun, counted, taken⟩ := h
  exact ⟨sent, rest ++ qs, front, List.append_assoc .., begun.more, counted, taken⟩

theorem Replies.after (first : Wrote isConnect ps s mid) (h : Replies isConnect qs mid last) :
    Replies isConnect (ps ++ qs) s last := by
  obtain ⟨sent, rest, front, rfl, begun, counted, taken⟩ := h
  refine ⟨ps ++ sent, rest, front, (List.append_assoc ..).symm, begun, ?_, ?_⟩
  · rw [counted, first.counted, List.map_append, List.append_assoc]
  · rw [taken, first.taken, packetsBytes_append, List.append_assoc, List.append_assoc]

theorem Replies.front (h : Replies isConnect ps s last) (fresh : accepted s.writer.calls = []) :
    accepted last.writer.calls <+: packetsBytes isConnect ps := by
  obtain ⟨sent, rest, front, rfl, begun, -, taken⟩ := h
  rw [taken, fresh, packetsBytes_append, List.nil_append]
  exact (List.prefix_append_right_inj _).mpr begun.front

/-- The datagrams whose packets lie whole in the first `n` bytes of the packets of all of them. -/
def delivered (isConnect : Bool) : List Received → Nat → List Received
  | [], _ => []
  | p :: ps, n =>
      if (packetBytes isConnect p).length ≤ n then p :: delivered isConnect ps (n - (packetBytes isConnect p).length)
      else []

theorem packetBytes_pos (isConnect : Bool) (p : Received) : 0 < (packetBytes isConnect p).length := by
  rw [packetBytes, List.length_append, List.length_append]
  have two : (be16 p.data.length).length = 2 := rfl
  omega

theorem delivered_append (isConnect : Bool) (sent rest : List Received) {front : Bytes}
    (begun : Begun isConnect rest front) :
    delivered isConnect (sent ++ rest) (packetsBytes isConnect sent ++ front).length = sent := by
  induction sent with
  | nil =>
      cases rest with
      | nil => rfl
      | cons p more =>
          have short : front.length < (packetBytes isConnect p).length := by
            rcases begun with rfl | ⟨q, others, same, -, short⟩
            · exact packetBytes_pos isConnect p
            · cases same
              exact short
          exact if_neg (Nat.not_le.mpr short)
  | cons p sent ih =>
      have whole : (packetsBytes isConnect (p :: sent) ++ front).length =
          (packetBytes isConnect p).length + (packetsBytes isConnect sent ++ front).length := by
        rw [packetsBytes, List.flatMap_cons, List.append_assoc, List.length_append, packetsBytes]
      rw [List.cons_append, delivered, whole, if_pos (Nat.le_add_right _ _), Nat.add_sub_cancel_left, ih]

/-- The records are the sizes of the datagrams whose packets the stream has taken whole. -/
theorem Replies.downloads (h : Replies isConnect ps s last) (fresh : accepted s.writer.calls = [])
    (uncounted : s.downloads = []) :
    last.downloads = (delivered isConnect ps (accepted last.writer.calls).length).map fun p => p.data.length := by
  obtain ⟨sent, rest, front, rfl, begun, counted, taken⟩ := h
  rw [taken, fresh, List.nil_append, delivered_append isConnect sent rest begun, counted, uncounted, List.nil_append]

variable [AsyncWrite W]

theorem puts_writeUotPacket (isConnect : Bool) (p : Received) :
    Puts (W := W) (writeUotPacket p.source p.data isConnect) (packetBytes isConnect p) := by
  have size := p.toNat_length
  have tail : Puts (W := W) (do
      Task.writeU16 (UInt16.ofNat p.data.length)
      Task.writeAll p.data) (be16 p.data.length ++ p.data) := by
    have head := puts_writeAll (W := W) (be16 (UInt16.ofNat p.data.length).toNat)
    rw [size] at head
    rw [Task.writeU16, size]
    exact head.bind (puts_writeAll _)
  have addr : Puts (W := W) (writeAddrParser p.source) (addrBytes p.source) := by
    unfold writeAddrParser addrBytes
    cases p.source.ip with
    | v4 ip => exact (puts_writeAll _).bind ((puts_writeAll _).bind (puts_writeAll _))
    | v6 ip => exact (puts_writeAll _).bind ((puts_writeAll _).bind (puts_writeAll _))
  cases isConnect with
  | true => exact tail
  | false => exact addr.bind tail

theorem outputRound_replies (isConnect : Bool) (event : OutputEvent) (fuel : Nat) (s : Output (Traced W)) :
    (outputRound isConnect event fuel s).Holds
      (fun goes last => Replies isConnect (receivedOf [event]) s last ∧
        (goes = true → Wrote isConnect (receivedOf [event]) s last))
      (fun _ _ => False) fun last => Replies isConnect (receivedOf [event]) s last := by
  have nothing {t : Output (Traced W)} (same : t.writer = s.writer) (counted : t.downloads = s.downloads) :
      Replies isConnect [] s t :=
    Wrote.replies ⟨same ▸ (List.append_nil _).symm, counted ▸ (List.append_nil _).symm⟩
  cases event with
  | received p =>
      have puts := puts_writeUotPacket isConnect p fuel s.writer
      have single : packetsBytes isConnect [p] = packetBytes isConnect p := List.append_nil _
      have broken {writer : Traced W} {cancelled : Bool}
          (front : TakesFront (packetBytes isConnect p) s.writer writer) :
          Replies isConnect [p] s { s with writer, innerCancelled := cancelled } := by
        obtain ⟨bytes, before, short, taken⟩ := front
        exact ⟨[], [p], bytes, rfl, .inr ⟨p, [], rfl, before, short⟩, (List.append_nil _).symm, taken⟩
      simp only [outputRound]
      split
      · rename_i writer left ran
        rw [ran] at puts
        have wrote : Wrote isConnect [p] s
            { s with writer, downloads := s.downloads ++ [p.data.length] } := ⟨single ▸ puts, rfl⟩
        exact ⟨wrote.replies, fun _ => wrote⟩
      · rename_i writer left ran
        rw [ran] at puts
        exact ⟨broken puts, fun goes => by cases goes⟩
      · rename_i writer ran
        rw [ran] at puts
        exact broken puts
  | recvError e => exact ⟨nothing rfl rfl, fun goes => by cases goes⟩
  | cancelled => exact ⟨nothing rfl rfl, fun goes => by cases goes⟩
  | innerCancelled => exact ⟨nothing rfl rfl, fun goes => by cases goes⟩

theorem outputLoop_replies (isConnect : Bool) (events : List OutputEvent) (fuel : Nat) (s : Output (Traced W)) :
    (outputLoop isConnect events fuel s).Holds (fun _ last => Replies isConnect (receivedOf events) s last)
      (fun _ _ => False) fun last => Replies isConnect (receivedOf events) s last := by
  induction events generalizing s fuel with
  | nil => exact Wrote.replies ⟨(List.append_nil _).symm, (List.append_nil _).symm⟩
  | cons event events ih =>
      have whole : receivedOf (event :: events) = receivedOf [event] ++ receivedOf events := by
        rw [receivedOf, receivedOf, receivedOf, ← List.filterMap_append, List.singleton_append]
      rw [outputLoop, whole]
      apply Task.holds_bind
      refine (outputRound_replies isConnect event fuel s).imp ?_ (fun _ _ none => none) fun _ replies => replies.more
      rintro goes mid ⟨replies, wrote⟩ left
      cases goes with
      | false => exact replies.more
      | true =>
          exact (ih left mid).imp (fun _ _ later => later.after (wrote rfl)) (fun _ _ none => none)
            fun _ later => later.after (wrote rfl)

theorem handleUotOutput_replies (isConnect : Bool) (events : List OutputEvent) (closing fuel : Nat)
    (s : Output (Traced W)) :
    Replies isConnect (receivedOf events) s (handleUotOutput isConnect events closing fuel s).state := by
  have loop := outputLoop_replies isConnect events fuel s
  unfold handleUotOutput
  change Replies isConnect _ s (AsyncIo.Task.bind _ _ fuel s).state
  unfold AsyncIo.Task.bind
  cases ran : outputLoop isConnect events fuel s with
  | done waits t left =>
      rw [ran] at loop
      cases waits with
      | true => exact loop
      | false =>
          obtain ⟨sent, rest, front, whole, begun, counted, taken⟩ := loop
          refine ⟨sent, rest, front, whole, begun, counted, ?_⟩
          change accepted (shutdownWithin closing t.writer).calls = _
          rw [accepted_shutdownWithin, taken]
  | failed e t left =>
      rw [ran] at loop
      exact loop.elim
  | cut t =>
      rw [ran] at loop
      exact loop

/-! The loop does not see the record of its stream. -/

/-- The output half without the record of its stream. -/
abbrev Output.plain (s : Output (Traced W)) : Output W := { s with writer := s.writer.stream }

theorem projects_writeUotPacket (source : SocketAddr) (data : Bytes) (isConnect : Bool) :
    Task.Projects Traced.stream (writeUotPacket source data isConnect : Task (Traced W) IoError Unit)
      (writeUotPacket source data isConnect) := by
  have tail : Task.Projects Traced.stream (do
      Task.writeU16 (UInt16.ofNat data.length)
      Task.writeAll data : Task (Traced W) IoError Unit) (do
      Task.writeU16 (UInt16.ofNat data.length)
      Task.writeAll data) := (Task.projects_writeAll _).bind fun _ => Task.projects_writeAll _
  cases isConnect with
  | true => exact tail
  | false =>
      have addr : Task.Projects Traced.stream (writeAddrParser source : Task (Traced W) IoError Unit)
          (writeAddrParser source) := by
        unfold writeAddrParser
        split <;> exact (Task.projects_writeAll _).bind fun _ => (Task.projects_writeAll _).bind fun _ =>
          Task.projects_writeAll _
      exact addr.bind fun _ => tail

theorem projects_outputRound (isConnect : Bool) (event : OutputEvent) :
    Task.Projects (Output.plain (W := W)) (outputRound isConnect event) (outputRound isConnect event) := by
  cases event with
  | received p =>
      intro fuel s
      have writes := projects_writeUotPacket p.source p.data isConnect fuel s.writer
      simp only [outputRound]
      rw [writes]
      cases writeUotPacket p.source p.data isConnect fuel s.writer with
      | done value writer left => rfl
      | failed e writer left => rfl
      | cut writer => rfl
  | recvError e => exact fun _ _ => rfl
  | cancelled => exact fun _ _ => rfl
  | innerCancelled => exact Task.projects_pure _ _

theorem projects_outputLoop (isConnect : Bool) (events : List OutputEvent) :
    Task.Projects (Output.plain (W := W)) (outputLoop isConnect events) (outputLoop isConnect events) := by
  induction events with
  | nil => exact Task.projects_pure _ _
  | cons event events ih =>
      refine (projects_outputRound isConnect event).bind fun goes => ?_
      cases goes with
      | true => exact ih
      | false => exact Task.projects_pure _ _

theorem projects_handleUotOutput (isConnect : Bool) (events : List OutputEvent) (closing : Nat) :
    Task.Projects (Output.plain (W := W)) (handleUotOutput isConnect events closing)
      (handleUotOutput isConnect events closing) := by
  refine (projects_outputLoop isConnect events).bind fun waits => ?_
  cases waits with
  | true => exact Task.projects_pure _ _
  | false =>
      intro fuel s
      change Run.done false { s.plain with writer := shutdownWithin closing s.writer.stream } fuel =
        Run.done false (Output.plain { s with writer := shutdownWithin closing s.writer }) fuel
      rw [Output.plain, Output.plain, stream_shutdownWithin]

end Output

end ServerNaive.Uot
