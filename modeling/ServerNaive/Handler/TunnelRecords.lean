import ServerNaive.Handler.Tunnel

/-! What a tunnel records for its user, against what it has moved. -/
namespace ServerNaive
open AsyncIo StdNet

namespace Ledger

/-- Each amount that was moved is recorded, in order, and nothing else. -/
def Itemised (l : Ledger) : Prop := l.uploads.map Prod.snd = l.toRemote ∧ l.downloads.map Prod.snd = l.toClient

/-- All that was moved is recorded, and no more. -/
def AllRecorded (l : Ledger) : Prop :=
  (l.uploads.map Prod.snd).sum = l.toRemote.sum ∧ (l.downloads.map Prod.snd).sum = l.toClient.sum

/-- What is recorded was moved. -/
def Covered (l : Ledger) : Prop :=
  (l.uploads.map Prod.snd).sum ≤ l.toRemote.sum ∧ (l.downloads.map Prod.snd).sum ≤ l.toClient.sum

/-- Nothing was recorded or moved. -/
structure Fresh (l : Ledger) : Prop where
  uploads : l.uploads = []
  downloads : l.downloads = []
  toRemote : l.toRemote = []
  toClient : l.toClient = []

instance (l : Ledger) : Decidable l.AllRecorded := inferInstanceAs (Decidable (_ ∧ _))

theorem Itemised.allRecorded {l : Ledger} (h : l.Itemised) : l.AllRecorded :=
  ⟨congrArg List.sum h.1, congrArg List.sum h.2⟩

theorem AllRecorded.covered {l : Ledger} (h : l.AllRecorded) : l.Covered := ⟨h.1.le, h.2.le⟩

theorem Fresh.itemised {l : Ledger} (h : l.Fresh) : l.Itemised := by
  rw [Itemised, h.uploads, h.downloads, h.toRemote, h.toClient]
  exact ⟨rfl, rfl⟩

theorem Itemised.record {l : Ledger} (h : l.Itemised) (user : UserId) (uploads downloads : List Nat) :
    ((l.record user uploads downloads).moved (uploads, downloads)).Itemised := by
  unfold Itemised Ledger.record moved
  simp only [List.map_append, List.map_map, Function.comp_def, List.map_id']
  exact ⟨congrArg (· ++ uploads) h.1, congrArg (· ++ downloads) h.2⟩

end Ledger

section Datagrams

variable {T B : Type} [AsyncRead T] [AsyncWrite T]

omit [AsyncRead T] in
/-- What the two loops record is what they move, wherever they are. -/
theorem uotTraffic_recorded (world : World T B) (fixed : Option Uot.Destination)
    {s : Uot.Session (NaivePaddedTransport T)} (uploads : Uot.UploadsExact world.udp s) :
    uotTraffic world fixed s = (s.uploads, (Uot.handleUotOutput fixed.isSome world.events world.closing.1
      world.writing ⟨s.reader, [], false⟩).state.downloads) := by
  have plain := Uot.projects_handleUotOutput fixed.isSome world.events world.closing.1 world.writing
    ⟨Traced.start s.reader, [], false⟩
  have replies := Uot.handleUotOutput_replies fixed.isSome world.events world.closing.1 world.writing
    ⟨Traced.start s.reader, [], false⟩
  change Uot.handleUotOutput fixed.isSome world.events world.closing.1 world.writing ⟨s.reader, [], false⟩ = _ at plain
  rw [plain, Run.state_map, uploads]
  exact Prod.ext rfl (replies.downloads rfl rfl).symm

theorem uotLoops_itemised (world : World T B) (user : UserId) (fixed : Option Uot.Destination)
    {s : Uot.Session (NaivePaddedTransport T)} (uploads : Uot.UploadsExact world.udp s) (polls : Nat) {l : Ledger}
    (h : l.Itemised) : (uotLoops world user fixed s polls l).1.Itemised := by
  have kept : Uot.UploadsExact world.udp
      (Task.forever (Uot.inputPacket world.udp fixed) polls s : Run _ IoError Unit).state :=
    ((Uot.uploadsExact_kept world.udp).inputPacket (fun _ _ _ => trivial) fixed).forever polls s uploads
  unfold uotLoops
  dsimp only
  rw [uotTraffic_recorded world fixed kept]
  exact Ledger.Itemised.record h user _ _

/-- A datagram session records each datagram that it moves, at every point of its run. -/
theorem handleUotStream_itemised (world : World T B) (user : UserId) (version : Uot.UotVersion)
    (client : NaivePaddedTransport T) {l : Ledger} (h : l.Itemised) :
    (handleUotStream world user version client l).1.Itemised := by
  have asked := (Uot.uploadsExact_kept world.udp).readRequest (fun _ _ _ => trivial) version world.polls
    (.start client l.dialing.cache) rfl
  unfold handleUotStream
  split
  · exact h
  · exact h
  · rename_i fixed s left ran
    rw [ran] at asked
    have opened := Uot.keeps_openSocket world.udp fixed left s asked
    split
    · exact h
    · exact h
    · rename_i s left ran
      rw [ran] at opened
      exact uotLoops_itemised world user fixed opened left h

/-- It dials nothing. -/
theorem handleUotStream_dials (world : World T B) (user : UserId) (version : Uot.UotVersion)
    (client : NaivePaddedTransport T) (l : Ledger) :
    (handleUotStream world user version client l).1.dialing.dialed = l.dialing.dialed ∧
      (handleUotStream world user version client l).1.dialing.offered = l.dialing.offered := by
  unfold handleUotStream
  split
  · exact ⟨rfl, rfl⟩
  · exact ⟨rfl, rfl⟩
  · split <;> exact ⟨rfl, rfl⟩

end Datagrams

/-- The remote end that `process_tunnel` relays to, if it gets there. -/
def remoteEnd (server : Server) (target : Address) (outbound : OutboundType) (d : Dialing) :
    Option RemoteStream :=
  match Uot.processTunnel target outbound with
  | some (.direct resolved dialer) => (handleDirectConnect server.config target resolved dialer d).2.toOption
  | some (.proxy handler) => (connectProxy target handler d).2.toOption
  | _ => none

section Tunnel

variable {T B : Type} [AsyncRead T] [AsyncWrite T] [AsyncRead B] [AsyncWrite B]

/-- What `process_tunnel` comes to: a datagram session, a relay to the remote end, or neither. -/
inductive TunnelRun (server : Server) (world : World T B) (target : Address) (user : UserId)
    (outbound : OutboundType) (client : NaivePaddedTransport T) (l : Ledger) : Ledger × Returned → Prop
  | datagrams (version : Uot.UotVersion) (magic : Uot.detectUot target.host = some version) :
      TunnelRun server world target user outbound client l (handleUotStream world user version client
        { l.admitUser user with uotStreams := l.uotStreams ++ [(user, version)] })
  | relays (stream : RemoteStream) (dialing : Dialing) (other : Uot.detectUot target.host = none)
      (reached : remoteEnd server target outbound l.dialing = some stream) :
      TunnelRun server world target user outbound client l
        (relayFor server world user client stream { l.admitUser user with dialing })
  | unreached (dialing : Dialing) (result : Except String Unit) (other : Uot.detectUot target.host = none)
      (missed : remoteEnd server target outbound l.dialing = none) :
      TunnelRun server world target user outbound client l ({ l.admitUser user with dialing }, some result)

theorem processTunnel_run (server : Server) (world : World T B) (target : Address) (user : UserId)
    (outbound : OutboundType) (client : NaivePaddedTransport T) (l : Ledger) :
    TunnelRun server world target user outbound client l
      (processTunnel server world target user outbound client l) := by
  cases detected : Uot.detectUot target.host with
  | some version =>
      have dispatched : Uot.processTunnel target outbound = some (.uot version) := by
        simp only [Uot.processTunnel, detected]
      rw [processTunnel, dispatched]
      exact .datagrams version detected
  | none =>
      have connects {connected : Dialing × Except String RemoteStream}
          (ends : remoteEnd server target outbound l.dialing = connected.2.toOption) :
          TunnelRun server world target user outbound client l
            (relayConnected server world user client connected (l.admitUser user)) := by
        obtain ⟨dialing, outcome⟩ := connected
        cases outcome with
        | error e => exact .unreached dialing _ detected ends
        | ok stream => exact .relays stream dialing detected ends
      unfold processTunnel
      unfold remoteEnd at connects
      cases outbound with
      | direct resolved dialer =>
          have dispatched : Uot.processTunnel target (.direct resolved dialer) = some (.direct resolved dialer) := by
            simp only [Uot.processTunnel, detected]
          rw [dispatched] at connects ⊢
          exact connects rfl
      | proxy handler =>
          have dispatched : Uot.processTunnel target (.proxy handler) = some (.proxy handler) := by
            simp only [Uot.processTunnel, detected]
          rw [dispatched] at connects ⊢
          exact connects rfl
      | reject =>
          have dispatched : Uot.processTunnel target .reject = none := by
            simp only [Uot.processTunnel, detected]
          rw [dispatched]
          refine .unreached l.dialing _ detected ?_
          rw [remoteEnd, dispatched]

/-- No turn of the relay that the tunnel gets to, if it gets to one, is a kick that finds bytes moved. -/
def TunnelSpared (server : Server) (world : World T B) (target : Address) (outbound : OutboundType)
    (client : NaivePaddedTransport T) (d : Dialing) : Prop :=
  ∀ stream ∈ remoteEnd server target outbound d,
    (Relay.new (Traced.start client) (Traced.start (world.remote stream)) world.start server.config.idleTimeoutSecs
      server.config.bufferSize false).Spared world.turns

section Records

variable (server : Server) (world : World T B) (user : UserId) (client : NaivePaddedTransport T)
  (stream : RemoteStream) {l : Ledger}

/-- What a relay leaves in a ledger without traffic. -/
theorem relayFor_sums (fresh : l.Fresh) :
    let out := relay server.config (Traced.start client) (Traced.start (world.remote stream)) world.start world.turns
      world.closing
    let last := (relayFor server world user client stream l).1
    ((last.uploads.map Prod.snd).sum = out.recorded.uploads.sum ∧ last.toRemote.sum = (accepted out.b.calls).length) ∧
      (last.downloads.map Prod.snd).sum = out.recorded.downloads.sum ∧
      last.toClient.sum = (accepted out.a.calls).length := by
  intro out last
  have plain : relay server.config client (world.remote stream) world.start world.turns world.closing = out.plain :=
    relay_plain ..
  have same : last = (l.record user out.recorded.uploads out.recorded.downloads).moved
      (relayTraffic server world client stream) := by
    change (relayFor server world user client stream l).1 = _
    rw [relayFor, plain]
  rw [same]
  unfold Ledger.record Ledger.moved relayTraffic
  simp only [fresh.uploads, fresh.downloads, fresh.toRemote, fresh.toClient, List.nil_append, List.map_map,
    Function.comp_def, List.map_id', List.sum_singleton, and_self, out]

theorem relayFor_covered (fresh : l.Fresh) : (relayFor server world user client stream l).1.Covered := by
  obtain ⟨⟨uploads, toRemote⟩, downloads, toClient⟩ := relayFor_sums server world user client stream fresh
  rw [Ledger.Covered, uploads, toRemote, downloads, toClient]
  exact relay_recorded_le ..

theorem relayFor_recorded_iff (fresh : l.Fresh) (returned : (relayFor server world user client stream l).2 ≠ none) :
    (relayFor server world user client stream l).1.AllRecorded ↔
      (Relay.new (Traced.start client) (Traced.start (world.remote stream)) world.start server.config.idleTimeoutSecs
        server.config.bufferSize false).Spared world.turns := by
  obtain ⟨⟨uploads, toRemote⟩, downloads, toClient⟩ := relayFor_sums server world user client stream fresh
  have ended : (relay server.config (Traced.start client) (Traced.start (world.remote stream)) world.start world.turns
      world.closing).selected.ended := by
    unfold relayFor at returned
    rw [relay_plain] at returned
    by_contra runs
    exact returned (if_neg runs)
  rw [Ledger.AllRecorded, uploads, toRemote, downloads, toClient]
  exact accounted_iff_spared server.config client (world.remote stream) world.start world.turns world.closing ended

variable (target : Address) (outbound : OutboundType)

theorem processTunnel_covered (fresh : l.Fresh) :
    (processTunnel server world target user outbound client l).1.Covered := by
  have run := processTunnel_run server world target user outbound client l
  generalize processTunnel server world target user outbound client l = last at run
  cases run with
  | datagrams version magic =>
      refine (handleUotStream_itemised world user version client ?_).allRecorded.covered
      exact fresh.itemised
  | relays stream dialing other reached => exact relayFor_covered server world user client stream { fresh with }
  | unreached dialing result other missed => exact fresh.itemised.allRecorded.covered

/-- A tunnel to a magic name has recorded each datagram that it moved, and has dialled nothing. -/
theorem processTunnel_datagrams (fresh : l.Fresh) {version : Uot.UotVersion}
    (magic : Uot.detectUot target.host = some version) (dialed : l.dialing.dialed = [])
    (offered : l.dialing.offered = []) :
    let last := (processTunnel server world target user outbound client l).1
    last.Itemised ∧ last.dialing.dialed = [] ∧ last.dialing.offered = [] := by
  have run := processTunnel_run server world target user outbound client l
  generalize processTunnel server world target user outbound client l = last at run
  cases run with
  | datagrams version' magic' =>
      have dials := handleUotStream_dials world user version' client
        { l.admitUser user with uotStreams := l.uotStreams ++ [(user, version')] }
      refine ⟨handleUotStream_itemised world user version' client ?_, dials.1.trans dialed, dials.2.trans offered⟩
      exact fresh.itemised
  | relays _ _ other _ => cases other.symm.trans magic
  | unreached _ _ other _ => cases other.symm.trans magic

/-- A tunnel that has returned has recorded all that it moved, unless a kick found bytes that its relay had
moved. -/
theorem processTunnel_recorded_iff (fresh : l.Fresh)
    (returned : (processTunnel server world target user outbound client l).2 ≠ none) :
    (processTunnel server world target user outbound client l).1.AllRecorded ↔
      TunnelSpared server world target outbound client l.dialing := by
  have run := processTunnel_run server world target user outbound client l
  unfold TunnelSpared
  generalize processTunnel server world target user outbound client l = last at run returned
  cases run with
  | datagrams version magic =>
      have missed : remoteEnd server target outbound l.dialing = none := by
        simp only [remoteEnd, Uot.processTunnel, magic]
      have itemised := handleUotStream_itemised world user version client
        (l := { l.admitUser user with uotStreams := l.uotStreams ++ [(user, version)] }) fresh.itemised
      -- a datagram session gets to no relay, so no kick can find one
      refine iff_of_true itemised.allRecorded ?_
      rw [missed]
      rintro stream ⟨⟩
  | relays stream dialing other reached =>
      rw [relayFor_recorded_iff server world user client stream (l := { l.admitUser user with dialing })
        { fresh with } returned, reached]
      simp only [Option.mem_def, Option.some.injEq, forall_eq']
  | unreached dialing result other missed =>
      refine iff_of_true fresh.itemised.allRecorded ?_
      rw [missed]
      rintro stream ⟨⟩

end Records

end Tunnel

end ServerNaive
