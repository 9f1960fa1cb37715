import BasisRust.Protocol.Requests
import BasisRust.Transport.Departures

/-!
# The server's roster

`handle_event` of `basis-server-core`, as far as it changes who is waiting for authentication and who is
authenticated, with the calls it makes on the transport.  Events are handled one by one in the order they
were emitted.
-/

namespace BasisRust.Server

open Lib Protocol Transport

structure ConnectedPeer where
  id : PeerId
  metadata : ClientMetaDataMessage
  ready : ReadyMessage
  deriving DecidableEq

/-- The serialized spawn message of a player. -/
def spawnBytes (peerId : PeerId) (ready : ReadyMessage) : Bytes :=
  ServerReadyMessage.serialize { localReadyMessage := ready, playerIdMessage := ⟨peerId⟩ }

structure ServerState where
  transport : TransportHandle := {}
  /-- the events emitted and not handled yet -/
  queue : List ServerEvent := []
  pendingIdentity : Dict PeerId ReadyMessage := ∅
  authenticatedPeers : Dict PeerId ConnectedPeer := ∅

/-- What the rest of the server contributes while one event is handled. -/
structure Handling where
  /-- the checks in front of `accept`: the reason of a refusal, or the client's ready message -/
  admission : ConnectionRequest → Except String ReadyMessage
  useAuthIdentity : Bool
  allocateFuel : ℕ
  /-- the ban could be recorded -/
  banRecorded : Bool
  /-- the outside during each call on the transport, in order -/
  io : ℕ → Io

/-! ### Admin requests that disconnect -/

def isHeadlessPlatform (platform : String) : Bool :=
  let lower := String.ofList (platform.toList.map Char.toLower)
  lower = "headless" || lower = "windowsserver" || lower = "linuxserver" || lower = "osxserver"

/-- The first session of the UUID among the players. -/
def peerByUuid (uuid : String) (players : Dict PeerId ConnectedPeer) : Option PeerId :=
  players.entries.findSome? fun e => if e.2.metadata.playerUuid = uuid then some e.1 else none

def headlessPeers (players : Dict PeerId ConnectedPeer) : List PeerId :=
  players.entries.filterMap fun e => if isHeadlessPlatform e.2.metadata.playerPlatform then some e.1 else none

namespace ServerState

/-- The disconnect calls of `handle_admin_message`, in order. -/
def disconnectCalls (banRecorded : Bool) (payload : Bytes) (s : ServerState) : List (PeerId × String) :=
  withRead getU8 payload [] fun value rest =>
    let mode := AdminRequestMode.ofU8 value
    if mode = .kick then
      withRead getString rest [] fun uuid rest =>
        ((peerByUuid uuid s.authenticatedPeers).map fun target => (target, lastOr getString rest "Kicked")).toList
    else if mode = .ban ∨ mode = .ipAndBan then
      withRead getString rest [] fun uuid rest =>
        if !banRecorded then []
        else ((peerByUuid uuid s.authenticatedPeers).map fun target => (target, lastOr getString rest "Banned")).toList
    else if mode = .setGlobalHeadlessDisallow then
      if lastOr getBool rest false then
        (headlessPeers s.authenticatedPeers).map fun peer => (peer, "Headless client disallowed by server.")
      else []
    else []

/-! ### Handlers -/

/-- One call on the transport; what it emits is queued. -/
def call (op : Op) (io : Io) (s : ServerState) : ServerState :=
  let w := s.transport.outcome (op, io)
  { s with transport := w.handle, queue := s.queue ++ w.events }

def finalizeAccept (peerId : PeerId) (ready : ReadyMessage) (s : ServerState) : ServerState :=
  { s with
    authenticatedPeers := s.authenticatedPeers.insert peerId
      { id := peerId, metadata := ready.playerMetaDataMessage, ready } }

def handleConnectionRequest (h : Handling) (request : ConnectionRequest) (s : ServerState) : ServerState :=
  match h.admission request with
  | .error reason => s.call (.reject request reason) (h.io 0)
  | .ok ready =>
    let s' := s.call (.accept h.allocateFuel request) (h.io 0)
    match accept h.allocateFuel request (s.transport.world (h.io 0)) with
    | .ok (some peerId) _ =>
      if h.useAuthIdentity then { s' with pendingIdentity := s'.pendingIdentity.insert peerId ready }
      else s'.finalizeAccept peerId ready
    | _ => s'

def handleDisconnect (h : Handling) (peer : PeerId) (s : ServerState) : ServerState :=
  let s := { s with
    pendingIdentity := s.pendingIdentity.erase peer
    authenticatedPeers := s.authenticatedPeers.erase peer }
  s.call (.recyclePeerId peer) (h.io 0)

def handleAdminMessage (h : Handling) (payload : Bytes) (s : ServerState) : ServerState :=
  (s.disconnectCalls h.banRecorded payload).zipIdx.foldl
    (fun s (target, i) => s.call (.disconnect target.1 target.2) (h.io i)) s

def handleMessage (h : Handling) (peer : PeerId) (channel : UInt8) (payload : Bytes) (s : ServerState) :
    ServerState :=
  if channel = channels.authIdentity then
    match s.pendingIdentity.lookup peer with
    | none => s
    | some ready => { s with pendingIdentity := s.pendingIdentity.erase peer }.finalizeAccept peer ready
  else if channel = channels.admin then s.handleAdminMessage h payload
  else s

def handleEvent (h : Handling) (event : ServerEvent) (s : ServerState) : ServerState :=
  match event with
  | .connectionRequest request => s.handleConnectionRequest h request
  | .peerDisconnected peer _ => s.handleDisconnect h peer
  | .message peer channel _ payload => s.handleMessage h peer channel payload
  | _ => s

end ServerState

/-! ### Steps -/

/-- The transport acts on its own, or the server handles the next event. -/
inductive ServerLabel where
  | transport (l : NetLabel)
  | handle (h : Handling)

namespace ServerState

def next (s : ServerState) : ServerLabel → ServerState
  | .transport l => s.call l.1 l.2
  | .handle h =>
    match s.queue with
    | [] => s
    | event :: rest => { s with queue := rest }.handleEvent h event

/-- An event can be handled when, if it is to be accepted, `accept` returns. -/
def CanHandle (s : ServerState) (h : Handling) : List ServerEvent → Prop
  | [] => False
  | .connectionRequest request :: _ =>
    (h.admission request).isOk →
      ((s.transport.removePending request.remoteAddr).allocatePeerId h.allocateFuel).isSome
  | _ :: _ => True

instance (s : ServerState) (h : Handling) (queue : List ServerEvent) : Decidable (s.CanHandle h queue) := by
  unfold CanHandle
  split <;> infer_instance

/-- Datagrams, timeouts and resends come at any time, events are handled in order. -/
def Enabled (s : ServerState) : ServerLabel → Prop
  | .transport (.packet _ _, _) => True
  | .transport (.timeout _, _) => True
  | .transport (.resendTo _ _, _) => True
  | .transport _ => False
  | .handle h => s.CanHandle h s.queue

instance (s : ServerState) (l : ServerLabel) : Decidable (s.Enabled l) := by
  unfold Enabled
  split <;> infer_instance

def Steps (s : ServerState) (l : ServerLabel) (s' : ServerState) : Prop := s.Enabled l ∧ s' = s.next l

/-- The step may remove a peer without reporting it; while an event is handled that is a disconnect call
for a live peer. -/
def MayLose (s : ServerState) : ServerLabel → Prop
  | .transport l => Transport.MayLose s.transport l
  | .handle h =>
    match s.queue with
    | .message _ channel _ payload :: _ =>
      channel = channels.admin ∧
        ∃ target ∈ s.disconnectCalls h.banRecorded payload, target.1 ∈ s.transport.peers
    | _ => False

/-! ### The roster and the transport -/

/-- The peer is live, or its departure is still to be handled. -/
def Known (s : ServerState) (id : PeerId) : Prop :=
  id ∈ s.transport.peers ∨ id ∈ s.queue.filterMap disconnectedPeer

/-- Everybody on the roster is known. -/
structure RosterKnown (s : ServerState) : Prop where
  pending : ∀ id ∈ s.pendingIdentity, s.Known id
  authenticated : ∀ id ∈ s.authenticatedPeers, s.Known id

lemma known_call {s : ServerState} {op : Op} {io : Io} (h : ¬ Transport.MayLose s.transport (op, io))
    {id : PeerId} (hknown : s.Known id) : (s.call op io).Known id := by
  change id ∈ (s.transport.outcome (op, io)).handle.peers ∨
    id ∈ (s.queue ++ (s.transport.outcome (op, io)).events).filterMap disconnectedPeer
  rw [List.filterMap_append, List.mem_append]
  rcases hknown with hlive | hqueued
  · by_cases hafter : id ∈ (s.transport.outcome (op, io)).handle.peers
    · exact .inl hafter
    · exact .inr (.inr ((mem_reported_iff h id).mpr ⟨hlive, hafter⟩))
  · exact .inr (.inl hqueued)

lemma rosterKnown_call {s : ServerState} {op : Op} {io : Io}
    (h : ¬ Transport.MayLose s.transport (op, io)) (hroster : s.RosterKnown) :
    (s.call op io).RosterKnown :=
  ⟨fun id hid => known_call h (hroster.pending id hid),
    fun id hid => known_call h (hroster.authenticated id hid)⟩

end ServerState
end BasisRust.Server
