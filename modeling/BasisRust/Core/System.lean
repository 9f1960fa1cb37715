import BasisRust.Core.Frame
import BasisRust.Lib.Run

/-!
# The server as a system

The transport receives datagrams, times peers out and sends again, and the server handles the events that were
emitted, in any order: the event loop spawns a task for each, and whichever comes first is the next step.  A
handler is one atomic step.  That handlers of different tasks interleave half way is not in this system; `Limit`
takes `finalize_accept` apart for that.
-/

namespace BasisRust.Core

open Lib Protocol Transport
open Admin Permissions
open Server (ConnectedPeer isHeadlessPlatform)

inductive Label where
  | transport (l : NetLabel)
  | handle (env : Outside) (event : ServerEvent)

namespace ServerState

def next (s : ServerState) : Label → ServerState
  | .transport l => { s with transport := (s.transport.outcome l).handle }
  | .handle env event => s.handleEvent env event

/-- The transport receives, times out and resends on its own; its other calls are made by handlers.  A connection
request is handled when, if it is to be accepted, `accept` returns. -/
def Enabled (s : ServerState) : Label → Prop
  | .transport (.packet _ _, _) => True
  | .transport (.timeout _, _) => True
  | .transport (.resendTo _ _, _) => True
  | .transport _ => False
  | .handle env (.connectionRequest request) =>
    (s.admission request).isOk →
      ((s.transport.removePending request.remoteAddr).allocatePeerId env.allocateFuel).isSome
  | .handle _ _ => True

instance (s : ServerState) (l : Label) : Decidable (s.Enabled l) := by
  unfold Enabled
  split <;> infer_instance

def Steps (s : ServerState) (l : Label) (s' : ServerState) : Prop := s.Enabled l ∧ s' = s.next l

/-! ### The checks in front of `accept` -/

lemma ok_of_bind_eq_ok {α β : Type} {x : Except String α} {f : α → Except String β} {b : β}
    (h : (x >>= f) = .ok b) : ∃ a, x = .ok a ∧ f a = .ok b := by
  cases x with
  | error reason => cases h
  | ok a => exact ⟨a, rfl, h⟩

lemma of_refuseIf {condition : Bool} {reason : String} {u : Unit} (h : refuseIf condition reason = .ok u) :
    condition = false := by
  unfold refuseIf at h
  cases condition with
  | false => rfl
  | true => cases h

/-- What is true of a request that passes. -/
structure Admitted (request : ConnectionRequest) (ready : ReadyMessage) (s : ServerState) : Prop where
  ip : s.moderation.isIpBanned (ipText request.remoteAddr) = false
  room : s.playerCount < asUsize s.config.peerLimit
  headless : (s.globalState.disallowHeadless &&
    isHeadlessPlatform ready.playerMetaDataMessage.playerPlatform) = false
  uuid : s.moderation.isUuidBanned ready.playerMetaDataMessage.playerUuid = false
  whitelist : (decide (s.config.basisUserRestrictionMode = .whiteList) &&
    !s.moderation.isWhitelisted ready.playerMetaDataMessage.playerUuid) = false
  blacklist : (decide (s.config.basisUserRestrictionMode = .blackList) &&
    s.moderation.isBlacklisted ready.playerMetaDataMessage.playerUuid) = false

theorem admitted_of_admission {request : ConnectionRequest} {ready : ReadyMessage} {s : ServerState}
    (h : s.admission request = .ok ready) : s.Admitted request ready := by
  unfold admission at h
  obtain ⟨_, hip, h⟩ := ok_of_bind_eq_ok h
  obtain ⟨_, hroom, h⟩ := ok_of_bind_eq_ok h
  obtain ⟨_, -, h⟩ := ok_of_bind_eq_ok h
  obtain ⟨_, -, h⟩ := ok_of_bind_eq_ok h
  obtain ⟨_, -, h⟩ := ok_of_bind_eq_ok h
  obtain ⟨_, -, h⟩ := ok_of_bind_eq_ok h
  obtain ⟨_, -, h⟩ := ok_of_bind_eq_ok h
  obtain ⟨_, hheadless, h⟩ := ok_of_bind_eq_ok h
  obtain ⟨_, huuid, h⟩ := ok_of_bind_eq_ok h
  obtain ⟨_, hwhitelist, h⟩ := ok_of_bind_eq_ok h
  obtain ⟨_, hblacklist, h⟩ := ok_of_bind_eq_ok h
  cases h
  have hroom := of_decide_eq_false (of_refuseIf hroom)
  exact ⟨of_refuseIf hip, not_le.mp hroom, of_refuseIf hheadless, of_refuseIf huuid, of_refuseIf hwhitelist,
    of_refuseIf hblacklist⟩

/-! ### Connection requests -/

/-- The peer that `accept` returns, if its answer could be sent. -/
def acceptedPeer (env : Outside) (request : ConnectionRequest) (s : ServerState) : Option PeerId :=
  match accept env.allocateFuel request (s.transport.world env.io) with
  | .ok peerId _ => peerId
  | .error _ _ => none

section Requests

variable {env : Outside} {request : ConnectionRequest} {s : ServerState}

lemma handleConnectionRequest_of_refused {reason : String} (h : s.admission request = .error reason) :
    s.handleConnectionRequest env request = s.call (.reject request reason) env := by
  rw [handleConnectionRequest, h]

lemma handleConnectionRequest_of_none {ready : ReadyMessage} (h : s.admission request = .ok ready)
    (hnone : s.acceptedPeer env request = none) :
    s.handleConnectionRequest env request = s.call (.accept env.allocateFuel request) env := by
  rw [handleConnectionRequest, h]
  unfold acceptedPeer at hnone
  dsimp only
  split at hnone
  next hok =>
    rw [hok, hnone]
  next hfailed => rw [hfailed]

lemma handleConnectionRequest_of_some {ready : ReadyMessage} {peerId : PeerId}
    (h : s.admission request = .ok ready) (hsome : s.acceptedPeer env request = some peerId) :
    s.handleConnectionRequest env request =
      (s.call (.accept env.allocateFuel request) env).greet env peerId ready := by
  rw [handleConnectionRequest, h]
  unfold acceptedPeer at hsome
  dsimp only
  split at hsome
  next hok => rw [hok, hsome]
  next => cases hsome

/-- The id a request gets when it is accepted. -/
def allocatedPeer (env : Outside) (request : ConnectionRequest) (s : ServerState) : Option PeerId :=
  ((s.transport.removePending request.remoteAddr).allocatePeerId env.allocateFuel).map (·.1)

/-- `accept` returns the id it has allocated, or fails. -/
lemma acceptedPeer_eq (env : Outside) (request : ConnectionRequest) (s : ServerState) :
    s.acceptedPeer env request = s.allocatedPeer env request ∨ s.acceptedPeer env request = none := by
  unfold acceptedPeer allocatedPeer
  cases haccept : accept env.allocateFuel request (s.transport.world env.io) with
  | error => exact .inr rfl
  | ok peerId w =>
    refine .inl ?_
    rw [accept] at haccept
    obtain ⟨_, _, hremoved, haccept⟩ := ok_of_bind_ok haccept
    cases hremoved
    obtain ⟨_, _, hget, haccept⟩ := ok_of_bind_ok haccept
    cases hget
    cases hallocate : (s.transport.removePending request.remoteAddr).allocatePeerId env.allocateFuel with
    | none =>
      dsimp only [TransportHandle.world] at haccept
      rw [hallocate] at haccept
      cases haccept
      rfl
    | some allocated =>
      obtain ⟨id, handle⟩ := allocated
      dsimp only [TransportHandle.world] at haccept
      rw [hallocate] at haccept
      obtain ⟨_, _, -, haccept⟩ := ok_of_bind_ok haccept
      obtain ⟨_, _, -, haccept⟩ := ok_of_bind_ok haccept
      cases haccept
      rfl

lemma mem_peers_call_reject {reason : String} {other : PeerId} :
    other ∈ (s.call (.reject request reason) env).transport.peers ↔ other ∈ s.transport.peers := by
  rw [transport_call_reject]
  rfl

/-- The peer that is allocated is live, whatever becomes of the answer. -/
lemma mem_peers_call_accept {other : PeerId} :
    other ∈ (s.call (.accept env.allocateFuel request) env).transport.peers ↔
      s.allocatedPeer env request = some other ∨ other ∈ s.transport.peers := by
  have hrun : Op.run (.accept env.allocateFuel request) = (accept env.allocateFuel request >>= fun _ => pure ()) := rfl
  have hcall : (s.call (.accept env.allocateFuel request) env).transport =
      (final (accept env.allocateFuel request) (s.transport.world env.io)).handle := by
    rw [call, TransportHandle.outcome, hrun, final_bind_pure]
  rw [hcall, allocatedPeer]
  cases hallocate : (s.transport.removePending request.remoteAddr).allocatePeerId env.allocateFuel with
  | none =>
    rw [handle_accept_of_none hallocate]
    simp [TransportHandle.removePending, TransportHandle.world]
  | some allocated =>
    obtain ⟨id, handle⟩ := allocated
    obtain ⟨-, hpeers, -⟩ := allocatePeerId_spec hallocate
    rw [handle_accept hallocate]
    change other ∈ handle.peers.insert id _ ↔ _
    rw [AList.mem_insert, hpeers, Option.map_some, Option.some.injEq, eq_comm]
    rfl

/-- A new peer waits for its identity to be proved, or is entered at once. -/
lemma greet_cases (env : Outside) (peerId : PeerId) (ready : ReadyMessage) (s : ServerState) :
    (s.config.useAuthIdentity = true ∧
      Posted { s with pendingIdentity := s.pendingIdentity.insert peerId ready } (s.greet env peerId ready)) ∨
    (s.config.useAuthIdentity = false ∧ Posted (s.entered peerId ready) (s.greet env peerId ready)) := by
  unfold greet
  split
  next h => exact .inl ⟨h, _, rfl⟩
  next h => exact .inr ⟨Bool.not_eq_true _ ▸ h, posted_finalizeAccept env peerId ready s⟩

/-- A request changes the transport and the roster. -/
lemma exists_handleConnectionRequest (env : Outside) (request : ConnectionRequest) (s : ServerState) :
    ∃ transport authenticatedPeers pendingIdentity permissions avatarSync,
      Posted { s with transport, authenticatedPeers, pendingIdentity, permissions, avatarSync }
        (s.handleConnectionRequest env request) := by
  cases hadmission : s.admission request with
  | error reason =>
    rw [handleConnectionRequest_of_refused hadmission]
    exact ⟨_, _, _, _, _, .refl _⟩
  | ok ready =>
    cases haccepted : s.acceptedPeer env request with
    | none =>
      rw [handleConnectionRequest_of_none hadmission haccepted]
      exact ⟨_, _, _, _, _, .refl _⟩
    | some peerId =>
      rw [handleConnectionRequest_of_some hadmission haccepted]
      rcases greet_cases env peerId ready (s.call (.accept env.allocateFuel request) env) with ⟨-, h⟩ | ⟨-, h⟩
      · exact ⟨_, _, _, _, _, h⟩
      · exact ⟨_, _, _, _, _, h⟩

end Requests

end ServerState

/-! ### A small outside -/

/-- Nothing is compressed, no text is JSON, every file can be written. -/
def plainOutside : Outside where
  allocateFuel := 1
  json := { toString := fun _ => "", fromStr := fun _ => none }
  deflate := some
  challenge := []
  statusText := ""
  timestamp := ""
  saved := true

def readyOf (uuid : String) : ReadyMessage :=
  ⟨⟨uuid, uuid, "pc"⟩, ⟨0, [], 0⟩, ⟨0, List.replicate BitQuality.veryLow.payloadLen 0, [], 0⟩⟩

/-- A client without a password, from a port of the local host. -/
def requestOf (port : UInt16) (uuid : String) : ConnectionRequest where
  remoteAddr := .v4 #v[127, 0, 0, 2] port
  payload := putU16 serverVersion ++ BytesMessage.serialize ⟨[]⟩ ++ (readyOf uuid).serialize
  connectionNumber := 0
  connectTime := 0
  localPeerId := 0

def handles (event : ServerEvent) : Label := .handle plainOutside event

/-- Two clients come in. -/
def twoClients : List Label :=
  [handles (.connectionRequest (requestOf 1 "a")), handles (.connectionRequest (requestOf 2 "b"))]

/-- A message that came in order. -/
def messageOf (peer : PeerId) (channel : UInt8) (payload : Bytes) : Label :=
  handles (.message peer channel .reliableOrdered payload)

/-- A server without password and challenge. -/
def openConfig : ServerConfig := { password := "", useAuthIdentity := false }

lemma run_of_enabled {s : ServerState} (ls : List Label)
    (h : ∀ tr ∈ trace ServerState.next s ls, tr.src.Enabled tr.label) :
    Run ServerState.Steps s (trace ServerState.next s ls) (ls.foldl ServerState.next s) :=
  Run.of_trace _ _ fun tr htr => ⟨h tr htr, dst_of_mem_trace htr⟩

end BasisRust.Core
