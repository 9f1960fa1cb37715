import BasisRust.Core.State

/-!
# Logging in and leaving

`handle_connection_request` with the checks in front of `accept`, `finalize_accept` with what it sends, and
`handle_disconnect`.
-/

namespace BasisRust.Core

open Lib Protocol Transport
open Admin Avatar P2p Permissions Resources
open Server (ConnectedPeer isHeadlessPlatform spawnBytes)

/-! ### Encodings -/

def encodeLockStatePayload (locks : GlobalState) : Bytes :=
  AdminRequest.serialize ⟨.globalGetLockState⟩ ++
  putBool locks.avatarsLocked ++
  putBool locks.propsLocked ++
  putBool locks.worldsLocked ++
  putBool locks.serversLocked ++
  putBool locks.thirdPersonDisabled ++
  putBool locks.additionalAvatarDataLock

def encodeBoolAdminStatePayload (mode : AdminRequestMode) (value : Bool) : Bytes :=
  AdminRequest.serialize ⟨mode⟩ ++ putBool value

def encodeU8AdminStatePayload (mode : AdminRequestMode) (value : UInt8) : Bytes :=
  AdminRequest.serialize ⟨mode⟩ ++ putU8 value

def encodeUserOpusBitrateOverridePayload (value : Int32) : Bytes :=
  AdminRequest.serialize ⟨.userOpusBitrateOverride⟩ ++ putI32 value

/-- `LocalAvatarSyncMessage::serialize_for_channel` -/
def serializeForChannel (m : LocalAvatarSyncMessage) (hasAdditionalData : Bool) : Bytes :=
  putBytes m.array ++
    if hasAdditionalData then
      putU8 (UInt8.ofNat m.additionalAvatarDatas.length) ++ putU8 m.linkedAvatarIndex ++
        m.additionalAvatarDatas.flatMap AdditionalAvatarData.serialize
    else []

/-! ### The checks -/

def passwordMatches (serverPassword : String) (authBytes : Bytes) : Bool :=
  if serverPassword = "" then true
  else if authBytes = [] then false
  else authBytes = asBytes serverPassword

/-- A check that is passed unless the condition holds. -/
def refuseIf (condition : Bool) (reason : String) : Except String Unit :=
  if condition then .error reason else .ok ()

/-- A field of the request; the client is refused where it cannot be read. -/
def readOr {α : Type} (read : ReadResult α) (reader : NetReader) (reason : String) : Except String (α × NetReader) :=
  match read reader with
  | .ok a reader => .ok (a, reader)
  | .error _ _ => .error reason

namespace ServerState

/-- What `handle_connection_request` asks before `accept`. -/
def admission (request : ConnectionRequest) (s : ServerState) : Except String ReadyMessage := do
  let config := s.config
  refuseIf (s.moderation.isIpBanned (ipText request.remoteAddr)) "Banned IP"
  refuseIf (s.playerCount ≥ asUsize config.peerLimit) "Server is full! Rejected."
  let (clientVersion, reader) ← readOr getU16 request.payload "Invalid client data."
  refuseIf (clientVersion < serverVersion) "Outdated client version."
  let (auth, reader) ← readOr BytesMessage.deserialize reader "Malformed auth payload"
  refuseIf (config.useAuth && !passwordMatches config.password auth.data) "Authentication failed, Auth rejected"
  let (ready, _) ← readOr ReadyMessage.deserialize reader "Malformed ready payload"
  let uuid := ready.playerMetaDataMessage.playerUuid
  refuseIf (s.globalState.disallowHeadless && isHeadlessPlatform ready.playerMetaDataMessage.playerPlatform)
    "Headless client disallowed by server."
  refuseIf (s.moderation.isUuidBanned uuid) "Banned"
  refuseIf (config.basisUserRestrictionMode = .whiteList && !s.moderation.isWhitelisted uuid)
    "You are not on the whitelist."
  refuseIf (config.basisUserRestrictionMode = .blackList && s.moderation.isBlacklisted uuid)
    "You are on the blacklist."
  return ready

/-! ### `finalize_accept` -/

def cacheInitialAvatarSync (peerId : PeerId) (ready : ReadyMessage) (s : ServerState) : ServerState :=
  let sync := ready.localAvatarSyncMessage
  let hasAdditional := !sync.additionalAvatarDatas.isEmpty
  let channel := playerAvatarChannelForQuality sync.dataQualityLevel hasAdditional
  { s with
    avatarSync := s.avatarSync.upsertFromChannelPayload peerId channel
      (putU8 0 ++ serializeForChannel sync hasAdditional) }

/-- `send_initial_admin_state_to_peer` -/
def sendInitialAdminStateToPeer (peerId : PeerId) (s : ServerState) : ServerState :=
  let globals := s.globalState
  s.post ([encodeLockStatePayload globals,
    encodeBoolAdminStatePayload .globalGetHeadlessAudioState globals.headlessAudioOff,
    encodeBoolAdminStatePayload .globalGetHeadlessDisallowState globals.disallowHeadless,
    encodeU8AdminStatePayload .globalGetOpusPacketLossState globals.opusPacketLossPercent,
    encodeU8AdminStatePayload .globalGetOpusFrameDurationState globals.opusFrameDurationMs,
    encodeUserOpusBitrateOverridePayload 0].map fun payload => .send peerId channels.admin .reliableOrdered payload)

/-- What a late joiner is told of what the players share. -/
def lateJoinMessages (s : ServerState) : List (UInt8 × Bytes) :=
  let netIds := s.netIds.all.map fun (name, id) => (⟨⟨name⟩, ⟨id⟩⟩ : ServerNetIdMessage)
  (if netIds = [] then [] else [(channels.netIdAssigns, ServerUniqueIdMessages.serialize ⟨netIds⟩)]) ++
  (s.resources.allResources.map fun resource =>
    let resource := if resource.loadStrategy = 2 then { resource with loadStrategy := 0 } else resource
    (channels.loadResource, resource.serialize)) ++
  (s.ownership.all.map fun ownership => (channels.getCurrentOwnerRequest, ownership.serialize)) ++
  (s.contentShare.all.map fun sphere => (channels.contentShare, sphere.serialize)) ++
  (s.pip.allActive.map fun pip => (channels.cameraPipState, pip.serialize))

def replayLateJoinState (peerId : PeerId) (s : ServerState) : ServerState :=
  (s.post (s.lateJoinMessages.map fun (channel, payload) =>
    .send peerId channel .reliableOrdered payload)).sendInitialAdminStateToPeer peerId

def sendAcceptFanout (peerId : PeerId) (ready : ReadyMessage) (s : ServerState) : ServerState :=
  let s := s.broadcast channels.createRemotePlayer .reliableOrdered (spawnBytes peerId ready) (some peerId)
  let existing := s.authenticatedPeers.entries.filter fun e => e.1 ≠ peerId
  (s.post (existing.map fun e =>
    .send peerId channels.createRemotePlayersForNewPeer .reliableOrdered
      (spawnBytes e.1 e.2.ready))).replayLateJoinState peerId

/-- The peer takes its place among the authenticated ones. -/
def enter (peerId : PeerId) (ready : ReadyMessage) (s : ServerState) : ServerState :=
  { s with
    permissions := PermissionManager.getOrCreateUser ready.playerMetaDataMessage.playerUuid s.permissions
    authenticatedPeers := s.authenticatedPeers.insert peerId
      { id := peerId, metadata := ready.playerMetaDataMessage, ready } }

def serverMetaData (ready : ReadyMessage) (s : ServerState) : ServerMetaDataMessage :=
  let uuid := ready.playerMetaDataMessage.playerUuid
  { clientMetaDataMessage := ready.playerMetaDataMessage
    syncInterval := s.config.bsrsmillisecondDefaultInterval
    baseMultiplier := s.config.bsrbaseMultiplier
    increaseRate := s.config.bsrsincreaseRate
    slowestSendRate := s.config.bsrslowestSendRate
    peerLimit := s.config.peerLimit
    allowedPermissions := PermissionManager.allowedRules s.permissions uuid
    deniedPermissions := PermissionManager.deniedRules s.permissions uuid }

def finalizeAccept (env : Outside) (peerId : PeerId) (ready : ReadyMessage) (s : ServerState) : ServerState :=
  let s := s.enter peerId ready
  let s := s.send peerId channels.metaData ((s.serverMetaData ready).serialize env.deflate)
  let s := s.cacheInitialAvatarSync peerId ready
  s.sendAcceptFanout peerId ready

/-! ### `handle_connection_request` -/

/-- After `accept` has returned the peer. -/
def greet (env : Outside) (peerId : PeerId) (ready : ReadyMessage) (s : ServerState) : ServerState :=
  if s.config.useAuthIdentity then
    let s := { s with pendingIdentity := s.pendingIdentity.insert peerId ready }
    s.send peerId channels.authIdentity (BytesMessage.serialize ⟨env.challenge⟩)
  else s.finalizeAccept env peerId ready

def handleConnectionRequest (env : Outside) (request : ConnectionRequest) (s : ServerState) : ServerState :=
  match s.admission request with
  | .error reason => s.call (.reject request reason) env
  | .ok ready =>
    let s' := s.call (.accept env.allocateFuel request) env
    match accept env.allocateFuel request (s.transport.world env.io) with
    | .ok (some peerId) _ => s'.greet env peerId ready
    | _ => s'

/-! ### `handle_disconnect` -/

/-- Messages about a player who leaves, for everybody else. -/
def announce (peer : PeerId) (channel : UInt8) (payloads : List Bytes) (s : ServerState) : ServerState :=
  payloads.foldl (fun s payload => s.broadcast channel .reliableOrdered payload (some peer)) s

def broadcastSpawnPreloaded (spawn : SpawnPreloadedMessage) (s : ServerState) : ServerState :=
  s.broadcast channels.spawnPreloaded .reliableOrdered spawn.serialize none

/-- The last player has left: nothing that was shared stays, but for persistent resources. -/
def resetShared (s : ServerState) : ServerState :=
  let unloads := s.resources.resetNonPersistent
  let s : ServerState := unloads.1.foldl
    (fun s unload => s.broadcast channels.unloadResource .reliableOrdered (UnloadResource.serialize unload) none)
    { s with resources := unloads.2 }
  { s with netIds := {}, ownership := {}, contentShare := {}, pip := {} }

/-- The part for a player who was authenticated. -/
def leaveRoster (peer : PeerId) (s : ServerState) : ServerState :=
  if peer ∈ s.authenticatedPeers then
    let spawns := s.resources.removePreloadPeer peer
    let s : ServerState := spawns.1.foldl (fun s spawn => s.broadcastSpawnPreloaded spawn)
      { s with authenticatedPeers := s.authenticatedPeers.erase peer, resources := spawns.2 }
    let s := s.broadcast channels.disconnection .reliableOrdered (putU16 peer) (some peer)
    if s.playerCount = 0 then s.resetShared else s
  else s

/-- The peer's P2P sessions end. -/
def leaveP2p (peer : PeerId) (s : ServerState) : ServerState :=
  let removed := s.p2pBroker.removePeer peer
  { s with p2pBroker := removed.1 }.post removed.2

/-- What is kept of the peer alone, which nobody is told of. -/
def forgetPeer (peer : PeerId) (s : ServerState) : ServerState :=
  { s with
    pendingIdentity := s.pendingIdentity.erase peer
    voiceRecipients := s.voiceRecipients.erase peer
    avatarSync := s.avatarSync.removePlayer peer }

def leaveOwnership (peer : PeerId) (s : ServerState) : ServerState :=
  let removed := s.ownership.removePlayer peer
  { s with ownership := removed.2 }.announce peer channels.removeCurrentOwnerRequest
    (removed.1.map OwnershipTransferMessage.serialize)

def leaveContentShare (peer : PeerId) (s : ServerState) : ServerState :=
  let removed := s.contentShare.removePlayer peer
  { s with contentShare := removed.2 }.announce peer channels.contentShareCleanup
    (removed.1.map ServerContentShareCleanupMessage.serialize)

def leavePip (peer : PeerId) (s : ServerState) : ServerState :=
  let destroyed := s.pip.removePlayer peer
  { s with pip := destroyed.2 }.announce peer channels.cameraPipState
    (destroyed.1.toList.map CameraPipStateMessage.serialize)

def handleDisconnect (env : Outside) (peer : PeerId) (s : ServerState) : ServerState :=
  let s := (((s.leaveP2p peer).forgetPeer peer).leaveOwnership peer).leaveContentShare peer
  ((s.leavePip peer).leaveRoster peer).call (.recyclePeerId peer) env

end ServerState
end BasisRust.Core
