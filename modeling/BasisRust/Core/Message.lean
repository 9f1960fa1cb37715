import BasisRust.Core.Admin

/-!
# The message loop

`handle_message`: one handler for each arm of its `match` on the channel.  Errors are only logged; a message
that cannot be read is found out before anything else is done.
-/

namespace BasisRust.Core

open Lib Protocol Transport
open P2p Permissions Resources
open Server (ConnectedPeer)

/-- `PeerId` of the bits that are set, byte by byte. -/
def bitfieldIds (bytes : Bytes) : List PeerId :=
  bytes.zipIdx.flatMap fun (byte, byteIndex) =>
    ((List.range 8).filter fun bit => byte.toNat.testBit bit).map fun bit => UInt16.ofNat (byteIndex * 8 + bit)

/-- The bytes of the bit field behind their count. -/
def bitfieldBytes (payload : Bytes) : Option Bytes :=
  withRead getU16 payload none fun byteCount rest =>
    if rest.length < byteCount.toNat then none else some (rest.take byteCount.toNat)

/-- Only a large id is written with two bytes. -/
def isLargeId (peer : PeerId) : Bool := peer > 255

def voicePayload (peer : PeerId) (segment : Bytes) : Bytes :=
  ServerAudioSegmentMessage.serializeWithIdSize ⟨peer, segment⟩ (isLargeId peer)

namespace ServerState

/-- Goes on with the message that was read; nothing happens where none can be read. -/
def onParsed {α : Type} (read : ReadResult α) (payload : Bytes) (handle : α → ServerState) (s : ServerState) :
    ServerState :=
  match parse read payload with
  | some message => handle message
  | none => s

lemma onParsed_of {α : Type} {P : ServerState → Prop} {read : ReadResult α} {payload : Bytes}
    {handle : α → ServerState} {s : ServerState} (hself : P s) (h : ∀ message, P (handle message)) :
    P (s.onParsed read payload handle) := by
  unfold onParsed
  split
  next message _ => exact h message
  next => exact hself

/-- What is parsed satisfies the condition, where anything can be parsed. -/
lemma onParsed_iff {α : Type} {P : ServerState → Prop} {Q : α → Prop} {read : ReadResult α} {payload : Bytes}
    {handle : α → ServerState} {s : ServerState} (hself : P s) (h : ∀ message, P (handle message) ↔ Q message) :
    P (s.onParsed read payload handle) ↔ ∀ message, parse read payload = some message → Q message := by
  unfold onParsed
  cases parse read payload with
  | none => exact iff_of_true hself nofun
  | some message =>
    rw [h message]
    simp only [Option.some.injEq, forall_eq']

/-! ### Permissions of the sender -/

def hasProtectionPermission (peer : PeerId) (s : ServerState) : Bool :=
  match s.authenticatedPeers.lookup peer with
  | none => false
  | some peerState => PermissionManager.has s.permissions peerState.metadata.playerUuid nodes.protection

/-- A lock holds for a player who may not bypass it, and for anybody who is not authenticated. -/
def lockedFor (peer : PeerId) (locked : Bool) (node : String) (s : ServerState) : Bool :=
  match s.authenticatedPeers.lookup peer with
  | none => true
  | some peerState => locked && !PermissionManager.has s.permissions peerState.metadata.playerUuid node

def contentLocked (contentType : ContentShareType) (peer : PeerId) (s : ServerState) : Bool :=
  match contentType with
  | .avatar => s.lockedFor peer s.globalState.avatarsLocked nodes.resourceLockBypassAvatar
  | .prop => s.lockedFor peer s.globalState.propsLocked nodes.resourceLockBypassProp
  | .world => s.lockedFor peer s.globalState.worldsLocked nodes.resourceLockBypassWorld
  | .server => s.lockedFor peer s.globalState.serversLocked nodes.resourceLockBypassServer

def resourceLocked (resource : LocalLoadResource) (peer : PeerId) (s : ServerState) : Bool :=
  match resource.mode.toNat with
  | 0 => s.lockedFor peer s.globalState.propsLocked nodes.resourceLockBypassProp
  | 1 => s.lockedFor peer s.globalState.worldsLocked nodes.resourceLockBypassWorld
  | _ => true

/-! ### Players -/

def handleAuthIdentity (env : Outside) (peer : PeerId) (s : ServerState) : ServerState :=
  match s.pendingIdentity.lookup peer with
  | none => s
  | some ready => { s with pendingIdentity := s.pendingIdentity.erase peer }.finalizeAccept env peer ready

def handlePlayerAvatar (peer : PeerId) (channel : UInt8) (payload : Bytes) (s : ServerState) : ServerState :=
  { s with avatarSync := s.avatarSync.upsertFromChannelPayload peer channel payload }

def handleChat (peer : PeerId) (payload : Bytes) (s : ServerState) : ServerState :=
  s.onParsed ChatMessage.deserialize payload fun chat =>
    s.broadcast channels.chat .reliableOrdered (ServerChatMessage.serialize ⟨peer, chat⟩) none

def handleAvatarChangeMessage (peer : PeerId) (payload : Bytes) (s : ServerState) : ServerState :=
  s.onParsed ClientAvatarChangeMessage.deserialize payload fun avatar =>
    if s.globalState.avatarsLocked && !s.hasProtectionPermission peer then s
    else
      { s with
        authenticatedPeers := s.authenticatedPeers.modify peer fun peerState =>
          { peerState with ready.clientAvatarChangeMessage := avatar } }.broadcast
        channels.avatarChangeMessage .reliableOrdered (ServerAvatarChangeMessage.serialize ⟨peer, avatar⟩) (some peer)

/-! ### Net ids, resources, records -/

def handleNetIdAssign (peer : PeerId) (payload : Bytes) (s : ServerState) : ServerState :=
  s.onParsed NetIdMessage.deserialize payload fun request =>
    if request.playerId = "" then s
    else
      let existed := s.netIds.all.any fun e => e.1 = request.playerId
      let added := s.netIds.addOrFind request.playerId
      let message := ServerNetIdMessage.serialize ⟨request, ⟨added.1⟩⟩
      let s := { s with netIds := added.2 }
      if existed then s.send peer channels.netIdAssign message
      else s.broadcast channels.netIdAssign .reliableOrdered message none

/-- What `load_strategy` decides: the resource is loaded, or announced to be preloaded by everybody. -/
def addResource (resource : LocalLoadResource) (s : ServerState) : Bool × ResourceState :=
  if resource.loadStrategy = 2 then s.resources.startPreload resource s.authenticatedPeers.keys
  else s.resources.loadResource resource

def handleLoadResource (peer : PeerId) (payload : Bytes) (s : ServerState) : ServerState :=
  s.onParsed LocalLoadResource.deserialize payload fun resource =>
    match s.authenticatedPeers.lookup peer with
    | none => s
    | some peerState =>
      let resource := { resource with uuidOfCreator := peerState.metadata.playerUuid }
      if s.resourceLocked resource peer then s
      else
        let added := s.addResource resource
        let s := { s with resources := added.2 }
        if added.1 then s.broadcast channels.loadResource .reliableOrdered resource.serialize none else s

def handleUnloadResource (peer : PeerId) (payload : Bytes) (s : ServerState) : ServerState :=
  s.onParsed UnloadResource.deserialize payload fun request =>
    let unloaded := s.resources.unloadResource request.loadedNetId
    match unloaded.1 with
    | none => { s with resources := unloaded.2 }
    | some resource =>
      -- a locked resource is put back; its preload is over
      if resource.isAdminLocked && !s.hasProtectionPermission peer then
        { s with resources := (unloaded.2.loadResource resource).2 }
      else
        { s with resources := unloaded.2 }.broadcast channels.unloadResource .reliableOrdered request.serialize none

/-- A scene that everybody has preloaded takes the place of all others. -/
def unloadScenes (spawn : SpawnPreloadedMessage) (s : ServerState) : ServerState :=
  if s.resources.allResources.any fun resource => resource.loadedNetId = spawn.loadedNetId && resource.mode = 1 then
    let unloads := s.resources.allSceneUnloads
    unloads.1.foldl
      (fun s unload => s.broadcast channels.unloadResource .reliableOrdered (UnloadResource.serialize unload) none)
      { s with resources := unloads.2 }
  else s

def handlePreloadReady (peer : PeerId) (payload : Bytes) (s : ServerState) : ServerState :=
  s.onParsed PreloadReadyMessage.deserialize payload fun ready =>
    let marked := s.resources.markPreloadReady peer ready
    let s := { s with resources := marked.2 }
    match marked.1 with
    | none => s
    | some spawn => (s.unloadScenes spawn).broadcastSpawnPreloaded spawn

def handleStoreDatabase (env : Outside) (payload : Bytes) (s : ServerState) : ServerState :=
  s.onParsed (DatabasePrimitiveMessage.deserialize env.json) payload fun message =>
    let jsonPayload := (env.json.fromStr message.jsonPayload).getD (.string message.jsonPayload)
    { s with database := s.database.insert message.name ⟨message.name, jsonPayload⟩ }

def handleRequestStoreDatabase (env : Outside) (peer : PeerId) (payload : Bytes) (s : ServerState) : ServerState :=
  s.onParsed DataBaseRequest.deserialize payload fun request =>
    match s.database.lookup request.databaseId with
    | none => s
    | some data =>
      s.send peer channels.storeDatabase
        (DatabasePrimitiveMessage.serialize env.json ⟨data.name, env.json.toString data.jsonPayload⟩)

/-! ### Owners, shared content, cameras -/

def handleGetCurrentOwnerRequest (peer : PeerId) (payload : Bytes) (s : ServerState) : ServerState :=
  s.onParsed OwnershipTransferMessage.deserialize payload fun request =>
    let current := s.ownership.requestNewOrExisting request.ownershipId request.playerId
    { s with ownership := current.2 }.send peer channels.getCurrentOwnerRequest
      (OwnershipTransferMessage.serialize ⟨current.1, request.ownershipId⟩)

def handleChangeCurrentOwnerRequest (peer : PeerId) (payload : Bytes) (s : ServerState) : ServerState :=
  s.onParsed OwnershipTransferMessage.deserialize payload fun request =>
    let switched := s.ownership.switchOwnership request.ownershipId peer
    { s with ownership := switched.2 }.broadcast channels.changeCurrentOwnerRequest .reliableOrdered
      (OwnershipTransferMessage.serialize ⟨switched.1, request.ownershipId⟩) none

def handleRemoveCurrentOwnerRequest (payload : Bytes) (s : ServerState) : ServerState :=
  s.onParsed OwnershipTransferMessage.deserialize payload fun request =>
    let removed := s.ownership.removeIfOwner request.ownershipId request.playerId
    let s := { s with ownership := removed.2 }
    if removed.1 then s.broadcast channels.removeCurrentOwnerRequest .reliableOrdered request.serialize none else s

def handleContentShare (peer : PeerId) (payload : Bytes) (s : ServerState) : ServerState :=
  s.onParsed ContentShareMessage.deserialize payload fun request =>
    if s.contentLocked request.contentType peer then s
    else
      match s.authenticatedPeers.lookup peer with
      | none => s
      | some peerState =>
        let added :=
          s.contentShare.add peer peerState.metadata.playerUuid peerState.metadata.playerDisplayName request
        let s := { s with contentShare := added.2 }
        match added.1 with
        | none => s
        | some message => s.broadcast channels.contentShare .reliableOrdered message.serialize none

def handleContentShareCleanup (peer : PeerId) (payload : Bytes) (s : ServerState) : ServerState :=
  s.onParsed ContentShareCleanupMessage.deserialize payload fun request =>
    let removed := s.contentShare.remove peer request
    let s := { s with contentShare := removed.2 }
    match removed.1 with
    | none => s
    | some message => s.broadcast channels.contentShareCleanup .reliableOrdered message.serialize none

def handleCameraPipState (peer : PeerId) (payload : Bytes) (s : ServerState) : ServerState :=
  s.onParsed ClientCameraPipStateMessage.deserialize payload fun request =>
    let changed := s.pip.stateChange peer request
    { s with pip := changed.2 }.broadcast channels.cameraPipState .reliableOrdered changed.1.serialize (some peer)

def handleCameraPipPosition (peer : PeerId) (payload : Bytes) (s : ServerState) : ServerState :=
  s.onParsed ClientCameraPipPositionMessage.deserialize payload fun request =>
    let updated := s.pip.positionUpdate peer request
    let s := { s with pip := updated.2 }
    match updated.1 with
    | none => s
    | some message => s.broadcast channels.cameraPipPosition .sequenced message.serialize (some peer)

/-! ### Signals and statistics -/

def handleP2p (peer : PeerId) (payload : Bytes) (s : ServerState) : ServerState :=
  let handled := s.p2pBroker.handleSignal (fun id => id ∈ s.authenticatedPeers) peer payload
  { s with p2pBroker := handled.1 }.post handled.2

def handleStatisticsRequest (env : Outside) (peer : PeerId) (payload : Bytes) (s : ServerState) : ServerState :=
  if lastOr getBool payload false then
    s.send peer channels.serverStatistics (ServerStatisticMessage.serialize ⟨asBytes env.statusText⟩)
  else s

/-! ### Voice -/

def setVoiceRecipients (peer : PeerId) (recipients : List PeerId) (s : ServerState) : ServerState :=
  { s with voiceRecipients := s.voiceRecipients.insert peer recipients }

def updateVoiceRecipients (peer : PeerId) (payload : Bytes) (largeCount inverted : Bool) (s : ServerState) :
    ServerState :=
  s.onParsed (VoiceReceiversMessage.deserialize largeCount) payload fun message =>
    s.setVoiceRecipients peer
      (if inverted then s.authenticatedPeers.keys.filter fun id => id ≠ peer && id ∉ message.users
       else message.users.filter fun id => id ≠ peer && id ∈ s.authenticatedPeers)

def updateVoiceRecipientsBitfield (peer : PeerId) (payload : Bytes) (s : ServerState) : ServerState :=
  match bitfieldBytes payload with
  | none => s
  | some bytes =>
    s.setVoiceRecipients peer ((bitfieldIds bytes).filter fun id => id ≠ peer && id ∈ s.authenticatedPeers)

def relayVoiceMessage (peer : PeerId) (payload : Bytes) (s : ServerState) : ServerState :=
  match s.voiceRecipients.lookup peer with
  | none => s
  | some recipients =>
    let channel := if isLargeId peer then channels.voiceLarge else channels.voice
    s.post ((recipients.filter fun recipient => !s.p2pBroker.isOffloaded peer recipient).map fun recipient =>
      .send recipient channel .unreliable (voicePayload peer payload))

def relayShoutVoiceMessage (peer : PeerId) (payload : Bytes) (s : ServerState) : ServerState :=
  let channel := if isLargeId peer then channels.voiceLarge else channels.shoutVoice
  s.broadcast channel .unreliable (voicePayload peer payload) (some peer)

/-! ### Data of avatars and scenes, events -/

def sendToRecipientsOrBroadcast (peer : PeerId) (delivery : DeliveryMethod) (channel : UInt8) (payload : Bytes)
    (recipients : List PeerId) (s : ServerState) : ServerState :=
  if recipients = [] then s.broadcast channel delivery payload (some peer)
  else
    s.post ((recipients.filter fun recipient =>
      recipient ≠ peer && recipient ∈ s.authenticatedPeers &&
        !(isP2pOffloadChannel channel && s.p2pBroker.isOffloaded peer recipient)).map fun recipient =>
      .send recipient channel delivery payload)

def relayAvatarGeneric (peer : PeerId) (delivery : DeliveryMethod) (payload : Bytes) (s : ServerState) :
    ServerState :=
  s.onParsed AvatarDataMessage.deserialize payload fun avatar =>
    s.sendToRecipientsOrBroadcast peer delivery channels.avatar
      (ServerAvatarDataMessage.serialize
        ⟨peer, ⟨avatar.playerId, avatar.avatarLinkIndex, avatar.messageIndex, avatar.payload⟩⟩) avatar.recipients

def relaySceneGeneric (peer : PeerId) (delivery : DeliveryMethod) (payload : Bytes) (s : ServerState) :
    ServerState :=
  s.onParsed SceneDataMessage.deserialize payload fun scene =>
    s.sendToRecipientsOrBroadcast peer delivery channels.scene
      (ServerSceneDataMessage.serialize ⟨peer, ⟨scene.messageIndex, scene.payload⟩⟩) scene.recipients

def relayEvent (peer : PeerId) (payload : Bytes) (s : ServerState) : ServerState :=
  match payload with
  | [] => s
  | eventType :: rest =>
    if eventType = channels.eventTypeCameraShutterSound then
      s.broadcast channels.events .sequenced
        (putU8 eventType ++ CameraShutterSoundMessage.serialize ⟨peer⟩) (some peer)
    else if eventType = channels.eventTypeCameraCountdown then
      s.onParsed ClientCameraCountdownMessage.deserialize rest fun countdown =>
        s.broadcast channels.events .sequenced
          (putU8 eventType ++ CameraCountdownMessage.serialize ⟨peer, countdown.seconds⟩) (some peer)
    else if eventType = channels.eventTypePlayerTempBlock then
      withRead getU16 rest s fun target rest => withRead getU8 rest s fun blocked _ =>
        if target ∈ s.authenticatedPeers then
          s.send target channels.events (putU8 eventType ++ putU16 peer ++ putBool (blocked ≠ 0))
        else s
    else s

end ServerState

/-! ### The match on the channel -/

/-- The arms of the `match`. -/
inductive Arm where
  | authIdentity
  | playerAvatar
  | chat
  | avatarChangeMessage
  | netIdAssign
  | loadResource
  | unloadResource
  | preloadReady
  | storeDatabase
  | requestStoreDatabase
  | getCurrentOwnerRequest
  | changeCurrentOwnerRequest
  | removeCurrentOwnerRequest
  | contentShare
  | contentShareCleanup
  | cameraPipState
  | cameraPipPosition
  | admin
  | p2p
  | serverStatistics
  | audioRecipients (largeCount inverted : Bool)
  | audioRecipientsBitfield
  | voice
  | shoutVoice
  | avatar
  | scene
  | events
  | serverBound
  | unknown
  deriving DecidableEq, Repr

/-- The channels of avatar updates. -/
def isPlayerAvatar (channel : UInt8) : Bool :=
  (channels.playerAvatarVeryLow ≤ channel && channel ≤ channels.playerAvatarHighAdditional) ||
    (channels.playerAvatarVeryLowLarge ≤ channel && channel ≤ channels.playerAvatarHighAdditionalLarge)

def armOf (channel : UInt8) : Arm :=
  if channel = channels.authIdentity then .authIdentity
  else if isPlayerAvatar channel then .playerAvatar
  else if channel = channels.chat then .chat
  else if channel = channels.avatarChangeMessage then .avatarChangeMessage
  else if channel = channels.netIdAssign then .netIdAssign
  else if channel = channels.loadResource then .loadResource
  else if channel = channels.unloadResource then .unloadResource
  else if channel = channels.preloadReady then .preloadReady
  else if channel = channels.storeDatabase then .storeDatabase
  else if channel = channels.requestStoreDatabase then .requestStoreDatabase
  else if channel = channels.getCurrentOwnerRequest then .getCurrentOwnerRequest
  else if channel = channels.changeCurrentOwnerRequest then .changeCurrentOwnerRequest
  else if channel = channels.removeCurrentOwnerRequest then .removeCurrentOwnerRequest
  else if channel = channels.contentShare then .contentShare
  else if channel = channels.contentShareCleanup then .contentShareCleanup
  else if channel = channels.cameraPipState then .cameraPipState
  else if channel = channels.cameraPipPosition then .cameraPipPosition
  else if channel = channels.admin then .admin
  else if channel = channels.p2p then .p2p
  else if channel = channels.serverStatistics then .serverStatistics
  else if channel = channels.audioRecipients then .audioRecipients false false
  else if channel = channels.audioRecipientsLarge then .audioRecipients true false
  else if channel = channels.audioRecipientsInverted then .audioRecipients false true
  else if channel = channels.audioRecipientsInvertedLarge then .audioRecipients true true
  else if channel = channels.audioRecipientsBitfield then .audioRecipientsBitfield
  else if channel = channels.voice ∨ channel = channels.voiceLarge then .voice
  else if channel = channels.shoutVoice then .shoutVoice
  else if channel = channels.avatar then .avatar
  else if channel = channels.scene then .scene
  else if channel = channels.events then .events
  else if channel = channels.serverBound then .serverBound
  else .unknown

namespace ServerState

/-- The body of the arm. -/
def handleArm (env : Outside) (peer : PeerId) (channel : UInt8) (delivery : DeliveryMethod) (payload : Bytes)
    (s : ServerState) : Arm → ServerState
  | .authIdentity => s.handleAuthIdentity env peer
  | .playerAvatar => s.handlePlayerAvatar peer channel payload
  | .chat => s.handleChat peer payload
  | .avatarChangeMessage => s.handleAvatarChangeMessage peer payload
  | .netIdAssign => s.handleNetIdAssign peer payload
  | .loadResource => s.handleLoadResource peer payload
  | .unloadResource => s.handleUnloadResource peer payload
  | .preloadReady => s.handlePreloadReady peer payload
  | .storeDatabase => s.handleStoreDatabase env payload
  | .requestStoreDatabase => s.handleRequestStoreDatabase env peer payload
  | .getCurrentOwnerRequest => s.handleGetCurrentOwnerRequest peer payload
  | .changeCurrentOwnerRequest => s.handleChangeCurrentOwnerRequest peer payload
  | .removeCurrentOwnerRequest => s.handleRemoveCurrentOwnerRequest payload
  | .contentShare => s.handleContentShare peer payload
  | .contentShareCleanup => s.handleContentShareCleanup peer payload
  | .cameraPipState => s.handleCameraPipState peer payload
  | .cameraPipPosition => s.handleCameraPipPosition peer payload
  | .admin => s.handleAdminMessage env peer payload
  | .p2p => s.handleP2p peer payload
  | .serverStatistics => s.handleStatisticsRequest env peer payload
  | .audioRecipients largeCount inverted => s.updateVoiceRecipients peer payload largeCount inverted
  | .audioRecipientsBitfield => s.updateVoiceRecipientsBitfield peer payload
  | .voice => s.relayVoiceMessage peer payload
  | .shoutVoice => s.relayShoutVoiceMessage peer payload
  | .avatar => s.relayAvatarGeneric peer delivery payload
  | .scene => s.relaySceneGeneric peer delivery payload
  | .events => s.relayEvent peer payload
  | .serverBound => s.broadcast channel delivery payload (some peer)
  | .unknown => s

def handleMessage (env : Outside) (peer : PeerId) (channel : UInt8) (delivery : DeliveryMethod) (payload : Bytes)
    (s : ServerState) : ServerState :=
  s.handleArm env peer channel delivery payload (armOf channel)

/-! ### Events -/

def handleNatIntroductionRequest (remoteAddr localAddr : SocketAddr) (token : String) (s : ServerState) :
    ServerState :=
  if s.config.natPunchEnabled then
    let handled := s.p2pBroker.handleNatIntroductionRequest localAddr remoteAddr token
    { s with p2pBroker := handled.1 }.post handled.2
  else s

/-- The answer to an unconnected request changes nothing. -/
def handleEvent (env : Outside) (event : ServerEvent) (s : ServerState) : ServerState :=
  match event with
  | .connectionRequest request => s.handleConnectionRequest env request
  | .peerDisconnected peer _ => s.handleDisconnect env peer
  | .message peer channel delivery payload => s.handleMessage env peer channel delivery payload
  | .natIntroductionRequest remoteAddr localAddr token => s.handleNatIntroductionRequest remoteAddr localAddr token
  | .unconnectedRequest _ _ _ | .networkError _ | .peerConnected _ => s

end ServerState

lemma channel_of_armOf_authIdentity {channel : UInt8} (h : armOf channel = .authIdentity) :
    channel = channels.authIdentity := by
  revert h
  fun_cases armOf channel
  case case1 hchannel => exact fun _ => hchannel
  all_goals
    intro h
    cases h

lemma channel_of_armOf_admin {channel : UInt8} (h : armOf channel = .admin) : channel = channels.admin := by
  revert h
  fun_cases armOf channel
  case case18 hchannel => exact fun _ => hchannel
  all_goals
    intro h
    cases h

end BasisRust.Core
