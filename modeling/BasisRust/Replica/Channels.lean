import BasisRust.Replica.Told

/-!
# On which channels a handler answers

Every arm of the message loop sends on a few channels of its own and on no others; entering and leaving the roster
are told apart, as they tell about every store.
-/

namespace BasisRust.Replica

open Lib Protocol Transport
open BasisRust.Core P2p Permissions

/-- The channels an arm may use, other than by letting a player in. -/
def armChannels : Arm → List UInt8
  | .authIdentity | .playerAvatar | .storeDatabase | .audioRecipients _ _ | .audioRecipientsBitfield | .unknown => []
  | .chat => [channels.chat]
  | .avatarChangeMessage => [channels.avatarChangeMessage]
  | .netIdAssign => [channels.netIdAssign]
  | .loadResource => [channels.loadResource]
  | .unloadResource => [channels.unloadResource]
  | .preloadReady => [channels.unloadResource, channels.spawnPreloaded]
  | .requestStoreDatabase => [channels.storeDatabase]
  | .getCurrentOwnerRequest => [channels.getCurrentOwnerRequest]
  | .changeCurrentOwnerRequest => [channels.changeCurrentOwnerRequest]
  | .removeCurrentOwnerRequest => [channels.removeCurrentOwnerRequest]
  | .contentShare => [channels.contentShare]
  | .contentShareCleanup => [channels.contentShareCleanup]
  | .cameraPipState => [channels.cameraPipState]
  | .cameraPipPosition => [channels.cameraPipPosition]
  | .admin => [channels.admin]
  | .p2p => [channels.p2p]
  | .serverStatistics => [channels.serverStatistics]
  | .voice => [channels.voice, channels.voiceLarge]
  | .shoutVoice => [channels.shoutVoice, channels.voiceLarge]
  | .avatar => [channels.avatar]
  | .scene => [channels.scene]
  | .events => [channels.events]
  | .serverBound => [channels.serverBound]

variable {used : List UInt8} {s : ServerState}

/-! ### The broker -/

lemma isOn_handleSignal (isAuthenticated : PeerId → Bool) (sender : PeerId) (payload : Bytes) (broker : P2pBroker) :
    ∀ message ∈ (broker.handleSignal isAuthenticated sender payload).2, ServerState.IsOn [channels.p2p] message := by
  have hsub (peer : PeerId) (sub : UInt8) (token : String) (other : PeerId) :
      ServerState.IsOn [channels.p2p] (sendSub peer sub token other) := List.mem_singleton_self _
  have hnone : ∀ message ∈ ([] : List Outgoing), ServerState.IsOn [channels.p2p] message :=
    fun _ h => absurd h List.not_mem_nil
  have hone (peer : PeerId) (sub : UInt8) (token : String) (other : PeerId) :
      ∀ message ∈ [sendSub peer sub token other], ServerState.IsOn [channels.p2p] message :=
    List.forall_mem_singleton.mpr (hsub peer sub token other)
  cases payload with
  | nil => exact hnone
  | cons sub rest =>
    rw [P2pBroker.handleSignal]
    split
    next => exact hnone
    next message _ _ =>
      split_ifs
      · unfold P2pBroker.handleRequest
        split_ifs
        · exact hnone
        · exact hone _ _ _ _
        · exact List.forall_mem_cons.mpr ⟨hsub _ _ _ _, hone _ _ _ _⟩
      · unfold P2pBroker.handleAccept
        split
        next => exact hnone
        next =>
          split_ifs
          · exact hnone
          · exact hone _ _ _ _
      · exact hone _ _ _ _
      · exact hone _ _ _ _
      · exact hone _ _ _ _
      · exact hnone
      · exact hnone

/-- An introduction is no message for a peer. -/
lemma heardBy_handleNatIntroductionRequest (localAddr remoteAddr : SocketAddr) (token : String) (broker : P2pBroker)
    (p : PeerId) : (broker.handleNatIntroductionRequest localAddr remoteAddr token).2.filterMap (heardBy p) = [] := by
  unfold P2pBroker.handleNatIntroductionRequest
  split
  · rfl
  · split
    next => rfl
    next =>
      split_ifs
      · rfl
      · rfl
      · dsimp only
        split <;> rfl

/-! ### Administration -/

section Administration

variable (env : Outside) (peer : PeerId)

/-- What is sent in an admin request is sent on its channel. -/
lemma tells_sendAdminText (target : PeerId) (message : String) (s : ServerState) :
    Tells [channels.admin] s (s.sendAdminText target message) := by
  unfold ServerState.sendAdminText
  split
  next => exact .refl _ s
  next => exact .send (List.mem_singleton_self _) _ _ s

lemma tells_updatePermissions (change : PermissionStore → PermissionStore) (s : ServerState) :
    Tells [channels.admin] s (s.updatePermissions peer change) := tells_sendAdminText peer "Permission updated" _

lemma tells_foldl_disconnect (reason : String) (targets : List PeerId) (s : ServerState) :
    Tells used s (targets.foldl (ServerState.disconnect env reason) s) := by
  induction targets generalizing s with
  | nil => exact .refl used s
  | cons target targets ih => exact ih (s.disconnect env reason target)

lemma tells_disconnectUuid (uuid reason : String) (s : ServerState) : Tells used s (s.disconnectUuid env uuid reason) := by
  unfold ServerState.disconnectUuid
  split <;> exact .refl used s

lemma tells_ban (uuid reason : String) (ip : Option String) (s : ServerState) :
    Tells used s (s.ban env uuid reason ip) := by
  unfold ServerState.ban
  dsimp only
  split
  next => exact tells_disconnectUuid env uuid reason _
  next => exact .refl used s

theorem tells_handleAdminRequest (mode : AdminRequestMode) (reader : NetReader) (s : ServerState) :
    Tells [channels.admin] s (s.handleAdminRequest env peer mode reader) := by
  have hadmin : channels.admin ∈ [channels.admin] := List.mem_singleton_self _
  cases mode
  case globalToggleAvatars | globalToggleProps | globalToggleWorlds | globalToggleServers
    | globalToggleThirdPerson | globalToggleAdditionalAvatarDataLock | setGlobalHeadlessAudio
    | setGlobalOpusPacketLoss | setGlobalOpusFrameDuration =>
    exact .broadcast hadmin _ _ _ _
  case messageAll | teleportAll | enableShoutMode | disableShoutMode => exact .broadcast hadmin _ _ _ s
  case setGlobalHeadlessDisallow =>
    unfold ServerState.handleAdminRequest
    dsimp only
    split
    next => exact .trans (.broadcast hadmin _ _ _ _) (tells_foldl_disconnect env _ _ _)
    next => exact .broadcast hadmin _ _ _ _
  case setUserGroup | setUserNode | setGroupNode | setGroupParent =>
    exact .withRead fun _ _ => .withRead fun _ _ => tells_updatePermissions peer _ s
  case createGroup | deleteGroup => exact .withRead fun _ _ => tells_updatePermissions peer _ s
  case message | addDefaultLibraryItem | removeDefaultLibraryItem => exact tells_sendAdminText _ _ s
  case ban | ipAndBan => exact .withRead fun _ _ => tells_ban env _ _ _ s
  case kick => exact .withRead fun _ _ => tells_disconnectUuid env _ _ s
  case unBan | unBanIP | addWhitelist | removeWhitelist => exact .withRead fun _ _ => .refl _ s
  case setServerName | setServerMotd | setWhitelistMode | userOpusBitrateOverride => exact .refl _ s
  all_goals exact .send hadmin _ _ s

end Administration

/-! ### All arms -/

section Arms

variable (env : Outside) (peer : PeerId) (payload : Bytes) (s : ServerState)

lemma tells_unloadScenes (spawn : SpawnPreloadedMessage) :
    Tells [channels.unloadResource, channels.spawnPreloaded] s (s.unloadScenes spawn) := by
  unfold ServerState.unloadScenes
  split
  next => exact .foldl_broadcast List.mem_cons_self _ UnloadResource.serialize _ _ _
  next => exact .refl _ s

lemma tells_handlePreloadReady :
    Tells [channels.unloadResource, channels.spawnPreloaded] s (s.handlePreloadReady peer payload) := by
  refine .onParsed fun ready => ?_
  dsimp only
  split
  next => exact .refl _ s
  next spawn _ =>
    have htold := tells_unloadScenes { s with resources := (s.resources.markPreloadReady peer ready).2 } spawn
    exact .trans htold (.broadcast (List.mem_cons_of_mem _ (List.mem_singleton_self _)) _ _ _ _)

lemma tells_sendToRecipientsOrBroadcast {channel : UInt8} (h : channel ∈ used) (delivery : DeliveryMethod)
    (recipients : List PeerId) :
    Tells used s (s.sendToRecipientsOrBroadcast peer delivery channel payload recipients) := by
  unfold ServerState.sendToRecipientsOrBroadcast
  split
  next => exact .broadcast h _ _ _ s
  next =>
    refine .postOn (fun message hmessage => ?_) s
    obtain ⟨recipient, -, rfl⟩ := List.mem_map.mp hmessage
    exact h

lemma tells_relayVoiceMessage :
    Tells [channels.voice, channels.voiceLarge] s (s.relayVoiceMessage peer payload) := by
  unfold ServerState.relayVoiceMessage
  split
  next => exact .refl _ s
  next recipients _ =>
    refine .postOn (fun message hmessage => ?_) s
    obtain ⟨recipient, -, rfl⟩ := List.mem_map.mp hmessage
    change (if isLargeId peer then channels.voiceLarge else channels.voice) ∈ [channels.voice, channels.voiceLarge]
    split <;> decide

lemma tells_relayShoutVoiceMessage :
    Tells [channels.shoutVoice, channels.voiceLarge] s (s.relayShoutVoiceMessage peer payload) := by
  refine .broadcast ?_ _ _ _ s
  split <;> decide

lemma tells_updateVoiceRecipientsBitfield : Tells [] s (s.updateVoiceRecipientsBitfield peer payload) := by
  unfold ServerState.updateVoiceRecipientsBitfield
  split <;> exact .refl _ s

lemma tells_handleStatisticsRequest :
    Tells [channels.serverStatistics] s (s.handleStatisticsRequest env peer payload) := by
  unfold ServerState.handleStatisticsRequest
  split
  next => exact .send (List.mem_singleton_self _) _ _ s
  next => exact .refl _ s

lemma tells_relayEvent : Tells [channels.events] s (s.relayEvent peer payload) := by
  have hevents : channels.events ∈ [channels.events] := List.mem_singleton_self _
  cases payload with
  | nil => exact .refl _ s
  | cons eventType rest =>
    rw [ServerState.relayEvent]
    split_ifs
    · exact .broadcast hevents _ _ _ s
    · exact .onParsed fun _ => .broadcast hevents _ _ _ s
    · refine .withRead fun target rest => .withRead fun blocked _ => ?_
      split
      next => exact .send hevents _ _ s
      next => exact .refl _ s
    · exact .refl _ s

lemma channel_of_armOf_serverBound {channel : UInt8} (h : armOf channel = .serverBound) :
    channel = channels.serverBound := by
  revert h
  fun_cases armOf channel
  case case31 hchannel => exact fun _ => hchannel
  all_goals
    intro h
    cases h

/-- **An arm answers on its own channels.** -/
theorem tells_handleArm {channel : UInt8} (delivery : DeliveryMethod) {arm : Arm} (harm : armOf channel = arm)
    (hauth : arm ≠ .authIdentity) :
    Tells (armChannels arm) s (s.handleArm env peer channel delivery payload arm) := by
  cases arm with
  | authIdentity => exact absurd rfl hauth
  | playerAvatar | unknown => exact .refl _ s
  | storeDatabase => exact .onParsed fun _ => .refl _ s
  | audioRecipients => exact .onParsed fun _ => .refl _ s
  | audioRecipientsBitfield => exact tells_updateVoiceRecipientsBitfield peer payload s
  | chat => exact .onParsed fun _ => .broadcast (List.mem_singleton_self _) _ _ _ s
  | avatarChangeMessage =>
    refine .onParsed fun _ => ?_
    split
    next => exact .refl _ s
    next => exact .broadcast (List.mem_singleton_self _) _ _ _ _
  | netIdAssign =>
    refine .onParsed fun _ => ?_
    dsimp only
    split_ifs
    · exact .refl _ s
    · exact .send (List.mem_singleton_self _) _ _ _
    · exact .broadcast (List.mem_singleton_self _) _ _ _ _
  | loadResource =>
    refine .onParsed fun _ => ?_
    split
    next => exact .refl _ s
    next =>
      dsimp only
      split_ifs
      · exact .refl _ s
      · exact .broadcast (List.mem_singleton_self _) _ _ _ _
      · exact .refl _ s
  | unloadResource =>
    refine .onParsed fun _ => ?_
    dsimp only
    split
    next => exact .refl _ s
    next =>
      split_ifs
      · exact .refl _ s
      · exact .broadcast (List.mem_singleton_self _) _ _ _ _
  | preloadReady => exact tells_handlePreloadReady peer payload s
  | requestStoreDatabase =>
    refine .onParsed fun _ => ?_
    split
    next => exact .refl _ s
    next => exact .send (List.mem_singleton_self _) _ _ s
  | getCurrentOwnerRequest => exact .onParsed fun _ => .send (List.mem_singleton_self _) _ _ _
  | changeCurrentOwnerRequest => exact .onParsed fun _ => .broadcast (List.mem_singleton_self _) _ _ _ _
  | removeCurrentOwnerRequest =>
    refine .onParsed fun _ => ?_
    dsimp only
    split
    next => exact .broadcast (List.mem_singleton_self _) _ _ _ _
    next => exact .refl _ s
  | contentShare =>
    refine .onParsed fun _ => ?_
    split
    next => exact .refl _ s
    next =>
      split
      next => exact .refl _ s
      next =>
        dsimp only
        split
        next => exact .refl _ s
        next => exact .broadcast (List.mem_singleton_self _) _ _ _ _
  | contentShareCleanup =>
    refine .onParsed fun _ => ?_
    dsimp only
    split
    next => exact .refl _ s
    next => exact .broadcast (List.mem_singleton_self _) _ _ _ _
  | cameraPipState => exact .onParsed fun _ => .broadcast (List.mem_singleton_self _) _ _ _ _
  | cameraPipPosition =>
    refine .onParsed fun _ => ?_
    dsimp only
    split
    next => exact .refl _ s
    next => exact .broadcast (List.mem_singleton_self _) _ _ _ _
  | admin => exact .withRead fun _ _ => tells_handleAdminRequest env peer _ _ s
  | p2p => exact .postOn (isOn_handleSignal _ peer payload s.p2pBroker) _
  | serverStatistics => exact tells_handleStatisticsRequest env peer payload s
  | voice => exact tells_relayVoiceMessage peer payload s
  | shoutVoice => exact tells_relayShoutVoiceMessage peer payload s
  | avatar => exact .onParsed fun _ => tells_sendToRecipientsOrBroadcast peer _ s (List.mem_singleton_self _) _ _
  | scene => exact .onParsed fun _ => tells_sendToRecipientsOrBroadcast peer _ s (List.mem_singleton_self _) _ _
  | events => exact tells_relayEvent peer payload s
  | serverBound =>
    rw [channel_of_armOf_serverBound harm]
    exact .broadcast (List.mem_singleton_self _) _ _ _ s

/-- An arm never sends the metadata that starts a session. -/
lemma metaData_notMem_armChannels (arm : Arm) : channels.metaData ∉ armChannels arm := by
  cases arm with
  | audioRecipients => exact List.not_mem_nil
  | _ => decide

end Arms

end BasisRust.Replica
