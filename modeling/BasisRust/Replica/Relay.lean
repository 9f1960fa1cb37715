import BasisRust.Replica.Follow

/-!
# What is passed on

Chat, voice, the data of avatars and scenes, and events are passed on and not kept.  `relay` says from the side of a
player what it gets of a message that somebody sends: whether it is addressed, how often, and under whose name.  Over
a run a player hears exactly that, in the order in which the server takes the messages.
-/

namespace BasisRust.Replica

open Lib Protocol Transport
open BasisRust.Core P2p Resources

/-- The channels of what is passed on. -/
def relayChannels : List UInt8 :=
  [channels.chat, channels.voice, channels.voiceLarge, channels.shoutVoice, channels.avatar, channels.scene,
    channels.events]

/-- What a peer has been sent on these channels, in all its sessions. -/
def relayed (p : PeerId) (s : ServerState) : List (UInt8 × Bytes) :=
  (s.sent.filterMap (heardBy p)).filter fun r => r.1 ∈ relayChannels

/-! ### From the side of a player -/

section Relay

variable (p q : PeerId) (s : ServerState)

/-- The pair no longer goes through the server on the channel. -/
def offloadedOn (channel : UInt8) : Bool := isP2pOffloadChannel channel && s.p2pBroker.isOffloaded q p

/-- What a player gets of a broadcast that leaves its sender out. -/
def toOthers (channel : UInt8) (payload : Bytes) : List (UInt8 × Bytes) :=
  if p = q ∨ offloadedOn p q s channel then [] else [(channel, payload)]

/-- What a player gets of a message with recipients: one copy each time it is named, or one of a broadcast. -/
def toRecipients (channel : UInt8) (payload : Bytes) (recipients : List PeerId) : List (UInt8 × Bytes) :=
  if recipients = [] then toOthers p q s channel payload
  else if p = q ∨ offloadedOn p q s channel then []
  else List.replicate (recipients.count p) (channel, payload)

/-- The channel of a speaker's voice. -/
def voiceChannel : UInt8 := if isLargeId q then channels.voiceLarge else channels.voice

def shoutChannel : UInt8 := if isLargeId q then channels.voiceLarge else channels.shoutVoice

/-- What a player gets of an event. -/
def eventTo : Bytes → List (UInt8 × Bytes)
  | [] => []
  | eventType :: rest =>
    if eventType = channels.eventTypeCameraShutterSound then
      toOthers p q s channels.events (putU8 eventType ++ CameraShutterSoundMessage.serialize ⟨q⟩)
    else if eventType = channels.eventTypeCameraCountdown then
      match parse ClientCameraCountdownMessage.deserialize rest with
      | some countdown =>
        toOthers p q s channels.events (putU8 eventType ++ CameraCountdownMessage.serialize ⟨q, countdown.seconds⟩)
      | none => []
    else if eventType = channels.eventTypePlayerTempBlock then
      withRead getU16 rest [] fun target rest => withRead getU8 rest [] fun blocked _ =>
        if target = p then [(channels.events, putU8 eventType ++ putU16 q ++ putBool (blocked ≠ 0))] else []
    else []

/-- What the player gets of a message that `q` sends. -/
def relay (payload : Bytes) : Arm → List (UInt8 × Bytes)
  | .chat =>
    match parse ChatMessage.deserialize payload with
    | some chat => [(channels.chat, ServerChatMessage.serialize ⟨q, chat⟩)]
    | none => []
  | .voice =>
    if s.p2pBroker.isOffloaded q p then []
    else
      List.replicate (((s.voiceRecipients.lookup q).getD []).count p) (voiceChannel q, voicePayload q payload)
  | .shoutVoice => toOthers p q s (shoutChannel q) (voicePayload q payload)
  | .avatar =>
    match parse AvatarDataMessage.deserialize payload with
    | some avatar =>
      toRecipients p q s channels.avatar (ServerAvatarDataMessage.serialize
        ⟨q, ⟨avatar.playerId, avatar.avatarLinkIndex, avatar.messageIndex, avatar.payload⟩⟩) avatar.recipients
    | none => []
  | .scene =>
    match parse SceneDataMessage.deserialize payload with
    | some scene =>
      toRecipients p q s channels.scene
        (ServerSceneDataMessage.serialize ⟨q, ⟨scene.messageIndex, scene.payload⟩⟩) scene.recipients
    | none => []
  | .events => eventTo p q s payload
  | _ => []

/-- What the player gets of a step. -/
def passedOn : Label → List (UInt8 × Bytes)
  | .handle _ (.message q channel _ payload) => relay p q s payload (armOf channel)
  | _ => []

end Relay

variable {p q : PeerId} {s s' : ServerState} {used : List UInt8}

/-! ### What is heard of one posting -/

/-- Everything else is sent on other channels. -/
lemma Tells.relayed (h : Tells used s s') (hused : ∀ channel ∈ used, channel ∉ relayChannels) (p : PeerId) :
    relayed p s' = relayed p s := by
  obtain ⟨messages, hsent, hmessages⟩ := h
  unfold Replica.relayed
  rw [hsent, List.filterMap_append, List.filter_append]
  refine (congrArg _ (List.filter_eq_nil_iff.mpr fun r hr => ?_)).trans (List.append_nil _)
  exact fun hrelay => hused r.1 (hmessages p r hr) (of_decide_eq_true hrelay)

lemma relayed_post (hp : p ∈ s.transport.peers) {messages : List Outgoing} {news : List (UInt8 × Bytes)}
    (hheard : messages.filterMap (heardBy p) = news) (hnews : ∀ r ∈ news, r.1 ∈ relayChannels) :
    relayed p (s.post messages) = relayed p s ++ news := by
  unfold relayed
  rw [heard_post hp, hheard, List.filter_append]
  exact congrArg _ (List.filter_eq_self.mpr fun r hr => decide_eq_true (hnews r hr))

/-- A player is kept among the targets if it is somebody else who still hears through the server. -/
lemma kept_iff {channel : UInt8} :
    (decide (p ≠ q) && !offloadedOn p q s channel) = true ↔ ¬ (p = q ∨ offloadedOn p q s channel) := by
  rw [Bool.and_eq_true, decide_eq_true_eq, Bool.not_eq_true', not_or, Bool.not_eq_true]

lemma mem_audience_some {channel : UInt8} :
    p ∈ s.audience channel (some q) ↔ p ∈ s.authenticatedPeers ∧ ¬ (p = q ∨ offloadedOn p q s channel) := by
  rw [← kept_iff]
  unfold ServerState.audience
  rw [List.mem_filter]
  refine and_congr_right fun _ => ?_
  simp only [Option.any_some, ne_eq, Option.some.injEq]
  rfl

lemma filterMap_toOthers (hauth : p ∈ s.authenticatedPeers) (channel : UInt8) (delivery : DeliveryMethod)
    (payload : Bytes) :
    ((s.audience channel (some q)).map fun target =>
      Outgoing.send target channel delivery payload).filterMap (heardBy p) = toOthers p q s channel payload := by
  rw [filterMap_targets (nodup_audience channel (some q) s)]
  unfold toOthers
  by_cases h : p = q ∨ offloadedOn p q s channel
  · rw [if_pos h, if_neg fun hmem => (mem_audience_some.mp hmem).2 h]
  · rw [if_neg h, if_pos (mem_audience_some.mpr ⟨hauth, h⟩)]

lemma channel_of_toOthers {channel : UInt8} {payload : Bytes} :
    ∀ r ∈ toOthers p q s channel payload, r.1 = channel := by
  intro r hr
  unfold toOthers at hr
  split at hr
  next => cases hr
  next => exact congrArg Prod.fst (List.mem_singleton.mp hr)

/-- A broadcast that leaves its sender out. -/
lemma relayed_broadcast (hp : p ∈ s.transport.peers) (hauth : p ∈ s.authenticatedPeers) {channel : UInt8}
    (hchannel : channel ∈ relayChannels) (delivery : DeliveryMethod) (payload : Bytes) :
    relayed p (s.broadcast channel delivery payload (some q)) = relayed p s ++ toOthers p q s channel payload :=
  relayed_post hp (filterMap_toOthers hauth channel delivery payload)
    fun r hr => channel_of_toOthers r hr ▸ hchannel

/-- One message to each target, however often it is named. -/
lemma filterMap_copies (targets : List PeerId) (channel : UInt8) (delivery : DeliveryMethod) (payload : Bytes) :
    (targets.map fun target => Outgoing.send target channel delivery payload).filterMap (heardBy p) =
      List.replicate (targets.count p) (channel, payload) := by
  induction targets with
  | nil => rfl
  | cons target targets ih =>
    rw [List.map_cons, List.count_cons]
    by_cases htarget : target = p
    · rw [htarget, List.filterMap_cons_some (heardBy_send_self channel delivery payload), ih, beq_self_eq_true,
        if_pos rfl, List.replicate_succ]
    · rw [List.filterMap_cons_none (heardBy_of_ne htarget channel delivery payload), ih, beq_false_of_ne htarget,
        if_neg Bool.false_ne_true, Nat.add_zero]

lemma relayed_sendToRecipients (hp : p ∈ s.transport.peers) (hauth : p ∈ s.authenticatedPeers) {channel : UInt8}
    (hchannel : channel ∈ relayChannels) (delivery : DeliveryMethod) (payload : Bytes) (recipients : List PeerId) :
    relayed p (s.sendToRecipientsOrBroadcast q delivery channel payload recipients) =
      relayed p s ++ toRecipients p q s channel payload recipients := by
  unfold ServerState.sendToRecipientsOrBroadcast toRecipients
  split
  next => exact relayed_broadcast hp hauth hchannel delivery payload
  next =>
    refine relayed_post hp ?_ fun r hr => ?_
    · rw [filterMap_copies]
      by_cases h : p = q ∨ offloadedOn p q s channel
      · rw [if_pos h, List.count_eq_zero_of_not_mem]
        · rfl
        · intro hmem
          obtain ⟨-, hmem⟩ := List.mem_filter.mp hmem
          unfold offloadedOn at h
          simp only [ne_eq, Bool.and_eq_true, decide_eq_true_eq, Bool.not_eq_true'] at hmem
          rcases h with h | h
          · exact hmem.1.1 h
          · rw [hmem.2] at h
            cases h
      · have hkept : (decide (p ≠ q) && decide (p ∈ s.authenticatedPeers) && !offloadedOn p q s channel) = true := by
          rw [decide_eq_true hauth, Bool.and_true]
          exact kept_iff.mpr h
        have hcount := List.count_filter (l := recipients) (p := fun recipient =>
          decide (recipient ≠ q) && decide (recipient ∈ s.authenticatedPeers) && !offloadedOn recipient q s channel) hkept
        rw [if_neg h]
        exact congrArg (List.replicate · _) hcount
    · split at hr
      next => cases hr
      next => exact (List.eq_of_mem_replicate hr) ▸ hchannel

/-! ### One handler -/

/-- Everything but passing on happens on other channels. -/
lemma relayed_of_tells (h : Tells used s s') (hused : ∀ channel ∈ used, channel ∉ relayChannels) (p : PeerId) :
    relayed p s' = relayed p s ++ [] := by
  rw [List.append_nil, h.relayed hused p]

lemma voiceChannel_mem_relayChannels (q : PeerId) : voiceChannel q ∈ relayChannels := by
  unfold voiceChannel
  split <;> decide

lemma shoutChannel_mem_relayChannels (q : PeerId) : shoutChannel q ∈ relayChannels := by
  unfold shoutChannel
  split <;> decide

lemma relayed_relayVoiceMessage (hp : p ∈ s.transport.peers) (payload : Bytes) :
    relayed p (s.relayVoiceMessage q payload) = relayed p s ++ relay p q s payload .voice := by
  unfold ServerState.relayVoiceMessage relay
  cases hrecipients : s.voiceRecipients.lookup q with
  | none =>
    change relayed p s = relayed p s ++ ite _ _ _
    simp only [Option.getD_none, List.count_nil, List.replicate_zero, ite_self, List.append_nil]
  | some recipients =>
    have hheard := filterMap_copies (p := p) (recipients.filter fun recipient => !s.p2pBroker.isOffloaded q recipient)
      (voiceChannel q) .unreliable (voicePayload q payload)
    by_cases hoff : s.p2pBroker.isOffloaded q p = true
    · rw [List.count_eq_zero_of_not_mem fun hmem => by
        have hkept := (List.mem_filter.mp hmem).2
        rw [hoff] at hkept
        cases hkept] at hheard
      rw [if_pos hoff]
      exact relayed_post hp hheard fun r hr => absurd hr List.not_mem_nil
    · have hkept : (!s.p2pBroker.isOffloaded q p) = true := by
        rw [Bool.not_eq_true] at hoff
        rw [hoff]
        rfl
      rw [List.count_filter (p := fun recipient => !s.p2pBroker.isOffloaded q recipient) hkept] at hheard
      rw [if_neg hoff]
      refine relayed_post hp hheard fun r hr => ?_
      rw [List.eq_of_mem_replicate hr]
      exact voiceChannel_mem_relayChannels q

lemma relayed_relayEvent (hp : p ∈ s.transport.peers) (hauth : p ∈ s.authenticatedPeers) (payload : Bytes) :
    relayed p (s.relayEvent q payload) = relayed p s ++ eventTo p q s payload := by
  have hevents : channels.events ∈ relayChannels := by decide
  cases payload with
  | nil => exact (List.append_nil _).symm
  | cons eventType rest =>
    rw [ServerState.relayEvent, eventTo]
    split_ifs
    · exact relayed_broadcast hp hauth hevents _ _
    · unfold ServerState.onParsed
      cases parse ClientCameraCountdownMessage.deserialize rest with
      | none => exact (List.append_nil _).symm
      | some countdown => exact relayed_broadcast hp hauth hevents _ _
    · unfold withRead
      cases getU16 rest with
      | error => exact (List.append_nil _).symm
      | ok target rest =>
        dsimp only
        cases getU8 rest with
        | error => exact (List.append_nil _).symm
        | ok blocked rest =>
          dsimp only
          by_cases htarget : target = p
          · subst htarget
            rw [if_pos hauth, if_pos rfl]
            refine relayed_post hp ?_ (List.forall_mem_singleton.mpr hevents)
            exact filterMap_send_self id .reliableOrdered [(channels.events, _)]
          · rw [if_neg htarget]
            split
            next =>
              refine relayed_post hp ?_ fun r hr => absurd hr List.not_mem_nil
              exact filterMap_eq_nil_of_ne (List.forall_mem_singleton.mpr (heardBy_of_ne htarget _ _ _))
            next => exact (List.append_nil _).symm
    · exact (List.append_nil _).symm

/-- **A player hears of a message what is for it.** -/
theorem relayed_handleArm (env : Outside) (hp : p ∈ s.transport.peers) (hauth : p ∈ s.authenticatedPeers)
    {channel : UInt8} (delivery : DeliveryMethod) (payload : Bytes) {arm : Arm} (harm : armOf channel = arm)
    (hidentity : arm ≠ .authIdentity) :
    relayed p (s.handleArm env q channel delivery payload arm) = relayed p s ++ relay p q s payload arm := by
  have hother (hused : ∀ used ∈ armChannels arm, used ∉ relayChannels) :
      relayed p (s.handleArm env q channel delivery payload arm) = relayed p s ++ [] :=
    relayed_of_tells (tells_handleArm env q payload s delivery harm hidentity) hused p
  cases arm with
  | chat =>
    change relayed p (s.handleChat q payload) = _
    unfold ServerState.handleChat ServerState.onParsed relay
    cases parse ChatMessage.deserialize payload with
    | none => exact (List.append_nil _).symm
    | some chat =>
      have hheard := filterMap_targets (p := p) (nodup_audience channels.chat none s) channels.chat .reliableOrdered
        (ServerChatMessage.serialize ⟨q, chat⟩)
      have hmem : p ∈ s.audience channels.chat none := (mem_audience (by decide)).mpr ⟨hauth, Option.some_ne_none p⟩
      rw [if_pos hmem] at hheard
      refine relayed_post hp hheard (List.forall_mem_singleton.mpr ?_)
      exact List.mem_cons_self
  | voice => exact relayed_relayVoiceMessage hp payload
  | shoutVoice => exact relayed_broadcast hp hauth (shoutChannel_mem_relayChannels q) _ _
  | avatar =>
    change relayed p (s.relayAvatarGeneric q delivery payload) = _
    unfold ServerState.relayAvatarGeneric ServerState.onParsed relay
    cases parse AvatarDataMessage.deserialize payload with
    | none => exact (List.append_nil _).symm
    | some avatar => exact relayed_sendToRecipients hp hauth (by decide) _ _ _
  | scene =>
    change relayed p (s.relaySceneGeneric q delivery payload) = _
    unfold ServerState.relaySceneGeneric ServerState.onParsed relay
    cases parse SceneDataMessage.deserialize payload with
    | none => exact (List.append_nil _).symm
    | some scene => exact relayed_sendToRecipients hp hauth (by decide) _ _ _
  | events => exact relayed_relayEvent hp hauth payload
  | authIdentity => exact absurd rfl hidentity
  | audioRecipients => exact hother fun _ h => absurd h List.not_mem_nil
  | _ => exact hother (by decide)

/-! ### Entering and leaving -/

/-- The channels on which a player is let in. -/
def enteringChannels : List UInt8 :=
  [channels.metaData, channels.createRemotePlayer, channels.createRemotePlayersForNewPeer, channels.netIdAssigns,
    channels.loadResource, channels.getCurrentOwnerRequest, channels.contentShare, channels.cameraPipState,
    channels.admin]

lemma tells_finalizeAccept (env : Outside) (q : PeerId) (ready : ReadyMessage) (s : ServerState) :
    Tells enteringChannels s (s.finalizeAccept env q ready) := by
  obtain ⟨metaData, heq⟩ := finalizeAccept_eq env q ready s
  rw [heq]
  have hentered : Tells enteringChannels s (s.entered q ready) := .refl _ s
  have htoPlayer (rs : List (UInt8 × Bytes)) (hrs : ∀ r ∈ rs, r.1 ∈ enteringChannels) (s : ServerState) :
      Tells enteringChannels s (s.post (rs.map (toPlayer q))) := by
    refine .postOn (fun message hmessage => ?_) s
    obtain ⟨r, hr, rfl⟩ := List.mem_map.mp hmessage
    exact hrs r hr
  refine .trans (.trans (.trans hentered ?_) (.broadcast (by decide) _ _ _ _)) (htoPlayer _ (fun r hr => ?_) _)
  · exact htoPlayer [(channels.metaData, metaData)] (List.forall_mem_singleton.mpr List.mem_cons_self) _
  · exact List.mem_cons_of_mem _ (List.mem_cons_of_mem _ (channel_of_welcome r hr))

lemma tells_leaveRoster (q : PeerId) (s : ServerState) :
    Tells [channels.spawnPreloaded, channels.disconnection, channels.unloadResource] s (s.leaveRoster q) := by
  unfold ServerState.leaveRoster
  split
  next =>
    dsimp only
    have hmem : channels.spawnPreloaded ∈ [channels.spawnPreloaded, channels.disconnection, channels.unloadResource] :=
      List.mem_cons_self
    have hspawned := Tells.foldl_broadcast hmem .reliableOrdered SpawnPreloadedMessage.serialize none
      (s.resources.removePreloadPeer q).1
      { s with authenticatedPeers := s.authenticatedPeers.erase q, resources := (s.resources.removePreloadPeer q).2 }
    have hgone := hspawned.trans (.broadcast (List.mem_cons_of_mem _ List.mem_cons_self) .reliableOrdered (putU16 q)
      (some q) _)
    split
    next =>
      refine .trans hgone ?_
      exact .foldl_broadcast (by decide) .reliableOrdered UnloadResource.serialize none _ _
    next => exact hgone
  next => exact .refl _ s

lemma tells_handleDisconnect (env : Outside) (q : PeerId) (s : ServerState) :
    Tells (Copy.leavingChannels ++ [channels.unloadResource]) s (s.handleDisconnect env q) := by
  have hposted := Tells.postedOn (ServerState.postedOn_leaveStores q s)
  unfold ServerState.handleDisconnect
  dsimp only
  generalize (((((s.leaveP2p q).forgetPeer q).leaveOwnership q).leaveContentShare q).leavePip q) = left at hposted ⊢
  have hstores : Tells ServerState.leaveChannels s left := hposted.of_sent rfl
  have hroster : Tells _ left ((left.leaveRoster q).call (.recyclePeerId q) env) := tells_leaveRoster q left
  exact .trans (hstores.mono (by decide)) (hroster.mono (by decide))

lemma tells_handleNatIntroductionRequest (remoteAddr localAddr : SocketAddr) (token : String) (s : ServerState) :
    Tells [] s (s.handleNatIntroductionRequest remoteAddr localAddr token) := by
  unfold ServerState.handleNatIntroductionRequest
  split
  next =>
    refine .of_sent (.post (fun p r hr => ?_) { s with
      p2pBroker := (s.p2pBroker.handleNatIntroductionRequest localAddr remoteAddr token).1 }) rfl
    rw [heardBy_handleNatIntroductionRequest] at hr
    exact absurd hr List.not_mem_nil
  next => exact .refl _ s

lemma tells_handleAuthIdentity (env : Outside) (q : PeerId) (s : ServerState) :
    Tells enteringChannels s (s.handleAuthIdentity env q) := by
  unfold ServerState.handleAuthIdentity
  split
  next => exact .refl _ s
  next ready _ =>
    exact .of_sent (tells_finalizeAccept env q ready { s with pendingIdentity := s.pendingIdentity.erase q }) rfl

lemma tells_handleConnectionRequest (env : Outside) (request : ConnectionRequest) (s : ServerState) :
    Tells (channels.authIdentity :: enteringChannels) s (s.handleConnectionRequest env request) := by
  cases hadmission : s.admission request with
  | error reason =>
    rw [ServerState.handleConnectionRequest_of_refused hadmission]
    exact .refl _ s
  | ok ready =>
    cases haccepted : s.acceptedPeer env request with
    | none =>
      rw [ServerState.handleConnectionRequest_of_none hadmission haccepted]
      exact .refl _ s
    | some q =>
      rw [ServerState.handleConnectionRequest_of_some hadmission haccepted]
      set accepted := s.call (.accept env.allocateFuel request) env
      refine Tells.of_sent (s := s) ?_ (rfl : accepted.sent = s.sent)
      unfold ServerState.greet
      split
      next =>
        exact .of_sent (.send List.mem_cons_self q (BytesMessage.serialize ⟨env.challenge⟩)
          { accepted with pendingIdentity := accepted.pendingIdentity.insert q ready }) rfl
      next => exact (tells_finalizeAccept env q ready accepted).mono (List.subset_cons_self _ _)

/-- What is no message of a player is told on other channels. -/
lemma tells_next {l : Label} (h : ∀ env q channel delivery payload, l ≠ .handle env (.message q channel delivery payload)) :
    Tells (channels.authIdentity :: channels.unloadResource :: enteringChannels ++ Copy.leavingChannels) s (s.next l) := by
  cases l with
  | transport l => exact .refl _ s
  | handle env event =>
    cases event with
    | connectionRequest request => exact (tells_handleConnectionRequest env request s).mono (by decide)
    | peerDisconnected q reason => exact (tells_handleDisconnect env q s).mono (by decide)
    | message q channel delivery payload => exact absurd rfl (h env q channel delivery payload)
    | natIntroductionRequest remoteAddr localAddr token =>
      exact (tells_handleNatIntroductionRequest remoteAddr localAddr token s).mono (List.nil_subset _)
    | unconnectedRequest | networkError | peerConnected => exact .refl _ s

/-! ### Runs -/

/-- **One step.** -/
theorem relayed_next (h : Stays p s) (l : Label) : relayed p (s.next l) = relayed p s ++ passedOn p s l := by
  have hother (h : ∀ env q channel delivery payload, l ≠ .handle env (.message q channel delivery payload)) :
      relayed p (s.next l) = relayed p s ++ [] := relayed_of_tells (tells_next h) (by decide) p
  cases l with
  | transport l => exact hother (by nofun)
  | handle env event =>
    cases event with
    | message q channel delivery payload =>
      change relayed p (s.handleMessage env q channel delivery payload) = _ ++ relay p q s payload (armOf channel)
      unfold ServerState.handleMessage
      by_cases hidentity : armOf channel = .authIdentity
      · rw [hidentity]
        exact relayed_of_tells (tells_handleAuthIdentity env q s) (by decide) p
      · exact relayed_handleArm env h.live h.auth delivery payload rfl hidentity
    | _ => exact hother (by nofun)

/-- **A player hears what is said.**  Over a run during which it is there, it is sent of each message exactly what
`relay` gives it, in the order in which the server takes the messages, and nothing else. -/
theorem player_hears_what_is_said {s₀ : ServerState} {ts : List (Transition ServerState Label)}
    (hrun : Run ServerState.Steps s₀ ts s) (hstays : ∀ tr ∈ ts, Stays p tr.src) :
    relayed p s = relayed p s₀ ++ ts.flatMap fun tr => passedOn p tr.src tr.label := by
  induction hrun with
  | nil => exact (List.append_nil _).symm
  | @snoc ts s l t hrun hstep ih =>
    rw [List.forall_mem_append, List.forall_mem_singleton] at hstays
    rw [hstep.2, relayed_next hstays.2, ih hstays.1, List.flatMap_append, List.flatMap_singleton, List.append_assoc]

/-- Two players have come. -/
def meeting : ServerState := twoClients.foldl ServerState.next (.start openConfig)

/-- They talk. -/
def talk : List Label :=
  [messageOf 1 channels.chat (ChatMessage.serialize ⟨asBytes "hello"⟩),
    messageOf 1 channels.audioRecipients [1, 0, 0],
    messageOf 1 channels.voice [7, 8, 9],
    messageOf 0 channels.voice [1],
    messageOf 1 channels.avatar (AvatarDataMessage.serialize ⟨5, 0, 1, [0, 0, 9], [4]⟩),
    messageOf 1 channels.scene (SceneDataMessage.serialize ⟨2, [], [6]⟩),
    messageOf 1 channels.events [channels.eventTypePlayerTempBlock, 0, 0, 1],
    messageOf 0 channels.events [channels.eventTypeCameraShutterSound]]

theorem player_hears_what_is_said_talk :
    relayed 0 (talk.foldl ServerState.next meeting) = relayed 0 meeting ++
      (trace ServerState.next meeting talk).flatMap (fun tr => passedOn 0 tr.src tr.label) :=
  player_hears_what_is_said (run_of_enabled talk (by decide +kernel)) (by decide +kernel)

/-! ### Who is speaking -/

/-- Whom a message names as its speaker, for a player who reads it. -/
def speaker : UInt8 × Bytes → Option PeerId
  | (channel, payload) =>
    if channel = channels.voice ∨ channel = channels.shoutVoice then (parse getU8 payload).map UInt8.toUInt16
    else if channel = channels.events then parse (getU8 >>= fun _ => getU16) payload
    else parse getU16 payload

/-- What is passed on is passed on in the name of `q`. -/
def SpokenBy (q : PeerId) (s s' : ServerState) : Prop :=
  ∃ messages, s'.sent = s.sent ++ messages ∧
    ∀ p, ∀ r ∈ messages.filterMap (heardBy p), r.1 ∈ relayChannels → speaker r = some q

theorem SpokenBy.refl (q : PeerId) (s : ServerState) : SpokenBy q s s :=
  ⟨[], (List.append_nil _).symm, fun _ _ h => absurd h List.not_mem_nil⟩

/-- Nothing is passed on. -/
theorem Tells.spokenBy (h : Tells used s s') (hused : ∀ channel ∈ used, channel ∉ relayChannels) (q : PeerId) :
    SpokenBy q s s' := by
  obtain ⟨messages, hsent, hmessages⟩ := h
  exact ⟨messages, hsent, fun p r hr hrelay => absurd hrelay (hused r.1 (hmessages p r hr))⟩

theorem SpokenBy.targets {channel : UInt8} {payload : Bytes} (h : speaker (channel, payload) = some q)
    (delivery : DeliveryMethod) (targets : List PeerId) (s : ServerState) :
    SpokenBy q s (s.post (targets.map fun target => .send target channel delivery payload)) := by
  refine ⟨_, rfl, fun p r hr _ => ?_⟩
  obtain ⟨message, hmessage, heard⟩ := List.mem_filterMap.mp hr
  obtain ⟨target, -, rfl⟩ := List.mem_map.mp (List.mem_filter.mp hmessage).1
  obtain ⟨-, heard⟩ := Option.ite_none_right_eq_some.mp heard
  rw [← Option.some.inj heard]
  exact h

theorem SpokenBy.onParsed {α : Type} {read : ReadResult α} {payload : Bytes} {handle : α → ServerState}
    (h : ∀ message, SpokenBy q s (handle message)) : SpokenBy q s (s.onParsed read payload handle) :=
  ServerState.onParsed_of (P := SpokenBy q s) (.refl q s) h

/-! The id in front. -/

lemma parse_getU16 (q : PeerId) (rest : Bytes) : parse getU16 (putU16 q ++ rest) = some q := by
  rw [parse, decodes_getU16 q rest]

lemma parse_getU8_getU16 (eventType : UInt8) (q : PeerId) (rest : Bytes) :
    parse (getU8 >>= fun _ => getU16) (putU8 eventType ++ putU16 q ++ rest) = some q := by
  rw [List.append_assoc]
  exact parse_bind (decodes_getU8 eventType) (parse_getU16 q rest)

/-- A small id fits into a byte. -/
lemma speaker_voice (q : PeerId) (segment : Bytes) {small : UInt8}
    (hsmall : small = channels.voice ∨ small = channels.shoutVoice) :
    speaker (if isLargeId q then channels.voiceLarge else small, voicePayload q segment) = some q := by
  unfold speaker voicePayload ServerAudioSegmentMessage.serializeWithIdSize
  cases hlarge : isLargeId q with
  | true => exact parse_getU16 q _
  | false =>
    have hle : ¬ q > 255 := of_decide_eq_false hlarge
    simp only [Bool.false_eq_true, if_false]
    rw [if_pos hsmall, parse, decodes_getU8]
    change some q.toUInt8.toUInt16 = some q
    congr 1
    apply UInt16.toNat_inj.mp
    have hle : q.toNat ≤ 255 := UInt16.le_iff_toNat_le.mp (UInt16.not_lt.mp hle)
    rw [UInt8.toNat_toUInt16, UInt16.toNat_toUInt8]
    exact Nat.mod_eq_of_lt (by omega)

lemma spokenBy_sendToRecipients {channel : UInt8} {payload : Bytes} (h : speaker (channel, payload) = some q)
    (delivery : DeliveryMethod) (recipients : List PeerId) (s : ServerState) :
    SpokenBy q s (s.sendToRecipientsOrBroadcast q delivery channel payload recipients) := by
  unfold ServerState.sendToRecipientsOrBroadcast
  split
  next => exact .targets h _ _ s
  next => exact .targets h _ _ s

lemma spokenBy_relayEvent (q : PeerId) (payload : Bytes) (s : ServerState) : SpokenBy q s (s.relayEvent q payload) := by
  have hspeaker (eventType : UInt8) (rest : Bytes) :
      speaker (channels.events, putU8 eventType ++ putU16 q ++ rest) = some q := parse_getU8_getU16 eventType q rest
  cases payload with
  | nil => exact .refl q s
  | cons eventType rest =>
    rw [ServerState.relayEvent]
    split_ifs
    · have hpayload := hspeaker eventType []
      rw [List.append_nil] at hpayload
      exact .targets hpayload _ _ s
    · refine .onParsed fun countdown => ?_
      have hpayload := hspeaker eventType (putU8 countdown.seconds)
      rw [List.append_assoc] at hpayload
      exact .targets hpayload _ _ s
    · refine withRead_of (P := SpokenBy q s) (.refl q s) fun target rest =>
        withRead_of (P := SpokenBy q s) (.refl q s) fun blocked _ => ?_
      split
      next => exact .targets (hspeaker eventType (putBool (blocked ≠ 0))) .reliableOrdered [target] s
      next => exact .refl q s
    · exact .refl q s

/-- An arm speaks for the one whose message it handles. -/
lemma spokenBy_handleArm (env : Outside) (q : PeerId) {channel : UInt8} (delivery : DeliveryMethod) (payload : Bytes)
    (s : ServerState) {arm : Arm} (harm : armOf channel = arm) (hidentity : arm ≠ .authIdentity) :
    SpokenBy q s (s.handleArm env q channel delivery payload arm) := by
  have hother (hused : ∀ used ∈ armChannels arm, used ∉ relayChannels) :
      SpokenBy q s (s.handleArm env q channel delivery payload arm) :=
    (tells_handleArm env q payload s delivery harm hidentity).spokenBy hused q
  have hchat (rest : Bytes) : speaker (channels.chat, putU16 q ++ rest) = some q := parse_getU16 q rest
  have havatar (rest : Bytes) : speaker (channels.avatar, putU16 q ++ rest) = some q := parse_getU16 q rest
  have hscene (rest : Bytes) : speaker (channels.scene, putU16 q ++ rest) = some q := parse_getU16 q rest
  cases arm with
  | chat => exact .onParsed fun chat => .targets (hchat _) _ _ s
  | voice =>
    change SpokenBy q s (s.relayVoiceMessage q payload)
    unfold ServerState.relayVoiceMessage
    split
    next => exact .refl q s
    next => exact .targets (speaker_voice q payload (.inl rfl)) _ _ s
  | shoutVoice => exact .targets (speaker_voice q payload (.inr rfl)) _ _ s
  | avatar => exact .onParsed fun avatar => spokenBy_sendToRecipients (havatar _) _ _ s
  | scene => exact .onParsed fun scene => spokenBy_sendToRecipients (hscene _) _ _ s
  | events => exact spokenBy_relayEvent q payload s
  | authIdentity => exact absurd rfl hidentity
  | audioRecipients => exact hother fun _ h => absurd h List.not_mem_nil
  | _ => exact hother (by decide)

/-- The step is a message of `q`. -/
def IsMessageOf (q : PeerId) : Label → Prop
  | .handle _ (.message sender _ _ _) => sender = q
  | _ => False

/-- What a step adds to what the player hears. -/
def heardIn (p : PeerId) (tr : Transition ServerState Label) : List (UInt8 × Bytes) :=
  (relayed p tr.dst).drop (relayed p tr.src).length

lemma SpokenBy.relayed (h : SpokenBy q s s') (p : PeerId) :
    ∃ news, Replica.relayed p s' = Replica.relayed p s ++ news ∧ ∀ r ∈ news, speaker r = some q := by
  obtain ⟨messages, hsent, hmessages⟩ := h
  unfold Replica.relayed
  rw [hsent, List.filterMap_append, List.filter_append]
  refine ⟨_, rfl, fun r hr => ?_⟩
  obtain ⟨hr, hrelay⟩ := List.mem_filter.mp hr
  exact hmessages p r hr (of_decide_eq_true hrelay)

lemma relayed_next_spoken (p : PeerId) (s : ServerState) (l : Label) :
    ∃ news, relayed p (s.next l) = relayed p s ++ news ∧ ∀ r ∈ news, ∃ q, IsMessageOf q l ∧ speaker r = some q := by
  have hother (h : ∀ env q channel delivery payload, l ≠ .handle env (.message q channel delivery payload)) :
      ∃ news, relayed p (s.next l) = relayed p s ++ news ∧ ∀ r ∈ news, ∃ q, IsMessageOf q l ∧ speaker r = some q :=
    ⟨[], relayed_of_tells (tells_next h) (by decide) p, fun r hr => absurd hr List.not_mem_nil⟩
  cases l with
  | transport l => exact hother (by nofun)
  | handle env event =>
    cases event with
    | message q channel delivery payload =>
      have hspoken : SpokenBy q s (s.handleMessage env q channel delivery payload) := by
        unfold ServerState.handleMessage
        by_cases hidentity : armOf channel = .authIdentity
        · rw [hidentity]
          exact (tells_handleAuthIdentity env q s).spokenBy (by decide) q
        · exact spokenBy_handleArm env q delivery payload s rfl hidentity
      obtain ⟨news, hnews, hspeaker⟩ := hspoken.relayed p
      exact ⟨news, hnews, fun r hr => ⟨q, rfl, hspeaker r hr⟩⟩
    | _ => exact hother (by nofun)

/-- **Nobody speaks for another.**  Whatever a player hears on these channels, in whichever session, it hears in the
handling of a message, and it is told as its speaker the player whose message that is. -/
theorem nobody_speaks_for_another {config : ServerConfig} {ts : List (Transition ServerState Label)}
    (hrun : Run ServerState.Steps (.start config) ts s) (p : PeerId) :
    relayed p s = ts.flatMap (heardIn p) ∧
      ∀ tr ∈ ts, ∀ r ∈ heardIn p tr, ∃ q, IsMessageOf q tr.label ∧ speaker r = some q := by
  induction hrun with
  | nil => exact ⟨rfl, fun tr htr => absurd htr List.not_mem_nil⟩
  | @snoc ts s l t hrun hstep ih =>
    obtain ⟨news, hnews, hspeaker⟩ := relayed_next_spoken p s l
    have hheard : heardIn p ⟨s, l, t⟩ = news := by
      unfold heardIn
      rw [hstep.2, hnews, List.drop_left]
    rw [List.flatMap_append, List.flatMap_singleton, List.forall_mem_append, List.forall_mem_singleton, hheard]
    refine ⟨?_, ih.2, hspeaker⟩
    rw [hstep.2, hnews, ih.1]

theorem nobody_speaks_for_another_talk :
    relayed 0 ((twoClients ++ talk).foldl ServerState.next (.start openConfig)) =
        (trace ServerState.next (.start openConfig) (twoClients ++ talk)).flatMap (heardIn 0) ∧
      ∀ tr ∈ trace ServerState.next (.start openConfig) (twoClients ++ talk), ∀ r ∈ heardIn 0 tr,
        ∃ q, IsMessageOf q tr.label ∧ speaker r = some q :=
  nobody_speaks_for_another (run_of_enabled (twoClients ++ talk) (by decide +kernel)) 0

end BasisRust.Replica
