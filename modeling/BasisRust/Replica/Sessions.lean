import BasisRust.Replica.Channels

/-!
# Entering and leaving

What a player is told when it is let in, when somebody else is let in and when somebody leaves.
-/

namespace BasisRust.Replica

open Lib Protocol Transport
open BasisRust.Core P2p Resources

/-! ### Being let in -/

section Welcome

variable (p : PeerId) (s : ServerState)

/-- The players who are there already. -/
def existingMessages : List (UInt8 × Bytes) :=
  (s.authenticatedPeers.entries.filter fun e => e.1 ≠ p).map fun e =>
    (channels.createRemotePlayersForNewPeer, Server.spawnBytes e.1 e.2.ready)

def netIdMessages : List (UInt8 × Bytes) :=
  let netIds := s.netIds.all.map fun netId => (⟨⟨netId.1⟩, ⟨netId.2⟩⟩ : ServerNetIdMessage)
  if netIds = [] then [] else [(channels.netIdAssigns, ServerUniqueIdMessages.serialize ⟨netIds⟩)]

def resourceMessages : List (UInt8 × Bytes) :=
  s.resources.allResources.map fun resource =>
    let resource := if resource.loadStrategy = 2 then { resource with loadStrategy := 0 } else resource
    (channels.loadResource, resource.serialize)

def ownerMessages : List (UInt8 × Bytes) :=
  s.ownership.all.map fun ownership => (channels.getCurrentOwnerRequest, ownership.serialize)

def sphereMessages : List (UInt8 × Bytes) :=
  s.contentShare.all.map fun sphere => (channels.contentShare, sphere.serialize)

def cameraMessages : List (UInt8 × Bytes) :=
  s.pip.allActive.map fun pip => (channels.cameraPipState, pip.serialize)

/-- The initial settings. -/
def settingsMessages : List (UInt8 × Bytes) :=
  [encodeLockStatePayload s.globalState,
    encodeBoolAdminStatePayload .globalGetHeadlessAudioState s.globalState.headlessAudioOff,
    encodeBoolAdminStatePayload .globalGetHeadlessDisallowState s.globalState.disallowHeadless,
    encodeU8AdminStatePayload .globalGetOpusPacketLossState s.globalState.opusPacketLossPercent,
    encodeU8AdminStatePayload .globalGetOpusFrameDurationState s.globalState.opusFrameDurationMs,
    encodeUserOpusBitrateOverridePayload 0].map fun payload => (channels.admin, payload)

/-- What a player is told on entering, behind its metadata. -/
def welcome : List (UInt8 × Bytes) :=
  existingMessages p s ++
    (netIdMessages s ++ (resourceMessages s ++ (ownerMessages s ++ (sphereMessages s ++ cameraMessages s)))) ++
    settingsMessages s

end Welcome

/-- A message to the player itself, for everything it is told. -/
def toPlayer (p : PeerId) (r : UInt8 × Bytes) : Outgoing := .send p r.1 .reliableOrdered r.2

variable {env : Outside} {p q : PeerId} {ready : ReadyMessage} {s s' : ServerState}

lemma lateJoinMessages_eq (s : ServerState) : s.lateJoinMessages =
    netIdMessages s ++ (resourceMessages s ++ (ownerMessages s ++ (sphereMessages s ++ cameraMessages s))) := by
  simp only [← List.append_assoc]
  rfl

lemma finalizeAccept_eq (env : Outside) (q : PeerId) (ready : ReadyMessage) (s : ServerState) :
    ∃ metaData, s.finalizeAccept env q ready =
      (((s.entered q ready).post [toPlayer q (channels.metaData, metaData)]).broadcast channels.createRemotePlayer
        .reliableOrdered (Server.spawnBytes q ready) (some q)).post
        ((welcome q (s.entered q ready)).map (toPlayer q)) := by
  refine ⟨((s.enter q ready).serverMetaData ready).serialize env.deflate, ?_⟩
  rw [welcome, ← lateJoinMessages_eq, List.map_append, List.map_append, ← ServerState.post_post,
    ← ServerState.post_post]
  unfold existingMessages settingsMessages
  rw [List.map_map, List.map_map]
  rfl

/-! The channels of a welcome. -/

section WelcomeChannels

lemma channel_of_map {α : Type} {channel : UInt8} {payload : α → Bytes} {as : List α} :
    ∀ r ∈ as.map fun a => (channel, payload a), r.1 = channel := by
  intro r hr
  obtain ⟨_, -, rfl⟩ := List.mem_map.mp hr
  rfl

lemma channel_of_existing : ∀ r ∈ existingMessages p s, r.1 = channels.createRemotePlayersForNewPeer := channel_of_map

lemma channel_of_netIds : ∀ r ∈ netIdMessages s, r.1 = channels.netIdAssigns := by
  intro r hr
  unfold netIdMessages at hr
  dsimp only at hr
  split at hr
  next => cases hr
  next => exact congrArg Prod.fst (List.mem_singleton.mp hr)

lemma channel_of_resources : ∀ r ∈ resourceMessages s, r.1 = channels.loadResource := channel_of_map

lemma channel_of_owners : ∀ r ∈ ownerMessages s, r.1 = channels.getCurrentOwnerRequest := channel_of_map

lemma channel_of_spheres : ∀ r ∈ sphereMessages s, r.1 = channels.contentShare := channel_of_map

lemma channel_of_cameras : ∀ r ∈ cameraMessages s, r.1 = channels.cameraPipState := channel_of_map

lemma channel_of_settings : ∀ r ∈ settingsMessages s, r.1 = channels.admin := channel_of_map

lemma channel_of_welcome : ∀ r ∈ welcome p s, r.1 ∈ [channels.createRemotePlayersForNewPeer, channels.netIdAssigns,
    channels.loadResource, channels.getCurrentOwnerRequest, channels.contentShare, channels.cameraPipState,
    channels.admin] := by
  intro r hr
  simp only [welcome, List.mem_append] at hr
  simp only [List.mem_cons]
  rcases hr with (h | h | h | h | h | h) | h
  · exact .inl (channel_of_existing r h)
  · exact .inr (.inl (channel_of_netIds r h))
  · exact .inr (.inr (.inl (channel_of_resources r h)))
  · exact .inr (.inr (.inr (.inl (channel_of_owners r h))))
  · exact .inr (.inr (.inr (.inr (.inl (channel_of_spheres r h)))))
  · exact .inr (.inr (.inr (.inr (.inr (.inl (channel_of_cameras r h))))))
  · exact .inr (.inr (.inr (.inr (.inr (.inr (.inl (channel_of_settings r h)))))))

lemma metaData_notMem_welcome : ∀ r ∈ welcome p s, r.1 ≠ channels.metaData := by
  intro r hr hmetaData
  have hchannel := channel_of_welcome r hr
  rw [hmetaData] at hchannel
  revert hchannel
  decide

end WelcomeChannels

lemma filterMap_toPlayer (rs : List (UInt8 × Bytes)) : (rs.map (toPlayer p)).filterMap (heardBy p) = rs :=
  (filterMap_send_self id .reliableOrdered rs).trans (List.map_id rs)

lemma filterMap_toPlayer_of_ne (h : q ≠ p) (rs : List (UInt8 × Bytes)) :
    (rs.map (toPlayer q)).filterMap (heardBy p) = [] := by
  refine filterMap_eq_nil_of_ne fun message hmessage => ?_
  obtain ⟨r, -, rfl⟩ := List.mem_map.mp hmessage
  exact heardBy_of_ne h _ _ _

/-- **A player's session starts with everything there is.** -/
theorem told_finalizeAccept (env : Outside) (ready : ReadyMessage) (hp : p ∈ s.transport.peers) :
    told p (s.finalizeAccept env p ready) = welcome p (s.entered p ready) := by
  obtain ⟨metaData, heq⟩ := finalizeAccept_eq env p ready s
  rw [heq]
  set entered := s.entered p ready
  have hp₀ : p ∈ entered.transport.peers := hp
  have hp₁ : p ∈ (entered.post [toPlayer p (channels.metaData, metaData)]).transport.peers :=
    ServerState.mem_peers_post.mpr hp₀
  have hbroadcast := filterMap_targets (p := p) (nodup_audience channels.createRemotePlayer (some p)
    (entered.post [toPlayer p (channels.metaData, metaData)])) channels.createRemotePlayer .reliableOrdered
    (Server.spawnBytes p ready)
  rw [if_neg fun h => ((mem_audience (by decide)).mp h).2 rfl] at hbroadcast
  have hheard : (((entered.post [toPlayer p (channels.metaData, metaData)]).broadcast channels.createRemotePlayer
      .reliableOrdered (Server.spawnBytes p ready) (some p)).sent).filterMap (heardBy p) =
      entered.sent.filterMap (heardBy p) ++ [toPlayer p (channels.metaData, metaData)].filterMap (heardBy p) := by
    rw [ServerState.broadcast, heard_post hp₁, hbroadcast, List.append_nil, heard_post hp₀]
  have hp₂ : p ∈ ((entered.post [toPlayer p (channels.metaData, metaData)]).broadcast channels.createRemotePlayer
      .reliableOrdered (Server.spawnBytes p ready) (some p)).transport.peers := ServerState.mem_peers_post.mpr hp₁
  rw [told, heard_post hp₂, hheard, filterMap_toPlayer]
  have hstart : [toPlayer p (channels.metaData, metaData)].filterMap (heardBy p) = [(channels.metaData, metaData)] :=
    filterMap_toPlayer [(channels.metaData, metaData)]
  rw [hstart, List.append_assoc]
  exact afterLast_restart metaData_notMem_welcome _ _

/-- The others are told who has come. -/
theorem told_finalizeAccept_of_ne (env : Outside) (ready : ReadyMessage) (hp : p ∈ s.transport.peers)
    (hauth : p ∈ s.authenticatedPeers) (hq : q ≠ p) :
    told p (s.finalizeAccept env q ready) =
      told p s ++ [(channels.createRemotePlayer, Server.spawnBytes q ready)] := by
  obtain ⟨metaData, heq⟩ := finalizeAccept_eq env q ready s
  rw [heq]
  set entered := s.entered q ready
  have hp₀ : p ∈ entered.transport.peers := hp
  have hp₁ : p ∈ (entered.post [toPlayer q (channels.metaData, metaData)]).transport.peers :=
    ServerState.mem_peers_post.mpr hp₀
  have hauth₁ : p ∈ (entered.post [toPlayer q (channels.metaData, metaData)]).authenticatedPeers :=
    (AList.mem_insert _).mpr (.inr hauth)
  have hwelcome := filterMap_toPlayer_of_ne hq (welcome q entered)
  have hstart : [toPlayer q (channels.metaData, metaData)].filterMap (heardBy p) = [] :=
    filterMap_toPlayer_of_ne hq [(channels.metaData, metaData)]
  have hnone : ∀ r ∈ ([] : List (UInt8 × Bytes)), r.1 ≠ channels.metaData := fun r hr => absurd hr List.not_mem_nil
  have hp₂ : p ∈ ((entered.post [toPlayer q (channels.metaData, metaData)]).broadcast channels.createRemotePlayer
      .reliableOrdered (Server.spawnBytes q ready) (some q)).transport.peers := ServerState.mem_peers_post.mpr hp₁
  rw [told_post hp₂ (by rw [hwelcome]; exact hnone), hwelcome, List.append_nil,
    told_broadcast hp₁ hauth₁ _ (by decide) (by decide) _ (fun h => hq (Option.some.inj h).symm),
    told_post hp₀ (by rw [hstart]; exact hnone), hstart, List.append_nil]
  rfl

/-! ### Leaving -/

section Leaving

variable (q : PeerId) (s : ServerState)

/-- What the leaving player owned. -/
def ownersLeft : List (UInt8 × Bytes) :=
  (s.ownership.removePlayer q).1.map fun m => (channels.removeCurrentOwnerRequest, m.serialize)

/-- What the leaving player shared. -/
def spheresLeft : List (UInt8 × Bytes) :=
  (s.contentShare.removePlayer q).1.map fun m => (channels.contentShareCleanup, m.serialize)

/-- The leaving player's camera. -/
def cameraLeft : List (UInt8 × Bytes) :=
  (s.pip.removePlayer q).1.toList.map fun m => (channels.cameraPipState, m.serialize)

/-- What the others are told of a player who was on the roster. -/
def rosterLeft : List (UInt8 × Bytes) :=
  ((s.resources.removePreloadPeer q).1.map fun m => (channels.spawnPreloaded, SpawnPreloadedMessage.serialize m)) ++
    [(channels.disconnection, putU16 q)]

end Leaving

lemma channel_of_ownersLeft : ∀ r ∈ ownersLeft q s, r.1 = channels.removeCurrentOwnerRequest := channel_of_map

lemma channel_of_spheresLeft : ∀ r ∈ spheresLeft q s, r.1 = channels.contentShareCleanup := channel_of_map

lemma channel_of_cameraLeft : ∀ r ∈ cameraLeft q s, r.1 = channels.cameraPipState := channel_of_map

lemma channel_of_spawned : ∀ r ∈ ((s.resources.removePreloadPeer q).1.map fun m =>
    (channels.spawnPreloaded, SpawnPreloadedMessage.serialize m)), r.1 = channels.spawnPreloaded := channel_of_map

/-- What is left for those who stay. -/
structure Left (q : PeerId) (s s' : ServerState) : Prop where
  authenticatedPeers : s'.authenticatedPeers = s.authenticatedPeers.erase q
  netIds : s'.netIds = s.netIds
  resources : s'.resources.resources = s.resources.resources
  ownership : s'.ownership = (s.ownership.removePlayer q).2
  contentShare : s'.contentShare = (s.contentShare.removePlayer q).2
  pip : s'.pip = (s.pip.removePlayer q).2
  globalState : s'.globalState = s.globalState

lemma told_announce (hp : p ∈ s.transport.peers) (hauth : p ∈ s.authenticatedPeers) (hq : q ≠ p) {channel : UInt8}
    (hchannel : channel ≠ channels.metaData) (hoffload : isP2pOffloadChannel channel = false) (payloads : List Bytes) :
    told p (s.announce q channel payloads) = told p s ++ payloads.map fun payload => (channel, payload) :=
  told_foldl_broadcast hp hauth channel hchannel hoffload (some q) (fun h => hq (Option.some.inj h).symm) .reliableOrdered id
    payloads

lemma posted_announce (q : PeerId) (channel : UInt8) (payloads : List Bytes) (s : ServerState) :
    ServerState.Posted s (s.announce q channel payloads) :=
  ServerState.posted_foldl_broadcast channel .reliableOrdered id (some q) payloads s

lemma told_leaveP2p (p q : PeerId) (s : ServerState) :
    ∃ signals, told p (s.leaveP2p q) = told p s ++ signals ∧ ∀ r ∈ signals, r.1 = channels.p2p := by
  have hon := ServerState.isOn_removePeer (List.mem_singleton_self channels.p2p) q s.p2pBroker
  obtain ⟨signals, htold, hsignals⟩ :=
    (Tells.postOn hon { s with p2pBroker := (s.p2pBroker.removePeer q).1 }).told (by decide) p
  exact ⟨signals, htold, fun r hr => List.mem_singleton.mp (hsignals r hr)⟩

/-- The roster without the player, if it was on it, with somebody left. -/
lemma told_leaveRoster (hp : p ∈ s.transport.peers) (hauth : p ∈ s.authenticatedPeers) (hq : q ≠ p) :
    told p (s.leaveRoster q) = told p s ++ (if q ∈ s.authenticatedPeers then rosterLeft q s else []) ∧
      ∃ resources, resources.resources = s.resources.resources ∧
        ServerState.Posted { s with authenticatedPeers := s.authenticatedPeers.erase q, resources } (s.leaveRoster q) := by
  by_cases hmem : q ∈ s.authenticatedPeers
  · set left : ServerState := { s with
      authenticatedPeers := s.authenticatedPeers.erase q
      resources := (s.resources.removePreloadPeer q).2 }
    set spawned := (s.resources.removePreloadPeer q).1.foldl (fun s spawn => s.broadcastSpawnPreloaded spawn) left
    have hspawned : ServerState.Posted left spawned :=
      ServerState.posted_foldl_broadcast channels.spawnPreloaded .reliableOrdered SpawnPreloadedMessage.serialize none _ left
    set gone := spawned.broadcast channels.disconnection .reliableOrdered (putU16 q) (some q)
    have hgone : ServerState.Posted left gone := hspawned.trans (ServerState.posted_broadcast _ _ _ _ _)
    have hauthLeft : p ∈ left.authenticatedPeers := AList.mem_erase.mpr ⟨hq.symm, hauth⟩
    have hauthGone : p ∈ gone.authenticatedPeers := by
      obtain ⟨_, h⟩ := hgone
      rw [h]
      exact hauthLeft
    have hcount : gone.playerCount ≠ 0 := (List.length_pos_of_mem hauthGone).ne'
    have hleave : s.leaveRoster q = gone := by
      rw [ServerState.leaveRoster, if_pos hmem]
      exact if_neg hcount
    have hauthSpawned : p ∈ spawned.authenticatedPeers := by
      obtain ⟨_, h⟩ := hspawned
      rw [h]
      exact hauthLeft
    have hpSpawned : p ∈ spawned.transport.peers := by
      obtain ⟨_, h⟩ := hspawned
      rw [h]
      exact ServerState.mem_peers_post.mpr hp
    have htoldSpawned := told_foldl_broadcast (s := left) hp hauthLeft channels.spawnPreloaded (by decide)
      (by decide) none (Option.some_ne_none p) .reliableOrdered SpawnPreloadedMessage.serialize
      (s.resources.removePreloadPeer q).1
    have htold : told p gone = told p spawned ++ [(channels.disconnection, putU16 q)] :=
      told_broadcast hpSpawned hauthSpawned _ (by decide) (by decide) _ (fun h => hq (Option.some.inj h).symm) _ _
    refine ⟨?_, (s.resources.removePreloadPeer q).2, rfl, hleave ▸ hgone⟩
    rw [if_pos hmem, hleave, htold, rosterLeft, ← List.append_assoc]
    exact congrArg (· ++ _) htoldSpawned
  · have hleave : s.leaveRoster q = s := by rw [ServerState.leaveRoster, if_neg hmem]
    rw [if_neg hmem, hleave, List.append_nil, Dict.erase_of_notMem hmem]
    exact ⟨rfl, s.resources, rfl, .refl s⟩

/-- The player is on the roster and its connection lasts. -/
structure Stays (p : PeerId) (s : ServerState) : Prop where
  live : p ∈ s.transport.peers
  auth : p ∈ s.authenticatedPeers

instance (p : PeerId) (s : ServerState) : Decidable (Stays p s) :=
  decidable_of_iff (p ∈ s.transport.peers ∧ p ∈ s.authenticatedPeers) ⟨fun h => ⟨h.1, h.2⟩, fun h => ⟨h.live, h.auth⟩⟩

lemma Stays.posted (h : Stays p s) (hposted : ServerState.Posted s s') : Stays p s' := by
  obtain ⟨messages, rfl⟩ := hposted
  exact ⟨ServerState.mem_peers_post.mpr h.live, h.auth⟩

lemma told_leaveOwnership (h : Stays p s) (hq : q ≠ p) :
    told p (s.leaveOwnership q) = told p s ++ ownersLeft q s ∧ Stays p (s.leaveOwnership q) ∧ ∃ transport sent,
      s.leaveOwnership q = { s with ownership := (s.ownership.removePlayer q).2, transport, sent } := by
  have hposted : ServerState.Posted { s with ownership := (s.ownership.removePlayer q).2 } (s.leaveOwnership q) :=
    posted_announce q _ _ _
  have hstays : Stays p { s with ownership := (s.ownership.removePlayer q).2 } := ⟨h.live, h.auth⟩
  refine ⟨(told_announce hstays.live hstays.auth hq (by decide) (by decide) _).trans ?_, hstays.posted hposted, ?_⟩
  · rw [List.map_map]
    rfl
  · obtain ⟨messages, heq⟩ := hposted
    exact ⟨_, _, heq⟩

lemma told_leaveContentShare (h : Stays p s) (hq : q ≠ p) :
    told p (s.leaveContentShare q) = told p s ++ spheresLeft q s ∧ Stays p (s.leaveContentShare q) ∧ ∃ transport sent,
      s.leaveContentShare q = { s with contentShare := (s.contentShare.removePlayer q).2, transport, sent } := by
  have hposted : ServerState.Posted { s with contentShare := (s.contentShare.removePlayer q).2 } (s.leaveContentShare q) :=
    posted_announce q _ _ _
  have hstays : Stays p { s with contentShare := (s.contentShare.removePlayer q).2 } := ⟨h.live, h.auth⟩
  refine ⟨(told_announce hstays.live hstays.auth hq (by decide) (by decide) _).trans ?_, hstays.posted hposted, ?_⟩
  · rw [List.map_map]
    rfl
  · obtain ⟨messages, heq⟩ := hposted
    exact ⟨_, _, heq⟩

lemma told_leavePip (h : Stays p s) (hq : q ≠ p) :
    told p (s.leavePip q) = told p s ++ cameraLeft q s ∧ Stays p (s.leavePip q) ∧ ∃ transport sent,
      s.leavePip q = { s with pip := (s.pip.removePlayer q).2, transport, sent } := by
  have hposted : ServerState.Posted { s with pip := (s.pip.removePlayer q).2 } (s.leavePip q) :=
    posted_announce q _ _ _
  have hstays : Stays p { s with pip := (s.pip.removePlayer q).2 } := ⟨h.live, h.auth⟩
  refine ⟨(told_announce hstays.live hstays.auth hq (by decide) (by decide) _).trans ?_, hstays.posted hposted, ?_⟩
  · rw [List.map_map]
    rfl
  · obtain ⟨messages, heq⟩ := hposted
    exact ⟨_, _, heq⟩

lemma told_call (op : Op) (env : Outside) (p : PeerId) (s : ServerState) : told p (s.call op env) = told p s := rfl

/-- **Those who stay are told what goes.** -/
theorem told_handleDisconnect (env : Outside) (h : Stays p s) (hq : q ≠ p) :
    Left q s (s.handleDisconnect env q) ∧ ∃ signals,
      told p (s.handleDisconnect env q) = told p s ++ signals ++ ownersLeft q s ++ spheresLeft q s ++
        cameraLeft q s ++ (if q ∈ s.authenticatedPeers then rosterLeft q s else []) ∧
      ∀ r ∈ signals, r.1 = channels.p2p := by
  obtain ⟨signals, htold₁, hsignals⟩ := told_leaveP2p p q s
  have hstays₁ : Stays p ((s.leaveP2p q).forgetPeer q) := ⟨ServerState.mem_peers_post.mpr h.live, h.auth⟩
  obtain ⟨htold₂, hstays₂, _, _, h₂⟩ := told_leaveOwnership hstays₁ hq
  obtain ⟨htold₃, hstays₃, _, _, h₃⟩ := told_leaveContentShare hstays₂ hq
  obtain ⟨htold₄, hstays₄, _, _, h₄⟩ := told_leavePip hstays₃ hq
  obtain ⟨htold₅, resources, hresources, m₅, h₅⟩ := told_leaveRoster hstays₄.live hstays₄.auth hq
  unfold ServerState.handleDisconnect
  dsimp only
  refine ⟨?_, signals, ?_, hsignals⟩
  · rw [h₅]
    rw [h₄, h₃, h₂] at hresources ⊢
    exact ⟨rfl, rfl, hresources, rfl, rfl, rfl, rfl⟩
  · have htold₁ : told p ((s.leaveP2p q).forgetPeer q) = told p s ++ signals := htold₁
    rw [told_call, htold₅, htold₄, htold₃, htold₂, htold₁]
    rw [h₄, h₃, h₂]
    rfl

end BasisRust.Replica
