import BasisRust.Core.Message
import Mathlib.Logic.Relation

/-!
# What a handler leaves alone

A handler changes some stores and posts messages; the messages change the peers' queues and nothing else of
the server.  `Posted` says that two states differ by posted messages only, and for each handler one lemma
names the stores it changes first.
-/

namespace BasisRust.Core

open Lib Protocol Transport
open Admin P2p Permissions Resources
open Server (ConnectedPeer)

namespace ServerState

variable {s s' s'' : ServerState}

/-! ### Posting -/

lemma sameTables_deliver (message : Outgoing) (handle : TransportHandle) :
    SameTables handle (deliver handle message) := by
  cases message with
  | send target channel delivery payload => exact sameTables_send target channel delivery payload handle
  | natIntroduce => exact .refl handle

lemma sameTables_foldl_deliver (messages : List Outgoing) (handle : TransportHandle) :
    SameTables handle (messages.foldl deliver handle) := by
  induction messages generalizing handle with
  | nil => exact .refl handle
  | cons message messages ih => exact (sameTables_deliver message handle).trans (ih _)

/-- Messages do not change the tables. -/
theorem sameTables_post (messages : List Outgoing) (s : ServerState) :
    SameTables s.transport (s.post messages).transport := sameTables_foldl_deliver messages s.transport

@[simp] lemma mem_peers_post {messages : List Outgoing} {s : ServerState} {peer : PeerId} :
    peer ∈ (s.post messages).transport.peers ↔ peer ∈ s.transport.peers :=
  (sameTables_post messages s).peers.mem_iff peer

lemma isLive_post (messages : List Outgoing) (s : ServerState) :
    isLive (s.post messages).transport = isLive s.transport := by
  funext message
  cases message with
  | send target _ _ _ => exact decide_eq_decide.mpr mem_peers_post
  | natIntroduce => rfl

@[simp] lemma post_nil (s : ServerState) : s.post [] = s := by
  unfold post
  rw [List.foldl_nil, List.filter_nil, List.append_nil]

/-- Messages posted one after the other are posted together. -/
theorem post_post (first second : List Outgoing) (s : ServerState) :
    (s.post first).post second = s.post (first ++ second) := by
  have hlive := isLive_post first s
  unfold post at hlive ⊢
  dsimp only at hlive ⊢
  rw [List.foldl_append, List.filter_append, hlive, List.append_assoc]

lemma foldl_broadcast {α : Type} (channel : UInt8) (delivery : DeliveryMethod) (payload : α → Bytes)
    (except : Option PeerId) (as : List α) (s : ServerState) :
    as.foldl (fun s a => s.broadcast channel delivery (payload a) except) s =
      s.post (as.flatMap fun a =>
        (s.audience channel except).map fun target => .send target channel delivery (payload a)) := by
  induction as generalizing s with
  | nil => exact (post_nil s).symm
  | cons a as ih =>
    rw [List.foldl_cons, ih, List.flatMap_cons, ← post_post]
    rfl

/-- The states differ by posted messages. -/
def Posted (s s' : ServerState) : Prop := ∃ messages, s' = s.post messages

theorem Posted.refl (s : ServerState) : Posted s s := ⟨[], (post_nil s).symm⟩

theorem Posted.trans (h : Posted s s') (h' : Posted s' s'') : Posted s s'' := by
  obtain ⟨first, rfl⟩ := h
  obtain ⟨second, rfl⟩ := h'
  exact ⟨first ++ second, post_post first second s⟩

lemma posted_broadcast (channel : UInt8) (delivery : DeliveryMethod) (payload : Bytes) (except : Option PeerId)
    (s : ServerState) : Posted s (s.broadcast channel delivery payload except) := ⟨_, rfl⟩

lemma posted_send (target : PeerId) (channel : UInt8) (payload : Bytes) (s : ServerState) :
    Posted s (s.send target channel payload) := ⟨_, rfl⟩

lemma posted_foldl_broadcast {α : Type} (channel : UInt8) (delivery : DeliveryMethod) (payload : α → Bytes)
    (except : Option PeerId) (as : List α) (s : ServerState) :
    Posted s (as.foldl (fun s a => s.broadcast channel delivery (payload a) except) s) :=
  ⟨_, foldl_broadcast channel delivery payload except as s⟩

/-- The message goes to a peer on one of the channels. -/
def IsOn (used : List UInt8) : Outgoing → Prop
  | .send _ channel _ _ => channel ∈ used
  | .natIntroduce _ _ _ _ _ => False

/-- The states differ by messages on the channels. -/
def PostedOn (used : List UInt8) (s s' : ServerState) : Prop :=
  ∃ messages, (∀ message ∈ messages, IsOn used message) ∧ s' = s.post messages

theorem PostedOn.trans {used : List UInt8} (h : PostedOn used s s') (h' : PostedOn used s' s'') :
    PostedOn used s s'' := by
  obtain ⟨first, hfirst, rfl⟩ := h
  obtain ⟨second, hsecond, rfl⟩ := h'
  exact ⟨first ++ second, List.forall_mem_append.mpr ⟨hfirst, hsecond⟩, post_post first second s⟩

lemma postedOn_foldl_broadcast {α : Type} {used : List UInt8} {channel : UInt8} (hchannel : channel ∈ used)
    (delivery : DeliveryMethod) (payload : α → Bytes) (except : Option PeerId) (as : List α) (s : ServerState) :
    PostedOn used s (as.foldl (fun s a => s.broadcast channel delivery (payload a) except) s) := by
  refine ⟨_, fun message hmessage => ?_, foldl_broadcast channel delivery payload except as s⟩
  obtain ⟨a, -, hmessage⟩ := List.mem_flatMap.mp hmessage
  obtain ⟨target, -, rfl⟩ := List.mem_map.mp hmessage
  exact hchannel

/-! ### Calls on the transport -/

lemma transport_call_reject (request : ConnectionRequest) (reason : String) (env : Outside) (s : ServerState) :
    (s.call (.reject request reason) env).transport = s.transport.removePending request.remoteAddr :=
  handle_reject request reason _

lemma transport_call_disconnect (peer : PeerId) (reason : String) (env : Outside) (s : ServerState) :
    (s.call (.disconnect peer reason) env).transport = s.transport.dropLive peer :=
  handle_disconnect peer reason _

lemma mem_peers_dropLive {handle : TransportHandle} {peer other : PeerId} :
    other ∈ (handle.dropLive peer).peers ↔ other ≠ peer ∧ other ∈ handle.peers := by
  cases h : handle.peers.lookup peer with
  | none =>
    rw [dropLive_of_none h]
    refine ⟨fun hother => ⟨?_, hother⟩, fun hother => hother.2⟩
    rintro rfl
    exact Dict.notMem_iff_lookup.mpr h hother
  | some state =>
    rw [dropLive_of_some h]
    exact AList.mem_erase

lemma mem_peers_call_recyclePeerId (peer : PeerId) (env : Outside) (s : ServerState) (other : PeerId) :
    other ∈ (s.call (.recyclePeerId peer) env).transport.peers ↔ other ∈ s.transport.peers := by
  have hpeers : (s.call (.recyclePeerId peer) env).transport.peers = s.transport.peers :=
    (recyclePeerId_spec peer s.transport).1
  rw [hpeers]

/-! ### Logging in -/

/-- What `finalize_accept` enters, before it tells anybody. -/
def entered (peerId : PeerId) (ready : ReadyMessage) (s : ServerState) : ServerState :=
  (s.enter peerId ready).cacheInitialAvatarSync peerId ready

lemma posted_sendInitialAdminStateToPeer (peerId : PeerId) (s : ServerState) :
    Posted s (s.sendInitialAdminStateToPeer peerId) := ⟨_, rfl⟩

lemma posted_replayLateJoinState (peerId : PeerId) (s : ServerState) : Posted s (s.replayLateJoinState peerId) :=
  .trans ⟨_, rfl⟩ (posted_sendInitialAdminStateToPeer peerId _)

lemma posted_sendAcceptFanout (peerId : PeerId) (ready : ReadyMessage) (s : ServerState) :
    Posted s (s.sendAcceptFanout peerId ready) :=
  ((posted_broadcast _ _ _ _ s).trans ⟨_, rfl⟩).trans (posted_replayLateJoinState peerId _)

theorem posted_finalizeAccept (env : Outside) (peerId : PeerId) (ready : ReadyMessage) (s : ServerState) :
    Posted (s.entered peerId ready) (s.finalizeAccept env peerId ready) := by
  refine .trans ⟨[.send peerId channels.metaData .reliableOrdered
    (((s.enter peerId ready).serverMetaData ready).serialize env.deflate)], ?_⟩
    (posted_sendAcceptFanout peerId ready _)
  rfl

/-! ### Leaving -/

lemma postedOn_announce {used : List UInt8} {channel : UInt8} (hchannel : channel ∈ used) (peer : PeerId)
    (payloads : List Bytes) (s : ServerState) : PostedOn used s (s.announce peer channel payloads) :=
  postedOn_foldl_broadcast hchannel .reliableOrdered id (some peer) payloads s

/-- The other side of each session is told. -/
lemma isOn_removePeer {used : List UInt8} (hused : channels.p2p ∈ used) (peer : PeerId) (broker : P2pBroker) :
    ∀ message ∈ (broker.removePeer peer).2, IsOn used message := by
  unfold P2pBroker.removePeer
  split
  next => exact fun message hmessage => absurd hmessage List.not_mem_nil
  next tokens _ =>
    have hfold (tokens : List String) (s : P2pBroker × List Outgoing) (hs : ∀ message ∈ s.2, IsOn used message) :
        ∀ message ∈ (tokens.foldl (P2pBroker.removePeerToken peer) s).2, IsOn used message := by
      induction tokens generalizing s with
      | nil => exact hs
      | cons token tokens ih =>
        refine ih _ ?_
        unfold P2pBroker.removePeerToken
        split
        next => exact hs
        next => exact List.forall_mem_append.mpr ⟨hs, List.forall_mem_singleton.mpr hused⟩
    exact hfold tokens.elems _ fun message hmessage => absurd hmessage List.not_mem_nil

lemma posted_resetShared (s : ServerState) :
    Posted { s with
        resources := s.resources.resetNonPersistent.2
        netIds := {}, ownership := {}, contentShare := {}, pip := {} } s.resetShared := by
  obtain ⟨messages, h⟩ := posted_foldl_broadcast channels.unloadResource .reliableOrdered UnloadResource.serialize none
    s.resources.resetNonPersistent.1 { s with resources := s.resources.resetNonPersistent.2 }
  refine ⟨messages, ?_⟩
  unfold resetShared
  dsimp only
  rw [h]
  rfl

/-- Either nothing happens, or the player is taken off the list; the last one takes what is shared along. -/
lemma leaveRoster_cases (peer : PeerId) (s : ServerState) :
    (peer ∉ s.authenticatedPeers ∧ s.leaveRoster peer = s) ∨ ∃ resources,
      Posted { s with authenticatedPeers := s.authenticatedPeers.erase peer, resources } (s.leaveRoster peer) ∨
      Posted { s with
        authenticatedPeers := s.authenticatedPeers.erase peer
        resources, netIds := {}, ownership := {}, contentShare := {}, pip := {} } (s.leaveRoster peer) := by
  by_cases hpeer : peer ∈ s.authenticatedPeers
  · refine .inr ?_
    let spawns := s.resources.removePreloadPeer peer
    let left : ServerState :=
      { s with authenticatedPeers := s.authenticatedPeers.erase peer, resources := spawns.2 }
    let told := (spawns.1.foldl (fun s spawn => s.broadcastSpawnPreloaded spawn) left).broadcast
      channels.disconnection .reliableOrdered (putU16 peer) (some peer)
    have hleave : s.leaveRoster peer = if told.playerCount = 0 then told.resetShared else told := by
      rw [leaveRoster, if_pos hpeer]
    have htold : Posted left told := .trans
      (posted_foldl_broadcast channels.spawnPreloaded .reliableOrdered SpawnPreloadedMessage.serialize none spawns.1 left)
      (posted_broadcast _ _ _ _ _)
    rw [hleave]
    split
    · obtain ⟨messages, h⟩ := htold
      have hreset := posted_resetShared told
      rw [h] at hreset ⊢
      exact ⟨_, .inr (.trans ⟨messages, rfl⟩ hreset)⟩
    · exact ⟨spawns.2, .inl htold⟩
  · refine .inl ⟨hpeer, ?_⟩
    rw [leaveRoster, if_neg hpeer]

/-- What is left of the server when the peer has gone. -/
structure Departed (peer : PeerId) (s s' : ServerState) : Prop where
  authenticatedPeers : s'.authenticatedPeers = s.authenticatedPeers.erase peer
  pendingIdentity : s'.pendingIdentity = s.pendingIdentity.erase peer
  voiceRecipients : s'.voiceRecipients = s.voiceRecipients.erase peer
  avatarSync : s'.avatarSync = s.avatarSync.removePlayer peer
  p2pBroker : s'.p2pBroker = (s.p2pBroker.removePeer peer).1
  ownership : s'.ownership = (s.ownership.removePlayer peer).2 ∨ s'.ownership = {}
  contentShare : s'.contentShare = (s.contentShare.removePlayer peer).2 ∨ s'.contentShare = {}
  pip : s'.pip = (s.pip.removePlayer peer).2 ∨ s'.pip = {}
  moderation : s'.moderation = s.moderation
  config : s'.config = s.config
  peers : ∀ other, other ∈ s'.transport.peers ↔ other ∈ s.transport.peers

/-- The channels on which a departure is made known, apart from the roster's own. -/
def leaveChannels : List UInt8 :=
  [channels.p2p, channels.removeCurrentOwnerRequest, channels.contentShareCleanup, channels.cameraPipState]

/-- Everything but the roster. -/
lemma postedOn_leaveStores (peer : PeerId) (s : ServerState) :
    PostedOn leaveChannels { s with
        p2pBroker := (s.p2pBroker.removePeer peer).1
        pendingIdentity := s.pendingIdentity.erase peer
        voiceRecipients := s.voiceRecipients.erase peer
        avatarSync := s.avatarSync.removePlayer peer
        ownership := (s.ownership.removePlayer peer).2
        contentShare := (s.contentShare.removePlayer peer).2
        pip := (s.pip.removePlayer peer).2 }
      (((((s.leaveP2p peer).forgetPeer peer).leaveOwnership peer).leaveContentShare peer).leavePip peer) := by
  have hp2p : channels.p2p ∈ leaveChannels := by decide
  have howners : channels.removeCurrentOwnerRequest ∈ leaveChannels := by decide
  have hspheres : channels.contentShareCleanup ∈ leaveChannels := by decide
  have hcameras : channels.cameraPipState ∈ leaveChannels := by decide
  have hremoved := isOn_removePeer hp2p peer s.p2pBroker
  let s₁ := (s.leaveP2p peer).forgetPeer peer
  obtain ⟨m₁, hm₁, h₁⟩ := postedOn_announce howners peer
    ((s₁.ownership.removePlayer peer).1.map OwnershipTransferMessage.serialize)
    { s₁ with ownership := (s₁.ownership.removePlayer peer).2 }
  let s₂ := s₁.leaveOwnership peer
  obtain ⟨m₂, hm₂, h₂⟩ := postedOn_announce hspheres peer
    ((s₂.contentShare.removePlayer peer).1.map ServerContentShareCleanupMessage.serialize)
    { s₂ with contentShare := (s₂.contentShare.removePlayer peer).2 }
  let s₃ := s₂.leaveContentShare peer
  obtain ⟨m₃, hm₃, h₃⟩ := postedOn_announce hcameras peer
    ((s₃.pip.removePlayer peer).1.toList.map CameraPipStateMessage.serialize)
    { s₃ with pip := (s₃.pip.removePlayer peer).2 }
  have hs₂ : s₂ = _ := h₁
  have hs₃ : s₃ = _ := h₂
  have hs₄ : s₃.leavePip peer = _ := h₃
  change PostedOn leaveChannels _ (s₃.leavePip peer)
  rw [hs₄, hs₃, hs₂]
  exact .trans (.trans (.trans ⟨_, hremoved, rfl⟩ ⟨m₁, hm₁, rfl⟩) ⟨m₂, hm₂, rfl⟩) ⟨m₃, hm₃, rfl⟩

theorem departed_handleDisconnect (env : Outside) (peer : PeerId) (s : ServerState) :
    Departed peer s (s.handleDisconnect env peer) := by
  obtain ⟨messages, -, h⟩ := postedOn_leaveStores peer s
  unfold handleDisconnect
  dsimp only
  rw [h]
  generalize hleft : ServerState.post messages _ = left
  have hpeers (other : PeerId) : other ∈ left.transport.peers ↔ other ∈ s.transport.peers := by
    rw [← hleft]
    exact mem_peers_post
  rcases leaveRoster_cases peer left with ⟨hpeer, hsame⟩ | ⟨resources, ⟨m, hm⟩ | ⟨m, hm⟩⟩
  · rw [hsame]
    subst hleft
    refine ⟨(Dict.erase_of_notMem hpeer).symm, rfl, rfl, rfl, rfl, .inl rfl, .inl rfl, .inl rfl, rfl, rfl, fun other => ?_⟩
    exact (mem_peers_call_recyclePeerId peer env _ other).trans (hpeers other)
  · rw [hm]
    have hother (other : PeerId) := (mem_peers_call_recyclePeerId peer env (post m _) other).trans
      (mem_peers_post.trans (hpeers other))
    subst hleft
    exact ⟨rfl, rfl, rfl, rfl, rfl, .inl rfl, .inl rfl, .inl rfl, rfl, rfl, hother⟩
  · rw [hm]
    have hother (other : PeerId) := (mem_peers_call_recyclePeerId peer env (post m _) other).trans
      (mem_peers_post.trans (hpeers other))
    subst hleft
    exact ⟨rfl, rfl, rfl, rfl, rfl, .inr rfl, .inr rfl, .inr rfl, rfl, rfl, hother⟩

end ServerState

/-! ### The store an arm writes -/

/-- What an arm of the message loop may change, besides posting messages. -/
inductive Store where
  | nothing
  | roster
  | players
  | avatarSync
  | netIds
  | resources
  | database
  | ownership
  | contentShare
  | pip
  | p2pBroker
  | voiceRecipients
  | administration
  deriving DecidableEq, Repr

def Arm.store : Arm → Store
  | authIdentity => .roster
  | playerAvatar => .avatarSync
  | avatarChangeMessage => .players
  | netIdAssign => .netIds
  | loadResource | unloadResource | preloadReady => .resources
  | storeDatabase => .database
  | getCurrentOwnerRequest | changeCurrentOwnerRequest | removeCurrentOwnerRequest => .ownership
  | contentShare | contentShareCleanup => .contentShare
  | cameraPipState | cameraPipPosition => .pip
  | admin => .administration
  | p2p => .p2pBroker
  | audioRecipients _ _ | audioRecipientsBitfield => .voiceRecipients
  | chat | requestStoreDatabase | serverStatistics | voice | shoutVoice | avatar | scene | events | serverBound
  | unknown => .nothing

namespace ServerState

/-- The one store changes, and messages are posted; administration also ends connections. -/
def Writes : Store → ServerState → ServerState → Prop
  | .nothing, s, s' => Posted s s'
  | .roster, s, s' => ∃ authenticatedPeers pendingIdentity permissions avatarSync,
      Posted { s with authenticatedPeers, pendingIdentity, permissions, avatarSync } s'
  | .players, s, s' => ∃ authenticatedPeers, Posted { s with authenticatedPeers } s'
  | .avatarSync, s, s' => ∃ avatarSync, Posted { s with avatarSync } s'
  | .netIds, s, s' => ∃ netIds, Posted { s with netIds } s'
  | .resources, s, s' => ∃ resources, Posted { s with resources } s'
  | .database, s, s' => ∃ database, Posted { s with database } s'
  | .ownership, s, s' => ∃ ownership, Posted { s with ownership } s'
  | .contentShare, s, s' => ∃ contentShare, Posted { s with contentShare } s'
  | .pip, s, s' => ∃ pip, Posted { s with pip } s'
  | .p2pBroker, s, s' => ∃ p2pBroker, Posted { s with p2pBroker } s'
  | .voiceRecipients, s, s' => ∃ voiceRecipients, Posted { s with voiceRecipients } s'
  | .administration, s, s' => ∃ permissions moderation globalState config transport sent,
      s' = { s with permissions, moderation, globalState, config, transport, sent }

lemma Writes.refl (store : Store) (s : ServerState) : Writes store s s := by
  cases store with
  | nothing => exact Posted.refl s
  | roster => exact ⟨_, _, _, _, .refl s⟩
  | administration => exact ⟨_, _, _, _, _, _, rfl⟩
  | _ => exact ⟨_, .refl s⟩

lemma Writes.onParsed {store : Store} {α : Type} {read : ReadResult α} {payload : Bytes} {handle : α → ServerState}
    {s : ServerState} (h : ∀ message, Writes store s (handle message)) :
    Writes store s (s.onParsed read payload handle) := onParsed_of (P := Writes store s) (.refl store s) h

lemma Writes.withRead {store : Store} {α : Type} {read : ReadResult α} {reader : NetReader}
    {next : α → NetReader → ServerState} {s : ServerState} (h : ∀ a rest, Writes store s (next a rest)) :
    Writes store s (Protocol.withRead read reader s next) := withRead_of (P := Writes store s) (.refl store s) h

section Arms

variable (env : Outside) (peer : PeerId) (payload : Bytes) (s : ServerState)

lemma writes_handleAuthIdentity : Writes .roster s (s.handleAuthIdentity env peer) := by
  unfold handleAuthIdentity
  split
  next => exact .refl .roster s
  next ready _ => exact ⟨_, _, _, _, posted_finalizeAccept env peer ready _⟩

lemma writes_handleAvatarChangeMessage : Writes .players s (s.handleAvatarChangeMessage peer payload) := by
  refine .onParsed fun avatar => ?_
  split
  next => exact .refl .players s
  next => exact ⟨_, posted_broadcast _ _ _ _ _⟩

lemma writes_handleNetIdAssign : Writes .netIds s (s.handleNetIdAssign peer payload) := by
  refine .onParsed fun request => ?_
  split
  next => exact .refl .netIds s
  next =>
    refine ⟨(s.netIds.addOrFind request.playerId).2, ?_⟩
    dsimp only
    split
    next => exact posted_send _ _ _ _
    next => exact posted_broadcast _ _ _ _ _

lemma writes_handleLoadResource : Writes .resources s (s.handleLoadResource peer payload) := by
  refine .onParsed fun resource => ?_
  split
  next => exact .refl .resources s
  next peerState _ =>
    dsimp only
    split
    next => exact .refl .resources s
    next =>
      refine ⟨(s.addResource { resource with uuidOfCreator := peerState.metadata.playerUuid }).2, ?_⟩
      split
      next => exact posted_broadcast _ _ _ _ _
      next => exact .refl _

lemma writes_handleUnloadResource : Writes .resources s (s.handleUnloadResource peer payload) := by
  refine .onParsed fun request => ?_
  dsimp only
  split
  next => exact ⟨_, .refl _⟩
  next =>
    split
    next => exact ⟨_, .refl _⟩
    next => exact ⟨_, posted_broadcast _ _ _ _ _⟩

lemma writes_unloadScenes (spawn : SpawnPreloadedMessage) : Writes .resources s (s.unloadScenes spawn) := by
  unfold unloadScenes
  split
  next => exact ⟨_, posted_foldl_broadcast channels.unloadResource .reliableOrdered UnloadResource.serialize none _ _⟩
  next => exact .refl .resources s

lemma writes_handlePreloadReady : Writes .resources s (s.handlePreloadReady peer payload) := by
  refine .onParsed fun ready => ?_
  dsimp only
  split
  next => exact ⟨_, .refl _⟩
  next spawn _ =>
    obtain ⟨resources, hposted⟩ := writes_unloadScenes
      { s with resources := (s.resources.markPreloadReady peer ready).2 } spawn
    exact ⟨resources, hposted.trans (posted_broadcast _ _ _ _ _)⟩

lemma writes_handleRequestStoreDatabase : Writes .nothing s (s.handleRequestStoreDatabase env peer payload) := by
  refine .onParsed fun request => ?_
  split
  next => exact .refl .nothing s
  next => exact posted_send _ _ _ _

lemma writes_handleRemoveCurrentOwnerRequest : Writes .ownership s (s.handleRemoveCurrentOwnerRequest payload) := by
  refine .onParsed fun request => ⟨(s.ownership.removeIfOwner request.ownershipId request.playerId).2, ?_⟩
  dsimp only
  split
  next => exact posted_broadcast _ _ _ _ _
  next => exact .refl _

lemma writes_handleContentShare : Writes .contentShare s (s.handleContentShare peer payload) := by
  refine .onParsed fun request => ?_
  split
  next => exact .refl .contentShare s
  next =>
    split
    next => exact .refl .contentShare s
    next =>
      dsimp only
      split
      next => exact ⟨_, .refl _⟩
      next => exact ⟨_, posted_broadcast _ _ _ _ _⟩

lemma writes_handleContentShareCleanup : Writes .contentShare s (s.handleContentShareCleanup peer payload) := by
  refine .onParsed fun request => ⟨(s.contentShare.remove peer request).2, ?_⟩
  dsimp only
  split
  next => exact .refl _
  next => exact posted_broadcast _ _ _ _ _

lemma writes_handleCameraPipPosition : Writes .pip s (s.handleCameraPipPosition peer payload) := by
  refine .onParsed fun request => ⟨(s.pip.positionUpdate peer request).2, ?_⟩
  dsimp only
  split
  next => exact .refl _
  next => exact posted_broadcast _ _ _ _ _

lemma writes_handleStatisticsRequest : Writes .nothing s (s.handleStatisticsRequest env peer payload) := by
  unfold handleStatisticsRequest
  split
  next => exact posted_send _ _ _ s
  next => exact .refl .nothing s

lemma writes_updateVoiceRecipientsBitfield :
    Writes .voiceRecipients s (s.updateVoiceRecipientsBitfield peer payload) := by
  unfold updateVoiceRecipientsBitfield
  split
  next => exact .refl .voiceRecipients s
  next => exact ⟨_, .refl _⟩

lemma writes_relayVoiceMessage : Writes .nothing s (s.relayVoiceMessage peer payload) := by
  unfold relayVoiceMessage
  split
  next => exact .refl .nothing s
  next => exact ⟨_, rfl⟩

lemma posted_sendToRecipientsOrBroadcast (delivery : DeliveryMethod) (channel : UInt8) (recipients : List PeerId) :
    Posted s (s.sendToRecipientsOrBroadcast peer delivery channel payload recipients) := by
  unfold sendToRecipientsOrBroadcast
  split
  next => exact posted_broadcast _ _ _ _ s
  next => exact ⟨_, rfl⟩

lemma writes_relayEvent : Writes .nothing s (s.relayEvent peer payload) := by
  unfold relayEvent
  split
  next => exact .refl .nothing s
  next eventType rest =>
    split
    next => exact posted_broadcast _ _ _ _ s
    next =>
      split
      next => exact .onParsed fun _ => posted_broadcast _ _ _ _ s
      next =>
        split
        next =>
          refine .withRead fun target rest => .withRead fun blocked _ => ?_
          split
          next => exact posted_send _ _ _ s
          next => exact .refl .nothing s
        next => exact .refl .nothing s

/-! ### Administration -/

lemma posted_sendAdminText (target : PeerId) (message : String) (s : ServerState) :
    Posted s (s.sendAdminText target message) := by
  unfold sendAdminText
  split
  next => exact .refl s
  next => exact posted_send _ _ _ s

/-- What a request may do, one thing after the other. -/
inductive AdminAction (env : Outside) (mode : AdminRequestMode) : ServerState → ServerState → Prop
  | post (messages : List Outgoing) (s : ServerState) : AdminAction env mode s (s.post messages)
  | disconnect (target : PeerId) (reason : String) (s : ServerState) :
      AdminAction env mode s (s.disconnect env reason target)
  | settings (permissions : PermissionStore) (globalState : GlobalState) (config : ServerConfig) (s : ServerState) :
      AdminAction env mode s { s with permissions, globalState, config }
  | ban (uuid reason : String) (ip : Option String) (s : ServerState) :
      AdminAction env mode s
        { s with moderation := (s.moderation.addBanWithDetails uuid reason ip env.timestamp env.saved).1 }
  | whitelist (whitelist : List String) (s : ServerState) :
      AdminAction env mode s { s with moderation.whitelist := whitelist }
  | unban (moderation : ModerationLists) (s : ServerState) (unbans : mode = .unBan ∨ mode = .unBanIP) :
      AdminAction env mode s { s with moderation }

/-- The whole of what it does. -/
abbrev Administers (env : Outside) (mode : AdminRequestMode) : ServerState → ServerState → Prop :=
  Relation.ReflTransGen (AdminAction env mode)

section Administration

variable {mode : AdminRequestMode}

lemma Administers.withRead {α : Type} {read : ReadResult α} {reader : NetReader}
    {next : α → NetReader → ServerState} {s : ServerState} (h : ∀ a rest, Administers env mode s (next a rest)) :
    Administers env mode s (Protocol.withRead read reader s next) := withRead_of (P := Administers env mode s) .refl h

/-- Settings change, and messages are posted. -/
lemma administers_settings (permissions : PermissionStore) (globalState : GlobalState) (config : ServerConfig)
    (messages : List Outgoing) (s : ServerState) :
    Administers env mode s ({ s with permissions, globalState, config }.post messages) :=
  .tail (.single (.settings permissions globalState config s)) (.post messages _)

lemma administers_foldl_disconnect (reason : String) (targets : List PeerId) (s : ServerState) :
    Administers env mode s (targets.foldl (disconnect env reason) s) := by
  induction targets generalizing s with
  | nil => exact .refl
  | cons target targets ih => exact .head (.disconnect target reason s) (ih _)

lemma administers_disconnectUuid (uuid reason : String) (s : ServerState) :
    Administers env mode s (s.disconnectUuid env uuid reason) := by
  unfold disconnectUuid
  split
  next => exact .single (.disconnect _ _ s)
  next => exact .refl

lemma administers_ban (uuid reason : String) (ip : Option String) (s : ServerState) :
    Administers env mode s (s.ban env uuid reason ip) := by
  unfold ban
  dsimp only
  split
  next => exact .head (.ban uuid reason ip s) (administers_disconnectUuid env uuid reason _)
  next => exact .single (.ban uuid reason ip s)

lemma administers_sendAdminText (target : PeerId) (message : String) (s : ServerState) :
    Administers env mode s (s.sendAdminText target message) := by
  obtain ⟨messages, h⟩ := posted_sendAdminText target message s
  rw [h]
  exact .single (.post messages s)

lemma administers_updatePermissions (change : PermissionStore → PermissionStore) (s : ServerState) :
    Administers env mode s (s.updatePermissions peer change) :=
  .head (.settings (change s.permissions) s.globalState s.config s) (administers_sendAdminText env peer _ _)

end Administration

theorem administers_handleAdminRequest (mode : AdminRequestMode) (reader : NetReader) (s : ServerState) :
    Administers env mode s (s.handleAdminRequest env peer mode reader) := by
  cases mode
  case globalToggleAvatars | globalToggleProps | globalToggleWorlds | globalToggleServers
    | globalToggleThirdPerson | globalToggleAdditionalAvatarDataLock | setGlobalHeadlessAudio
    | setGlobalOpusPacketLoss | setGlobalOpusFrameDuration =>
    exact administers_settings env s.permissions _ s.config _ s
  case setGlobalHeadlessDisallow =>
    unfold handleAdminRequest
    dsimp only
    have hset (value : Bool) : Administers env .setGlobalHeadlessDisallow s
        ({ s with globalState.disallowHeadless := value, config.disallowHeadless := value }.broadcastBoolAdminState
          .globalGetHeadlessDisallowState value) := administers_settings env s.permissions _ _ _ s
    split
    next => exact .trans (hset _) (administers_foldl_disconnect env _ _ _)
    next => exact hset _
  case setUserGroup | setUserNode | setGroupNode | setGroupParent =>
    exact .withRead env fun _ _ => .withRead env fun _ _ => administers_updatePermissions env peer _ s
  case createGroup | deleteGroup =>
    exact .withRead env fun _ _ => administers_updatePermissions env peer _ s
  case message | addDefaultLibraryItem | removeDefaultLibraryItem => exact administers_sendAdminText env _ _ s
  case ban | ipAndBan => exact .withRead env fun _ _ => administers_ban env _ _ _ s
  case kick => exact .withRead env fun _ _ => administers_disconnectUuid env _ _ s
  case unBan => exact .withRead env fun _ _ => .single (.unban _ s (.inl rfl))
  case unBanIP => exact .withRead env fun _ _ => .single (.unban _ s (.inr rfl))
  case addWhitelist | removeWhitelist => exact .withRead env fun _ _ => .single (.whitelist _ s)
  case setServerName | setServerMotd | setWhitelistMode =>
    exact .single (.settings s.permissions s.globalState _ s)
  case userOpusBitrateOverride => exact .refl
  all_goals exact .single (.post _ s)

lemma writes_of_administers {env : Outside} {mode : AdminRequestMode} {s s' : ServerState}
    (h : Administers env mode s s') : Writes .administration s s' := by
  induction h with
  | refl => exact .refl .administration s
  | tail _ haction ih =>
    obtain ⟨_, _, _, _, _, _, rfl⟩ := ih
    cases haction <;> exact ⟨_, _, _, _, _, _, rfl⟩

/-! ### All arms -/

/-- **What an arm writes.** -/
theorem writes_handleArm (channel : UInt8) (delivery : DeliveryMethod) (arm : Arm) :
    Writes arm.store s (s.handleArm env peer channel delivery payload arm) := by
  cases arm with
  | authIdentity => exact writes_handleAuthIdentity env peer s
  | playerAvatar => exact ⟨_, .refl _⟩
  | chat => exact .onParsed fun _ => posted_broadcast _ _ _ _ s
  | avatarChangeMessage => exact writes_handleAvatarChangeMessage peer payload s
  | netIdAssign => exact writes_handleNetIdAssign peer payload s
  | loadResource => exact writes_handleLoadResource peer payload s
  | unloadResource => exact writes_handleUnloadResource peer payload s
  | preloadReady => exact writes_handlePreloadReady peer payload s
  | storeDatabase => exact .onParsed fun _ => ⟨_, .refl _⟩
  | requestStoreDatabase => exact writes_handleRequestStoreDatabase env peer payload s
  | getCurrentOwnerRequest => exact .onParsed fun _ => ⟨_, posted_send _ _ _ _⟩
  | changeCurrentOwnerRequest => exact .onParsed fun _ => ⟨_, posted_broadcast _ _ _ _ _⟩
  | removeCurrentOwnerRequest => exact writes_handleRemoveCurrentOwnerRequest payload s
  | contentShare => exact writes_handleContentShare peer payload s
  | contentShareCleanup => exact writes_handleContentShareCleanup peer payload s
  | cameraPipState => exact .onParsed fun _ => ⟨_, posted_broadcast _ _ _ _ _⟩
  | cameraPipPosition => exact writes_handleCameraPipPosition peer payload s
  | admin => exact .withRead fun _ _ => writes_of_administers (administers_handleAdminRequest env peer _ _ s)
  | p2p => exact ⟨_, _, rfl⟩
  | serverStatistics => exact writes_handleStatisticsRequest env peer payload s
  | audioRecipients => exact .onParsed fun _ => ⟨_, .refl _⟩
  | audioRecipientsBitfield => exact writes_updateVoiceRecipientsBitfield peer payload s
  | voice => exact writes_relayVoiceMessage peer payload s
  | shoutVoice => exact posted_broadcast _ _ _ _ s
  | avatar => exact .onParsed fun _ => posted_sendToRecipientsOrBroadcast peer _ s _ _ _
  | scene => exact .onParsed fun _ => posted_sendToRecipientsOrBroadcast peer _ s _ _ _
  | events => exact writes_relayEvent peer payload s
  | serverBound => exact posted_broadcast _ _ _ _ s
  | unknown => exact .refl .nothing s

end Arms

/-- The stores that stay as they are. -/
structure Frame (store : Store) (s s' : ServerState) : Prop where
  authenticatedPeers : store ≠ .roster → store ≠ .players → s'.authenticatedPeers = s.authenticatedPeers
  pendingIdentity : store ≠ .roster → s'.pendingIdentity = s.pendingIdentity
  permissions : store ≠ .roster → store ≠ .administration → s'.permissions = s.permissions
  netIds : store ≠ .netIds → s'.netIds = s.netIds
  resources : store ≠ .resources → s'.resources = s.resources
  database : store ≠ .database → s'.database = s.database
  ownership : store ≠ .ownership → s'.ownership = s.ownership
  contentShare : store ≠ .contentShare → s'.contentShare = s.contentShare
  pip : store ≠ .pip → s'.pip = s.pip
  p2pBroker : store ≠ .p2pBroker → s'.p2pBroker = s.p2pBroker
  voiceRecipients : store ≠ .voiceRecipients → s'.voiceRecipients = s.voiceRecipients
  moderation : store ≠ .administration → s'.moderation = s.moderation
  globalState : store ≠ .administration → s'.globalState = s.globalState
  config : store ≠ .administration → s'.config = s.config
  peers : store ≠ .administration → ∀ other, other ∈ s'.transport.peers ↔ other ∈ s.transport.peers

theorem Writes.frame {store : Store} {s s' : ServerState} (h : Writes store s s') : Frame store s s' := by
  cases store with
  | nothing =>
    obtain ⟨_, rfl⟩ := h
    constructor <;> intros <;> first | rfl | exact mem_peers_post
  | roster =>
    obtain ⟨_, _, _, _, _, rfl⟩ := h
    constructor <;> intros <;> first | contradiction | rfl | exact mem_peers_post
  | administration =>
    obtain ⟨_, _, _, _, _, _, rfl⟩ := h
    constructor <;> intros <;> first | contradiction | rfl
  | _ =>
    obtain ⟨_, _, rfl⟩ := h
    constructor <;> intros <;> first | contradiction | rfl | exact mem_peers_post

end ServerState
end BasisRust.Core
