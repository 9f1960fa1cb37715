import BasisRust.Core.Authority
import BasisRust.P2p.Unchanged
import BasisRust.Resources.Unchanged

/-!
# Messages before authentication

`handle_message` does not ask whether the sender is authenticated; only a few arms look the sender up for
reasons of their own.  So what a peer can do that has not proved its identity depends on the arm, the message and
the state.
-/

namespace BasisRust.Core

open Lib Protocol Transport
open Admin P2p Permissions Resources
open Server (ConnectedPeer)

namespace ServerState

/-! ### What counts as untouched -/

/-- The stores of the server are as before; the roster, the voice lists and the avatar updates do not count. -/
structure SameStores (s s' : ServerState) : Prop where
  administration : s.Unadministered s'
  database : Dict.Rel Eq s.database s'.database
  resources : s.resources.Same s'.resources
  netIds : s.netIds.Same s'.netIds
  ownership : s.ownership.Same s'.ownership
  contentShare : s.contentShare.Same s'.contentShare
  pip : s.pip.Same s'.pip
  p2pBroker : s.p2pBroker.Same s'.p2pBroker

/-- Nobody but the peer has been sent anything. -/
def QuietFor (peer : PeerId) (s s' : ServerState) : Prop :=
  ∃ messages, s'.sent = s.sent ++ messages ∧
    ∀ message ∈ messages, ∃ channel delivery payload, message = .send peer channel delivery payload

/-- The peer has had no effect. -/
structure Untouched (peer : PeerId) (s s' : ServerState) : Prop where
  stores : s.SameStores s'
  quiet : QuietFor peer s s'

variable {s s' s₁ : ServerState} {peer : PeerId}

lemma SameStores.refl (s : ServerState) : s.SameStores s :=
  ⟨.refl s, Dict.Rel.refl (fun _ => rfl) _, .refl _, .refl _, .refl _, .refl _, .refl _, .refl _⟩

/-- Nothing has been sent at all. -/
lemma quietFor_of_sent (h : s₁.sent = s.sent) : QuietFor peer s s₁ :=
  ⟨[], by rw [h, List.append_nil], fun _ hmessage => absurd hmessage List.not_mem_nil⟩

lemma QuietFor.refl (peer : PeerId) (s : ServerState) : QuietFor peer s s := quietFor_of_sent rfl

lemma Untouched.refl (peer : PeerId) (s : ServerState) : Untouched peer s s := ⟨.refl s, .refl peer s⟩

/-! ### Messages -/

/-- Of what is posted, the live part is sent. -/
lemma quietFor_post_iff {messages : List Outgoing} (hsent : s₁.sent = s.sent) (hpeers : s.SamePeers s₁) :
    QuietFor peer s (s₁.post messages) ↔
      ∀ message ∈ messages, message.Spares (fun target => target ∈ s.transport.peers) peer := by
  have hspares (message : Outgoing) : message.Spares (fun target => target ∈ s.transport.peers) peer ↔
      (isLive s₁.transport message → ∃ channel delivery payload, message = .send peer channel delivery payload) := by
    cases message with
    | send target channel delivery payload =>
      have hlive : isLive s₁.transport (.send target channel delivery payload) = true ↔ target ∈ s.transport.peers :=
        decide_eq_true_iff.trans (hpeers target)
      rw [hlive]
      exact forall_congr' fun _ => ⟨fun h => ⟨channel, delivery, payload, by rw [h]⟩, by
        rintro ⟨_, _, _, h⟩
        cases h
        rfl⟩
    | natIntroduce =>
      refine iff_of_false id fun h => ?_
      obtain ⟨_, _, _, h⟩ := h rfl
      cases h
  have hpost : (s₁.post messages).sent = s.sent ++ messages.filter (isLive s₁.transport) := by
    rw [← hsent]
    rfl
  constructor
  · rintro ⟨sent, hsent, hall⟩ message hmessage
    rw [hspares]
    intro hlive
    rw [hpost, List.append_cancel_left_eq] at hsent
    exact hall message (hsent ▸ List.mem_filter.mpr ⟨hmessage, hlive⟩)
  · intro hall
    refine ⟨_, hpost, fun message hmessage => ?_⟩
    obtain ⟨hmessage, hlive⟩ := List.mem_filter.mp hmessage
    exact (hspares message).mp (hall message hmessage) hlive

/-- Nobody whom a broadcast goes to is live. -/
def Deserted (channel : UInt8) (except : Option PeerId) (s : ServerState) : Prop :=
  ∀ target ∈ s.audience channel except, target ∉ s.transport.peers

lemma mem_authenticatedPeers_of_mem_audience {channel : UInt8} {except : Option PeerId} {target : PeerId}
    (h : target ∈ s.audience channel except) : target ∈ s.authenticatedPeers :=
  AList.mem_keys.mpr (List.mem_filter.mp h).1

/-- A broadcast of a peer that is not in the audience itself. -/
lemma quietFor_broadcast_iff {channel : UInt8} {delivery : DeliveryMethod} {payload : Bytes}
    {except : Option PeerId} (hpeer : peer ∉ s.authenticatedPeers) (hsent : s₁.sent = s.sent)
    (hpeers : s.SamePeers s₁) (haudience : s₁.audience channel except = s.audience channel except) :
    QuietFor peer s (s₁.broadcast channel delivery payload except) ↔ s.Deserted channel except := by
  unfold broadcast
  rw [quietFor_post_iff hsent hpeers, haudience, List.forall_mem_map]
  refine forall₂_congr fun target htarget => forall_congr' fun hlive => iff_false_intro ?_
  rintro rfl
  exact hpeer (mem_authenticatedPeers_of_mem_audience htarget)

/-- A message to one peer. -/
lemma quietFor_send_iff {target : PeerId} {channel : UInt8} {payload : Bytes} (hsent : s₁.sent = s.sent)
    (hpeers : s.SamePeers s₁) :
    QuietFor peer s (s₁.send target channel payload) ↔ (target ∈ s.transport.peers → target = peer) := by
  unfold send
  rw [quietFor_post_iff hsent hpeers]
  exact List.forall_mem_singleton

lemma sameStores_of_posted (h : Posted s₁ s') : s.SameStores s' ↔ s.SameStores s₁ := by
  obtain ⟨messages, rfl⟩ := h
  have hsame : s.Unadministered (s₁.post messages) ↔ s.Unadministered s₁ := unadministered_of_posted ⟨messages, rfl⟩
  exact ⟨fun h => ⟨hsame.mp h.1, h.2, h.3, h.4, h.5, h.6, h.7, h.8⟩,
    fun h => ⟨hsame.mpr h.1, h.2, h.3, h.4, h.5, h.6, h.7, h.8⟩⟩

lemma untouched_iff_of_posted {Q : Prop} (h : Posted s₁ s') (hquiet : QuietFor peer s s' ↔ Q) :
    Untouched peer s s' ↔ s.SameStores s₁ ∧ Q := by
  rw [← hquiet, ← sameStores_of_posted h]
  exact ⟨fun h => ⟨h.1, h.2⟩, fun h => ⟨h.1, h.2⟩⟩

lemma untouched_broadcast_iff {channel : UInt8} {delivery : DeliveryMethod} {payload : Bytes}
    {except : Option PeerId} (hpeer : peer ∉ s.authenticatedPeers) (hsent : s₁.sent = s.sent)
    (hpeers : s.SamePeers s₁) (haudience : s₁.audience channel except = s.audience channel except) :
    Untouched peer s (s₁.broadcast channel delivery payload except) ↔
      s.SameStores s₁ ∧ s.Deserted channel except :=
  untouched_iff_of_posted (posted_broadcast _ _ _ _ s₁) (quietFor_broadcast_iff hpeer hsent hpeers haudience)

/-- An answer to the peer itself. -/
lemma untouched_send_iff {channel : UInt8} {payload : Bytes} (hsent : s₁.sent = s.sent) (hpeers : s.SamePeers s₁) :
    Untouched peer s (s₁.send peer channel payload) ↔ s.SameStores s₁ :=
  (untouched_iff_of_posted (posted_send _ _ _ s₁) (quietFor_send_iff hsent hpeers)).trans
    (and_iff_left fun _ => rfl)

/-- Nothing is sent. -/
lemma untouched_iff_of_sent (h : s₁.sent = s.sent) : Untouched peer s s₁ ↔ s.SameStores s₁ :=
  ⟨fun h => h.stores, fun hstores => ⟨hstores, quietFor_of_sent h⟩⟩

/-! ### Changes of one store -/

lemma sameStores_database_iff {database : Dict String BasisData} :
    s.SameStores { s with database } ↔ Dict.Rel Eq s.database database :=
  ⟨fun h => h.database, fun h => { SameStores.refl s with administration := ⟨.refl _, rfl, rfl, rfl⟩, database := h }⟩

lemma sameStores_resources_iff {resources : ResourceState} :
    s.SameStores { s with resources } ↔ s.resources.Same resources :=
  ⟨fun h => h.resources, fun h => { SameStores.refl s with administration := ⟨.refl _, rfl, rfl, rfl⟩, resources := h }⟩

lemma sameStores_netIds_iff {netIds : NetIdState} : s.SameStores { s with netIds } ↔ s.netIds.Same netIds :=
  ⟨fun h => h.netIds, fun h => { SameStores.refl s with administration := ⟨.refl _, rfl, rfl, rfl⟩, netIds := h }⟩

lemma sameStores_ownership_iff {ownership : OwnershipState} :
    s.SameStores { s with ownership } ↔ s.ownership.Same ownership :=
  ⟨fun h => h.ownership, fun h => { SameStores.refl s with administration := ⟨.refl _, rfl, rfl, rfl⟩, ownership := h }⟩

lemma sameStores_contentShare_iff {contentShare : ContentShareState} :
    s.SameStores { s with contentShare } ↔ s.contentShare.Same contentShare :=
  ⟨fun h => h.contentShare, fun h => { SameStores.refl s with administration := ⟨.refl _, rfl, rfl, rfl⟩, contentShare := h }⟩

lemma sameStores_pip_iff {pip : PipState} : s.SameStores { s with pip } ↔ s.pip.Same pip :=
  ⟨fun h => h.pip, fun h => { SameStores.refl s with administration := ⟨.refl _, rfl, rfl, rfl⟩, pip := h }⟩

lemma sameStores_p2pBroker_iff {p2pBroker : P2pBroker} :
    s.SameStores { s with p2pBroker } ↔ s.p2pBroker.Same p2pBroker :=
  ⟨fun h => h.p2pBroker, fun h => { SameStores.refl s with administration := ⟨.refl _, rfl, rfl, rfl⟩, p2pBroker := h }⟩

/-! ### Players -/

section Arms

variable {payload : Bytes}

lemma untouched_handleChat_iff (hpeer : peer ∉ s.authenticatedPeers) :
    Untouched peer s (s.handleChat peer payload) ↔
      ∀ chat, parse ChatMessage.deserialize payload = some chat → s.Deserted channels.chat none :=
  onParsed_iff (P := Untouched peer s) (.refl peer s) fun _ =>
    Iff.trans (untouched_broadcast_iff hpeer rfl (.refl s) rfl) (and_iff_right (.refl s))

lemma untouched_handleAvatarChangeMessage_iff (hpeer : peer ∉ s.authenticatedPeers) :
    Untouched peer s (s.handleAvatarChangeMessage peer payload) ↔
      ∀ avatar, parse ClientAvatarChangeMessage.deserialize payload = some avatar →
        s.globalState.avatarsLocked ∨ s.Deserted channels.avatarChangeMessage (some peer) := by
  refine onParsed_iff (P := Untouched peer s) (.refl peer s) fun avatar => ?_
  have hprotection : s.hasProtectionPermission peer = false := by
    unfold hasProtectionPermission
    rw [Dict.notMem_iff_lookup.mp hpeer]
  rw [hprotection, Bool.not_false, Bool.and_true, Dict.modify_of_notMem _ hpeer]
  split
  next hlocked => exact iff_of_true (.refl peer s) (.inl hlocked)
  next hunlocked =>
    rw [or_iff_right hunlocked]
    exact Iff.trans (untouched_broadcast_iff hpeer rfl (.refl s) rfl) (and_iff_right (.refl s))

/-! ### Net ids, resources, records -/

lemma untouched_handleNetIdAssign_iff (hpeer : peer ∉ s.authenticatedPeers) :
    Untouched peer s (s.handleNetIdAssign peer payload) ↔
      ∀ request, parse NetIdMessage.deserialize payload = some request →
        request.playerId = "" ∨ request.playerId ∈ s.netIds.byName := by
  refine onParsed_iff (P := Untouched peer s) (.refl peer s) fun request => ?_
  have hexisted : (s.netIds.all.any fun e => e.1 = request.playerId) = true ↔ request.playerId ∈ s.netIds.byName := by
    rw [List.any_eq_true, NetIdState.all, AList.mem_keys, AList.keys, List.keys, List.mem_map]
    simp only [List.mem_map, exists_exists_and_eq_and, decide_eq_true_eq]
  split
  next hempty => exact iff_of_true (.refl peer s) (.inl hempty)
  next hempty =>
    rw [or_iff_right hempty, ← NetIdState.same_addOrFind_iff, ← sameStores_netIds_iff]
    dsimp only
    split
    next => exact untouched_send_iff rfl (.refl s)
    next hnew =>
      refine Iff.trans (untouched_broadcast_iff hpeer rfl (.refl s) rfl) (and_iff_left_of_imp fun h => ?_)
      exact absurd (hexisted.mpr (NetIdState.same_addOrFind_iff.mp (sameStores_netIds_iff.mp h))) hnew

lemma untouched_handleLoadResource (hpeer : peer ∉ s.authenticatedPeers) :
    Untouched peer s (s.handleLoadResource peer payload) := by
  refine onParsed_of (P := Untouched peer s) (.refl peer s) fun resource => ?_
  rw [Dict.notMem_iff_lookup.mp hpeer]
  exact .refl peer s

lemma untouched_handleUnloadResource_iff (hpeer : peer ∉ s.authenticatedPeers) :
    Untouched peer s (s.handleUnloadResource peer payload) ↔
      ∀ request, parse UnloadResource.deserialize payload = some request →
        request.loadedNetId ∉ s.resources.preloadSessions ∧
          ∀ resource, s.resources.resources.lookup request.loadedNetId = some resource →
            resource.isAdminLocked ∧ resource.loadedNetId = request.loadedNetId ∧ request.loadedNetId ≠ "" := by
  refine onParsed_iff (P := Untouched peer s) (.refl peer s) fun request => ?_
  have hprotection : s.hasProtectionPermission peer = false := by
    unfold hasProtectionPermission
    rw [Dict.notMem_iff_lookup.mp hpeer]
  have hunloaded : (s.resources.unloadResource request.loadedNetId).1 =
      s.resources.resources.lookup request.loadedNetId := rfl
  dsimp only
  rw [hunloaded, hprotection]
  cases hlookup : s.resources.resources.lookup request.loadedNetId with
  | none =>
    refine Iff.trans (untouched_iff_of_sent rfl) (sameStores_resources_iff.trans ?_)
    rw [ResourceState.same_unloadResource_iff, and_iff_right (Dict.notMem_iff_lookup.mpr hlookup)]
    exact (and_iff_left fun _ h => by cases h).symm
  | some resource =>
    simp only [Option.some.injEq, forall_eq', Bool.not_false, Bool.and_true]
    split
    next hlocked =>
      refine Iff.trans (untouched_iff_of_sent rfl) (sameStores_resources_iff.trans ?_)
      rw [ResourceState.same_loadResource_unloadResource_iff hlookup, and_iff_right hlocked]
    next hunlocked =>
      refine iff_of_false (fun h => ?_) fun h => hunlocked h.2.1
      exact (ResourceState.same_unloadResource_iff.mp h.stores.resources).1
        (Dict.mem_iff_lookup.mpr ⟨resource, hlookup⟩)

lemma preloadSessions_unloadScenes (spawn : SpawnPreloadedMessage) (s : ServerState) :
    (s.unloadScenes spawn).resources.preloadSessions = s.resources.preloadSessions := by
  unfold unloadScenes
  split
  next => rw [foldl_broadcast channels.unloadResource .reliableOrdered UnloadResource.serialize none]; rfl
  next => rfl

lemma untouched_handlePreloadReady_iff :
    Untouched peer s (s.handlePreloadReady peer payload) ↔
      ∀ ready, parse PreloadReadyMessage.deserialize payload = some ready → s.resources.AwaitsNothing peer ready := by
  refine onParsed_iff (P := Untouched peer s) (.refl peer s) fun ready => ?_
  by_cases hawaits : s.resources.AwaitsNothing peer ready
  · refine iff_of_true ?_ hawaits
    dsimp only
    rw [ResourceState.markPreloadReady_fst hawaits]
    refine Iff.mpr (untouched_iff_of_sent rfl) (sameStores_resources_iff.mpr ?_)
    exact ResourceState.same_markPreloadReady_iff.mpr hawaits
  · refine iff_of_false (fun h => hawaits (ResourceState.same_markPreloadReady_iff.mp ⟨?_, ?_⟩)) hawaits
    · rw [ResourceState.resources_markPreloadReady]
      exact Dict.Rel.refl (fun _ => rfl) _
    · have hsessions := h.stores.resources.preloadSessions
      dsimp only at hsessions
      split at hsessions
      next => exact hsessions
      next spawn _ =>
        have hafter : ((unloadScenes spawn { s with resources := (s.resources.markPreloadReady peer ready).2 }).broadcastSpawnPreloaded
            spawn).resources.preloadSessions = (s.resources.markPreloadReady peer ready).2.preloadSessions :=
          preloadSessions_unloadScenes spawn _
        rwa [hafter] at hsessions

lemma untouched_handleStoreDatabase_iff {env : Outside} :
    Untouched peer s (s.handleStoreDatabase env payload) ↔
      ∀ message, parse (DatabasePrimitiveMessage.deserialize env.json) payload = some message →
        s.database.lookup message.name =
          some ⟨message.name, (env.json.fromStr message.jsonPayload).getD (.string message.jsonPayload)⟩ := by
  refine onParsed_iff (P := Untouched peer s) (.refl peer s) fun message => ?_
  refine Iff.trans (untouched_iff_of_sent rfl) (sameStores_database_iff.trans ?_)
  rw [Dict.Rel.insert_iff fun _ => rfl]
  simp only [exists_eq_right]

lemma untouched_handleRequestStoreDatabase {env : Outside} :
    Untouched peer s (s.handleRequestStoreDatabase env peer payload) := by
  refine onParsed_of (P := Untouched peer s) (.refl peer s) fun request => ?_
  split
  next => exact .refl peer s
  next => exact (untouched_send_iff rfl (.refl s)).mpr (.refl s)

/-! ### Owners, shared content, cameras -/

lemma untouched_handleGetCurrentOwnerRequest_iff :
    Untouched peer s (s.handleGetCurrentOwnerRequest peer payload) ↔
      ∀ request, parse OwnershipTransferMessage.deserialize payload = some request →
        request.ownershipId ∈ s.ownership.byObject := by
  refine onParsed_iff (P := Untouched peer s) (.refl peer s) fun request => ?_
  refine Iff.trans (untouched_send_iff rfl (.refl s)) (sameStores_ownership_iff.trans ?_)
  exact OwnershipState.same_requestNewOrExisting_iff

lemma untouched_handleChangeCurrentOwnerRequest_iff (hpeer : peer ∉ s.authenticatedPeers) :
    Untouched peer s (s.handleChangeCurrentOwnerRequest peer payload) ↔
      ∀ request, parse OwnershipTransferMessage.deserialize payload = some request →
        s.ownership.byObject.lookup request.ownershipId = some peer ∧
          s.Deserted channels.changeCurrentOwnerRequest none := by
  refine onParsed_iff (P := Untouched peer s) (.refl peer s) fun request => ?_
  refine Iff.trans (untouched_broadcast_iff hpeer rfl (.refl s) rfl) (and_congr_left' ?_)
  exact sameStores_ownership_iff.trans OwnershipState.same_switchOwnership_iff

lemma untouched_handleRemoveCurrentOwnerRequest_iff :
    Untouched peer s (s.handleRemoveCurrentOwnerRequest payload) ↔
      ∀ request, parse OwnershipTransferMessage.deserialize payload = some request →
        s.ownership.byObject.lookup request.ownershipId ≠ some request.playerId := by
  refine onParsed_iff (P := Untouched peer s) (.refl peer s) fun request => ?_
  rw [← OwnershipState.same_removeIfOwner_iff]
  have hremoved : (s.ownership.removeIfOwner request.ownershipId request.playerId).1 = true →
      ¬ s.ownership.Same (s.ownership.removeIfOwner request.ownershipId request.playerId).2 := by
    rw [OwnershipState.same_removeIfOwner_iff, not_not]
    unfold OwnershipState.removeIfOwner
    split
    next howner => exact fun _ => howner
    next => nofun
  dsimp only
  split
  next h => exact iff_of_false (fun huntouched => hremoved h huntouched.stores.ownership) (hremoved h)
  next => exact Iff.trans (untouched_iff_of_sent rfl) sameStores_ownership_iff

/-- Content is locked for a peer that is not authenticated. -/
lemma untouched_handleContentShare (hpeer : peer ∉ s.authenticatedPeers) :
    Untouched peer s (s.handleContentShare peer payload) := by
  refine onParsed_of (P := Untouched peer s) (.refl peer s) fun request => ?_
  split
  next => exact .refl peer s
  next =>
    rw [Dict.notMem_iff_lookup.mp hpeer]
    exact .refl peer s

lemma untouched_handleContentShareCleanup_iff :
    Untouched peer s (s.handleContentShareCleanup peer payload) ↔
      ∀ request, parse ContentShareCleanupMessage.deserialize payload = some request →
        request.sphereNetId ∉ s.contentShare.spheres := by
  refine onParsed_iff (P := Untouched peer s) (.refl peer s) fun request => ?_
  rw [← @ContentShareState.same_remove_iff peer]
  have hremoved (cleanup : ServerContentShareCleanupMessage)
      (h : (s.contentShare.remove peer request).1 = some cleanup) :
      ¬ s.contentShare.Same (s.contentShare.remove peer request).2 := by
    rw [ContentShareState.same_remove_iff, not_not]
    unfold ContentShareState.remove at h
    split at h
    next hmem => exact hmem
    next => cases h
  dsimp only
  split
  next => exact Iff.trans (untouched_iff_of_sent rfl) sameStores_contentShare_iff
  next cleanup h =>
    exact iff_of_false (fun huntouched => hremoved cleanup h huntouched.stores.contentShare) (hremoved cleanup h)

lemma untouched_handleCameraPipState_iff (hpeer : peer ∉ s.authenticatedPeers) :
    Untouched peer s (s.handleCameraPipState peer payload) ↔
      ∀ request, parse ClientCameraPipStateMessage.deserialize payload = some request →
        s.pip.Shows peer request ∧ s.Deserted channels.cameraPipState (some peer) := by
  refine onParsed_iff (P := Untouched peer s) (.refl peer s) fun request => ?_
  refine Iff.trans (untouched_broadcast_iff hpeer rfl (.refl s) rfl) (and_congr_left' ?_)
  exact sameStores_pip_iff.trans PipState.same_stateChange_iff

lemma untouched_handleCameraPipPosition_iff (hpeer : peer ∉ s.authenticatedPeers) :
    Untouched peer s (s.handleCameraPipPosition peer payload) ↔
      ∀ request, parse ClientCameraPipPositionMessage.deserialize payload = some request →
        s.pip.IsAt peer request ∧ (s.pip.Filming peer → s.Deserted channels.cameraPipPosition (some peer)) := by
  refine onParsed_iff (P := Untouched peer s) (.refl peer s) fun request => ?_
  have hfilming := s.pip.isSome_positionUpdate peer request
  rw [← PipState.same_positionUpdate_iff, ← sameStores_pip_iff]
  dsimp only
  split
  next hnone =>
    rw [hnone] at hfilming
    refine Iff.trans (untouched_iff_of_sent rfl) (and_iff_left fun h => ?_).symm
    cases hfilming.mpr h
  next message hsome =>
    rw [hsome] at hfilming
    rw [imp_iff_right (hfilming.mp rfl)]
    exact untouched_broadcast_iff hpeer rfl (.refl s) rfl

/-! ### Signals and statistics -/

lemma untouched_handleP2p_iff :
    Untouched peer s (s.handleP2p peer payload) ↔
      s.p2pBroker.Ignored (fun id => id ∈ s.authenticatedPeers) (fun id => id ∈ s.transport.peers) peer payload := by
  rw [← P2pBroker.unmoved_handleSignal_iff]
  refine Iff.trans (untouched_iff_of_posted ⟨_, rfl⟩ (quietFor_post_iff rfl (.refl s))) ?_
  exact and_congr_left' sameStores_p2pBroker_iff

lemma untouched_handleStatisticsRequest {env : Outside} :
    Untouched peer s (s.handleStatisticsRequest env peer payload) := by
  unfold handleStatisticsRequest
  split
  next => exact (untouched_send_iff rfl (.refl s)).mpr (.refl s)
  next => exact .refl peer s

/-! ### Voice -/

lemma untouched_updateVoiceRecipients {largeCount inverted : Bool} :
    Untouched peer s (s.updateVoiceRecipients peer payload largeCount inverted) := by
  refine onParsed_of (P := Untouched peer s) (.refl peer s) fun message => ?_
  exact Iff.mpr (untouched_iff_of_sent rfl)
    { SameStores.refl s with administration := ⟨.refl _, rfl, rfl, rfl⟩ }

lemma untouched_updateVoiceRecipientsBitfield :
    Untouched peer s (s.updateVoiceRecipientsBitfield peer payload) := by
  unfold updateVoiceRecipientsBitfield
  split
  next => exact .refl peer s
  next =>
    exact Iff.mpr (untouched_iff_of_sent rfl)
      { SameStores.refl s with administration := ⟨.refl _, rfl, rfl, rfl⟩ }

lemma untouched_relayVoiceMessage_iff :
    Untouched peer s (s.relayVoiceMessage peer payload) ↔
      ∀ recipients, s.voiceRecipients.lookup peer = some recipients → ∀ recipient ∈ recipients,
        s.p2pBroker.isOffloaded peer recipient = false → recipient ∈ s.transport.peers → recipient = peer := by
  unfold relayVoiceMessage
  cases s.voiceRecipients.lookup peer with
  | none => exact iff_of_true (.refl peer s) nofun
  | some recipients =>
    simp only [Option.some.injEq, forall_eq']
    refine Iff.trans (untouched_iff_of_posted ⟨_, rfl⟩ (quietFor_post_iff rfl (.refl s))) ?_
    rw [and_iff_right (.refl s), List.forall_mem_map]
    simp only [List.mem_filter, and_imp, Bool.not_eq_true']
    rfl

lemma untouched_relayShoutVoiceMessage_iff (hpeer : peer ∉ s.authenticatedPeers) :
    Untouched peer s (s.relayShoutVoiceMessage peer payload) ↔
      s.Deserted (if isLargeId peer then channels.voiceLarge else channels.shoutVoice) (some peer) :=
  Iff.trans (untouched_broadcast_iff hpeer rfl (.refl s) rfl) (and_iff_right (.refl s))

/-! ### Data of avatars and scenes, events -/

/-- No recipient is a live player for whom the server relays; without a list everybody is meant. -/
def DesertedBy (peer : PeerId) (channel : UInt8) (recipients : List PeerId) (s : ServerState) : Prop :=
  if recipients = [] then s.Deserted channel (some peer)
  else ∀ recipient ∈ recipients, recipient ∈ s.authenticatedPeers →
    (isP2pOffloadChannel channel && s.p2pBroker.isOffloaded peer recipient) = false → recipient ∉ s.transport.peers

lemma untouched_sendToRecipientsOrBroadcast_iff (hpeer : peer ∉ s.authenticatedPeers) {delivery : DeliveryMethod}
    {channel : UInt8} {recipients : List PeerId} :
    Untouched peer s (s.sendToRecipientsOrBroadcast peer delivery channel payload recipients) ↔
      s.DesertedBy peer channel recipients := by
  unfold sendToRecipientsOrBroadcast DesertedBy
  split
  next => exact Iff.trans (untouched_broadcast_iff hpeer rfl (.refl s) rfl) (and_iff_right (.refl s))
  next =>
    refine Iff.trans (untouched_iff_of_posted ⟨_, rfl⟩ (quietFor_post_iff rfl (.refl s))) ?_
    rw [and_iff_right (.refl s), List.forall_mem_map]
    simp only [List.mem_filter, Bool.and_eq_true, decide_eq_true_eq, and_imp, Bool.not_eq_true']
    refine forall₂_congr fun recipient _ => ?_
    have hne : recipient ∈ s.authenticatedPeers → recipient ≠ peer := by
      rintro hrecipient rfl
      exact hpeer hrecipient
    constructor
    · intro h hrecipient hrelayed hlive
      exact hne hrecipient (h (hne hrecipient) hrecipient hrelayed hlive)
    · intro h _ hrecipient hrelayed hlive
      exact absurd hlive (h hrecipient hrelayed)

lemma untouched_relayAvatarGeneric_iff (hpeer : peer ∉ s.authenticatedPeers) {delivery : DeliveryMethod} :
    Untouched peer s (s.relayAvatarGeneric peer delivery payload) ↔
      ∀ avatar, parse AvatarDataMessage.deserialize payload = some avatar →
        s.DesertedBy peer channels.avatar avatar.recipients :=
  onParsed_iff (P := Untouched peer s) (.refl peer s) fun _ => untouched_sendToRecipientsOrBroadcast_iff hpeer

lemma untouched_relaySceneGeneric_iff (hpeer : peer ∉ s.authenticatedPeers) {delivery : DeliveryMethod} :
    Untouched peer s (s.relaySceneGeneric peer delivery payload) ↔
      ∀ scene, parse SceneDataMessage.deserialize payload = some scene →
        s.DesertedBy peer channels.scene scene.recipients :=
  onParsed_iff (P := Untouched peer s) (.refl peer s) fun _ => untouched_sendToRecipientsOrBroadcast_iff hpeer

/-- The event cannot be read, or reaches nobody. -/
def EventDeserted (peer : PeerId) (payload : Bytes) (s : ServerState) : Prop :=
  match payload with
  | [] => True
  | eventType :: rest =>
    if eventType = channels.eventTypeCameraShutterSound then s.Deserted channels.events (some peer)
    else if eventType = channels.eventTypeCameraCountdown then
      ∀ countdown, parse ClientCameraCountdownMessage.deserialize rest = some countdown →
        s.Deserted channels.events (some peer)
    else if eventType = channels.eventTypePlayerTempBlock then
      withRead getU16 rest True fun target rest => withRead getU8 rest True fun _ _ =>
        target ∈ s.authenticatedPeers → target ∉ s.transport.peers
    else True

lemma untouched_relayEvent_iff (hpeer : peer ∉ s.authenticatedPeers) :
    Untouched peer s (s.relayEvent peer payload) ↔ s.EventDeserted peer payload := by
  have hbroadcast (delivery : DeliveryMethod) (payload : Bytes) :
      Untouched peer s (s.broadcast channels.events delivery payload (some peer)) ↔
        s.Deserted channels.events (some peer) :=
    Iff.trans (untouched_broadcast_iff hpeer rfl (.refl s) rfl) (and_iff_right (.refl s))
  unfold relayEvent EventDeserted
  cases payload with
  | nil => exact iff_true_intro (.refl peer s)
  | cons eventType rest =>
    dsimp only
    split_ifs
    · exact hbroadcast _ _
    · exact onParsed_iff (P := Untouched peer s) (.refl peer s) fun countdown => hbroadcast _ _
    · refine withRead_iff (P := Untouched peer s) (.refl peer s) fun target rest => ?_
      refine withRead_iff (P := Untouched peer s) (.refl peer s) fun blocked _ => ?_
      split
      next htarget =>
        rw [imp_iff_right htarget]
        refine Iff.trans (untouched_iff_of_posted (posted_send _ _ _ s) (quietFor_send_iff rfl (.refl s))) ?_
        rw [and_iff_right (.refl s)]
        refine forall_congr' fun _ => iff_false_intro ?_
        rintro rfl
        exact hpeer htarget
      next htarget => exact iff_of_true (.refl peer s) fun h => absurd h htarget
    · exact iff_true_intro (.refl peer s)

end Arms

/-! ### Administration -/

/-- The request reaches nobody but its sender. -/
def KeepsQuiet (peer : PeerId) (mode : AdminRequestMode) (reader : NetReader) (s : ServerState) : Prop :=
  match mode with
  | .globalToggleAvatars | .globalToggleProps | .globalToggleWorlds | .globalToggleServers
  | .globalToggleThirdPerson | .globalToggleAdditionalAvatarDataLock
  | .setGlobalHeadlessAudio | .setGlobalHeadlessDisallow | .setGlobalOpusPacketLoss | .setGlobalOpusFrameDuration
  | .messageAll | .enableShoutMode | .disableShoutMode => s.Deserted channels.admin none
  | .teleportAll => s.Deserted channels.admin (some peer)
  | .setUserOpusBitrate =>
    (readOrDefault getU16 reader peer).1 ∈ s.transport.peers → (readOrDefault getU16 reader peer).1 = peer
  | .message =>
    lastOr getString (readOrDefault getU16 reader peer).2 "" ≠ "" →
      (readOrDefault getU16 reader peer).1 ∈ s.transport.peers → (readOrDefault getU16 reader peer).1 = peer
  | .teleportPlayer => lastOr getU16 reader peer ∈ s.transport.peers → lastOr getU16 reader peer = peer
  | _ => True

lemma quietFor_sendAdminText_iff {target : PeerId} {message : String} (hsent : s₁.sent = s.sent)
    (hpeers : s.SamePeers s₁) :
    QuietFor peer s (s₁.sendAdminText target message) ↔
      (message ≠ "" → target ∈ s.transport.peers → target = peer) := by
  unfold sendAdminText
  split
  next hempty => exact iff_of_true (quietFor_of_sent hsent) fun h => absurd hempty h
  next hne =>
    rw [imp_iff_right hne]
    exact quietFor_send_iff hsent hpeers

/-- Ending connections sends no message. -/
lemma quietFor_foldl_disconnect_iff {env : Outside} {reason : String} (targets : List PeerId) :
    QuietFor peer s (targets.foldl (disconnect env reason) s₁) ↔ QuietFor peer s s₁ := by
  induction targets generalizing s₁ with
  | nil => exact Iff.rfl
  | cons target targets ih =>
    rw [List.foldl_cons, ih]
    exact Iff.rfl

theorem quietFor_handleAdminRequest_iff (hpeer : peer ∉ s.authenticatedPeers) {env : Outside}
    {mode : AdminRequestMode} {reader : NetReader} :
    QuietFor peer s (s.handleAdminRequest env peer mode reader) ↔ s.KeepsQuiet peer mode reader := by
  have hself : QuietFor peer s s := .refl peer s
  have hban (uuid reason : String) (ip : Option String) : QuietFor peer s (s.ban env uuid reason ip) := by
    unfold ban
    dsimp only
    split
    next =>
      rw [disconnectUuid_eq_foldl]
      exact (quietFor_foldl_disconnect_iff _).mpr (quietFor_of_sent rfl)
    next => exact quietFor_of_sent rfl
  have hpermissions (change : PermissionStore → PermissionStore) : QuietFor peer s (s.updatePermissions peer change) :=
    Iff.mpr (quietFor_sendAdminText_iff rfl (.refl s)) fun _ _ => rfl
  cases mode
  case globalToggleAvatars | globalToggleProps | globalToggleWorlds | globalToggleServers
    | globalToggleThirdPerson | globalToggleAdditionalAvatarDataLock | setGlobalHeadlessAudio
    | setGlobalOpusPacketLoss | setGlobalOpusFrameDuration | messageAll | enableShoutMode | disableShoutMode
    | teleportAll =>
    exact quietFor_broadcast_iff hpeer rfl (.refl s) rfl
  case setGlobalHeadlessDisallow =>
    have hset (value : Bool) : QuietFor peer s
        ({ s with globalState.disallowHeadless := value, config.disallowHeadless := value }.broadcastBoolAdminState
          .globalGetHeadlessDisallowState value) ↔ s.Deserted channels.admin none :=
      quietFor_broadcast_iff hpeer rfl (.refl s) rfl
    rw [handleAdminRequest, KeepsQuiet]
    dsimp only
    split
    next => exact (quietFor_foldl_disconnect_iff _).trans (hset _)
    next => exact hset _
  case setUserOpusBitrate | teleportPlayer => exact quietFor_send_iff rfl (.refl s)
  case message => exact quietFor_sendAdminText_iff rfl (.refl s)
  case addDefaultLibraryItem | removeDefaultLibraryItem =>
    exact iff_true_intro (Iff.mpr (quietFor_sendAdminText_iff rfl (.refl s)) fun _ _ => rfl)
  case setUserGroup | setUserNode | setGroupNode | setGroupParent =>
    exact iff_true_intro (withRead_of (P := QuietFor peer s) hself fun _ _ =>
      withRead_of (P := QuietFor peer s) hself fun _ _ => hpermissions _)
  case createGroup | deleteGroup =>
    exact iff_true_intro (withRead_of (P := QuietFor peer s) hself fun _ _ => hpermissions _)
  case ban | ipAndBan =>
    exact iff_true_intro (withRead_of (P := QuietFor peer s) hself fun _ _ => hban _ _ _)
  case kick =>
    refine iff_true_intro (withRead_of (P := QuietFor peer s) hself fun _ _ => ?_)
    rw [disconnectUuid_eq_foldl]
    exact (quietFor_foldl_disconnect_iff _).mpr hself
  case unBan | unBanIP | addWhitelist | removeWhitelist =>
    exact iff_true_intro (withRead_of (P := QuietFor peer s) hself fun _ _ => quietFor_of_sent rfl)
  case setServerName | setServerMotd | setWhitelistMode | userOpusBitrateOverride => exact iff_true_intro (quietFor_of_sent rfl)
  all_goals exact iff_true_intro (Iff.mpr (quietFor_send_iff rfl (.refl s)) fun _ => rfl)

/-- Administration changes its own stores only. -/
lemma sameStores_iff_of_frame (hf : Frame .administration s s') : s.SameStores s' ↔ s.Unadministered s' := by
  refine ⟨fun h => h.administration, fun h => ⟨h, ?_, ?_, ?_, ?_, ?_, ?_, ?_⟩⟩
  · rw [hf.database nofun]
    exact Dict.Rel.refl (fun _ => rfl) _
  · rw [hf.resources nofun]
    exact .refl _
  · rw [hf.netIds nofun]
    exact .refl _
  · rw [hf.ownership nofun]
    exact .refl _
  · rw [hf.contentShare nofun]
    exact .refl _
  · rw [hf.pip nofun]
    exact .refl _
  · rw [hf.p2pBroker nofun]
    exact .refl _

lemma untouched_handleAdminMessage_iff (hpeer : peer ∉ s.authenticatedPeers) {env : Outside} {payload : Bytes} :
    Untouched peer s (s.handleAdminMessage env peer payload) ↔
      withRead AdminRequest.deserialize payload True fun request reader =>
        s.KeepsStores env request.mode reader ∧ s.KeepsQuiet peer request.mode reader := by
  refine withRead_iff (P := Untouched peer s) (.refl peer s) fun request reader => ?_
  rw [← unadministered_handleAdminRequest_iff, ← quietFor_handleAdminRequest_iff hpeer,
    ← sameStores_iff_of_frame (writes_of_administers (administers_handleAdminRequest env peer _ reader s)).frame]
  exact ⟨fun h => ⟨h.1, h.2⟩, fun h => ⟨h.1, h.2⟩⟩

/-! ### All arms -/

/-- What makes a message harmless: an arm that asks who the sender is, a message that cannot be read, one that asks
for what is so already, or one that nobody is there to hear.  Harmless messages have no effect from a peer that is
not authenticated; the identity message is none of them. -/
def Harmless (env : Outside) (peer : PeerId) (channel : UInt8) (payload : Bytes) (s : ServerState) : Arm → Prop
  | .authIdentity => False
  | .chat => ∀ chat, parse ChatMessage.deserialize payload = some chat → s.Deserted channels.chat none
  | .avatarChangeMessage =>
    ∀ avatar, parse ClientAvatarChangeMessage.deserialize payload = some avatar →
      s.globalState.avatarsLocked ∨ s.Deserted channels.avatarChangeMessage (some peer)
  | .netIdAssign =>
    ∀ request, parse NetIdMessage.deserialize payload = some request →
      request.playerId = "" ∨ request.playerId ∈ s.netIds.byName
  | .unloadResource =>
    ∀ request, parse UnloadResource.deserialize payload = some request →
      request.loadedNetId ∉ s.resources.preloadSessions ∧
        ∀ resource, s.resources.resources.lookup request.loadedNetId = some resource →
          resource.isAdminLocked ∧ resource.loadedNetId = request.loadedNetId ∧ request.loadedNetId ≠ ""
  | .preloadReady =>
    ∀ ready, parse PreloadReadyMessage.deserialize payload = some ready → s.resources.AwaitsNothing peer ready
  | .storeDatabase =>
    ∀ message, parse (DatabasePrimitiveMessage.deserialize env.json) payload = some message →
      s.database.lookup message.name =
        some ⟨message.name, (env.json.fromStr message.jsonPayload).getD (.string message.jsonPayload)⟩
  | .getCurrentOwnerRequest =>
    ∀ request, parse OwnershipTransferMessage.deserialize payload = some request →
      request.ownershipId ∈ s.ownership.byObject
  | .changeCurrentOwnerRequest =>
    ∀ request, parse OwnershipTransferMessage.deserialize payload = some request →
      s.ownership.byObject.lookup request.ownershipId = some peer ∧
        s.Deserted channels.changeCurrentOwnerRequest none
  | .removeCurrentOwnerRequest =>
    ∀ request, parse OwnershipTransferMessage.deserialize payload = some request →
      s.ownership.byObject.lookup request.ownershipId ≠ some request.playerId
  | .contentShareCleanup =>
    ∀ request, parse ContentShareCleanupMessage.deserialize payload = some request →
      request.sphereNetId ∉ s.contentShare.spheres
  | .cameraPipState =>
    ∀ request, parse ClientCameraPipStateMessage.deserialize payload = some request →
      s.pip.Shows peer request ∧ s.Deserted channels.cameraPipState (some peer)
  | .cameraPipPosition =>
    ∀ request, parse ClientCameraPipPositionMessage.deserialize payload = some request →
      s.pip.IsAt peer request ∧ (s.pip.Filming peer → s.Deserted channels.cameraPipPosition (some peer))
  | .admin =>
    withRead AdminRequest.deserialize payload True fun request reader =>
      s.KeepsStores env request.mode reader ∧ s.KeepsQuiet peer request.mode reader
  | .p2p =>
    s.p2pBroker.Ignored (fun id => id ∈ s.authenticatedPeers) (fun id => id ∈ s.transport.peers) peer payload
  | .voice =>
    ∀ recipients, s.voiceRecipients.lookup peer = some recipients → ∀ recipient ∈ recipients,
      s.p2pBroker.isOffloaded peer recipient = false → recipient ∈ s.transport.peers → recipient = peer
  | .shoutVoice => s.Deserted (if isLargeId peer then channels.voiceLarge else channels.shoutVoice) (some peer)
  | .avatar =>
    ∀ avatar, parse AvatarDataMessage.deserialize payload = some avatar →
      s.DesertedBy peer channels.avatar avatar.recipients
  | .scene =>
    ∀ scene, parse SceneDataMessage.deserialize payload = some scene →
      s.DesertedBy peer channels.scene scene.recipients
  | .events => s.EventDeserted peer payload
  | .serverBound => s.Deserted channel (some peer)
  | .playerAvatar | .loadResource | .requestStoreDatabase | .contentShare | .serverStatistics | .audioRecipients _ _
  | .audioRecipientsBitfield | .unknown => True

/-- **What a peer can do before it is authenticated.**  On any channel but that of the identity message it has no
effect if and only if the message is harmless. -/
theorem untouched_handleMessage_iff {env : Outside} {channel : UInt8} {delivery : DeliveryMethod} {payload : Bytes}
    (hpeer : peer ∉ s.authenticatedPeers) (hchannel : channel ≠ channels.authIdentity) :
    Untouched peer s (s.handleMessage env peer channel delivery payload) ↔
      s.Harmless env peer channel payload (armOf channel) := by
  unfold handleMessage
  cases harm : armOf channel with
  | authIdentity => exact absurd (channel_of_armOf_authIdentity harm) hchannel
  | playerAvatar =>
    exact iff_true_intro (Iff.mpr (untouched_iff_of_sent rfl)
      { SameStores.refl s with administration := ⟨.refl _, rfl, rfl, rfl⟩ })
  | chat => exact untouched_handleChat_iff hpeer
  | avatarChangeMessage => exact untouched_handleAvatarChangeMessage_iff hpeer
  | netIdAssign => exact untouched_handleNetIdAssign_iff hpeer
  | loadResource => exact iff_true_intro (untouched_handleLoadResource hpeer)
  | unloadResource => exact untouched_handleUnloadResource_iff hpeer
  | preloadReady => exact untouched_handlePreloadReady_iff
  | storeDatabase => exact untouched_handleStoreDatabase_iff
  | requestStoreDatabase => exact iff_true_intro untouched_handleRequestStoreDatabase
  | getCurrentOwnerRequest => exact untouched_handleGetCurrentOwnerRequest_iff
  | changeCurrentOwnerRequest => exact untouched_handleChangeCurrentOwnerRequest_iff hpeer
  | removeCurrentOwnerRequest => exact untouched_handleRemoveCurrentOwnerRequest_iff
  | contentShare => exact iff_true_intro (untouched_handleContentShare hpeer)
  | contentShareCleanup => exact untouched_handleContentShareCleanup_iff
  | cameraPipState => exact untouched_handleCameraPipState_iff hpeer
  | cameraPipPosition => exact untouched_handleCameraPipPosition_iff hpeer
  | admin => exact untouched_handleAdminMessage_iff hpeer
  | p2p => exact untouched_handleP2p_iff
  | serverStatistics => exact iff_true_intro untouched_handleStatisticsRequest
  | audioRecipients => exact iff_true_intro untouched_updateVoiceRecipients
  | audioRecipientsBitfield => exact iff_true_intro untouched_updateVoiceRecipientsBitfield
  | voice => exact untouched_relayVoiceMessage_iff
  | shoutVoice => exact untouched_relayShoutVoiceMessage_iff hpeer
  | avatar => exact untouched_relayAvatarGeneric_iff hpeer
  | scene => exact untouched_relaySceneGeneric_iff hpeer
  | events => exact untouched_relayEvent_iff hpeer
  | serverBound => exact Iff.trans (untouched_broadcast_iff hpeer rfl (.refl s) rfl) (and_iff_right (.refl s))
  | unknown => exact iff_true_intro (.refl peer s)

/-! ### A client that has not proved who it is -/

/-- One client has been let in and was sent its challenge. -/
def pendingState : ServerState :=
  [handles (.connectionRequest (requestOf 1 "a"))].foldl next (.start { password := "" })

lemma notMem_pendingState : 0 ∉ pendingState.authenticatedPeers := by decide +kernel

/-- The client chats: nobody is there to hear it. -/
theorem untouched_handleMessage_iff_pending : Untouched 0 pendingState
    (pendingState.handleMessage plainOutside 0 channels.chat .reliableOrdered (ChatMessage.serialize ⟨asBytes "hi"⟩)) := by
  have harm : armOf channels.chat = .chat := by decide
  have haudience : pendingState.audience channels.chat none = [] := by decide +kernel
  refine (untouched_handleMessage_iff notMem_pendingState (by decide)).mpr ?_
  rw [harm]
  intro chat _ target htarget
  rw [haudience] at htarget
  exact absurd htarget List.not_mem_nil

/-- The client locks the avatars of everybody. -/
theorem touched_before_identity : ∃ ts s, Run Steps (.start { password := "" }) ts s ∧
    0 ∈ s.pendingIdentity ∧ 0 ∉ s.authenticatedPeers ∧
    ¬ Untouched 0 s (s.handleMessage plainOutside 0 channels.admin .reliableOrdered
      (AdminRequest.serialize ⟨.globalToggleAvatars⟩)) := by
  have henabled : ∀ tr ∈ trace next (.start { password := "" }) [handles (.connectionRequest (requestOf 1 "a"))],
      tr.src.Enabled tr.label := by decide +kernel
  refine ⟨_, pendingState, run_of_enabled _ henabled, by decide +kernel, notMem_pendingState, fun h => ?_⟩
  have hlocked : (pendingState.handleMessage plainOutside 0 channels.admin .reliableOrdered
      (AdminRequest.serialize ⟨.globalToggleAvatars⟩)).globalState.avatarsLocked ≠
      pendingState.globalState.avatarsLocked := by decide +kernel
  exact hlocked (congrArg GlobalState.avatarsLocked h.stores.administration.globalState)

end ServerState
end BasisRust.Core
