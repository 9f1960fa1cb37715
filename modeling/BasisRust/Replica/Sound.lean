import BasisRust.Core.Admission
import BasisRust.Core.Resources
import BasisRust.Protocol.Answers

/-!
# What the server keeps can be told

Every value in the server's stores came from a message or from what the server made of one.  `Sound` says that it
fits the format it is told in and that it is filed under its own name; every step keeps it.
-/

namespace BasisRust.Replica

open Lib Protocol Transport
open BasisRust.Core P2p Resources
open Server (ConnectedPeer)

/-- The message is read back as it is written, but for the names of its player. -/
def Passable (ready : ReadyMessage) : Prop :=
  ready.Fits ∧ ready.localAvatarSyncMessage.canon = ready.localAvatarSyncMessage

/-- A player's data, with its metadata as it entered. -/
def PlayerSound (player : ConnectedPeer) : Prop :=
  Passable player.ready ∧ player.metadata = player.ready.playerMetaDataMessage

/-- The resource is read back as it is written. -/
def ResourcePassable (resource : LocalLoadResource) : Prop := resource.Fits ∧ resource.canon = resource

def ResourceSound (id : String) (resource : ResourceManagementMessage) : Prop :=
  (resource.loadedNetId = id ∧ id ≠ "") ∧ ResourcePassable resource

structure SphereSound (id : String) (sphere : ServerContentShareMessage) : Prop where
  key : sphere.contentShareMessage.sphereNetId = id
  sharerUuid : StringFits sphere.sharerUuid
  sharerDisplayName : StringFits sphere.sharerDisplayName
  content : sphere.contentShareMessage.Fits

structure Sound (s : ServerState) : Prop where
  players : Dict.All (fun _ player => PlayerSound player) s.authenticatedPeers
  pending : Dict.All (fun _ ready => Passable ready) s.pendingIdentity
  netIds : Dict.All (fun name _ => StringFits name ∧ name ≠ "") s.netIds.byName
  resources : Dict.All ResourceSound s.resources.resources
  owners : Dict.All (fun object _ => StringFits object) s.ownership.byObject
  spheres : Dict.All SphereSound s.contentShare.spheres
  cameras : Dict.All (fun q camera => camera.state.playerId = q) s.pip.states

variable {s s' : ServerState}

lemma Sound.posted (h : Sound s) (hposted : ServerState.Posted s s') : Sound s' := by
  obtain ⟨messages, rfl⟩ := hposted
  exact ⟨h.players, h.pending, h.netIds, h.resources, h.owners, h.spheres, h.cameras⟩

theorem sound_start (config : ServerConfig) : Sound (.start config) :=
  ⟨.empty, .empty, .empty, .empty, .empty, .empty, .empty⟩

/-! ### What is read -/

lemma parse_of_yields {α : Type} {read : ReadResult α} {P : α → Prop} (h : Yields read P) {payload : Bytes} {a : α}
    (hparse : parse read payload = some a) : P a := by
  unfold parse at hparse
  split at hparse
  next rest hread =>
    cases hparse
    exact h payload a rest hread
  next => cases hparse

/-- A handler that goes on with what it has read. -/
lemma onParsed_of_yields {α : Type} {P : ServerState → Prop} {Q : α → Prop} {read : ReadResult α}
    (h : Yields read Q) {payload : Bytes} {handle : α → ServerState} (hself : P s)
    (hhandle : ∀ message, Q message → P (handle message)) : P (s.onParsed read payload handle) := by
  unfold ServerState.onParsed
  split
  next message hparse => exact hhandle message (parse_of_yields h hparse)
  next => exact hself

lemma accepted_netId : Yields NetIdMessage.deserialize fun m => StringFits m.playerId := by
  unfold NetIdMessage.deserialize
  refine .skip fun rest => ?_
  split
  · exact .pure (by unfold StringFits; decide)
  · exact yields_getString.bind fun _ h => .pure h

/-! ### Resources -/

lemma ResourcePassable.created {uuid : String} {resource : LocalLoadResource} (h : ResourcePassable resource)
    (huuid : StringFits uuid) : ResourcePassable { resource with uuidOfCreator := uuid } := by
  obtain ⟨hfits, hcanon⟩ := h
  refine ⟨⟨hfits.loadedNetId, hfits.unlockPassword, hfits.combinedUrl, huuid⟩, ?_⟩
  unfold LocalLoadResource.canon at hcanon ⊢
  split
  next => rfl
  next hmode =>
    rw [if_neg hmode] at hcanon
    exact congrArg (fun r : LocalLoadResource => { r with uuidOfCreator := uuid }) hcanon

lemma resources_loadResource {resource : LocalLoadResource} {state : ResourceState}
    (h : Dict.All ResourceSound state.resources) (hresource : ResourcePassable resource) :
    Dict.All ResourceSound (state.loadResource resource).2.resources := by
  unfold ResourceState.loadResource
  dsimp only
  split_ifs with hid
  · exact h
  · exact h
  · exact h.insert ⟨⟨rfl, hid⟩, hresource⟩

lemma resources_addResource {resource : LocalLoadResource} (h : Sound s) (hresource : ResourcePassable resource) :
    Dict.All ResourceSound (s.addResource resource).2.resources := by
  have hload := resources_loadResource h.resources hresource
  unfold ServerState.addResource
  split
  · unfold ResourceState.startPreload
    split
    next hresult =>
      rw [hresult] at hload
      exact hload
    next hresult =>
      rw [hresult] at hload
      exact hload
  · exact hload

/-- The uuid of a player on the roster. -/
lemma Sound.playerUuid (h : Sound s) {peer : PeerId} {player : ConnectedPeer}
    (hlookup : s.authenticatedPeers.lookup peer = some player) : player.metadata.Fits := by
  obtain ⟨hready, hmetadata⟩ := h.players peer player hlookup
  rw [hmetadata]
  exact hready.1.playerMetaDataMessage

section Arms

variable (env : Outside) (peer : PeerId) (payload : Bytes)

lemma resources_handleLoadResource (h : Sound s) :
    Dict.All ResourceSound (s.handleLoadResource peer payload).resources.resources := by
  refine onParsed_of_yields (P := fun s => Dict.All ResourceSound s.resources.resources) LocalLoadResource.accepted
    h.resources fun resource hresource => ?_
  split
  next => exact h.resources
  next peerState hlookup =>
    have hadded := resources_addResource h (ResourcePassable.created hresource (h.playerUuid hlookup).playerUuid)
    dsimp only
    split_ifs
    · exact h.resources
    · exact hadded
    · exact hadded

lemma resources_handleUnloadResource (h : Sound s) :
    Dict.All ResourceSound (s.handleUnloadResource peer payload).resources.resources := by
  refine ServerState.onParsed_of (P := fun s => Dict.All ResourceSound s.resources.resources) h.resources
    fun request => ?_
  have herased : Dict.All ResourceSound (s.resources.unloadResource request.loadedNetId).2.resources :=
    h.resources.erase
  dsimp only
  split
  next => exact herased
  next resource hresource =>
    split_ifs
    · exact resources_loadResource herased (h.resources _ resource hresource).2
    · exact herased

lemma resources_handlePreloadReady (h : Sound s) :
    Dict.All ResourceSound (s.handlePreloadReady peer payload).resources.resources := by
  refine ServerState.onParsed_of (P := fun s => Dict.All ResourceSound s.resources.resources) h.resources
    fun ready => ?_
  have hmarked : Dict.All ResourceSound (s.resources.markPreloadReady peer ready).2.resources := by
    rw [ResourceState.resources_markPreloadReady]
    exact h.resources
  dsimp only
  split
  next => exact hmarked
  next spawn _ =>
    change Dict.All ResourceSound (ServerState.unloadScenes spawn _).resources.resources
    unfold ServerState.unloadScenes
    split
    next =>
      obtain ⟨messages, heq⟩ := ServerState.posted_foldl_broadcast channels.unloadResource .reliableOrdered
        UnloadResource.serialize none (s.resources.markPreloadReady peer ready).2.allSceneUnloads.1
        { s with resources := (s.resources.markPreloadReady peer ready).2.allSceneUnloads.2 }
      dsimp only
      rw [heq]
      exact hmarked.retain _
    next => exact hmarked

/-- Leaving only takes resources out. -/
lemma resources_handleDisconnect (h : Sound s) :
    Dict.All ResourceSound (s.handleDisconnect env peer).resources.resources := by
  obtain ⟨messages, -, heq⟩ := ServerState.postedOn_leaveStores peer s
  unfold ServerState.handleDisconnect
  dsimp only
  rw [heq]
  set left := ServerState.post messages _ with hleft
  have hresources : Dict.All ResourceSound left.resources.resources := h.resources
  change Dict.All ResourceSound (left.leaveRoster peer).resources.resources
  by_cases hmem : peer ∈ left.authenticatedPeers
  · rw [ServerState.leaveRoster_of_mem hmem]
    split
    next =>
      obtain ⟨messages', heq'⟩ := ServerState.posted_resetShared ((left.withoutPeer peer).post (left.departureMessages peer))
      rw [heq']
      exact hresources.retain _
    next => exact hresources
  · rw [ServerState.leaveRoster, if_neg hmem]
    exact hresources

/-! ### The other stores -/

lemma netIds_handleNetIdAssign (h : Sound s) :
    Dict.All (fun name _ => StringFits name ∧ name ≠ "") (s.handleNetIdAssign peer payload).netIds.byName := by
  refine onParsed_of_yields (P := fun s => Dict.All (fun name _ => StringFits name ∧ name ≠ "") s.netIds.byName)
    accepted_netId h.netIds fun request hrequest => ?_
  split
  next => exact h.netIds
  next hname =>
    have hadded : Dict.All (fun name _ => StringFits name ∧ name ≠ "")
        (s.netIds.addOrFind request.playerId).2.byName := by
      unfold NetIdState.addOrFind
      split
      next => exact h.netIds
      next => exact h.netIds.insert ⟨hrequest, hname⟩
    dsimp only
    split_ifs <;> exact hadded

/-- Requests about owners only enter what they have read. -/
lemma owners_handleArm (channel : UInt8) (delivery : DeliveryMethod) {arm : Arm} (harm : arm.store = .ownership)
    (h : Sound s) : Dict.All (fun object _ => StringFits object)
      (s.handleArm env peer channel delivery payload arm).ownership.byObject := by
  have hread {handle : OwnershipTransferMessage → ServerState}
      (hhandle : ∀ request : OwnershipTransferMessage, request.Fits →
        Dict.All (fun object _ => StringFits object) (handle request).ownership.byObject) :
      Dict.All (fun object _ => StringFits object)
        (s.onParsed OwnershipTransferMessage.deserialize payload handle).ownership.byObject :=
    onParsed_of_yields (P := fun s => Dict.All (fun object _ => StringFits object) s.ownership.byObject)
      OwnershipTransferMessage.accepted h.owners hhandle
  cases arm with
  | getCurrentOwnerRequest =>
    refine hread fun request hrequest => ?_
    change Dict.All _ (s.ownership.requestNewOrExisting _ _).2.byObject
    unfold OwnershipState.requestNewOrExisting
    split
    next => exact h.owners
    next => exact h.owners.insert hrequest
  | changeCurrentOwnerRequest => exact hread fun request hrequest => h.owners.insert hrequest
  | removeCurrentOwnerRequest =>
    refine hread fun request hrequest => ?_
    have hremoved : Dict.All (fun object _ => StringFits object)
        (s.ownership.removeIfOwner request.ownershipId request.playerId).2.byObject := by
      unfold OwnershipState.removeIfOwner
      split
      next => exact h.owners.erase
      next => exact h.owners
    dsimp only
    split_ifs <;> exact hremoved
  | _ => cases harm

lemma spheres_handleContentShare (h : Sound s) :
    Dict.All SphereSound (s.handleContentShare peer payload).contentShare.spheres := by
  refine onParsed_of_yields (P := fun s => Dict.All SphereSound s.contentShare.spheres) ContentShareMessage.accepted
    h.spheres fun request hrequest => ?_
  split
  next => exact h.spheres
  next =>
    split
    next => exact h.spheres
    next peerState hlookup =>
      have hfits := h.playerUuid hlookup
      have hadded : Dict.All SphereSound (s.contentShare.add peer peerState.metadata.playerUuid
          peerState.metadata.playerDisplayName request).2.spheres := by
        unfold ContentShareState.add
        dsimp only
        split
        next => exact h.spheres
        next => exact h.spheres.insert ⟨rfl, hfits.playerUuid, hfits.playerDisplayName, hrequest⟩
      dsimp only
      split <;> exact hadded

lemma spheres_handleContentShareCleanup (h : Sound s) :
    Dict.All SphereSound (s.handleContentShareCleanup peer payload).contentShare.spheres := by
  refine ServerState.onParsed_of (P := fun s => Dict.All SphereSound s.contentShare.spheres) h.spheres
    fun request => ?_
  have hremoved : Dict.All SphereSound (s.contentShare.remove peer request).2.spheres := by
    unfold ContentShareState.remove
    split
    next => exact h.spheres.erase
    next => exact h.spheres
  dsimp only
  split <;> exact hremoved

lemma cameras_handleCameraPipState (h : Sound s) :
    Dict.All (fun q camera => camera.state.playerId = q) (s.handleCameraPipState peer payload).pip.states := by
  refine ServerState.onParsed_of (P := fun s => Dict.All (fun q camera => camera.state.playerId = q) s.pip.states)
    h.cameras fun request => ?_
  change Dict.All _ (s.pip.stateChange peer request).2.states
  unfold PipState.stateChange
  dsimp only
  split
  next => exact h.cameras.insert rfl
  next => exact h.cameras.modify fun _ hcamera => hcamera

lemma cameras_handleCameraPipPosition (h : Sound s) :
    Dict.All (fun q camera => camera.state.playerId = q) (s.handleCameraPipPosition peer payload).pip.states := by
  refine ServerState.onParsed_of (P := fun s => Dict.All (fun q camera => camera.state.playerId = q) s.pip.states)
    h.cameras fun request => ?_
  have hmoved : Dict.All (fun q camera => camera.state.playerId = q) (s.pip.positionUpdate peer request).2.states := by
    unfold PipState.positionUpdate
    split
    next => exact h.cameras
    next camera hcamera =>
      split
      · exact h.cameras
      · exact h.cameras.insert (h.cameras peer camera hcamera)
  dsimp only
  split <;> exact hmoved

lemma players_handleAvatarChangeMessage (h : Sound s) :
    Dict.All (fun _ player => PlayerSound player) (s.handleAvatarChangeMessage peer payload).authenticatedPeers := by
  refine onParsed_of_yields (P := fun s => Dict.All (fun _ player => PlayerSound player) s.authenticatedPeers)
    ClientAvatarChangeMessage.accepted h.players fun avatar havatar => ?_
  split
  next => exact h.players
  next =>
    refine h.players.modify fun player hplayer => ?_
    exact ⟨⟨⟨hplayer.1.1.playerMetaDataMessage, havatar, hplayer.1.1.localAvatarSyncMessage⟩, hplayer.1.2⟩, hplayer.2⟩

/-! ### Steps -/

lemma sound_finalizeAccept (h : Sound s) {ready : ReadyMessage} (hready : Passable ready) :
    Sound (s.finalizeAccept env peer ready) := by
  refine Sound.posted ?_ (ServerState.posted_finalizeAccept env peer ready s)
  exact ⟨h.players.insert ⟨hready, rfl⟩, h.pending, h.netIds, h.resources, h.owners, h.spheres, h.cameras⟩

lemma sound_handleAuthIdentity (h : Sound s) : Sound (s.handleAuthIdentity env peer) := by
  unfold ServerState.handleAuthIdentity
  split
  next => exact h
  next ready hlookup =>
    refine sound_finalizeAccept env peer ?_ (h.pending peer ready hlookup)
    exact ⟨h.players, h.pending.erase, h.netIds, h.resources, h.owners, h.spheres, h.cameras⟩

/-- **Every arm keeps what can be told.** -/
theorem sound_handleArm (channel : UInt8) (delivery : DeliveryMethod) (arm : Arm) (h : Sound s) :
    Sound (s.handleArm env peer channel delivery payload arm) := by
  have hframe := (ServerState.writes_handleArm env peer payload s channel delivery arm).frame
  by_cases hroster : arm.store = .roster
  · cases arm with
    | authIdentity => exact sound_handleAuthIdentity env peer h
    | _ => cases hroster
  · constructor
    · cases arm with
      | avatarChangeMessage => exact players_handleAvatarChangeMessage peer payload h
      | _ => exact hframe.authenticatedPeers hroster nofun ▸ h.players
    · exact hframe.pendingIdentity hroster ▸ h.pending
    · cases arm with
      | netIdAssign => exact netIds_handleNetIdAssign peer payload h
      | _ => exact hframe.netIds nofun ▸ h.netIds
    · cases arm with
      | loadResource => exact resources_handleLoadResource peer payload h
      | unloadResource => exact resources_handleUnloadResource peer payload h
      | preloadReady => exact resources_handlePreloadReady peer payload h
      | _ => exact hframe.resources nofun ▸ h.resources
    · by_cases howners : arm.store = .ownership
      · exact owners_handleArm env peer payload channel delivery howners h
      · exact hframe.ownership howners ▸ h.owners
    · cases arm with
      | contentShare => exact spheres_handleContentShare peer payload h
      | contentShareCleanup => exact spheres_handleContentShareCleanup peer payload h
      | _ => exact hframe.contentShare nofun ▸ h.spheres
    · cases arm with
      | cameraPipState => exact cameras_handleCameraPipState peer payload h
      | cameraPipPosition => exact cameras_handleCameraPipPosition peer payload h
      | _ => exact hframe.pip nofun ▸ h.cameras

lemma netIds_handleDisconnect : (s.handleDisconnect env peer).netIds = s.netIds ∨
    (s.handleDisconnect env peer).netIds = {} := by
  obtain ⟨messages, -, heq⟩ := ServerState.postedOn_leaveStores peer s
  unfold ServerState.handleDisconnect
  dsimp only
  rw [heq]
  set left := ServerState.post messages _ with hleft
  change (left.leaveRoster peer).netIds = s.netIds ∨ (left.leaveRoster peer).netIds = {}
  rcases ServerState.leaveRoster_cases peer left with ⟨-, hsame⟩ | ⟨_, ⟨m, hm⟩ | ⟨m, hm⟩⟩
  · rw [hsame]
    exact .inl rfl
  · rw [hm]
    exact .inl rfl
  · rw [hm]
    exact .inr rfl

theorem sound_handleDisconnect (h : Sound s) : Sound (s.handleDisconnect env peer) := by
  have hleft := ServerState.departed_handleDisconnect env peer s
  constructor
  · rw [hleft.authenticatedPeers]
    exact h.players.erase
  · rw [hleft.pendingIdentity]
    exact h.pending.erase
  · rcases netIds_handleDisconnect env peer (s := s) with heq | heq
    · rw [heq]
      exact h.netIds
    · rw [heq]
      exact .empty
  · exact resources_handleDisconnect env peer h
  · rcases hleft.ownership with heq | heq
    · rw [heq]
      exact h.owners.retain _
    · rw [heq]
      exact .empty
  · rcases hleft.contentShare with heq | heq
    · rw [heq]
      exact h.spheres.retain _
    · rw [heq]
      exact .empty
  · rcases hleft.pip with heq | heq
    · rw [heq]
      exact h.cameras.erase
    · rw [heq]
      exact .empty

end Arms

/-- What is admitted was read. -/
lemma passable_of_admission {request : ConnectionRequest} {ready : ReadyMessage}
    (h : s.admission request = .ok ready) : Passable ready := by
  obtain ⟨-, _, _, _, afterAuth, rest, -, -, hready, -⟩ := ServerState.admission_eq_ok_iff.mp h
  exact ReadyMessage.accepted afterAuth ready rest hready

lemma sound_handleConnectionRequest (env : Outside) (request : ConnectionRequest) (h : Sound s) :
    Sound (s.handleConnectionRequest env request) := by
  have hcall (op : Op) : Sound (s.call op env) :=
    ⟨h.players, h.pending, h.netIds, h.resources, h.owners, h.spheres, h.cameras⟩
  cases hadmission : s.admission request with
  | error reason =>
    rw [ServerState.handleConnectionRequest_of_refused hadmission]
    exact hcall _
  | ok ready =>
    cases haccepted : s.acceptedPeer env request with
    | none =>
      rw [ServerState.handleConnectionRequest_of_none hadmission haccepted]
      exact hcall _
    | some peerId =>
      rw [ServerState.handleConnectionRequest_of_some hadmission haccepted]
      have hready := passable_of_admission hadmission
      have h' := hcall (.accept env.allocateFuel request)
      rcases ServerState.greet_cases env peerId ready (s.call (.accept env.allocateFuel request) env) with
        ⟨-, hposted⟩ | ⟨-, hposted⟩
      · refine Sound.posted ?_ hposted
        exact ⟨h'.players, h'.pending.insert hready, h'.netIds, h'.resources, h'.owners, h'.spheres, h'.cameras⟩
      · refine Sound.posted ?_ hposted
        exact ⟨h'.players.insert ⟨hready, rfl⟩, h'.pending, h'.netIds, h'.resources, h'.owners, h'.spheres, h'.cameras⟩

theorem sound_next (l : Label) (h : Sound s) : Sound (s.next l) := by
  cases l with
  | transport l => exact ⟨h.players, h.pending, h.netIds, h.resources, h.owners, h.spheres, h.cameras⟩
  | handle env event =>
    cases event with
    | connectionRequest request => exact sound_handleConnectionRequest env request h
    | peerDisconnected peer _ => exact sound_handleDisconnect env peer h
    | message peer channel delivery payload => exact sound_handleArm env peer payload channel delivery _ h
    | natIntroductionRequest remoteAddr localAddr token =>
      rw [ServerState.next, ServerState.handleEvent, ServerState.handleNatIntroductionRequest]
      split
      next => exact ⟨h.players, h.pending, h.netIds, h.resources, h.owners, h.spheres, h.cameras⟩
      next => exact h
    | unconnectedRequest => exact h
    | networkError => exact h
    | peerConnected => exact h

/-- **In every state that is reached everything kept can be told.** -/
theorem sound_of_run {config : ServerConfig} {ts : List (Transition ServerState Label)}
    (hrun : Run ServerState.Steps (.start config) ts s) : (∀ tr ∈ ts, Sound tr.src ∧ Sound tr.dst) ∧ Sound s := by
  refine Run.invariant (sound_start config) ?_ hrun
  rintro s l t ⟨-, rfl⟩ h
  exact sound_next l h

end BasisRust.Replica
