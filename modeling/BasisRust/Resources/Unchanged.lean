import BasisRust.Resources.State

/-!
# What the players share: changes that change nothing

Two states are the same if their maps and sets are, in whatever order they are iterated.  For each operation:
the states it leaves the same.
-/

namespace BasisRust.Resources

open Lib Protocol Transport

/-! ### Resources -/

structure PreloadSession.Same (session session' : PreloadSession) : Prop where
  readyPeers : session.readyPeers.Same session'.readyPeers
  failedPeers : session.failedPeers.Same session'.failedPeers
  totalPeerCount : session'.totalPeerCount = session.totalPeerCount

lemma PreloadSession.Same.refl (session : PreloadSession) : session.Same session := ⟨.refl _, .refl _, rfl⟩

/-- The peer's answer is on the list it belongs to, and on no other. -/
def PreloadSession.Answered (peerId : PeerId) (isReady : Bool) (session : PreloadSession) : Prop :=
  if isReady then peerId ∈ session.readyPeers ∧ peerId ∉ session.failedPeers
  else peerId ∈ session.failedPeers ∧ peerId ∉ session.readyPeers

lemma PreloadSession.same_mark_iff {peerId : PeerId} {isReady : Bool} {session : PreloadSession} :
    session.Same (session.mark peerId isReady) ↔ session.Answered peerId isReady := by
  unfold mark forget Answered
  cases isReady with
  | true =>
    exact ⟨fun h => ⟨HashSet.same_insert_erase.mp h.readyPeers, HashSet.same_erase.mp h.failedPeers⟩,
      fun h => ⟨HashSet.same_insert_erase.mpr h.1, HashSet.same_erase.mpr h.2, rfl⟩⟩
  | false =>
    exact ⟨fun h => ⟨HashSet.same_insert_erase.mp h.failedPeers, HashSet.same_erase.mp h.readyPeers⟩,
      fun h => ⟨HashSet.same_erase.mpr h.2, HashSet.same_insert_erase.mpr h.1, rfl⟩⟩

structure ResourceState.Same (state state' : ResourceState) : Prop where
  resources : Dict.Rel Eq state.resources state'.resources
  preloadSessions : Dict.Rel PreloadSession.Same state.preloadSessions state'.preloadSessions

namespace ResourceState

variable {state : ResourceState} {id : String}

lemma Same.refl (state : ResourceState) : state.Same state :=
  ⟨Dict.Rel.refl (fun _ => rfl) _, Dict.Rel.refl PreloadSession.Same.refl _⟩

theorem same_unloadResource_iff : state.Same (state.unloadResource id).2 ↔
    id ∉ state.resources ∧ id ∉ state.preloadSessions :=
  ⟨fun h => ⟨(Dict.Rel.erase_iff fun _ => rfl).mp h.resources,
      (Dict.Rel.erase_iff PreloadSession.Same.refl).mp h.preloadSessions⟩,
    fun h => ⟨(Dict.Rel.erase_iff fun _ => rfl).mpr h.1,
      (Dict.Rel.erase_iff PreloadSession.Same.refl).mpr h.2⟩⟩

/-- What is unloaded and loaded again is there as before only if its id is the one it was filed under. -/
theorem same_loadResource_unloadResource_iff {resource : ResourceManagementMessage}
    (h : state.resources.lookup id = some resource) :
    state.Same ((state.unloadResource id).2.loadResource resource).2 ↔
      id ∉ state.preloadSessions ∧ resource.loadedNetId = id ∧ id ≠ "" := by
  have hmem : id ∈ state.resources := Dict.mem_iff_lookup.mpr ⟨resource, h⟩
  have herased : id ∉ state.resources.erase id := fun hid => (AList.mem_erase.mp hid).1 rfl
  unfold loadResource unloadResource
  dsimp only
  split
  next hempty =>
    refine iff_of_false (fun hsame => herased ((hsame.resources.mem_iff id).mpr hmem)) ?_
    rintro ⟨-, hid, hne⟩
    exact hne (hid ▸ hempty)
  next hne =>
    split
    next hother =>
      refine iff_of_false (fun hsame => herased ((hsame.resources.mem_iff id).mpr hmem)) ?_
      rintro ⟨-, hid, -⟩
      exact herased (hid ▸ hother)
    next =>
      constructor
      · rintro ⟨hresources, hsessions⟩
        have hid : id = resource.loadedNetId := by
          by_contra hid
          have hback := (hresources.mem_iff id).mpr hmem
          rw [AList.mem_insert] at hback
          exact herased (hback.resolve_left hid)
        exact ⟨(Dict.Rel.erase_iff PreloadSession.Same.refl).mp hsessions, hid.symm, fun hempty => hne (hid ▸ hempty)⟩
      · rintro ⟨hsessions, rfl, -⟩
        refine ⟨fun key => ?_, (Dict.Rel.erase_iff PreloadSession.Same.refl).mpr hsessions⟩
        rw [Dict.lookup_insert, Dict.lookup_erase]
        split
        next hkey =>
          rw [hkey, h]
          exact .some rfl
        next => exact Dict.Rel.refl (fun _ => rfl) _ key

/-- No preload waits for the answer, or it has been given and others are still missing. -/
def AwaitsNothing (peerId : PeerId) (message : PreloadReadyMessage) (state : ResourceState) : Prop :=
  ∀ session, state.preloadSessions.lookup message.loadedNetId = some session →
    session.Answered peerId message.isReady ∧ (session.mark peerId message.isReady).isComplete = false

theorem same_markPreloadReady_iff {peerId : PeerId} {message : PreloadReadyMessage} :
    state.Same (state.markPreloadReady peerId message).2 ↔ state.AwaitsNothing peerId message := by
  unfold markPreloadReady AwaitsNothing
  cases hlookup : state.preloadSessions.lookup message.loadedNetId with
  | none => exact iff_of_true (.refl state) nofun
  | some session =>
    simp only [Option.some.injEq, forall_eq']
    split
    next hcomplete =>
      refine iff_of_false (fun h => ?_) fun h => Bool.false_ne_true (h.2.symm.trans hcomplete)
      exact (Dict.Rel.erase_iff PreloadSession.Same.refl).mp h.preloadSessions
        (Dict.mem_iff_lookup.mpr ⟨session, hlookup⟩)
    next hincomplete =>
      rw [and_iff_left (Bool.not_eq_true _ ▸ hincomplete), ← PreloadSession.same_mark_iff]
      constructor
      · intro h
        obtain ⟨old, hold, hsame⟩ := (Dict.Rel.insert_iff PreloadSession.Same.refl).mp h.preloadSessions
        rw [hlookup] at hold
        cases hold
        exact hsame
      · intro h
        exact ⟨Dict.Rel.refl (fun _ => rfl) _,
          (Dict.Rel.insert_iff PreloadSession.Same.refl).mpr ⟨session, hlookup, h⟩⟩

@[simp] lemma resources_markPreloadReady (peerId : PeerId) (message : PreloadReadyMessage) (state : ResourceState) :
    (state.markPreloadReady peerId message).2.resources = state.resources := by
  unfold markPreloadReady
  split
  next => rfl
  next =>
    dsimp only
    split
    next => rfl
    next => rfl

/-- Then nothing is spawned. -/
lemma markPreloadReady_fst {peerId : PeerId} {message : PreloadReadyMessage} (h : state.AwaitsNothing peerId message) :
    (state.markPreloadReady peerId message).1 = none := by
  unfold markPreloadReady
  split
  next => rfl
  next session hlookup =>
    dsimp only
    rw [if_neg]
    rw [(h session hlookup).2]
    exact Bool.false_ne_true

end ResourceState

/-! ### Net ids, owners, shared content -/

structure NetIdState.Same (state state' : NetIdState) : Prop where
  byName : Dict.Rel Eq state.byName state'.byName
  nextId : state'.nextId = state.nextId

structure OwnershipState.Same (state state' : OwnershipState) : Prop where
  byObject : Dict.Rel Eq state.byObject state'.byObject

structure ContentShareState.Same (state state' : ContentShareState) : Prop where
  spheres : Dict.Rel Eq state.spheres state'.spheres

lemma NetIdState.Same.refl (state : NetIdState) : state.Same state := ⟨Dict.Rel.refl (fun _ => rfl) _, rfl⟩

lemma OwnershipState.Same.refl (state : OwnershipState) : state.Same state := ⟨Dict.Rel.refl (fun _ => rfl) _⟩

lemma ContentShareState.Same.refl (state : ContentShareState) : state.Same state :=
  ⟨Dict.Rel.refl (fun _ => rfl) _⟩

theorem NetIdState.same_addOrFind_iff {name : String} {state : NetIdState} :
    state.Same (state.addOrFind name).2 ↔ name ∈ state.byName := by
  unfold addOrFind
  split
  next id hlookup => exact iff_of_true (.refl state) (Dict.mem_iff_lookup.mpr ⟨id, hlookup⟩)
  next hlookup =>
    refine iff_of_false (fun h => ?_) (Dict.notMem_iff_lookup.mpr hlookup)
    obtain ⟨id, hid, -⟩ := (Dict.Rel.insert_iff fun _ => rfl).mp h.byName
    rw [hlookup] at hid
    cases hid

namespace OwnershipState

variable {state : OwnershipState} {ownershipId : String}

theorem same_requestNewOrExisting_iff {requester : PeerId} :
    state.Same (state.requestNewOrExisting ownershipId requester).2 ↔ ownershipId ∈ state.byObject := by
  unfold requestNewOrExisting
  split
  next owner hlookup => exact iff_of_true (.refl state) (Dict.mem_iff_lookup.mpr ⟨owner, hlookup⟩)
  next hlookup =>
    refine iff_of_false (fun h => ?_) (Dict.notMem_iff_lookup.mpr hlookup)
    obtain ⟨owner, howner, -⟩ := (Dict.Rel.insert_iff fun _ => rfl).mp h.byObject
    rw [hlookup] at howner
    cases howner

theorem same_switchOwnership_iff {newOwner : PeerId} :
    state.Same (state.switchOwnership ownershipId newOwner).2 ↔ state.byObject.lookup ownershipId = some newOwner := by
  constructor
  · intro h
    obtain ⟨owner, howner, rfl⟩ := (Dict.Rel.insert_iff fun _ => rfl).mp h.byObject
    exact howner
  · intro h
    exact ⟨(Dict.Rel.insert_iff fun _ => rfl).mpr ⟨newOwner, h, rfl⟩⟩

theorem same_removeIfOwner_iff {owner : PeerId} :
    state.Same (state.removeIfOwner ownershipId owner).2 ↔ state.byObject.lookup ownershipId ≠ some owner := by
  unfold removeIfOwner
  split
  next howner =>
    refine iff_of_false (fun h => ?_) (not_not.mpr howner)
    exact (Dict.Rel.erase_iff fun _ => rfl).mp h.byObject (Dict.mem_iff_lookup.mpr ⟨owner, howner⟩)
  next howner => exact iff_of_true (.refl state) howner

end OwnershipState

theorem ContentShareState.same_remove_iff {playerId : PeerId} {message : ContentShareCleanupMessage}
    {state : ContentShareState} :
    state.Same (state.remove playerId message).2 ↔ message.sphereNetId ∉ state.spheres := by
  unfold remove
  split
  next hmem => exact iff_of_false (fun h => (Dict.Rel.erase_iff fun _ => rfl).mp h.spheres hmem) (not_not.mpr hmem)
  next hmem => exact iff_of_true (.refl state) hmem

/-! ### Cameras -/

structure PipCameraState.Same (camera camera' : PipCameraState) : Prop where
  state : camera'.state = camera.state
  hasNewData : camera'.hasNewData = camera.hasNewData
  lastSentTimes : Dict.Rel Eq camera.lastSentTimes camera'.lastSentTimes

lemma PipCameraState.Same.refl (camera : PipCameraState) : camera.Same camera :=
  ⟨rfl, rfl, Dict.Rel.refl (fun _ => rfl) _⟩

structure PipState.Same (state state' : PipState) : Prop where
  states : Dict.Rel PipCameraState.Same state.states state'.states

namespace PipState

variable {state : PipState} {playerId : PeerId}

lemma Same.refl (state : PipState) : state.Same state := ⟨Dict.Rel.refl PipCameraState.Same.refl _⟩

/-- The player's camera is there as the message has it, and nobody has been sent it yet; or no camera is there
that would have to be switched off. -/
def Shows (playerId : PeerId) (message : ClientCameraPipStateMessage) (state : PipState) : Prop :=
  if message.isActive then
    ∃ camera, state.states.lookup playerId = some camera ∧ camera.state = cameraOf playerId message ∧
      camera.hasNewData = true ∧ camera.lastSentTimes = ∅
  else
    ∀ camera, state.states.lookup playerId = some camera → camera.state.isActive = false ∧
      camera.hasNewData = false ∧ camera.lastSentTimes = ∅

theorem same_stateChange_iff {message : ClientCameraPipStateMessage} :
    state.Same (state.stateChange playerId message).2 ↔ state.Shows playerId message := by
  unfold stateChange Shows
  dsimp only
  split
  next =>
    constructor
    · intro h
      obtain ⟨camera, hlookup, hsame⟩ := (Dict.Rel.insert_iff PipCameraState.Same.refl).mp h.states
      exact ⟨camera, hlookup, hsame.state.symm, hsame.hasNewData.symm, Dict.Rel.empty_iff.mp hsame.lastSentTimes⟩
    · rintro ⟨camera, hlookup, hstate, hnew, hsent⟩
      exact ⟨(Dict.Rel.insert_iff PipCameraState.Same.refl).mpr
        ⟨camera, hlookup, hstate.symm, hnew.symm, Dict.Rel.empty_iff.mpr hsent⟩⟩
  next =>
    constructor
    · intro h camera hlookup
      have hsame := (Dict.Rel.modify_iff PipCameraState.Same.refl).mp h.states camera hlookup
      exact ⟨(congrArg CameraPipStateMessage.isActive hsame.state).symm, hsame.hasNewData.symm,
        Dict.Rel.empty_iff.mp hsame.lastSentTimes⟩
    · intro h
      refine ⟨(Dict.Rel.modify_iff PipCameraState.Same.refl).mpr fun camera hlookup => ?_⟩
      obtain ⟨hactive, hnew, hsent⟩ := h camera hlookup
      refine ⟨?_, hnew.symm, Dict.Rel.empty_iff.mpr hsent⟩
      unfold switchOff
      dsimp only
      rw [← hactive]

/-- The player has a camera that is on. -/
def Filming (playerId : PeerId) (state : PipState) : Prop :=
  ∃ camera, state.states.lookup playerId = some camera ∧ camera.state.isActive

lemma isSome_positionUpdate (state : PipState) (playerId : PeerId) (message : ClientCameraPipPositionMessage) :
    (state.positionUpdate playerId message).1.isSome ↔ state.Filming playerId := by
  unfold positionUpdate Filming
  cases state.states.lookup playerId with
  | none => exact iff_of_false nofun nofun
  | some camera =>
    simp only [Option.some.injEq, exists_eq_left']
    cases camera.state.isActive with
    | true => exact iff_of_true rfl rfl
    | false => exact iff_of_false nofun nofun

/-- Every active camera of the player's is where the message has it. -/
def IsAt (playerId : PeerId) (message : ClientCameraPipPositionMessage) (state : PipState) : Prop :=
  ∀ camera, state.states.lookup playerId = some camera → camera.state.isActive → moveTo message camera = camera

theorem same_positionUpdate_iff {message : ClientCameraPipPositionMessage} :
    state.Same (state.positionUpdate playerId message).2 ↔ state.IsAt playerId message := by
  unfold positionUpdate IsAt
  cases hlookup : state.states.lookup playerId with
  | none => exact iff_of_true (.refl state) nofun
  | some camera =>
    simp only [Option.some.injEq, forall_eq']
    split
    next hactive =>
      rw [Bool.not_eq_true'] at hactive
      exact iff_of_true (.refl state) fun h => absurd (hactive.symm.trans h) Bool.false_ne_true
    next hactive =>
      rw [Bool.not_eq_true', Bool.not_eq_false] at hactive
      rw [imp_iff_right hactive]
      constructor
      · intro h
        obtain ⟨old, hold, hsame⟩ := (Dict.Rel.insert_iff PipCameraState.Same.refl).mp h.states
        rw [hlookup] at hold
        cases hold
        exact congrArg₂ (fun state hasNewData => { camera with state, hasNewData }) hsame.state hsame.hasNewData
      · intro h
        exact ⟨(Dict.Rel.insert_iff PipCameraState.Same.refl).mpr ⟨camera, hlookup, h.symm ▸ .refl camera⟩⟩

end PipState
end BasisRust.Resources
