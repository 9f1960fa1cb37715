import BasisRust.Lib.Dict
import BasisRust.Lib.HashSet
import BasisRust.Protocol.Requests
import BasisRust.Transport.Packet

/-!
# `basis-server-resources`: what the players share

Loaded resources and the preloads in progress, net ids, the owners of objects, shared content and cameras.
A function that answers with messages returns them beside the new state, in the order the map was iterated.
-/

namespace BasisRust.Resources

open Lib Protocol Transport

/-! ### Resources -/

structure PreloadSession where
  readyPeers : HashSet PeerId := ∅
  failedPeers : HashSet PeerId := ∅
  totalPeerCount : ℕ
  deriving DecidableEq

namespace PreloadSession

def isComplete (session : PreloadSession) : Bool :=
  session.readyPeers.elems.length + session.failedPeers.elems.length ≥ session.totalPeerCount

def forget (peerId : PeerId) (session : PreloadSession) : PreloadSession :=
  { session with readyPeers := session.readyPeers.erase peerId, failedPeers := session.failedPeers.erase peerId }

/-- The peer's answer, which replaces an earlier one. -/
def mark (peerId : PeerId) (isReady : Bool) (session : PreloadSession) : PreloadSession :=
  let session := session.forget peerId
  if isReady then { session with readyPeers := session.readyPeers.insert peerId }
  else { session with failedPeers := session.failedPeers.insert peerId }

/-- One player less to wait for. -/
def leave (peerId : PeerId) (session : PreloadSession) : PreloadSession :=
  { session.forget peerId with totalPeerCount := session.totalPeerCount - 1 }

end PreloadSession

structure ResourceState where
  resources : Dict String ResourceManagementMessage := ∅
  preloadSessions : Dict String PreloadSession := ∅

namespace ResourceState

def loadResource (message : ResourceManagementMessage) (state : ResourceState) : Bool × ResourceState :=
  let id := message.loadedNetId
  if id = "" then (false, state)
  else if id ∈ state.resources then (false, state)
  else (true, { state with resources := state.resources.insert id message })

def unloadResource (id : String) (state : ResourceState) : Option ResourceManagementMessage × ResourceState :=
  (state.resources.lookup id,
    { resources := state.resources.erase id, preloadSessions := state.preloadSessions.erase id })

/-- The resources of a kind are taken out. -/
def unloadWhere (p : ResourceManagementMessage → Bool) (state : ResourceState) :
    List UnloadResource × ResourceState :=
  ((state.resources.entries.filter fun e => p e.2).map fun e => ⟨e.2.mode, e.1⟩,
    { state with resources := Dict.retain (fun _ resource => !p resource) state.resources })

def allSceneUnloads (state : ResourceState) : List UnloadResource × ResourceState :=
  state.unloadWhere fun resource => resource.mode = 1

def resetNonPersistent (state : ResourceState) : List UnloadResource × ResourceState :=
  state.unloadWhere fun resource => !resource.persist

/-- The maps cleared. -/
def reset (_ : ResourceState) : ResourceState := {}

def allResources (state : ResourceState) : List ResourceManagementMessage := state.resources.entries.map (·.2)

def startPreload (resource : LocalLoadResource) (peers : List PeerId) (state : ResourceState) :
    Bool × ResourceState :=
  match state.loadResource resource with
  | (false, state) => (false, state)
  | (true, state) =>
    (true, { state with
      preloadSessions := state.preloadSessions.insert resource.loadedNetId { totalPeerCount := peers.length } })

def markPreloadReady (peerId : PeerId) (message : PreloadReadyMessage) (state : ResourceState) :
    Option SpawnPreloadedMessage × ResourceState :=
  match state.preloadSessions.lookup message.loadedNetId with
  | none => (none, state)
  | some session =>
    let session := session.mark peerId message.isReady
    if session.isComplete then
      (some ⟨message.loadedNetId⟩,
        { state with preloadSessions := state.preloadSessions.erase message.loadedNetId })
    else
      (none, { state with preloadSessions := state.preloadSessions.insert message.loadedNetId session })

def removePreloadPeer (peerId : PeerId) (state : ResourceState) : List SpawnPreloadedMessage × ResourceState :=
  let sessions := Dict.mapValues (·.leave peerId) state.preloadSessions
  let completed (session : PreloadSession) : Bool := session.totalPeerCount = 0 || session.isComplete
  ((sessions.entries.filter fun e => completed e.2).map fun e => ⟨e.1⟩,
    { state with preloadSessions := Dict.retain (fun _ session => !completed session) sessions })

/-- `TIMEOUT`, in nanoseconds. -/
def preloadTimeout : ℕ := 5 * 60 * 1000000000

/-- `elapsed` is what the clock says each session has taken, in nanoseconds. -/
def timedOutPreloads (elapsed : String → ℕ) (state : ResourceState) : List SpawnPreloadedMessage × ResourceState :=
  let timedOut (id : String) : Bool := preloadTimeout ≤ elapsed id
  ((state.preloadSessions.entries.filter fun e => timedOut e.1).map fun e => ⟨e.1⟩,
    { state with preloadSessions := Dict.retain (fun id _ => !timedOut id) state.preloadSessions })

end ResourceState

/-! ### Net ids -/

structure NetIdState where
  byName : Dict String UInt16 := ∅
  nextId : UInt16 := 0

namespace NetIdState

def addOrFind (name : String) (state : NetIdState) : UInt16 × NetIdState :=
  match state.byName.lookup name with
  | some id => (id, state)
  | none =>
    (state.nextId, { byName := state.byName.insert name state.nextId, nextId := state.nextId + 1 })

def all (state : NetIdState) : List (String × UInt16) := state.byName.entries.map fun e => (e.1, e.2)

end NetIdState

/-! ### Owners -/

structure OwnershipState where
  byObject : Dict String PeerId := ∅

namespace OwnershipState

def requestNewOrExisting (ownershipId : String) (requester : PeerId) (state : OwnershipState) :
    PeerId × OwnershipState :=
  match state.byObject.lookup ownershipId with
  | some owner => (owner, state)
  | none => (requester, { byObject := state.byObject.insert ownershipId requester })

def switchOwnership (ownershipId : String) (newOwner : PeerId) (state : OwnershipState) :
    PeerId × OwnershipState :=
  (newOwner, { byObject := state.byObject.insert ownershipId newOwner })

def removeIfOwner (ownershipId : String) (owner : PeerId) (state : OwnershipState) : Bool × OwnershipState :=
  if state.byObject.lookup ownershipId = some owner then
    (true, { byObject := state.byObject.erase ownershipId })
  else (false, state)

def removePlayer (playerId : PeerId) (state : OwnershipState) : List OwnershipTransferMessage × OwnershipState :=
  ((state.byObject.entries.filter fun e => e.2 = playerId).map fun e => ⟨playerId, e.1⟩,
    { byObject := Dict.retain (fun _ owner => owner ≠ playerId) state.byObject })

def all (state : OwnershipState) : List OwnershipTransferMessage :=
  state.byObject.entries.map fun e => ⟨e.2, e.1⟩

end OwnershipState

/-! ### Shared content -/

structure ContentShareState where
  spheres : Dict String ServerContentShareMessage := ∅

namespace ContentShareState

def add (playerId : PeerId) (sharerUuid sharerDisplayName : String) (message : ContentShareMessage)
    (state : ContentShareState) : Option ServerContentShareMessage × ContentShareState :=
  let server : ServerContentShareMessage :=
    { playerId, sharerUuid, sharerDisplayName, contentShareMessage := message }
  if message.sphereNetId ∈ state.spheres then (none, state)
  else (some server, { spheres := state.spheres.insert message.sphereNetId server })

def remove (playerId : PeerId) (message : ContentShareCleanupMessage) (state : ContentShareState) :
    Option ServerContentShareCleanupMessage × ContentShareState :=
  if message.sphereNetId ∈ state.spheres then
    (some ⟨playerId, message⟩, { spheres := state.spheres.erase message.sphereNetId })
  else (none, state)

def removePlayer (playerId : PeerId) (state : ContentShareState) :
    List ServerContentShareCleanupMessage × ContentShareState :=
  ((state.spheres.entries.filter fun e => e.2.playerId = playerId).map fun e => ⟨playerId, ⟨e.1⟩⟩,
    { spheres := Dict.retain (fun _ sphere => sphere.playerId ≠ playerId) state.spheres })

def all (state : ContentShareState) : List ServerContentShareMessage := state.spheres.entries.map (·.2)

end ContentShareState

/-! ### Cameras -/

structure PipCameraState where
  state : CameraPipStateMessage
  hasNewData : Bool
  /-- by receiver, in milliseconds -/
  lastSentTimes : Dict UInt16 ℕ := ∅

structure PipState where
  states : Dict PeerId PipCameraState := ∅

namespace PipState

/-- The camera as the client sees it, under the player's id. -/
def cameraOf (playerId : PeerId) (message : ClientCameraPipStateMessage) : CameraPipStateMessage where
  playerId := playerId
  isActive := message.isActive
  positionX := message.positionX
  positionY := message.positionY
  positionZ := message.positionZ
  rotationX := message.rotationX
  rotationY := message.rotationY
  rotationZ := message.rotationZ
  rotationW := message.rotationW

/-- What switching a camera off leaves of its entry. -/
def switchOff (camera : PipCameraState) : PipCameraState where
  state := { camera.state with isActive := false }
  hasNewData := false
  lastSentTimes := ∅

def stateChange (playerId : PeerId) (message : ClientCameraPipStateMessage) (state : PipState) :
    CameraPipStateMessage × PipState :=
  let camera := cameraOf playerId message
  (camera,
    if message.isActive then
      { states := state.states.insert playerId { state := camera, hasNewData := true } }
    else { states := state.states.modify playerId switchOff })

/-- The camera moved. -/
def moveTo (message : ClientCameraPipPositionMessage) (camera : PipCameraState) : PipCameraState :=
  { camera with
    state := { camera.state with
      positionX := message.positionX
      positionY := message.positionY
      positionZ := message.positionZ
      rotationX := message.rotationX
      rotationY := message.rotationY
      rotationZ := message.rotationZ
      rotationW := message.rotationW }
    hasNewData := true }

def positionUpdate (playerId : PeerId) (message : ClientCameraPipPositionMessage) (state : PipState) :
    Option CameraPipPositionMessage × PipState :=
  match state.states.lookup playerId with
  | none => (none, state)
  | some camera =>
    if !camera.state.isActive then (none, state)
    else
      (some
        { playerId
          positionX := message.positionX
          positionY := message.positionY
          positionZ := message.positionZ
          rotationX := message.rotationX
          rotationY := message.rotationY
          rotationZ := message.rotationZ
          rotationW := message.rotationW },
        { states := state.states.insert playerId (moveTo message camera) })

/-- The message that switches the player's camera off, if it was on. -/
def removePlayer (playerId : PeerId) (state : PipState) : Option CameraPipStateMessage × PipState :=
  ((state.states.lookup playerId).bind fun camera =>
      if camera.state.isActive then some { camera.state with isActive := false } else none,
    { states := state.states.erase playerId })

def allActive (state : PipState) : List CameraPipStateMessage :=
  state.states.entries.filterMap fun e => if e.2.state.isActive then some e.2.state else none

end PipState

/-! ### Nothing of a player who left -/

/-- No object of the player's. -/
theorem OwnershipState.lookup_removePlayer (playerId : PeerId) (state : OwnershipState) (object : String) :
    (state.removePlayer playerId).2.byObject.lookup object ≠ some playerId := by
  intro h
  rw [removePlayer, Dict.lookup_retain, Option.filter_eq_some_iff] at h
  simp at h

/-- No sphere of the player's. -/
theorem ContentShareState.playerId_removePlayer {playerId : PeerId} {state : ContentShareState} {key : String}
    {sphere : ServerContentShareMessage}
    (h : (state.removePlayer playerId).2.spheres.lookup key = some sphere) : sphere.playerId ≠ playerId := by
  rw [removePlayer, Dict.lookup_retain, Option.filter_eq_some_iff] at h
  exact of_decide_eq_true h.2

/-- No camera of the player's. -/
theorem PipState.notMem_removePlayer (playerId : PeerId) (state : PipState) :
    playerId ∉ (state.removePlayer playerId).2.states :=
  fun h => (AList.mem_erase.mp h).1 rfl

end BasisRust.Resources
