import BasisRust.Replica.Follow

/-!
# Every player knows the cameras

A player is told which cameras are on when it enters, and then every camera that somebody else switches on, moves or
switches off, with leaving as the last way to switch it off.  Moves are sent without a guarantee, so this is about
what is sent.
-/

namespace BasisRust.Replica

open Lib Protocol Transport
open BasisRust.Core P2p Resources

/-! ### The player's reading -/

abbrev KnownCameras := PeerId → Option CameraPipStateMessage

def learnCamera (m : CameraPipStateMessage) (v : KnownCameras) : KnownCameras :=
  Function.update v m.playerId (if m.isActive then some m else none)

def learnPosition (m : CameraPipPositionMessage) (v : KnownCameras) : KnownCameras :=
  Function.update v m.playerId ((v m.playerId).map fun camera =>
    { camera with
      positionX := m.positionX
      positionY := m.positionY
      positionZ := m.positionZ
      rotationX := m.rotationX
      rotationY := m.rotationY
      rotationZ := m.rotationZ
      rotationW := m.rotationW })

def cameraReading : Reading UInt8 Bytes KnownCameras :=
  .ofTable (fun _ => none)
    [(channels.cameraPipState, onRead CameraPipStateMessage.deserialize learnCamera),
      (channels.cameraPipPosition, onRead CameraPipPositionMessage.deserialize learnPosition)]

/-- The camera, if it is on. -/
def visibleCamera (camera : PipCameraState) : Option CameraPipStateMessage :=
  if camera.state.isActive then some camera.state else none

/-- The cameras that are on. -/
def visible (cameras : Dict PeerId PipCameraState) : KnownCameras := fun q => (cameras.lookup q).bind visibleCamera

def cameraCopy : Copy (Dict PeerId PipCameraState) KnownCameras where
  reading := cameraReading
  stores := [.pip]
  truth s := s.pip.states
  Agrees p truth v := ∀ q, q ≠ p → v q = visible truth q
  truth_frame h hframe := by
    rw [hframe.pip (List.ne_of_not_mem_cons h)]
  truth_moved _ _ _ _ := rfl
  p2pBroker := by decide
  authIdentity := by decide

variable {p q : PeerId} {s : ServerState}

lemma cameraCopy_holds_iff :
    cameraCopy.Holds p s ↔ ∀ q, q ≠ p → cameraCopy.view p s q = visible s.pip.states q := Iff.rfl

lemma learn_cameraPipState (m : CameraPipStateMessage) (v : KnownCameras) :
    cameraReading.learn channels.cameraPipState m.serialize v =
      Function.update v m.playerId (if m.isActive then some m else none) := by
  have hlearn := onRead_of_decodes (CameraPipStateMessage.decodes m) learnCamera v
  refine Eq.trans hlearn ?_
  unfold learnCamera CameraPipStateMessage.canon
  by_cases hactive : m.isActive
  · rw [if_pos hactive, if_pos hactive]
  · rw [if_neg hactive, if_neg hactive]
    dsimp only
    rw [if_neg hactive]

lemma learn_cameraPipPosition (m : CameraPipPositionMessage) (v : KnownCameras) :
    cameraReading.learn channels.cameraPipPosition m.serialize v = learnPosition m v := by
  exact onRead_of_decodes (CameraPipPositionMessage.decodes m) learnPosition v

/-! ### Entering and leaving -/

lemma replay_cameraMessages (hall : Dict.All (fun q camera => camera.state.playerId = q) s.pip.states) :
    cameraReading.replay (cameraMessages s) (fun _ => none) = visible s.pip.states := by
  set on : Dict PeerId PipCameraState := Dict.retain (fun _ camera => camera.state.isActive) s.pip.states with hon
  have hmessages : cameraMessages s = on.entries.map fun e => (channels.cameraPipState, e.2.state.serialize) := by
    have hactive : s.pip.allActive = on.entries.map fun e => e.2.state := by
      rw [hon, Dict.retain, ← List.filterMap_eq_map', List.filterMap_filter]
      rfl
    unfold cameraMessages
    rw [hactive, List.map_map]
    rfl
  have hlearn : ∀ e ∈ on.entries, ∀ v, cameraReading.learn channels.cameraPipState e.2.state.serialize v =
      Function.update v e.1 (some e.2.state) := by
    intro e he v
    obtain ⟨he, hactive⟩ := List.mem_filter.mp he
    rw [learn_cameraPipState, if_pos hactive, Dict.all_iff_entries.mp hall e he]
  rw [hmessages, cameraReading.replay_map hlearn]
  refine (Dict.foldl_update PipCameraState.state on).trans ?_
  funext q
  unfold Dict.known visible
  rw [hon, Dict.lookup_retain]
  cases s.pip.states.lookup q with
  | none => rfl
  | some camera =>
    rw [Option.filter_some, Option.bind_some, visibleCamera]
    split <;> rfl

lemma cameras_welcomed (env : Outside) (ready : ReadyMessage) (hsound : Sound s) (hp : p ∈ s.transport.peers) :
    cameraCopy.Holds p (s.finalizeAccept env p ready) := by
  have hall : Dict.All (fun q camera => camera.state.playerId = q) (s.entered p ready).pip.states := hsound.cameras
  refine Copy.holds_welcome hp fun q _ => congrFun ?_ q
  change cameraReading.replay (welcome p (s.entered p ready)) (fun _ => none) = _
  simp only [welcome, Reading.replay_append]
  rw [cameraReading.replay_of_kind channel_of_existing (by decide),
    cameraReading.replay_of_kind channel_of_netIds (by decide),
    cameraReading.replay_of_kind channel_of_resources (by decide),
    cameraReading.replay_of_kind channel_of_owners (by decide),
    cameraReading.replay_of_kind channel_of_spheres (by decide), replay_cameraMessages hall,
    cameraReading.replay_of_kind channel_of_settings (by decide)]
  rfl

/-- Of one of the others the player is told what becomes visible, and of the rest nothing changes. -/
lemma cameras_heard {s' : ServerState} {channel : UInt8} {payload : Bytes} (hholds : cameraCopy.Holds p s)
    (htold : told p s' = told p s ++ [(channel, payload)])
    (hlearn : ∀ v, v q = visible s.pip.states q →
      cameraReading.learn channel payload v = Function.update v q (visible s'.pip.states q))
    (hq : q ≠ p) (hsame : ∀ r, r ≠ q → s'.pip.states.lookup r = s.pip.states.lookup r) : cameraCopy.Holds p s' := by
  rw [cameraCopy_holds_iff] at hholds ⊢
  intro r hr
  unfold Copy.view at hholds ⊢
  have hlearned : cameraCopy.reading.learn channel payload _ = _ := hlearn _ (hholds q hq)
  rw [htold, Reading.replay_append, Reading.replay_cons, Reading.replay_nil, hlearned, Function.update_apply]
  split
  next h => rw [h]
  next h =>
    rw [hholds r hr]
    unfold visible
    rw [hsame r h]

/-- With a player its camera goes, and it is told if it was on. -/
lemma replay_cameraLeft (hall : Dict.All (fun q camera => camera.state.playerId = q) s.pip.states) (v : KnownCameras)
    (hv : v q = visible s.pip.states q) :
    cameraReading.replay (cameraLeft q s) v = Function.update v q none := by
  unfold cameraLeft PipState.removePlayer
  unfold visible at hv
  cases hlookup : s.pip.states.lookup q with
  | none =>
    rw [hlookup] at hv
    exact (Function.update_eq_self_iff.mpr hv.symm).symm
  | some camera =>
    rw [hlookup, Option.bind_some, visibleCamera] at hv
    rw [Option.bind_some]
    by_cases hactive : camera.state.isActive
    · have hlearn := learn_cameraPipState { camera.state with isActive := false } v
      rw [if_pos hactive]
      refine Eq.trans hlearn ?_
      rw [if_neg Bool.false_ne_true]
      exact congrArg (fun r => Function.update v r none) (hall q camera hlookup)
    · rw [if_neg hactive] at hv ⊢
      exact (Function.update_eq_self_iff.mpr hv.symm).symm

/-- What concerns the player's own camera is not told to it, and changes nothing for the others'. -/
lemma cameras_unheard {s' : ServerState} (hholds : cameraCopy.Holds p s) (htold : told p s' = told p s)
    (hsame : ∀ r, r ≠ p → s'.pip.states.lookup r = s.pip.states.lookup r) : cameraCopy.Holds p s' := by
  rw [cameraCopy_holds_iff] at hholds ⊢
  intro r hr
  have hview := hholds r hr
  unfold Copy.view visible at hview ⊢
  rw [htold, hsame r hr]
  exact hview

lemma cameras_left (env : Outside) (hsound : Sound s) (hq : q ≠ p) (hstays : Stays p s)
    (hholds : cameraCopy.Holds p s) : cameraCopy.Holds p (s.handleDisconnect env q) := by
  obtain ⟨hleft, hview⟩ := cameraCopy.view_left env hstays hq (by decide)
  rw [cameraCopy_holds_iff] at hholds ⊢
  intro r hr
  have hcamera : cameraCopy.reading.replay (cameraLeft q s) (cameraCopy.view p s) = _ :=
    replay_cameraLeft hsound.cameras _ (hholds q hq)
  have hpip : (s.handleDisconnect env q).pip.states = s.pip.states.erase q := congrArg PipState.states hleft.pip
  rw [hview, hpip, cameraCopy.reading.replay_of_kind channel_of_ownersLeft (by decide),
    cameraCopy.reading.replay_of_kind channel_of_spheresLeft (by decide), hcamera,
    Copy.replay_rosterLeft (by decide) (by decide), Function.update_apply]
  unfold visible
  rw [Dict.lookup_erase]
  split
  next => rfl
  next => exact hholds r hr

/-! ### Switching and moving -/

lemma cameras_handleCameraPipState_told (payload : Bytes) (hstays : Stays p s) (hholds : cameraCopy.Holds p s) :
    cameraCopy.Holds p (s.handleCameraPipState q payload) := by
  refine ServerState.onParsed_of (P := cameraCopy.Holds p) hholds fun request => ?_
  set s' : ServerState := { s with pip := (s.pip.stateChange q request).2 } with hs'
  set camera := PipState.cameraOf q request with hcamera
  have hstays' : Stays p s' := ⟨hstays.live, hstays.auth⟩
  have hsame : ∀ r, r ≠ q → s'.pip.states.lookup r = s.pip.states.lookup r := by
    intro r hr
    change (s.pip.stateChange q request).2.states.lookup r = _
    unfold PipState.stateChange
    dsimp only
    split
    · exact AList.lookup_insert_ne hr
    · exact (Dict.lookup_modify q r _ _).trans (if_neg hr)
  have hvisible : visible s'.pip.states q = if camera.isActive then some camera else none := by
    change ((s.pip.stateChange q request).2.states.lookup q).bind visibleCamera = _
    unfold PipState.stateChange
    dsimp only
    by_cases hactive : request.isActive
    · rw [if_pos hactive, AList.lookup_insert, Option.bind_some]
      rfl
    · have hcamera : camera.isActive = false := Bool.not_eq_true _ ▸ hactive
      rw [if_neg hactive, Dict.lookup_modify, if_pos rfl, hcamera, if_neg Bool.false_ne_true]
      cases s.pip.states.lookup q <;> rfl
  by_cases hq : q = p
  · -- its own camera is not told to the player
    subst hq
    have htold := told_broadcast_except (s := s') hstays'.live channels.cameraPipState (by decide)
      .reliableOrdered camera.serialize
    exact cameras_unheard hholds htold hsame
  · have htold := told_broadcast (s := s') hstays'.live hstays'.auth channels.cameraPipState (by decide)
      (by decide) (some q) (fun h => hq (Option.some.inj h).symm) .reliableOrdered camera.serialize
    refine cameras_heard (q := q) hholds htold (fun v _ => ?_) hq hsame
    refine (learn_cameraPipState camera v).trans ?_
    change Function.update v q _ = Function.update v q (visible s'.pip.states q)
    rw [hvisible]

lemma cameras_handleCameraPipPosition_told (payload : Bytes) (hstays : Stays p s) (hholds : cameraCopy.Holds p s) :
    cameraCopy.Holds p (s.handleCameraPipPosition q payload) := by
  refine ServerState.onParsed_of (P := cameraCopy.Holds p) hholds fun request => ?_
  unfold PipState.positionUpdate
  cases hlookup : s.pip.states.lookup q with
  | none => exact hholds
  | some camera =>
    dsimp only
    by_cases hactive : camera.state.isActive
    · have hoff : (!camera.state.isActive) = false := by rw [hactive]; rfl
      rw [hoff, if_neg Bool.false_ne_true]
      dsimp only
      set s' : ServerState := { s with pip := { states := s.pip.states.insert q (PipState.moveTo request camera) } }
      have hstays' : Stays p s' := ⟨hstays.live, hstays.auth⟩
      have hsame : ∀ r, r ≠ q → s'.pip.states.lookup r = s.pip.states.lookup r := fun r hr => AList.lookup_insert_ne hr
      have hbefore : visible s.pip.states q = some camera.state := by
        unfold visible
        rw [hlookup, Option.bind_some, visibleCamera, if_pos hactive]
      have hafter : visible s'.pip.states q = some (PipState.moveTo request camera).state := by
        have hinsert : s'.pip.states.lookup q = some (PipState.moveTo request camera) := AList.lookup_insert _
        unfold visible
        rw [hinsert, Option.bind_some, visibleCamera]
        exact if_pos hactive
      by_cases hq : q = p
      · subst hq
        exact cameras_unheard hholds (told_broadcast_except (s := s') hstays'.live _ (by decide) _ _) hsame
      · have htold := told_broadcast (s := s') hstays'.live hstays'.auth channels.cameraPipPosition
          (by decide) (by decide) (some q) (fun h => hq (Option.some.inj h).symm) .sequenced
        refine cameras_heard (q := q) hholds (htold _) (fun v hv => ?_) hq hsame
        refine (learn_cameraPipPosition _ v).trans ?_
        unfold learnPosition
        rw [hv, hbefore]
        exact congrArg (Function.update v q) hafter.symm
    · have hoff : (!camera.state.isActive) = true := by rw [Bool.eq_false_of_not_eq_true hactive]; rfl
      rw [hoff, if_pos rfl]
      exact hholds

/-! ### The stay -/

/-- What a player has to be told of the others' cameras. -/
lemma cameras_follows (p : PeerId) : cameraCopy.Follows p fun _ => True where
  welcomed env ready _ hsound _ hp _ := cameras_welcomed env ready hsound hp
  met _ _ _ _ _ _ hq hstays hholds := hholds.met hstays hq rfl (by decide)
  left env _ _ hsound hq hstays hholds := cameras_left env hsound hq hstays hholds
  handled env q channel delivery payload arm s _ hconcerns hsound hstays hholds := by
    cases arm with
    | cameraPipState => exact cameras_handleCameraPipState_told payload hstays hholds
    | cameraPipPosition => exact cameras_handleCameraPipPosition_told payload hstays hholds
    | audioRecipients => exact absurd (Copy.voiceRecipients_of_concerns hconcerns) (by decide)
    | _ => exact absurd hconcerns (by decide)

/-- **Every player knows the cameras.**  As long as a player stays, what it has been sent about somebody else's camera
amounts to what the server keeps: whether it is on, and where it is then. -/
theorem player_knows_cameras {config : ServerConfig} {ts : List (Transition ServerState Label)} (hstay : Stay config p ts s)
    (hq : q ≠ p) : cameraReading.replay (told p s) (fun _ => none) q =
      (s.pip.states.lookup q).bind fun camera => if camera.state.isActive then some camera.state else none :=
  Copy.follows (cameras_follows p) hstay (fun _ _ => trivial) q hq

/-- A camera that was on before the player came, and was moved since. -/
theorem player_knows_cameras_visit :
    (cameraReading.replay (told 1 visited) (fun _ => none) 0).map (·.positionX) = some 0 := by
  rw [player_knows_cameras (p := 1) stay_visit (by decide)]
  decide +kernel

end BasisRust.Replica
