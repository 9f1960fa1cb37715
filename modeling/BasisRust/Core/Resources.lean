import BasisRust.Core.System
import BasisRust.Resources.Preload

/-!
# The server's resources

The server works on its resources with the operations of `ResourceState` only.  The handler that refuses to unload
a locked resource has taken it out before, and puts it back.
-/

namespace BasisRust.Core

open Lib Protocol Transport
open P2p Resources

namespace ServerState

variable {s s' : ServerState}

/-! ### The operations the server calls -/

/-- The resources are what some calls have made of them. -/
def Worked (s s' : ServerState) : Prop := ∃ ops, s'.resources = ResourceState.afterCalls ops s.resources

lemma worked_of_eq (h : s'.resources = s.resources) : Worked s s' := ⟨[], h⟩

lemma worked_of_posted {t : ServerState} (hp : Posted t s') (h : Worked s t) : Worked s s' := by
  obtain ⟨messages, rfl⟩ := hp
  exact h

/-- Either way of adding a resource is one call. -/
lemma exists_addResource (resource : LocalLoadResource) (s : ServerState) :
    ∃ op : ResourceOp, (s.addResource resource).2 = (op.call s.resources).2 := by
  unfold addResource
  split
  next => exact ⟨.startPreload resource s.authenticatedPeers.keys, rfl⟩
  next => exact ⟨.loadResource resource, rfl⟩

lemma worked_handleLoadResource (peer : PeerId) (payload : Bytes) (s : ServerState) :
    Worked s (s.handleLoadResource peer payload) := by
  refine onParsed_of (P := Worked s) (worked_of_eq rfl) fun resource => ?_
  split
  next => exact worked_of_eq rfl
  next peerState _ =>
    dsimp only
    split
    next => exact worked_of_eq rfl
    next =>
      obtain ⟨op, hop⟩ := exists_addResource { resource with uuidOfCreator := peerState.metadata.playerUuid } s
      split
      next => exact worked_of_posted (posted_broadcast _ _ _ _ _) ⟨[op], hop⟩
      next => exact ⟨[op], hop⟩

lemma worked_handleUnloadResource (peer : PeerId) (payload : Bytes) (s : ServerState) :
    Worked s (s.handleUnloadResource peer payload) := by
  refine onParsed_of (P := Worked s) (worked_of_eq rfl) fun request => ?_
  dsimp only
  split
  next => exact ⟨[.unloadResource request.loadedNetId], rfl⟩
  next resource _ =>
    split
    next => exact ⟨[.unloadResource request.loadedNetId, .loadResource resource], rfl⟩
    next => exact worked_of_posted (posted_broadcast _ _ _ _ _) ⟨[.unloadResource request.loadedNetId], rfl⟩

lemma worked_handlePreloadReady (peer : PeerId) (payload : Bytes) (s : ServerState) :
    Worked s (s.handlePreloadReady peer payload) := by
  refine onParsed_of (P := Worked s) (worked_of_eq rfl) fun ready => ?_
  dsimp only
  split
  next => exact ⟨[.markPreloadReady peer ready], rfl⟩
  next spawn _ =>
    refine worked_of_posted (posted_broadcast _ _ _ _ _) ?_
    unfold unloadScenes
    split
    next =>
      exact worked_of_posted
        (posted_foldl_broadcast channels.unloadResource .reliableOrdered UnloadResource.serialize none _ _)
        ⟨[.markPreloadReady peer ready, .allSceneUnloads], rfl⟩
    next => exact ⟨[.markPreloadReady peer ready], rfl⟩

/-- What broadcasts of spawns post. -/
def spawnMessages (spawns : List SpawnPreloadedMessage) (audience : List PeerId) : List Outgoing :=
  spawns.flatMap fun spawn => audience.map fun target =>
    .send target channels.spawnPreloaded .reliableOrdered spawn.serialize

lemma isOn_spawnMessages (spawns : List SpawnPreloadedMessage) (audience : List PeerId) :
    ∀ message ∈ spawnMessages spawns audience, IsOn [channels.spawnPreloaded] message := by
  intro message hmessage
  obtain ⟨spawn, -, hmessage⟩ := List.mem_flatMap.mp hmessage
  obtain ⟨target, -, rfl⟩ := List.mem_map.mp hmessage
  exact List.mem_singleton_self _

/-- What a departure from the roster tells the others. -/
def departureMessages (peer : PeerId) (s : ServerState) : List Outgoing :=
  spawnMessages (s.resources.removePreloadPeer peer).1 (s.authenticatedPeers.erase peer).keys ++
    (s.authenticatedPeers.erase peer).keys.map fun target =>
      .send target channels.disconnection .reliableOrdered (putU16 peer)

lemma isOn_departureMessages (peer : PeerId) (s : ServerState) :
    ∀ message ∈ s.departureMessages peer, IsOn [channels.spawnPreloaded, channels.disconnection] message := by
  intro message hmessage
  rcases List.mem_append.mp hmessage with hmessage | hmessage
  · have hon := isOn_spawnMessages _ _ message hmessage
    cases message with
    | send => exact List.mem_cons.mpr (.inl (List.mem_singleton.mp hon))
    | natIntroduce => cases hon
  · obtain ⟨target, -, rfl⟩ := List.mem_map.mp hmessage
    exact List.mem_cons_of_mem _ (List.mem_singleton_self _)

/-- The roster without the peer, whose preloads have one player less to wait for. -/
def withoutPeer (peer : PeerId) (s : ServerState) : ServerState :=
  { s with
    authenticatedPeers := s.authenticatedPeers.erase peer
    resources := (s.resources.removePreloadPeer peer).2 }

/-- A message that concerns everybody goes to everybody. -/
lemma audience_none (channel : UInt8) (s : ServerState) : s.audience channel none = s.authenticatedPeers.keys := by
  unfold audience
  refine List.filter_eq_self.mpr fun target _ => ?_
  rw [Option.any_none, Bool.and_false, Bool.not_false, Bool.and_true]
  exact decide_eq_true nofun

lemma audience_disconnection (peer : PeerId) (s : ServerState) :
    (s.withoutPeer peer).audience channels.disconnection (some peer) = (s.authenticatedPeers.erase peer).keys := by
  refine List.filter_eq_self.mpr fun target htarget => ?_
  have hne : target ≠ peer := (AList.mem_erase.mp (AList.mem_keys.mpr htarget)).1
  have hchannel : isP2pOffloadChannel channels.disconnection = false := by decide
  rw [hchannel, Bool.false_and, Bool.not_false, Bool.and_true]
  exact decide_eq_true fun h => hne (Option.some.inj h)

lemma leaveRoster_of_mem {peer : PeerId} (hpeer : peer ∈ s.authenticatedPeers) :
    s.leaveRoster peer =
      if (s.authenticatedPeers.erase peer).keys.length = 0 then
        ((s.withoutPeer peer).post (s.departureMessages peer)).resetShared
      else (s.withoutPeer peer).post (s.departureMessages peer) := by
  have hspawns : (s.resources.removePreloadPeer peer).1.foldl (fun s spawn => s.broadcastSpawnPreloaded spawn)
      (s.withoutPeer peer) = _ :=
    foldl_broadcast channels.spawnPreloaded .reliableOrdered SpawnPreloadedMessage.serialize none _ (s.withoutPeer peer)
  have htold : ((s.resources.removePreloadPeer peer).1.foldl (fun s spawn => s.broadcastSpawnPreloaded spawn)
      (s.withoutPeer peer)).broadcast channels.disconnection .reliableOrdered (putU16 peer) (some peer) =
        (s.withoutPeer peer).post (s.departureMessages peer) := by
    rw [hspawns, audience_none]
    refine (post_post _ _ _).trans ?_
    refine congrArg (fun messages => (s.withoutPeer peer).post (_ ++ messages)) ?_
    exact congrArg (List.map _) (audience_disconnection peer s)
  rw [leaveRoster, if_pos hpeer]
  exact congrArg (fun told : ServerState => if told.playerCount = 0 then told.resetShared else told) htold

lemma worked_leaveRoster (peer : PeerId) (s : ServerState) : Worked s (s.leaveRoster peer) := by
  by_cases hpeer : peer ∈ s.authenticatedPeers
  · rw [leaveRoster_of_mem hpeer]
    split
    next =>
      exact worked_of_posted (posted_resetShared _) ⟨[.removePreloadPeer peer, .resetNonPersistent], rfl⟩
    next => exact ⟨[.removePreloadPeer peer], rfl⟩
  · rw [leaveRoster, if_neg hpeer]
    exact worked_of_eq rfl

lemma worked_handleDisconnect (env : Outside) (peer : PeerId) (s : ServerState) :
    Worked s (s.handleDisconnect env peer) := by
  obtain ⟨messages, -, h⟩ := postedOn_leaveStores peer s
  unfold handleDisconnect
  dsimp only
  rw [h]
  exact worked_leaveRoster peer (post messages _)

/-- **The resources are worked on with their operations only.** -/
theorem worked_next (s : ServerState) (l : Label) : Worked s (s.next l) := by
  cases l with
  | transport => exact worked_of_eq rfl
  | handle env event =>
    cases event with
    | connectionRequest request =>
      obtain ⟨_, _, _, _, _, h⟩ := exists_handleConnectionRequest env request s
      exact worked_of_posted h (worked_of_eq rfl)
    | peerDisconnected peer _ => exact worked_handleDisconnect env peer s
    | message peer channel delivery payload =>
      have hframe := (writes_handleArm env peer payload s channel delivery (armOf channel)).frame
      rw [next, handleEvent, handleMessage]
      cases harm : armOf channel with
      | loadResource => exact worked_handleLoadResource peer payload s
      | unloadResource => exact worked_handleUnloadResource peer payload s
      | preloadReady => exact worked_handlePreloadReady peer payload s
      | _ =>
        rw [harm] at hframe
        exact worked_of_eq (hframe.resources nofun)
    | natIntroductionRequest remoteAddr localAddr token =>
      rw [next, handleEvent, handleNatIntroductionRequest]
      split
      next => exact worked_of_eq rfl
      next => exact worked_of_eq rfl
    | unconnectedRequest => exact worked_of_eq rfl
    | networkError => exact worked_of_eq rfl
    | peerConnected => exact worked_of_eq rfl

/-- In every state that is reached the resources are filed under their own ids. -/
theorem filed_of_run {config : ServerConfig} {ts : List (Transition ServerState Label)}
    (hrun : Run Steps (.start config) ts s) : s.resources.Filed := by
  refine (Run.invariant (I := fun s => s.resources.Filed) Dict.All.empty ?_ hrun).2
  rintro s l t ⟨-, rfl⟩ h
  obtain ⟨ops, hops⟩ := worked_next s l
  rw [hops]
  exact h.afterCalls ops

/-! ### A refused unload -/

section Refused

variable {env : Outside} {peer : PeerId} {delivery : DeliveryMethod} {payload : Bytes} {request : UnloadResource}
  {resource : ResourceManagementMessage}

/-- What was taken out is loaded again. -/
lemma handleMessage_refused (hparse : parse UnloadResource.deserialize payload = some request)
    (hlookup : s.resources.resources.lookup request.loadedNetId = some resource)
    (hlocked : resource.isAdminLocked = true) (hpeer : s.hasProtectionPermission peer = false) :
    s.handleMessage env peer channels.unloadResource delivery payload =
      { s with
        resources := ((s.resources.unloadResource request.loadedNetId).2.loadResource resource).2 } := by
  have hunloaded : (s.resources.unloadResource request.loadedNetId).1 = some resource := hlookup
  change s.handleUnloadResource peer payload = _
  unfold handleUnloadResource onParsed
  rw [hparse]
  dsimp only
  rw [hunloaded]
  dsimp only
  rw [hlocked, hpeer]
  rfl

/-- **A refused unload** of a locked resource sends nothing, and leaves the resources as they were just in case the
resource is not being preloaded; and is filed under its own id, as every resource is. -/
theorem refused_unload_iff (hparse : parse UnloadResource.deserialize payload = some request)
    (hlookup : s.resources.resources.lookup request.loadedNetId = some resource)
    (hlocked : resource.isAdminLocked = true) (hpeer : s.hasProtectionPermission peer = false) :
    ((s.handleMessage env peer channels.unloadResource delivery payload).sent = s.sent ∧
      s.resources.Same (s.handleMessage env peer channels.unloadResource delivery payload).resources) ↔
      request.loadedNetId ∉ s.resources.preloadSessions ∧
        resource.loadedNetId = request.loadedNetId ∧ request.loadedNetId ≠ "" := by
  rw [handleMessage_refused hparse hlookup hlocked hpeer, and_iff_right rfl]
  exact ResourceState.same_loadResource_unloadResource_iff hlookup

end Refused

/-- The scene with a lock that only administrators may open. -/
def lockedHall : LocalLoadResource := { ResourceState.hall with isAdminLocked := true }

def hallUnload : Bytes := UnloadResource.serialize ⟨1, "hall"⟩

/-- A server that has loaded it. -/
def hallLoaded : ServerState :=
  { ServerState.start openConfig with resources := (ResourceState.loadResource lockedHall {}).2 }

theorem refused_unload_iff_loaded :
    (hallLoaded.handleMessage plainOutside 7 channels.unloadResource .reliableOrdered hallUnload).sent = [] ∧
      hallLoaded.resources.Same
        (hallLoaded.handleMessage plainOutside 7 channels.unloadResource .reliableOrdered hallUnload).resources :=
  (@refused_unload_iff hallLoaded plainOutside 7 .reliableOrdered hallUnload ⟨1, "hall"⟩ lockedHall
    (by decide +kernel) (by decide) rfl rfl).mpr ⟨by decide, rfl, by decide⟩

/-- A client comes in and has the scene preloaded. -/
def hallPreloading : List Label :=
  [handles (.connectionRequest (requestOf 1 "a")), messageOf 0 channels.loadResource lockedHall.serialize]

/-- The refusal has ended the preload. -/
theorem refused_unload_ends_preload : ∃ ts s resource, Run Steps (.start openConfig) ts s ∧
    parse UnloadResource.deserialize hallUnload = some ⟨1, "hall"⟩ ∧
    s.resources.resources.lookup "hall" = some resource ∧ resource.isAdminLocked = true ∧
    s.hasProtectionPermission 0 = false ∧
    ¬ s.resources.Same
      (s.handleMessage plainOutside 0 channels.unloadResource .reliableOrdered hallUnload).resources := by
  let s := hallPreloading.foldl next (.start openConfig)
  have hlookup : (s.resources.resources.lookup "hall").map (·.isAdminLocked) = some true := by decide +kernel
  obtain ⟨resource, hlookup, hlocked⟩ := Option.map_eq_some_iff.mp hlookup
  have hparse : parse UnloadResource.deserialize hallUnload = some ⟨1, "hall"⟩ := by decide +kernel
  have hpeer : s.hasProtectionPermission 0 = false := by decide +kernel
  have hpreloading : "hall" ∈ s.resources.preloadSessions := by decide +kernel
  refine ⟨_, s, resource, run_of_enabled hallPreloading (by decide +kernel), hparse, hlookup, hlocked, hpeer,
    fun hsame => ?_⟩
  rw [handleMessage_refused hparse hlookup hlocked hpeer] at hsame
  exact ((ResourceState.same_loadResource_unloadResource_iff hlookup).mp hsame).1 hpreloading

end ServerState
end BasisRust.Core
