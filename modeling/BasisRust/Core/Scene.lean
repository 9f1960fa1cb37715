import BasisRust.Core.Resources

/-!
# Installing a scene

When everybody has a scene it is to take the place of all others.  One of the two handlers that complete a preload
takes all scenes out, the new one with them; the other takes none.
-/

namespace BasisRust.Core

open Lib Protocol Transport
open P2p Resources

namespace ServerState

variable {s s' : ServerState}

/-! ### Who is told what -/

/-- The message takes the payload to the peer on the channel. -/
def tells (target : PeerId) (channel : UInt8) (payload : Bytes) : Outgoing → Bool
  | .send target' channel' _ payload' => target' = target && channel' = channel && payload' = payload
  | .natIntroduce _ _ _ _ _ => false

/-- How often the peer has been sent the payload on the channel, from one state to the other. -/
def timesTold (target : PeerId) (channel : UInt8) (payload : Bytes) (s s' : ServerState) : ℕ :=
  (s'.sent.drop s.sent.length).countP (tells target channel payload)

/-- What is broadcast to everybody reaches the player. -/
def Listens (target : PeerId) (s : ServerState) : Prop :=
  target ∈ s.authenticatedPeers ∧ target ∈ s.transport.peers

section Told

variable {target : PeerId} {channel : UInt8} {payload : Bytes} {messages : List Outgoing}

/-- Of what is posted, a live peer is told all that is for it. -/
lemma timesTold_of_sent (h : s'.sent = s.sent ++ messages.filter (isLive s.transport)) :
    timesTold target channel payload s s' =
      if target ∈ s.transport.peers then messages.countP (tells target channel payload) else 0 := by
  rw [timesTold, h, List.drop_left, List.countP_filter]
  split
  next hlive =>
    refine List.countP_congr fun message _ => ?_
    cases message with
    | send target' channel' delivery payload' =>
      simp only [tells, isLive, Bool.and_eq_true, decide_eq_true_eq, and_iff_left_iff_imp]
      rintro ⟨⟨rfl, -⟩, -⟩
      exact hlive
    | natIntroduce => exact Iff.rfl
  next hdead =>
    refine List.countP_eq_zero.mpr fun message _ => ?_
    cases message with
    | send target' channel' delivery payload' =>
      simp only [tells, isLive, Bool.and_eq_true, decide_eq_true_eq]
      rintro ⟨⟨⟨rfl, -⟩, -⟩, hlive⟩
      exact hdead hlive
    | natIntroduce => exact Bool.false_ne_true

/-- Messages on other channels tell it nothing. -/
lemma countP_tells_of_isOn {used : List UInt8} (h : ∀ message ∈ messages, IsOn used message)
    (hchannel : channel ∉ used) : messages.countP (tells target channel payload) = 0 := by
  refine List.countP_eq_zero.mpr fun message hmessage => ?_
  have hon := h message hmessage
  cases message with
  | send target' channel' delivery payload' =>
    simp only [tells, Bool.and_eq_true, decide_eq_true_eq]
    rintro ⟨⟨-, rfl⟩, -⟩
    exact hchannel hon
  | natIntroduce => cases hon

/-- Of a number of broadcasts, the peer is told those with the payload, once each. -/
lemma countP_tells_broadcasts {α : Type} (delivery : DeliveryMethod) (payloadOf : α → Bytes) {audience : List PeerId}
    (hnodup : audience.Nodup) (htarget : target ∈ audience) (as : List α) :
    (as.flatMap fun a => audience.map fun target' => Outgoing.send target' channel delivery (payloadOf a)).countP
      (tells target channel payload) = as.countP fun a => payloadOf a = payload := by
  induction as with
  | nil => rfl
  | cons a as ih =>
    have hone : (audience.map fun target' => Outgoing.send target' channel delivery (payloadOf a)).countP
        (tells target channel payload) = if payloadOf a = payload then 1 else 0 := by
      rw [List.countP_map]
      split
      next heq =>
        have hcount : audience.count target = 1 := List.count_eq_one_of_mem hnodup htarget
        rw [← hcount, List.count]
        refine List.countP_congr fun target' _ => ?_
        simp only [Function.comp_apply, tells, decide_true, Bool.and_true, heq, decide_eq_true_eq, beq_iff_eq]
      next hne =>
        refine List.countP_eq_zero.mpr fun target' _ => ?_
        simp only [Function.comp_apply, tells, Bool.and_eq_true, decide_eq_true_eq]
        exact fun h => hne h.2
    rw [List.flatMap_cons, List.countP_append, ih, hone, List.countP_cons, Nat.add_comm]
    simp only [decide_eq_true_eq]

end Told

/-! ### Installing a scene -/

/-- The scene is there, and everybody has been told so: the others are not, and it was told of each of them that it
is unloaded, and never of the scene itself. -/
structure InstallsScene (id : String) (s s' : ServerState) : Prop where
  kept : id ∈ s'.resources.resources
  onlyScene : ∀ other resource, s'.resources.resources.lookup other = some resource → resource.mode = 1 → other = id
  unloads : ∀ other resource, s.resources.resources.lookup other = some resource → resource.mode = 1 → other ≠ id →
    ∀ target, s'.Listens target →
      0 < timesTold target channels.unloadResource (UnloadResource.serialize ⟨resource.mode, other⟩) s s'
  keeps : ∀ target mode, timesTold target channels.unloadResource (UnloadResource.serialize ⟨mode, id⟩) s s' = 0
  spawns : ∀ target, s'.Listens target →
    timesTold target channels.spawnPreloaded (SpawnPreloadedMessage.serialize ⟨id⟩) s s' = 1

/-- The event completes the preload of the resource. -/
def Completes (id : String) (s : ServerState) : ServerEvent → Prop
  | .message peer channel _ payload => channel = channels.preloadReady ∧ ∃ ready,
      parse PreloadReadyMessage.deserialize payload = some ready ∧
        (s.resources.markPreloadReady peer ready).1 = some ⟨id⟩
  | .peerDisconnected peer _ => peer ∈ s.authenticatedPeers ∧ ⟨id⟩ ∈ (s.resources.removePreloadPeer peer).1
  | _ => False

/-- Nobody but the peer plays. -/
def OnlyPlayer (peer : PeerId) (s : ServerState) : Prop := ∀ other ∈ s.authenticatedPeers, other = peer

/-- The scene has nothing to take the place of.  Answers: it is the only one, and does not go by its own id.
Departures: it is the only one, or the only one that stays when nobody plays any more. -/
def NothingToReplace (id : String) (s : ServerState) : ServerEvent → Prop
  | .message _ _ _ _ => ∀ other resource, s.resources.resources.lookup other = some resource → resource.mode = 1 →
      other = id ∧ resource.loadedNetId ≠ id
  | .peerDisconnected peer _ => ∀ other resource, s.resources.resources.lookup other = some resource →
      resource.mode = 1 →
        (s.OnlyPlayer peer → (resource.persist = true ↔ other = id)) ∧ (¬ s.OnlyPlayer peer → other = id)
  | _ => False

section Installing

variable {id : String} {scene : ResourceManagementMessage}

/-- With no other scene there is nothing to unload: what counts is that nothing is told but the spawn. -/
lemma installsScene_iff_of_told {messages : List Outgoing} (hsent : s'.sent = s.sent ++ messages.filter (isLive s.transport))
    (hscenes : ∀ other resource, s.resources.resources.lookup other = some resource → resource.mode = 1 → other ≠ id →
      (∀ target, ¬ s'.Listens target) ∨ s'.resources.resources.lookup other = some resource)
    (hunloads : ∀ target payload, messages.countP (tells target channels.unloadResource payload) = 0)
    (hspawns : ∀ target, s'.Listens target → target ∈ s.transport.peers ∧
      messages.countP (tells target channels.spawnPreloaded (SpawnPreloadedMessage.serialize ⟨id⟩)) = 1) :
    InstallsScene id s s' ↔ id ∈ s'.resources.resources ∧
      ∀ other resource, s'.resources.resources.lookup other = some resource → resource.mode = 1 → other = id := by
  constructor
  · intro h
    exact ⟨h.kept, h.onlyScene⟩
  · rintro ⟨hkept, honly⟩
    refine ⟨hkept, honly, fun other resource hlookup hmode hne target htarget => ?_, fun target mode => ?_,
      fun target htarget => ?_⟩
    · rcases hscenes other resource hlookup hmode hne with hdeaf | hstays
      · exact absurd htarget (hdeaf target)
      · exact absurd (honly other resource hstays hmode) hne
    · rw [timesTold_of_sent hsent]
      split
      next => exact hunloads _ _
      next => rfl
    · rw [timesTold_of_sent hsent, if_pos (hspawns target htarget).1]
      exact (hspawns target htarget).2

/-- Each id is spawned once. -/
lemma countP_tells_spawnMessages {spawns : List SpawnPreloadedMessage} {audience : List PeerId} {target : PeerId}
    (hspawns : spawns.Nodup) (hid : ⟨id⟩ ∈ spawns) (hnodup : audience.Nodup) (htarget : target ∈ audience) :
    (spawnMessages spawns audience).countP
      (tells target channels.spawnPreloaded (SpawnPreloadedMessage.serialize ⟨id⟩)) = 1 := by
  rw [spawnMessages, countP_tells_broadcasts .reliableOrdered SpawnPreloadedMessage.serialize hnodup htarget,
    ← List.count_eq_one_of_mem hspawns hid, List.count]
  refine List.countP_congr fun spawn _ => ?_
  rw [decide_eq_true_eq, beq_iff_eq]
  constructor
  · intro h
    exact congrArg SpawnPreloadedMessage.mk (putString_injective h)
  · rintro rfl
    rfl

/-- The new scene goes by its own id, so it is unloaded with the others. -/
lemma not_mem_unloadScenes (hlookup : s.resources.resources.lookup id = some scene) (hmode : scene.mode = 1)
    (hfound : (s.resources.allResources.any fun resource => resource.loadedNetId = id && resource.mode = 1) = true) :
    id ∉ (s.unloadScenes ⟨id⟩).resources.resources := by
  have hresources : (s.unloadScenes ⟨id⟩).resources = s.resources.allSceneUnloads.2 := by
    unfold unloadScenes
    rw [if_pos hfound]
    obtain ⟨messages, h⟩ := posted_foldl_broadcast channels.unloadResource .reliableOrdered UnloadResource.serialize none
      s.resources.allSceneUnloads.1 { s with resources := s.resources.allSceneUnloads.2 }
    dsimp only
    rw [h]
    rfl
  rw [hresources]
  intro hmem
  obtain ⟨resource, hresource, hkept⟩ := Dict.mem_retain.mp hmem
  rw [hlookup] at hresource
  cases hresource
  dsimp only at hkept
  rw [hmode] at hkept
  exact Bool.false_ne_true hkept

lemma allResources_any_iff : (s.resources.allResources.any fun resource =>
    resource.loadedNetId = id && resource.mode = 1) = true ↔
      ∃ other resource, s.resources.resources.lookup other = some resource ∧ resource.loadedNetId = id ∧
        resource.mode = 1 := by
  unfold ResourceState.allResources
  simp only [List.any_map, List.any_eq_true, Function.comp_apply, Bool.and_eq_true, decide_eq_true_eq]
  constructor
  · rintro ⟨e, he, hid, hmode⟩
    exact ⟨e.1, e.2, AList.mem_lookup_iff.mpr he, hid, hmode⟩
  · rintro ⟨other, resource, hlookup, hid, hmode⟩
    exact ⟨⟨other, resource⟩, AList.mem_lookup_iff.mp hlookup, hid, hmode⟩

/-- A scene completed by an answer. -/
lemma installsScene_handlePreloadReady_iff {peer : PeerId} {payload : Bytes} {ready : PreloadReadyMessage}
    (hparse : parse PreloadReadyMessage.deserialize payload = some ready)
    (hmarked : (s.resources.markPreloadReady peer ready).1 = some ⟨id⟩)
    (hlookup : s.resources.resources.lookup id = some scene) (hmode : scene.mode = 1) :
    InstallsScene id s (s.handlePreloadReady peer payload) ↔
      ∀ other resource, s.resources.resources.lookup other = some resource → resource.mode = 1 →
        other = id ∧ resource.loadedNetId ≠ id := by
  let marked : ServerState := { s with resources := (s.resources.markPreloadReady peer ready).2 }
  have hhandle : s.handlePreloadReady peer payload = (marked.unloadScenes ⟨id⟩).broadcastSpawnPreloaded ⟨id⟩ := by
    unfold handlePreloadReady onParsed
    rw [hparse]
    dsimp only
    rw [hmarked]
  have hsame : marked.resources.resources = s.resources.resources :=
    ResourceState.resources_markPreloadReady peer ready s.resources
  rw [hhandle]
  by_cases hfound : (marked.resources.allResources.any fun resource =>
    resource.loadedNetId = id && resource.mode = 1) = true
  · refine iff_of_false (fun h => ?_) fun h => ?_
    · exact not_mem_unloadScenes (hsame ▸ hlookup) hmode hfound h.kept
    · obtain ⟨other, resource, hother, hid, hscene⟩ := allResources_any_iff.mp hfound
      exact (h other resource (hsame ▸ hother) hscene).2 hid
  · have hunloaded : marked.unloadScenes ⟨id⟩ = marked := by
      unfold unloadScenes
      rw [if_neg hfound]
    have hspawned : marked.broadcastSpawnPreloaded ⟨id⟩ =
        marked.post (spawnMessages [⟨id⟩] s.authenticatedPeers.keys) := by
      rw [broadcastSpawnPreloaded, broadcast, audience_none]
      exact congrArg marked.post (List.flatMap_singleton _ _).symm
    have hiff := @installsScene_iff_of_told s (marked.post (spawnMessages [⟨id⟩] s.authenticatedPeers.keys)) id
      (spawnMessages [⟨id⟩] s.authenticatedPeers.keys) rfl
      (fun other resource hother _ _ => .inr (hsame.symm ▸ hother))
      (fun target payload => countP_tells_of_isOn (isOn_spawnMessages _ _) (by decide))
      (fun target htarget => ⟨mem_peers_post.mp htarget.2,
        countP_tells_spawnMessages (List.nodup_singleton _) (List.mem_singleton_self _)
          s.authenticatedPeers.nodupKeys (AList.mem_keys.mp htarget.1)⟩)
    rw [hunloaded, hspawned, hiff]
    constructor
    · rintro ⟨-, honly⟩ other resource hother hscene
      exact ⟨honly other resource (hsame ▸ hother) hscene,
        fun hid => hfound (allResources_any_iff.mpr ⟨other, resource, hsame ▸ hother, hid, hscene⟩)⟩
    · intro h
      exact ⟨hsame ▸ Dict.mem_iff_lookup.mpr ⟨scene, hlookup⟩,
        fun other resource hother hscene => (h other resource (hsame ▸ hother) hscene).1⟩

lemma onlyPlayer_iff {peer : PeerId} : s.OnlyPlayer peer ↔ (s.authenticatedPeers.erase peer).keys.length = 0 := by
  rw [List.length_eq_zero_iff, List.eq_nil_iff_forall_not_mem]
  refine forall_congr' fun other => ?_
  rw [AList.mem_keys.symm, AList.mem_erase, not_and', not_not]

/-- The last player's departure leaves nobody to be told what is unloaded. -/
lemma resetShared_of_deserted (h : s.authenticatedPeers.keys = []) :
    s.resetShared = { s with
      resources := s.resources.resetNonPersistent.2, netIds := {}, ownership := {}, contentShare := {}, pip := {} } := by
  have hmessages : (s.resources.resetNonPersistent.1.flatMap fun unload : UnloadResource =>
      (({ s with resources := s.resources.resetNonPersistent.2 } : ServerState).audience channels.unloadResource none).map
        fun target => Outgoing.send target channels.unloadResource .reliableOrdered unload.serialize) = [] := by
    rw [audience_none]
    dsimp only
    rw [h]
    exact List.flatMap_eq_nil_iff.mpr fun _ _ => rfl
  unfold resetShared
  dsimp only
  rw [foldl_broadcast, hmessages, post_nil]

lemma departureMessages_congr {peer : PeerId} (hresources : s'.resources = s.resources)
    (hplayers : s'.authenticatedPeers = s.authenticatedPeers) : s'.departureMessages peer = s.departureMessages peer := by
  unfold departureMessages
  rw [hresources, hplayers]

lemma countP_tells_departureMessages {peer target : PeerId} (hspawn : ⟨id⟩ ∈ (s.resources.removePreloadPeer peer).1)
    (htarget : target ∈ s.authenticatedPeers.erase peer) :
    (s.departureMessages peer).countP
      (tells target channels.spawnPreloaded (SpawnPreloadedMessage.serialize ⟨id⟩)) = 1 := by
  have hgone : ∀ message ∈ (s.authenticatedPeers.erase peer).keys.map fun target =>
      Outgoing.send target channels.disconnection .reliableOrdered (putU16 peer),
      IsOn [channels.disconnection] message := by
    intro message hmessage
    obtain ⟨_, -, rfl⟩ := List.mem_map.mp hmessage
    exact List.mem_singleton_self _
  have hnodup : (s.authenticatedPeers.erase peer).keys.Nodup := (s.authenticatedPeers.erase peer).nodupKeys
  rw [departureMessages, List.countP_append, countP_tells_of_isOn hgone (by decide),
    countP_tells_spawnMessages (ResourceState.nodup_removePreloadPeer peer s.resources) hspawn hnodup
      (AList.mem_keys.mp htarget)]

/-- The player is off the roster, and the others have been sent the messages. -/
structure Departing (peer : PeerId) (messages : List Outgoing) (s s' : ServerState) : Prop where
  authenticatedPeers : s'.authenticatedPeers = s.authenticatedPeers.erase peer
  resources : s'.resources = (s.resources.removePreloadPeer peer).2
  sent : s'.sent = s.sent ++ messages.filter (isLive s.transport)
  peers : ∀ target, target ∈ s'.transport.peers ↔ target ∈ s.transport.peers

/-- What is left to do when the player is off the roster. -/
lemma exists_departing {peer : PeerId} (hpeer : peer ∈ s.authenticatedPeers) : ∃ told after,
    (∀ message ∈ told, IsOn leaveChannels message) ∧ Departing peer (told ++ s.departureMessages peer) s after ∧
      ∀ env, s.handleDisconnect env peer =
        (if (s.authenticatedPeers.erase peer).keys.length = 0 then after.resetShared else after).call
          (.recyclePeerId peer) env := by
  obtain ⟨told, htold, hleft⟩ := postedOn_leaveStores peer s
  generalize hstores : ServerState.post told _ = left at hleft
  have hresources : left.resources = s.resources := by rw [← hstores]; rfl
  have hplayers : left.authenticatedPeers = s.authenticatedPeers := by rw [← hstores]; rfl
  have hlive : isLive left.transport = isLive s.transport := by rw [← hstores]; exact isLive_post told _
  have hsent : left.sent = s.sent ++ told.filter (isLive s.transport) := by rw [← hstores]; rfl
  have hpeers (target : PeerId) : target ∈ left.transport.peers ↔ target ∈ s.transport.peers := by
    rw [← hstores]
    exact mem_peers_post
  refine ⟨told, (left.withoutPeer peer).post (left.departureMessages peer), htold, ⟨?_, ?_, ?_, ?_⟩, fun env => ?_⟩
  · exact congrArg (AList.erase peer) hplayers
  · exact congrArg (fun resources => (resources.removePreloadPeer peer).2) hresources
  · change left.sent ++ (left.departureMessages peer).filter (isLive left.transport) = _
    rw [departureMessages_congr hresources hplayers, hlive, hsent, List.filter_append, List.append_assoc]
  · exact fun target => mem_peers_post.trans (hpeers target)
  · unfold handleDisconnect
    dsimp only
    rw [hleft, leaveRoster_of_mem (hplayers ▸ hpeer), hplayers]

section Departing

variable {env : Outside} {peer : PeerId} {told : List Outgoing} {after : ServerState}

lemma countP_unloads (htold : ∀ message ∈ told, IsOn leaveChannels message) (target : PeerId) (payload : Bytes) :
    (told ++ s.departureMessages peer).countP (tells target channels.unloadResource payload) = 0 := by
  rw [List.countP_append, countP_tells_of_isOn htold (by decide),
    countP_tells_of_isOn (isOn_departureMessages peer s) (by decide)]

/-- Others still play: the preload of the scene is over, and nothing else is about scenes. -/
lemma Departing.installsScene_call_iff (h : Departing peer (told ++ s.departureMessages peer) s after)
    (htold : ∀ message ∈ told, IsOn leaveChannels message) (hspawn : ⟨id⟩ ∈ (s.resources.removePreloadPeer peer).1)
    (hlookup : s.resources.resources.lookup id = some scene) :
    InstallsScene id s (after.call (.recyclePeerId peer) env) ↔
      ∀ other resource, s.resources.resources.lookup other = some resource → resource.mode = 1 → other = id := by
  have hstays : (after.call (.recyclePeerId peer) env).resources.resources = s.resources.resources := by
    change after.resources.resources = _
    rw [h.resources]
    rfl
  have hlistens (target : PeerId) (htarget : (after.call (.recyclePeerId peer) env).Listens target) :
      target ∈ s.authenticatedPeers.erase peer ∧ target ∈ s.transport.peers :=
    ⟨h.authenticatedPeers ▸ htarget.1,
      (h.peers target).mp ((mem_peers_call_recyclePeerId peer env after target).mp htarget.2)⟩
  have hspawns (target : PeerId) (htarget : target ∈ s.authenticatedPeers.erase peer) :
      (told ++ s.departureMessages peer).countP
        (tells target channels.spawnPreloaded (SpawnPreloadedMessage.serialize ⟨id⟩)) = 1 := by
    rw [List.countP_append, countP_tells_of_isOn htold (by decide), countP_tells_departureMessages hspawn htarget]
  have hsent : (after.call (.recyclePeerId peer) env).sent = _ := h.sent
  rw [installsScene_iff_of_told hsent (fun other resource hother _ _ => .inr (hstays ▸ hother)) (countP_unloads htold)
    fun target htarget => ⟨(hlistens target htarget).2, hspawns target (hlistens target htarget).1⟩, hstays]
  exact and_iff_right (Dict.mem_iff_lookup.mpr ⟨scene, hlookup⟩)

/-- Nobody plays any more: what does not persist goes. -/
lemma Departing.installsScene_reset_iff (h : Departing peer (told ++ s.departureMessages peer) s after)
    (htold : ∀ message ∈ told, IsOn leaveChannels message) (honly : s.OnlyPlayer peer)
    (hlookup : s.resources.resources.lookup id = some scene) (hmode : scene.mode = 1) :
    InstallsScene id s (after.resetShared.call (.recyclePeerId peer) env) ↔
      ∀ other resource, s.resources.resources.lookup other = some resource → resource.mode = 1 →
        (resource.persist = true ↔ other = id) := by
  have hnobody : after.authenticatedPeers.keys = [] := by
    rw [h.authenticatedPeers]
    exact List.length_eq_zero_iff.mp (onlyPlayer_iff.mp honly)
  rw [resetShared_of_deserted hnobody]
  generalize hfinal : ServerState.call _ env _ = final
  have hsent : final.sent = s.sent ++ (told ++ s.departureMessages peer).filter (isLive s.transport) := by
    rw [← hfinal]
    exact h.sent
  have hdeaf (target : PeerId) : ¬ final.Listens target := by
    rw [← hfinal]
    rintro ⟨htarget, -⟩
    have hmem : target ∈ after.authenticatedPeers.keys := AList.mem_keys.mp htarget
    rw [hnobody] at hmem
    cases hmem
  have hstays (other : String) : final.resources.resources.lookup other =
      (s.resources.resources.lookup other).filter fun resource => resource.persist := by
    have hretain : final.resources.resources =
        Dict.retain (fun _ resource => !!resource.persist) s.resources.resources := by
      rw [← hfinal]
      change (after.resources.resetNonPersistent.2).resources = _
      rw [h.resources]
      rfl
    rw [hretain, Dict.lookup_retain]
    simp only [Bool.not_not]
  rw [installsScene_iff_of_told hsent (fun _ _ _ _ _ => .inl hdeaf) (countP_unloads htold) fun target htarget =>
    absurd htarget (hdeaf target)]
  simp only [Dict.mem_iff_lookup, hstays, Option.filter_eq_some_iff]
  constructor
  · rintro ⟨⟨kept, hkept, hpersist⟩, hscenes⟩ other resource hother hscene
    refine ⟨fun hp => hscenes other resource ⟨hother, hp⟩ hscene, ?_⟩
    rintro rfl
    rw [hother] at hkept
    cases hkept
    exact hpersist
  · intro hiff
    exact ⟨⟨scene, hlookup, (hiff id scene hlookup hmode).mpr rfl⟩,
      fun other resource hother hscene => (hiff other resource hother.1 hscene).mp hother.2⟩

end Departing

/-- A scene completed by a departure. -/
lemma installsScene_handleDisconnect_iff {env : Outside} {peer : PeerId} {reason : DisconnectReason}
    (hpeer : peer ∈ s.authenticatedPeers) (hspawn : ⟨id⟩ ∈ (s.resources.removePreloadPeer peer).1)
    (hlookup : s.resources.resources.lookup id = some scene) (hmode : scene.mode = 1) :
    InstallsScene id s (s.handleDisconnect env peer) ↔ NothingToReplace id s (.peerDisconnected peer reason) := by
  obtain ⟨told, after, htold, hafter, hhandle⟩ := exists_departing hpeer
  rw [hhandle]
  by_cases honly : s.OnlyPlayer peer
  · rw [if_pos (onlyPlayer_iff.mp honly), hafter.installsScene_reset_iff htold honly hlookup hmode]
    refine forall₄_congr fun other resource _ _ => ?_
    exact ⟨fun h => ⟨fun _ => h, fun hmore => absurd honly hmore⟩, fun h => h.1 honly⟩
  · rw [if_neg (mt onlyPlayer_iff.mpr honly), hafter.installsScene_call_iff htold hspawn hlookup]
    refine forall₄_congr fun other resource _ _ => ?_
    exact ⟨fun h => ⟨fun hone => absurd hone honly, fun _ => h⟩, fun h => h.2 honly⟩

/-- **A completed preload installs its scene** if there was nothing to take the place of, and not otherwise. -/
theorem installsScene_iff {env : Outside} {event : ServerEvent} (hcompletes : s.Completes id event)
    (hlookup : s.resources.resources.lookup id = some scene) (hmode : scene.mode = 1) :
    InstallsScene id s (s.handleEvent env event) ↔ s.NothingToReplace id event := by
  cases event with
  | message peer channel delivery payload =>
    obtain ⟨rfl, ready, hparse, hmarked⟩ := hcompletes
    exact installsScene_handlePreloadReady_iff hparse hmarked hlookup hmode
  | peerDisconnected peer reason =>
    exact installsScene_handleDisconnect_iff hcompletes.1 hcompletes.2 hlookup hmode
  | connectionRequest | natIntroductionRequest | unconnectedRequest | networkError | peerConnected => cases hcompletes

end Installing

/-- Two clients come in, the scene is to be preloaded, and the first has it. -/
def hallAwaited : List Label :=
  [handles (.connectionRequest (requestOf 1 "a")), handles (.connectionRequest (requestOf 2 "b")),
    messageOf 0 channels.loadResource ResourceState.hall.serialize,
    messageOf 0 channels.preloadReady (PreloadReadyMessage.serialize ⟨"hall", true⟩)]

/-- The second leaves instead of answering. -/
theorem installsScene_iff_hallAwaited :
    InstallsScene "hall" (hallAwaited.foldl next (.start openConfig))
      ((hallAwaited.foldl next (.start openConfig)).handleEvent plainOutside (.peerDisconnected 1 .timeout)) := by
  let s := hallAwaited.foldl next (.start openConfig)
  have hmode : (s.resources.resources.lookup "hall").map (·.mode) = some 1 := by decide +kernel
  obtain ⟨scene, hlookup, hmode⟩ := Option.map_eq_some_iff.mp hmode
  have hcompletes : s.Completes "hall" (.peerDisconnected 1 .timeout) := by
    constructor
    · decide +kernel
    · decide +kernel
  refine (installsScene_iff hcompletes hlookup hmode).mpr fun other resource hother _ => ⟨fun honly => ?_, fun _ => ?_⟩
  · have hfirst : 0 ∈ s.authenticatedPeers := by decide +kernel
    exact absurd (honly 0 hfirst) (by decide)
  · have hall : Dict.All (fun id _ => id = "hall") s.resources.resources := by decide +kernel
    exact hall other resource hother

/-- The only client answers that the scene is there; with that it is unloaded. -/
theorem preload_unloads_its_scene : ∃ ts s event scene, Run Steps (.start openConfig) ts s ∧
    s.Completes "hall" event ∧ s.resources.resources.lookup "hall" = some scene ∧ scene.mode = 1 ∧
    ¬ InstallsScene "hall" s (s.handleEvent plainOutside event) := by
  let s := hallPreloading.foldl next (.start openConfig)
  let payload := PreloadReadyMessage.serialize ⟨"hall", true⟩
  have hmode : (s.resources.resources.lookup "hall").map (·.mode) = some 1 := by decide +kernel
  obtain ⟨scene, hlookup, hmode⟩ := Option.map_eq_some_iff.mp hmode
  have hparse : parse PreloadReadyMessage.deserialize payload = some ⟨"hall", true⟩ := by decide +kernel
  have hmarked : (s.resources.markPreloadReady 0 ⟨"hall", true⟩).1 = some ⟨"hall"⟩ := by decide +kernel
  refine ⟨_, s, .message 0 channels.preloadReady .reliableOrdered payload, scene,
    run_of_enabled hallPreloading (by decide +kernel), ⟨rfl, _, hparse, hmarked⟩, hlookup, hmode, fun h => ?_⟩
  have hgone : "hall" ∉ (s.handleEvent plainOutside
    (.message 0 channels.preloadReady .reliableOrdered payload)).resources.resources := by decide +kernel
  exact hgone h.kept

end ServerState
end BasisRust.Core
