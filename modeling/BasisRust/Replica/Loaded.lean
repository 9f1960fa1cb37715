import BasisRust.Replica.Follow
import BasisRust.Resources.Preload

/-!
# Every player knows what is loaded

A resource is told when it is loaded and when it is unloaded, on request, for a scene that takes its place, or never
because the unloading is refused.  Who comes later is told to load at once what the others have preloaded, so players
agree on a resource up to that.
-/

namespace BasisRust.Replica

open Lib Protocol Transport
open BasisRust.Core P2p Resources

/-! ### The player's reading -/

/-- The resource as it is told to a late joiner. -/
def settled (resource : LocalLoadResource) : LocalLoadResource :=
  if resource.loadStrategy = 2 then { resource with loadStrategy := 0 } else resource

abbrev KnownResources := String → Option LocalLoadResource

def learnResource (m : LocalLoadResource) (v : KnownResources) : KnownResources :=
  Function.update v m.loadedNetId (some (settled m))

def forgetResource (m : UnloadResource) (v : KnownResources) : KnownResources := Function.update v m.loadedNetId none

def resourceReading : Reading UInt8 Bytes KnownResources :=
  .ofTable (fun _ => none)
    [(channels.loadResource, onRead LocalLoadResource.deserialize learnResource),
      (channels.unloadResource, onRead UnloadResource.deserialize forgetResource)]

def resourceCopy : Copy KnownResources KnownResources where
  reading := resourceReading
  stores := [.resources]
  truth s := Dict.known settled s.resources.resources
  Agrees _ truth v := v = truth
  truth_frame h hframe := by
    rw [hframe.resources (List.ne_of_not_mem_cons h)]
  truth_moved _ _ _ _ := rfl
  p2pBroker := by decide
  authIdentity := by decide

variable {p q : PeerId} {s : ServerState}

lemma resourceCopy_holds_iff :
    resourceCopy.Holds p s ↔ resourceCopy.view p s = Dict.known settled s.resources.resources := Iff.rfl

lemma settled_settled (resource : LocalLoadResource) : settled (settled resource) = settled resource := by
  unfold settled
  split_ifs with h h'
  · exact absurd (show (0 : UInt8) = 2 from h') (by decide)
  · rfl
  · rfl

lemma loadedNetId_settled (resource : LocalLoadResource) : (settled resource).loadedNetId = resource.loadedNetId := by
  unfold settled
  split <;> rfl

lemma ResourcePassable.settled {resource : LocalLoadResource} (h : ResourcePassable resource) :
    ResourcePassable (settled resource) := by
  unfold Replica.settled
  split
  next =>
    obtain ⟨hfits, hcanon⟩ := h
    refine ⟨⟨hfits.loadedNetId, hfits.unlockPassword, hfits.combinedUrl, hfits.uuidOfCreator⟩, ?_⟩
    unfold LocalLoadResource.canon at hcanon ⊢
    split
    next => rfl
    next hmode =>
      rw [if_neg hmode] at hcanon
      exact congrArg (fun r : LocalLoadResource => { r with loadStrategy := 0 }) hcanon
  next => exact h

lemma learn_loadResource {resource : LocalLoadResource} (h : ResourcePassable resource) (v : KnownResources) :
    resourceReading.learn channels.loadResource resource.serialize v =
      Function.update v resource.loadedNetId (some (settled resource)) := by
  have hdecodes := LocalLoadResource.decodes h.1
  rw [h.2] at hdecodes
  exact onRead_of_decodes hdecodes learnResource v

lemma learn_unloadResource {m : UnloadResource} (h : m.Fits) (v : KnownResources) :
    resourceReading.learn channels.unloadResource m.serialize v = Function.update v m.loadedNetId none :=
  onRead_of_decodes (UnloadResource.decodes h) forgetResource v

lemma ResourceSound.fits {key : String} {resource : LocalLoadResource} (h : ResourceSound key resource) :
    StringFits key := h.1.1 ▸ h.2.1.loadedNetId

/-! ### Entering -/

lemma replay_resourceMessages (hall : Dict.All ResourceSound s.resources.resources) :
    resourceReading.replay (resourceMessages s) (fun _ => none) = Dict.known settled s.resources.resources := by
  have hentries : resourceMessages s =
      s.resources.resources.entries.map fun e => (channels.loadResource, (settled e.2).serialize) := by
    unfold resourceMessages ResourceState.allResources
    rw [List.map_map]
    rfl
  have hlearn : ∀ e ∈ s.resources.resources.entries, ∀ v,
      resourceReading.learn channels.loadResource (settled e.2).serialize v =
        Function.update v e.1 (some (settled e.2)) := by
    intro e he v
    obtain ⟨⟨hkey, -⟩, hpassable⟩ := Dict.all_iff_entries.mp hall e he
    rw [learn_loadResource hpassable.settled, loadedNetId_settled, settled_settled, hkey]
  rw [hentries, resourceReading.replay_map hlearn]
  exact Dict.foldl_update settled s.resources.resources

lemma resources_welcomed (env : Outside) (ready : ReadyMessage) (hsound : Sound s) (hp : p ∈ s.transport.peers) :
    resourceCopy.Holds p (s.finalizeAccept env p ready) := by
  have hall : Dict.All ResourceSound (s.entered p ready).resources.resources := hsound.resources
  refine Copy.holds_welcome hp ?_
  change resourceReading.replay (welcome p (s.entered p ready)) (fun _ => none) = _
  simp only [welcome, Reading.replay_append]
  rw [resourceReading.replay_of_kind channel_of_existing (by decide),
    resourceReading.replay_of_kind channel_of_netIds (by decide), replay_resourceMessages hall,
    resourceReading.replay_of_kind channel_of_owners (by decide),
    resourceReading.replay_of_kind channel_of_spheres (by decide),
    resourceReading.replay_of_kind channel_of_cameras (by decide),
    resourceReading.replay_of_kind channel_of_settings (by decide)]
  rfl

/-! ### Loading -/

/-- Adding a resource enters it under its name, or does nothing to what is loaded. -/
lemma resources_addResource_cases (resource : LocalLoadResource) (s : ServerState) :
    ((s.addResource resource).1 = true ∧
      (s.addResource resource).2.resources = s.resources.resources.insert resource.loadedNetId resource) ∨
    ((s.addResource resource).1 = false ∧ (s.addResource resource).2.resources = s.resources.resources) := by
  have hload : ((s.resources.loadResource resource).1 = true ∧ (s.resources.loadResource resource).2.resources =
      s.resources.resources.insert resource.loadedNetId resource) ∨
      ((s.resources.loadResource resource).1 = false ∧ (s.resources.loadResource resource).2.resources =
        s.resources.resources) := by
    unfold ResourceState.loadResource
    dsimp only
    split_ifs
    · exact .inr ⟨rfl, rfl⟩
    · exact .inr ⟨rfl, rfl⟩
    · exact .inl ⟨rfl, rfl⟩
  unfold ServerState.addResource
  split
  · unfold ResourceState.startPreload
    split
    next hresult =>
      rw [hresult] at hload
      exact hload
    next hresult =>
      rw [hresult] at hload
      exact hload
  · exact hload

/-- What a player who hears of a resource makes of it. -/
lemma resources_heard {s' : ServerState} {resource : LocalLoadResource} (hresource : ResourcePassable resource)
    (hholds : resourceCopy.Holds p s)
    (htold : told p s' = told p s ++ [(channels.loadResource, resource.serialize)])
    (htruth : s'.resources.resources = s.resources.resources.insert resource.loadedNetId resource) :
    resourceCopy.Holds p s' := by
  rw [resourceCopy_holds_iff] at hholds ⊢
  unfold Copy.view at hholds ⊢
  rw [htold, htruth, Reading.replay_append, hholds, Reading.replay_cons, Reading.replay_nil,
    ← Dict.update_known_insert]
  exact learn_loadResource hresource _

lemma resources_handleLoadResource_told (payload : Bytes) (hsound : Sound s) (hstays : Stays p s)
    (hholds : resourceCopy.Holds p s) : resourceCopy.Holds p (s.handleLoadResource q payload) := by
  refine onParsed_of_yields (P := resourceCopy.Holds p) LocalLoadResource.accepted hholds fun resource hresource => ?_
  split
  next => exact hholds
  next peerState hlookup =>
    dsimp only
    split
    next => exact hholds
    next =>
      have hpassable := ResourcePassable.created hresource (hsound.playerUuid hlookup).playerUuid
      generalize { resource with uuidOfCreator := peerState.metadata.playerUuid } = resource at hpassable ⊢
      rcases resources_addResource_cases resource s with ⟨hadded, htruth⟩ | ⟨hadded, htruth⟩
      · rw [if_pos hadded]
        have htold := told_broadcast (s := { s with resources := (s.addResource resource).2 }) (p := p) hstays.live
          hstays.auth channels.loadResource (by decide) (by decide) none
          (Option.some_ne_none p) .reliableOrdered resource.serialize
        exact resources_heard hpassable hholds htold htruth
      · rw [hadded, if_neg Bool.false_ne_true]
        rw [resourceCopy_holds_iff] at hholds ⊢
        change resourceCopy.view p s = Dict.known settled (s.addResource resource).2.resources
        rw [htruth]
        exact hholds

/-! ### Unloading -/

/-- Unloads told one after the other. -/
lemma replay_unloads {gone : List ((_ : String) × LocalLoadResource)} (hfits : ∀ e ∈ gone, StringFits e.1)
    (v : KnownResources) :
    resourceReading.replay ((gone.map fun e => (⟨e.2.mode, e.1⟩ : UnloadResource)).map fun m =>
      (channels.unloadResource, m.serialize)) v =
        gone.foldl (fun (v : KnownResources) e => Function.update v e.1 none) v := by
  have hlearn : ∀ e ∈ gone, ∀ v, resourceReading.learn channels.unloadResource
      (UnloadResource.serialize ⟨e.2.mode, e.1⟩) v = Function.update v e.1 none := by
    intro e he v
    exact learn_unloadResource (m := ⟨e.2.mode, e.1⟩) (show StringFits e.1 from hfits e he) v
  rw [List.map_map]
  exact resourceReading.replay_map hlearn v

lemma resources_handleUnloadResource_told (payload : Bytes) (hsound : Sound s) (hstays : Stays p s)
    (hholds : resourceCopy.Holds p s) : resourceCopy.Holds p (s.handleUnloadResource q payload) := by
  refine onParsed_of_yields (P := resourceCopy.Holds p) UnloadResource.accepted hholds fun request hrequest => ?_
  dsimp only
  split
  next hlookup =>
    -- nothing of that name is loaded
    have herase : s.resources.resources.erase request.loadedNetId = s.resources.resources :=
      Dict.erase_of_notMem (Dict.notMem_iff_lookup.mpr hlookup)
    rw [resourceCopy_holds_iff] at hholds ⊢
    change resourceCopy.view p s = Dict.known settled (s.resources.resources.erase request.loadedNetId)
    rw [herase]
    exact hholds
  next resource hlookup =>
    split
    next =>
      -- refused: what was taken out is put back
      obtain ⟨⟨hkey, hne⟩, -⟩ := hsound.resources _ resource hlookup
      have hgone : resource.loadedNetId ∉ s.resources.resources.erase request.loadedNetId := by
        rw [hkey]
        exact fun h => (AList.mem_erase.mp h).1 rfl
      have hback : ((s.resources.unloadResource request.loadedNetId).2.loadResource resource).2.resources =
          (s.resources.resources.erase request.loadedNetId).insert request.loadedNetId resource := by
        have hne' : ¬ resource.loadedNetId = "" := by rwa [hkey]
        unfold ResourceState.loadResource ResourceState.unloadResource
        dsimp only
        rw [if_neg hne', if_neg hgone, hkey]
      rw [resourceCopy_holds_iff] at hholds ⊢
      change resourceCopy.view p s = Dict.known settled
        ((s.resources.unloadResource request.loadedNetId).2.loadResource resource).2.resources
      rw [hback, ← Dict.update_known_insert, ← Dict.update_known_erase, Function.update_idem,
        Dict.update_known_self settled _ _ hlookup]
      exact hholds
    next =>
      have htold := told_broadcast (s := { s with resources := (s.resources.unloadResource request.loadedNetId).2 })
        (p := p) hstays.live hstays.auth channels.unloadResource (by decide) (by decide) none
        (Option.some_ne_none p) .reliableOrdered request.serialize
      rw [resourceCopy_holds_iff] at hholds ⊢
      unfold Copy.view at hholds ⊢
      have hbefore : resourceCopy.reading.replay
          (told p { s with resources := (s.resources.unloadResource request.loadedNetId).2 })
          resourceCopy.reading.blank = Dict.known settled s.resources.resources := hholds
      rw [htold, Reading.replay_append, hbefore, Reading.replay_cons, Reading.replay_nil]
      exact (learn_unloadResource hrequest _).trans (Dict.update_known_erase settled s.resources.resources _)

/-- A scene that everybody has preloaded takes the place of the others. -/
lemma resources_unloadScenes (spawn : SpawnPreloadedMessage) (hall : Dict.All ResourceSound s.resources.resources)
    (hstays : Stays p s) (hholds : resourceCopy.Holds p s) :
    resourceCopy.Holds p (s.unloadScenes spawn) ∧ Stays p (s.unloadScenes spawn) := by
  unfold ServerState.unloadScenes
  split
  next =>
    set gone := s.resources.resources.entries.filter fun e => e.2.mode = 1
    set s' : ServerState := { s with resources := s.resources.allSceneUnloads.2 }
    have hstays' : Stays p s' := ⟨hstays.live, hstays.auth⟩
    have hposted := ServerState.posted_foldl_broadcast channels.unloadResource .reliableOrdered UnloadResource.serialize
      none s.resources.allSceneUnloads.1 s'
    have htold := told_foldl_broadcast hstays'.live hstays'.auth channels.unloadResource (by decide)
      (by decide) none (Option.some_ne_none p) .reliableOrdered UnloadResource.serialize
      s.resources.allSceneUnloads.1
    refine ⟨?_, hstays'.posted hposted⟩
    have hfits : ∀ e ∈ gone, StringFits e.1 :=
      fun e he => (Dict.all_iff_entries.mp hall e (List.mem_filter.mp he).1).fits
    have hreplay := replay_unloads hfits (Dict.known settled s.resources.resources)
    have hretain := Dict.foldl_update_retain settled (fun _ (resource : LocalLoadResource) => resource.mode = 1)
      (fun _ _ => rfl) s.resources.resources
    obtain ⟨messages, heq⟩ := hposted
    rw [resourceCopy_holds_iff] at hholds ⊢
    unfold Copy.view at hholds ⊢
    have hbefore : resourceCopy.reading.replay (told p s') resourceCopy.reading.blank =
        Dict.known settled s.resources.resources := hholds
    dsimp only
    rw [htold, Reading.replay_append, hbefore, heq]
    exact hreplay.trans hretain
  next => exact ⟨hholds, hstays⟩

lemma resources_handlePreloadReady_told (payload : Bytes) (hsound : Sound s) (hstays : Stays p s)
    (hholds : resourceCopy.Holds p s) : resourceCopy.Holds p (s.handlePreloadReady q payload) := by
  refine ServerState.onParsed_of (P := resourceCopy.Holds p) hholds fun ready => ?_
  have hkept : (s.resources.markPreloadReady q ready).2.resources = s.resources.resources :=
    ResourceState.resources_markPreloadReady q ready s.resources
  set s' : ServerState := { s with resources := (s.resources.markPreloadReady q ready).2 }
  have hholds' : resourceCopy.Holds p s' := by
    rw [resourceCopy_holds_iff] at hholds ⊢
    change resourceCopy.view p s = Dict.known settled (s.resources.markPreloadReady q ready).2.resources
    rw [hkept]
    exact hholds
  have hall : Dict.All ResourceSound s'.resources.resources := hkept ▸ hsound.resources
  dsimp only
  split
  next => exact hholds'
  next spawn _ =>
    obtain ⟨hunloaded, hstays'⟩ := resources_unloadScenes spawn hall ⟨hstays.live, hstays.auth⟩ hholds'
    refine hunloaded.of_tells ?_ (.broadcast (List.mem_singleton_self channels.spawnPreloaded) _ _ _ _) (by decide)
      (by decide)
    rfl

/-! ### The stay -/

/-- What a player has to be told of what is loaded. -/
lemma resources_follows (p : PeerId) : resourceCopy.Follows p fun _ => True where
  welcomed env ready _ hsound _ hp _ := resources_welcomed env ready hsound hp
  met _ _ _ _ _ _ hq hstays hholds := hholds.met hstays hq rfl (by decide)
  left _ _ _ _ hq hstays hholds := hholds.left hstays hq (fun s' hleft => by
    change Dict.known settled s'.resources.resources = _
    rw [hleft.resources]
    rfl) (by decide)
  handled env q channel delivery payload arm s _ hconcerns hsound hstays hholds := by
    cases arm with
    | loadResource => exact resources_handleLoadResource_told payload hsound hstays hholds
    | unloadResource => exact resources_handleUnloadResource_told payload hsound hstays hholds
    | preloadReady => exact resources_handlePreloadReady_told payload hsound hstays hholds
    | audioRecipients => exact absurd (Copy.voiceRecipients_of_concerns hconcerns) (by decide)
    | _ => exact absurd hconcerns (by decide)

/-- **Every player knows what is loaded.**  As long as a player stays, the resources it has been told to load and not
to unload are the server's, up to the strategy of those that were to be preloaded. -/
theorem player_knows_resources {config : ServerConfig} {ts : List (Transition ServerState Label)}
    (hstay : Stay config p ts s) (key : String) :
    resourceReading.replay (told p s) (fun _ => none) key = (s.resources.resources.lookup key).map settled :=
  congrFun (Copy.follows (resources_follows p) hstay fun _ _ => trivial) key

/-- A scene that is to be preloaded, for a player who came later. -/
theorem player_knows_resources_visit :
    (resourceReading.replay (told 1 visited) (fun _ => none) "hall").map (·.loadStrategy) = some 0 := by
  rw [player_knows_resources stay_visit]
  decide +kernel

end BasisRust.Replica
