import Mathlib.Data.List.Induction
import BasisRust.Lib.Run
import BasisRust.Resources.Unchanged

/-!
# Preloads

What a run of the operations on the resources keeps between the two maps, and whom a preload has heard
from when it is done.  A session counts answers; whose they are it does not ask.
-/

namespace BasisRust.Resources

open Lib Protocol Transport

/-! ### Runs of the operations -/

/-- A call of one of the operations of `ResourceState`. -/
inductive ResourceOp
  | loadResource (message : ResourceManagementMessage)
  | startPreload (resource : LocalLoadResource) (peers : List PeerId)
  | unloadResource (id : String)
  | markPreloadReady (peerId : PeerId) (message : PreloadReadyMessage)
  | removePreloadPeer (peerId : PeerId)
  | timedOutPreloads (elapsed : String → ℕ)
  | allSceneUnloads
  | resetNonPersistent
  | reset

namespace ResourceOp

/-- What the call has spawned, and the state after it. -/
def call : ResourceOp → ResourceState → List SpawnPreloadedMessage × ResourceState
  | loadResource message, state => ([], (state.loadResource message).2)
  | startPreload resource peers, state => ([], (state.startPreload resource peers).2)
  | unloadResource id, state => ([], (state.unloadResource id).2)
  | markPreloadReady peerId message, state =>
    ((state.markPreloadReady peerId message).1.toList, (state.markPreloadReady peerId message).2)
  | removePreloadPeer peerId, state => state.removePreloadPeer peerId
  | timedOutPreloads elapsed, state => state.timedOutPreloads elapsed
  | allSceneUnloads, state => ([], state.allSceneUnloads.2)
  | resetNonPersistent, state => ([], state.resetNonPersistent.2)
  | reset, state => ([], state.reset)

end ResourceOp

namespace ResourceState

/-- The state after a list of calls. -/
def afterCalls (ops : List ResourceOp) (state : ResourceState) : ResourceState :=
  ops.foldl (fun state op => (op.call state).2) state

/-- The calls, one after the other. -/
def Steps (state : ResourceState) (op : ResourceOp) (state' : ResourceState) : Prop := state' = (op.call state).2

/-- Every preload is one of a loaded resource. -/
def PreloadsLoaded (state : ResourceState) : Prop := ∀ id ∈ state.preloadSessions, id ∈ state.resources

/-- No preload is in progress of a resource of the kind. -/
def NoPreloadWhere (p : ResourceManagementMessage → Bool) (state : ResourceState) : Prop :=
  ∀ id ∈ state.preloadSessions, ∀ resource, state.resources.lookup id = some resource → p resource = false

/-- A bulk removal takes no resource that is being preloaded. -/
def KeepsPreloads (state : ResourceState) : ResourceOp → Prop
  | .allSceneUnloads => state.NoPreloadWhere fun resource => resource.mode = 1
  | .resetNonPersistent => state.NoPreloadWhere fun resource => !resource.persist
  | _ => True

variable {state : ResourceState}

/-- The operation that leaves the preloads alone keeps the invariant if it takes none of their resources. -/
lemma preloadsLoaded_unloadWhere_iff {p : ResourceManagementMessage → Bool} (h : state.PreloadsLoaded) :
    (state.unloadWhere p).2.PreloadsLoaded ↔ state.NoPreloadWhere p := by
  constructor
  · intro hafter id hid resource hresource
    obtain ⟨kept, hkept, hp⟩ := Dict.mem_retain.mp (hafter id hid)
    rw [hresource] at hkept
    cases hkept
    exact Bool.not_eq_true' _ ▸ hp
  · intro hno id hid
    obtain ⟨resource, hresource⟩ := Dict.mem_iff_lookup.mp (h id hid)
    refine Dict.mem_retain.mpr ⟨resource, hresource, ?_⟩
    rw [hno id hid resource hresource]
    rfl

/-- Loading enters the resource, if it is new, and takes nothing. -/
lemma mem_loadResource {message : ResourceManagementMessage} {id : String} :
    id ∈ (state.loadResource message).2.resources ↔
      id ∈ state.resources ∨ (state.loadResource message).1 = true ∧ id = message.loadedNetId := by
  unfold loadResource
  dsimp only
  split
  next => simp
  next =>
    split
    next => simp
    next => rw [AList.mem_insert, and_iff_right rfl, or_comm]

@[simp] lemma preloadSessions_loadResource (state : ResourceState) (message : ResourceManagementMessage) :
    (state.loadResource message).2.preloadSessions = state.preloadSessions := by
  unfold loadResource
  dsimp only
  split
  next => rfl
  next =>
    split
    next => rfl
    next => rfl

lemma notMem_of_loadResource {message : ResourceManagementMessage} (h : (state.loadResource message).1 = true) :
    message.loadedNetId ∉ state.resources := by
  unfold loadResource at h
  dsimp only at h
  split at h
  next => cases h
  next =>
    split at h
    next => cases h
    next hnew => exact hnew

/-- A preload loads the resource, and then waits. -/
lemma startPreload_eq (resource : LocalLoadResource) (peers : List PeerId) (state : ResourceState) :
    state.startPreload resource peers =
      ((state.loadResource resource).1,
        if (state.loadResource resource).1 then
          { (state.loadResource resource).2 with
            preloadSessions := state.preloadSessions.insert resource.loadedNetId { totalPeerCount := peers.length } }
        else (state.loadResource resource).2) := by
  have hsessions := preloadSessions_loadResource state resource
  unfold startPreload
  generalize state.loadResource resource = loaded at hsessions
  obtain ⟨_ | _, state'⟩ := loaded
  · rfl
  · dsimp only at hsessions ⊢
    rw [hsessions]
    rfl

/-- An answer is entered in the session it is about, and starts none. -/
lemma lookup_markPreloadReady {peerId : PeerId} {message : PreloadReadyMessage} {id : String}
    {session : PreloadSession}
    (h : (state.markPreloadReady peerId message).2.preloadSessions.lookup id = some session) :
    ∃ before, state.preloadSessions.lookup id = some before ∧
      session = if message.loadedNetId = id then before.mark peerId message.isReady else before := by
  unfold markPreloadReady at h
  split at h
  next hnone =>
    refine ⟨session, h, ?_⟩
    rw [if_neg]
    rintro rfl
    rw [hnone] at h
    cases h
  next before hlookup =>
    dsimp only at h
    split at h
    next =>
      rw [Dict.lookup_erase] at h
      split at h
      next => cases h
      next hne => exact ⟨session, h, (if_neg (Ne.symm hne)).symm⟩
    next =>
      rw [Dict.lookup_insert] at h
      split at h
      next heq =>
        cases h
        exact ⟨before, heq ▸ hlookup, (if_pos heq.symm).symm⟩
      next hne => exact ⟨session, h, (if_neg (Ne.symm hne)).symm⟩

/-- What an answer spawns was being preloaded. -/
lemma mem_markPreloadReady_fst {peerId : PeerId} {message : PreloadReadyMessage} {spawn : SpawnPreloadedMessage}
    (h : (state.markPreloadReady peerId message).1 = some spawn) :
    spawn.loadedNetId = message.loadedNetId ∧ ∃ session,
      state.preloadSessions.lookup message.loadedNetId = some session ∧
        (session.mark peerId message.isReady).isComplete = true := by
  unfold markPreloadReady at h
  split at h
  next => cases h
  next session hlookup =>
    dsimp only at h
    split at h
    next hcomplete =>
      cases h
      exact ⟨rfl, session, hlookup, hcomplete⟩
    next => cases h

/-- A departure is entered in every session. -/
lemma lookup_removePreloadPeer {peerId : PeerId} {id : String} {session : PreloadSession}
    (h : (state.removePreloadPeer peerId).2.preloadSessions.lookup id = some session) :
    ∃ before, state.preloadSessions.lookup id = some before ∧ session = before.leave peerId := by
  change (Dict.retain _ _).lookup id = _ at h
  rw [Dict.lookup_retain, Option.filter_eq_some_iff, Dict.lookup_mapValues] at h
  obtain ⟨before, hbefore, heq⟩ := Option.map_eq_some_iff.mp h.1
  exact ⟨before, hbefore, heq.symm⟩

/-- What a departure spawns was being preloaded. -/
lemma mem_removePreloadPeer_fst {peerId : PeerId} {spawn : SpawnPreloadedMessage} :
    spawn ∈ (state.removePreloadPeer peerId).1 ↔ ∃ session,
      state.preloadSessions.lookup spawn.loadedNetId = some session ∧
        ((session.leave peerId).totalPeerCount = 0 ∨ (session.leave peerId).isComplete = true) := by
  unfold removePreloadPeer
  simp only [List.mem_map, List.mem_filter, Bool.or_eq_true, decide_eq_true_eq]
  constructor
  · rintro ⟨e, ⟨he, hdone⟩, rfl⟩
    have hlookup := AList.mem_lookup_iff.mpr he
    rw [Dict.lookup_mapValues] at hlookup
    obtain ⟨session, hsession, heq⟩ := Option.map_eq_some_iff.mp hlookup
    exact ⟨session, hsession, heq ▸ hdone⟩
  · rintro ⟨session, hsession, hdone⟩
    refine ⟨⟨spawn.loadedNetId, session.leave peerId⟩, ⟨AList.mem_lookup_iff.mp ?_, hdone⟩, rfl⟩
    rw [Dict.lookup_mapValues, hsession]
    rfl

/-- No resource is spawned twice. -/
lemma nodup_removePreloadPeer (peerId : PeerId) (state : ResourceState) : (state.removePreloadPeer peerId).1.Nodup := by
  let sessions := Dict.mapValues (·.leave peerId) state.preloadSessions
  have hkeys (p : (_ : String) × PreloadSession → Bool) : ((sessions.entries.filter p).map (·.1)).Nodup :=
    sessions.nodupKeys.sublist List.filter_sublist
  have hinjective : Function.Injective SpawnPreloadedMessage.mk := fun _ _ h => congrArg (·.loadedNetId) h
  have hspawns := (hkeys fun e => e.2.totalPeerCount = 0 || e.2.isComplete).map hinjective
  rwa [List.map_map] at hspawns

/-- Preloads that were there before keep their resources where nothing is unloaded. -/
lemma PreloadsLoaded.of_subset {state' : ResourceState} (h : state.PreloadsLoaded)
    (hsessions : ∀ id ∈ state'.preloadSessions, id ∈ state.preloadSessions)
    (hresources : ∀ id ∈ state.resources, id ∈ state'.resources) : state'.PreloadsLoaded :=
  fun id hid => hresources id (h id (hsessions id hid))

lemma PreloadsLoaded.startPreload (h : state.PreloadsLoaded) (resource : LocalLoadResource) (peers : List PeerId) :
    (state.startPreload resource peers).2.PreloadsLoaded := by
  rw [startPreload_eq]
  dsimp only
  split
  next hloaded =>
    intro id hid
    rw [AList.mem_insert] at hid
    rcases hid with rfl | hid
    · exact mem_loadResource.mpr (.inr ⟨hloaded, rfl⟩)
    · exact mem_loadResource.mpr (.inl (h id hid))
  next =>
    refine h.of_subset (fun id hid => ?_) fun id hid => mem_loadResource.mpr (.inl hid)
    rwa [preloadSessions_loadResource] at hid

lemma PreloadsLoaded.unloadResource (h : state.PreloadsLoaded) (id : String) :
    (state.unloadResource id).2.PreloadsLoaded := by
  intro other hother
  obtain ⟨hne, hmem⟩ := AList.mem_erase.mp hother
  exact AList.mem_erase.mpr ⟨hne, h other hmem⟩

/-- Every resource is filed under its own id, which is not empty. -/
def Filed (state : ResourceState) : Prop :=
  Dict.All (fun id resource => resource.loadedNetId = id ∧ id ≠ "") state.resources

lemma Filed.loadResource (h : state.Filed) (message : ResourceManagementMessage) :
    (state.loadResource message).2.Filed := by
  unfold ResourceState.loadResource
  dsimp only
  split
  next => exact h
  next hne =>
    split
    next => exact h
    next => exact Dict.All.insert h ⟨rfl, hne⟩

lemma Filed.call (h : state.Filed) (op : ResourceOp) : (op.call state).2.Filed := by
  cases op with
  | loadResource message => exact h.loadResource message
  | startPreload resource peers =>
    rw [ResourceOp.call, startPreload_eq]
    dsimp only
    split
    next => exact h.loadResource resource
    next => exact h.loadResource resource
  | unloadResource id => exact Dict.All.erase h
  | markPreloadReady peerId message =>
    rw [ResourceOp.call, Filed, resources_markPreloadReady]
    exact h
  | removePreloadPeer | timedOutPreloads => exact h
  | allSceneUnloads | resetNonPersistent => exact Dict.All.retain h _
  | reset => exact Dict.All.empty

theorem Filed.afterCalls (h : state.Filed) (ops : List ResourceOp) : (afterCalls ops state).Filed := by
  induction ops generalizing state with
  | nil => exact h
  | cons op ops ih => exact ih (h.call op)

/-- Of the nine operations, the two bulk removals may leave a preload without its resource. -/
theorem preloadsLoaded_call_iff {op : ResourceOp} (h : state.PreloadsLoaded) :
    (op.call state).2.PreloadsLoaded ↔ state.KeepsPreloads op := by
  cases op with
  | loadResource message =>
    refine iff_of_true (h.of_subset (fun id hid => ?_) fun id hid => mem_loadResource.mpr (.inl hid)) trivial
    rwa [ResourceOp.call, preloadSessions_loadResource] at hid
  | startPreload resource peers => exact iff_of_true (h.startPreload resource peers) trivial
  | unloadResource id => exact iff_of_true (h.unloadResource id) trivial
  | markPreloadReady peerId message =>
    refine iff_of_true (h.of_subset (fun id hid => ?_) fun id hid => ?_) trivial
    · obtain ⟨session, hsession⟩ := Dict.mem_iff_lookup.mp hid
      obtain ⟨before, hbefore, -⟩ := lookup_markPreloadReady hsession
      exact Dict.mem_iff_lookup.mpr ⟨before, hbefore⟩
    · rwa [ResourceOp.call, resources_markPreloadReady]
  | removePreloadPeer peerId =>
    refine iff_of_true (h.of_subset (fun id hid => ?_) fun id hid => hid) trivial
    obtain ⟨session, hsession⟩ := Dict.mem_iff_lookup.mp hid
    obtain ⟨before, hbefore, -⟩ := lookup_removePreloadPeer hsession
    exact Dict.mem_iff_lookup.mpr ⟨before, hbefore⟩
  | timedOutPreloads elapsed =>
    refine iff_of_true (h.of_subset (fun id hid => ?_) fun id hid => hid) trivial
    obtain ⟨session, hsession, -⟩ := Dict.mem_retain.mp hid
    exact Dict.mem_iff_lookup.mpr ⟨session, hsession⟩
  | allSceneUnloads => exact preloadsLoaded_unloadWhere_iff h
  | resetNonPersistent => exact preloadsLoaded_unloadWhere_iff h
  | reset => exact iff_of_true (fun id hid => absurd hid (AList.notMem_empty id)) trivial

/-- What is spawned was being preloaded, and its resource is left alone. -/
lemma mem_of_mem_call {op : ResourceOp} {spawn : SpawnPreloadedMessage} (h : spawn ∈ (op.call state).1) :
    spawn.loadedNetId ∈ state.preloadSessions ∧ (op.call state).2.resources = state.resources := by
  cases op with
  | markPreloadReady peerId message =>
    obtain ⟨hid, session, hlookup, -⟩ := mem_markPreloadReady_fst (Option.mem_toList.mp h)
    exact ⟨Dict.mem_iff_lookup.mpr ⟨session, hid ▸ hlookup⟩, resources_markPreloadReady peerId message state⟩
  | removePreloadPeer peerId =>
    obtain ⟨session, hlookup, -⟩ := mem_removePreloadPeer_fst.mp h
    exact ⟨Dict.mem_iff_lookup.mpr ⟨session, hlookup⟩, rfl⟩
  | timedOutPreloads elapsed =>
    obtain ⟨e, he, rfl⟩ := List.mem_map.mp h
    exact ⟨AList.mem_keys.mpr (List.mem_map_of_mem (List.mem_filter.mp he).1), rfl⟩
  | loadResource | startPreload | unloadResource | allSceneUnloads | resetNonPersistent | reset => cases h

/-- **The two maps agree** along a run, and what is spawned is loaded, just in case no bulk removal took a resource
that was being preloaded. -/
theorem preloadsLoaded_iff {ts : List (Transition ResourceState ResourceOp)} {t : ResourceState}
    (h : Run Steps {} ts t) :
    (∀ tr ∈ ts, tr.dst.PreloadsLoaded ∧ ∀ spawn ∈ (tr.label.call tr.src).1, spawn.loadedNetId ∈ tr.dst.resources) ↔
      ∀ tr ∈ ts, tr.src.KeepsPreloads tr.label := by
  have hinit : PreloadsLoaded {} := fun id hid => absurd hid (AList.notMem_empty id)
  have hiff : (∀ tr ∈ ts, tr.dst.PreloadsLoaded) ↔ ∀ tr ∈ ts, tr.src.KeepsPreloads tr.label := by
    refine h.forall_iff (J := fun _ => True) trivial (fun _ _ _ _ _ => trivial) hinit ?_
    rintro s op _ rfl - hs
    exact preloadsLoaded_call_iff hs
  constructor
  · intro hall
    exact hiff.mp fun tr htr => (hall tr htr).1
  · intro hkeeps
    have hstep (s : ResourceState) (op : ResourceOp) (s' : ResourceState) (hcall : Steps s op s')
        (hC : s.KeepsPreloads op) (hs : s.PreloadsLoaded) : s'.PreloadsLoaded := by
      rw [hcall]
      exact (preloadsLoaded_call_iff hs).mpr hC
    have hloaded := (h.invariant_of hinit hstep hkeeps).1
    intro tr htr
    refine ⟨(hloaded tr htr).2, fun spawn hspawn => ?_⟩
    obtain ⟨hmem, hresources⟩ := mem_of_mem_call hspawn
    have hdst : tr.dst = (tr.label.call tr.src).2 := h.step_of_mem tr htr
    rw [hdst, hresources]
    exact (hloaded tr htr).1 _ hmem

/-- A scene, to be preloaded. -/
def hall : LocalLoadResource where
  mode := 1
  loadedNetId := "hall"
  unlockPassword := ""
  combinedUrl := ""
  uuidOfCreator := ""
  isAdminLocked := false
  positionX := 0
  positionY := 0
  positionZ := 0
  quaternionX := 0
  quaternionY := 0
  quaternionZ := 0
  quaternionW := 0
  scaleX := 0
  scaleY := 0
  scaleZ := 0
  persist := false
  modifyScale := false
  loadStrategy := 2

/-- The calls one after the other, as the transitions of a run. -/
def calls (ops : List ResourceOp) (state : ResourceState) : List (Transition ResourceState ResourceOp) :=
  trace (fun state op => (op.call state).2) state ops

lemma run_calls (ops : List ResourceOp) (state : ResourceState) :
    Run Steps state (calls ops state) (afterCalls ops state) :=
  Run.of_trace _ _ fun _ htr => dst_of_mem_trace htr

theorem preloadsLoaded_started :
    (afterCalls [.startPreload hall [1, 2], .markPreloadReady 1 ⟨"hall", true⟩] {}).PreloadsLoaded := by
  have hkeeps : ∀ tr ∈ calls [.startPreload hall [1, 2], .markPreloadReady 1 ⟨"hall", true⟩] {},
      tr.src.KeepsPreloads tr.label := by
    intro tr htr
    simp only [calls, trace, List.mem_cons, List.not_mem_nil, or_false] at htr
    rcases htr with rfl | rfl <;> trivial
  exact ((preloadsLoaded_iff (run_calls _ _)).mpr hkeeps _ (List.mem_cons_of_mem _ List.mem_cons_self)).1

/-- The scenes are unloaded while one is being preloaded: its preload is done later all the same. -/
theorem spawns_unloaded_scene : ¬ ∀ ts t, Run Steps {} ts t → ∀ tr ∈ ts,
    tr.dst.PreloadsLoaded ∧ ∀ spawn ∈ (tr.label.call tr.src).1, spawn.loadedNetId ∈ tr.dst.resources := by
  intro h
  have hlast := h _ _ (run_calls [.startPreload hall [1], .allSceneUnloads, .markPreloadReady 1 ⟨"hall", true⟩] {}) _
    (List.mem_cons_of_mem _ (List.mem_cons_of_mem _ List.mem_cons_self))
  exact absurd (hlast.2 ⟨"hall"⟩ (by decide)) (by decide)

end ResourceState

/-! ### Whom a preload has heard from -/

namespace ResourceOp

/-- The player has answered that the resource is there, or is not, or has left. -/
def Answers (id : String) (peerId : PeerId) : ResourceOp → Prop
  | markPreloadReady p message => p = peerId ∧ message.loadedNetId = id
  | removePreloadPeer p => p = peerId
  | _ => False

def Leaves (peerId : PeerId) : ResourceOp → Prop
  | removePreloadPeer p => p = peerId
  | _ => False

/-- The call is one of the three that preloads are made of. -/
def OfPreloads : ResourceOp → Prop
  | startPreload _ _ | markPreloadReady _ _ | removePreloadPeer _ => True
  | _ => False

/-- The answers are those of the players asked, while they are there. -/
def OwnAnswers (id : String) (peers : List PeerId) (ops : List ResourceOp) : Prop :=
  ∀ before op after, ops = before ++ op :: after → ∀ p, op.Answers id p →
    p ∈ peers ∧ ∀ earlier ∈ before, ¬ earlier.Leaves p

variable {id : String} {peers : List PeerId} {ops : List ResourceOp} {op : ResourceOp}

lemma ownAnswers_nil : OwnAnswers id peers [] :=
  fun _ _ _ h => absurd h.symm (List.append_ne_nil_of_right_ne_nil _ (List.cons_ne_nil _ _))

lemma ownAnswers_append_singleton : OwnAnswers id peers (ops ++ [op]) ↔
    OwnAnswers id peers ops ∧ ∀ p, op.Answers id p → p ∈ peers ∧ ∀ earlier ∈ ops, ¬ earlier.Leaves p := by
  constructor
  · intro h
    refine ⟨fun before earlier after hops => ?_, h ops op [] rfl⟩
    exact h before earlier (after ++ [op]) (by rw [hops, List.append_assoc, List.cons_append])
  · rintro ⟨hops, hlast⟩ before earlier after heq
    rcases List.eq_nil_or_concat after with rfl | ⟨after, last, rfl⟩
    · obtain ⟨rfl, hop⟩ := List.append_inj' heq rfl
      obtain rfl := List.singleton_inj.mp hop
      exact hlast
    · rw [List.concat_eq_append, ← List.cons_append, ← List.append_assoc] at heq
      exact hops before earlier after (List.append_inj' heq rfl).1

end ResourceOp

namespace PreloadSession

/-- Those who have answered. -/
def answers (session : PreloadSession) : List PeerId := session.readyPeers.elems ++ session.failedPeers.elems

variable {session : PreloadSession} {p : PeerId}

lemma isComplete_iff : session.isComplete = true ↔ session.totalPeerCount ≤ session.answers.length := by
  unfold isComplete answers
  rw [decide_eq_true_eq, List.length_append]

lemma answers_forget_sublist : (session.forget p).answers.Sublist session.answers :=
  List.erase_sublist.append List.erase_sublist

lemma notMem_answers_forget : p ∉ (session.forget p).answers := by
  intro h
  rcases List.mem_append.mp h with h | h
  · exact (HashSet.mem_erase.mp h).1 rfl
  · exact (HashSet.mem_erase.mp h).1 rfl

lemma answers_mark (isReady : Bool) : (session.mark p isReady).answers.Perm (p :: (session.forget p).answers) := by
  have hnot : p ∉ (session.forget p).answers := notMem_answers_forget
  rw [answers, List.mem_append, not_or] at hnot
  cases isReady with
  | true =>
    change (((session.forget p).readyPeers.elems.insert p) ++ (session.forget p).failedPeers.elems).Perm _
    rw [List.insert_of_not_mem hnot.1]
    exact List.Perm.refl _
  | false =>
    change ((session.forget p).readyPeers.elems ++ ((session.forget p).failedPeers.elems.insert p)).Perm _
    rw [List.insert_of_not_mem hnot.2]
    exact List.perm_middle

@[simp] lemma totalPeerCount_mark (isReady : Bool) :
    (session.mark p isReady).totalPeerCount = session.totalPeerCount := by
  cases isReady with
  | true => rfl
  | false => rfl

/-- Nobody has been counted twice: those who have answered are of the players asked, and one is waited for less for
each of the `leavers`. -/
structure Heard (id : String) (peers : List PeerId) (ops : List ResourceOp) (leavers : List PeerId)
    (session : PreloadSession) : Prop where
  once : (session.answers ++ leavers).Nodup
  answered : ∀ p ∈ session.answers ++ leavers, p ∈ peers ∧ ∃ op ∈ ops, op.Answers id p
  left : ∀ p ∈ leavers, ∃ op ∈ ops, op.Leaves p
  waiting : session.totalPeerCount = peers.length - leavers.length

namespace Heard

variable {id : String} {peers : List PeerId} {ops : List ResourceOp} {leavers : List PeerId} {op : ResourceOp}

lemma start (id : String) (peers : List PeerId) : Heard id peers [] [] { totalPeerCount := peers.length } :=
  ⟨List.nodup_nil, nofun, nofun, rfl⟩

lemma weaken (h : session.Heard id peers ops leavers) (op : ResourceOp) :
    session.Heard id peers (ops ++ [op]) leavers := by
  have hmore {P : ResourceOp → Prop} (hex : ∃ o ∈ ops, P o) : ∃ o ∈ ops ++ [op], P o := by
    obtain ⟨o, ho, hP⟩ := hex
    exact ⟨o, List.mem_append_left _ ho, hP⟩
  exact ⟨h.once, fun p hp => ⟨(h.answered p hp).1, hmore (h.answered p hp).2⟩, fun p hp => hmore (h.left p hp), h.waiting⟩

/-- What is left of the answers, and one more. -/
lemma cons_forget (h : session.Heard id peers ops leavers) (hp : p ∈ peers) (hleft : ∀ earlier ∈ ops, ¬ earlier.Leaves p)
    (hop : op.Answers id p) :
    (p :: ((session.forget p).answers ++ leavers)).Nodup ∧
      ∀ q ∈ p :: ((session.forget p).answers ++ leavers), q ∈ peers ∧ ∃ o ∈ ops ++ [op], o.Answers id q := by
  have hsub : ((session.forget p).answers ++ leavers).Sublist (session.answers ++ leavers) :=
    answers_forget_sublist.append (List.Sublist.refl _)
  have hnot : p ∉ (session.forget p).answers ++ leavers := by
    intro hmem
    rcases List.mem_append.mp hmem with hmem | hmem
    · exact notMem_answers_forget hmem
    · obtain ⟨earlier, hearlier, hleaves⟩ := h.left p hmem
      exact hleft earlier hearlier hleaves
  refine ⟨List.nodup_cons.mpr ⟨hnot, h.once.sublist hsub⟩, List.forall_mem_cons.mpr ⟨?_, fun q hq => ?_⟩⟩
  · exact ⟨hp, op, List.mem_append_right _ (List.mem_singleton_self op), hop⟩
  · exact (h.weaken op).answered q (hsub.subset hq)

lemma mark (h : session.Heard id peers ops leavers) (hp : p ∈ peers) (hleft : ∀ earlier ∈ ops, ¬ earlier.Leaves p)
    (hop : op.Answers id p) (isReady : Bool) : (session.mark p isReady).Heard id peers (ops ++ [op]) leavers := by
  obtain ⟨honce, hanswered⟩ := h.cons_forget hp hleft hop
  have hperm : ((session.mark p isReady).answers ++ leavers).Perm (p :: ((session.forget p).answers ++ leavers)) :=
    (answers_mark isReady).append_right leavers
  refine ⟨hperm.nodup_iff.mpr honce, fun q hq => hanswered q (hperm.mem_iff.mp hq), (h.weaken op).left, ?_⟩
  rw [totalPeerCount_mark, h.waiting]

lemma leave (h : session.Heard id peers ops leavers) (hp : p ∈ peers) (hleft : ∀ earlier ∈ ops, ¬ earlier.Leaves p)
    (hop : op.Answers id p) (hleaves : op.Leaves p) :
    (session.leave p).Heard id peers (ops ++ [op]) (p :: leavers) := by
  obtain ⟨honce, hanswered⟩ := h.cons_forget hp hleft hop
  have hperm : ((session.leave p).answers ++ p :: leavers).Perm (p :: ((session.forget p).answers ++ leavers)) :=
    List.perm_middle
  refine ⟨hperm.nodup_iff.mpr honce, fun q hq => hanswered q (hperm.mem_iff.mp hq),
    List.forall_mem_cons.mpr ⟨⟨op, List.mem_append_right _ (List.mem_singleton_self op), hleaves⟩, (h.weaken op).left⟩, ?_⟩
  change session.totalPeerCount - 1 = _
  rw [h.waiting, List.length_cons, Nat.sub_sub]

/-- As many as were asked have been heard, none twice: so everyone has. -/
lemma everyone (h : session.Heard id peers ops leavers)
    (hdone : session.totalPeerCount = 0 ∨ session.isComplete = true) (hp : p ∈ peers) :
    ∃ op ∈ ops, op.Answers id p := by
  have hlength : peers.length ≤ (session.answers ++ leavers).length := by
    have hwaiting := h.waiting
    rw [List.length_append]
    rcases hdone with hzero | hcomplete
    · omega
    · have hcount := isComplete_iff.mp hcomplete
      omega
  have hsub : (session.answers ++ leavers).Subperm peers := List.subperm_of_subset h.once fun q hq => (h.answered q hq).1
  exact (h.answered p ((hsub.perm_of_length_le hlength).mem_iff.mpr hp)).2

end Heard
end PreloadSession

namespace ResourceState

/-- The resource is loaded; and as long as it is being preloaded its session has heard what it should. -/
def Awaits (id : String) (peers : List PeerId) (ops : List ResourceOp) (state : ResourceState) : Prop :=
  id ∈ state.resources ∧ ∀ session, state.preloadSessions.lookup id = some session →
    ∃ leavers, session.Heard id peers ops leavers

variable {state : ResourceState} {id : String} {peers : List PeerId} {ops : List ResourceOp} {op : ResourceOp}

lemma awaits_startPreload {resource : LocalLoadResource} (h : (state.startPreload resource peers).1 = true) :
    (state.startPreload resource peers).2.Awaits resource.loadedNetId peers [] := by
  rw [startPreload_eq] at h ⊢
  dsimp only at h ⊢
  rw [if_pos h]
  refine ⟨mem_loadResource.mpr (.inr ⟨h, rfl⟩), fun session hsession => ?_⟩
  dsimp only at hsession
  rw [AList.lookup_insert] at hsession
  cases hsession
  exact ⟨[], .start _ peers⟩

/-- A preload is not started again while the resource is loaded. -/
lemma Awaits.startPreload (h : state.Awaits id peers ops) (resource : LocalLoadResource) (others : List PeerId) :
    (state.startPreload resource others).2.Awaits id peers (ops ++ [.startPreload resource others]) := by
  rw [startPreload_eq]
  dsimp only
  split
  next hloaded =>
    refine ⟨mem_loadResource.mpr (.inl h.1), fun session hsession => ?_⟩
    rw [Dict.lookup_insert, if_neg] at hsession
    · obtain ⟨leavers, hheard⟩ := h.2 session hsession
      exact ⟨leavers, hheard.weaken _⟩
    · rintro rfl
      exact notMem_of_loadResource hloaded h.1
  next =>
    refine ⟨mem_loadResource.mpr (.inl h.1), fun session hsession => ?_⟩
    rw [preloadSessions_loadResource] at hsession
    obtain ⟨leavers, hheard⟩ := h.2 session hsession
    exact ⟨leavers, hheard.weaken _⟩

theorem Awaits.call (h : state.Awaits id peers ops) (hop : op.OfPreloads)
    (hown : ResourceOp.OwnAnswers id peers (ops ++ [op])) : (op.call state).2.Awaits id peers (ops ++ [op]) := by
  cases op with
  | startPreload resource others => exact h.startPreload resource others
  | markPreloadReady p message =>
    refine ⟨by rw [ResourceOp.call, resources_markPreloadReady]; exact h.1, fun session hsession => ?_⟩
    obtain ⟨before, hbefore, rfl⟩ := lookup_markPreloadReady hsession
    obtain ⟨leavers, hheard⟩ := h.2 before hbefore
    refine ⟨leavers, ?_⟩
    split
    next hid =>
      have hanswers : (ResourceOp.markPreloadReady p message).Answers id p := ⟨rfl, hid⟩
      obtain ⟨hp, hleft⟩ := (ResourceOp.ownAnswers_append_singleton.mp hown).2 _ hanswers
      exact hheard.mark hp hleft hanswers message.isReady
    next => exact hheard.weaken _
  | removePreloadPeer p =>
    refine ⟨h.1, fun session hsession => ?_⟩
    obtain ⟨before, hbefore, rfl⟩ := lookup_removePreloadPeer hsession
    obtain ⟨leavers, hheard⟩ := h.2 before hbefore
    have hanswers : (ResourceOp.removePreloadPeer p).Answers id p := rfl
    obtain ⟨hp, hleft⟩ := (ResourceOp.ownAnswers_append_singleton.mp hown).2 _ hanswers
    exact ⟨p :: leavers, hheard.leave hp hleft hanswers rfl⟩
  | loadResource | unloadResource | timedOutPreloads | allSceneUnloads | resetNonPersistent | reset => cases hop

/-- Along a run of the three operations. -/
lemma Awaits.afterCalls (h : state.Awaits id peers []) (hops : ∀ op ∈ ops, op.OfPreloads)
    (hown : ResourceOp.OwnAnswers id peers ops) : (afterCalls ops state).Awaits id peers ops := by
  induction ops using List.reverseRecOn with
  | nil => exact h
  | append_singleton ops op ih =>
    rw [List.forall_mem_append, List.forall_mem_singleton] at hops
    rw [ResourceState.afterCalls, List.foldl_append]
    exact (ih hops.1 (ResourceOp.ownAnswers_append_singleton.mp hown).1).call hops.2 hown

/-- A call that spawns the resource finds its session complete, with the caller's answer in it. -/
lemma Awaits.everyone (h : state.Awaits id peers ops) (hown : ResourceOp.OwnAnswers id peers (ops ++ [op]))
    (hop : op.OfPreloads) (hspawn : ⟨id⟩ ∈ (op.call state).1) {p : PeerId} (hp : p ∈ peers) :
    ∃ o ∈ ops ++ [op], o.Answers id p := by
  cases op with
  | markPreloadReady q message =>
    obtain ⟨rfl, session, hlookup, hcomplete⟩ := mem_markPreloadReady_fst (Option.mem_toList.mp hspawn)
    obtain ⟨leavers, hheard⟩ := h.2 session hlookup
    have hanswers : (ResourceOp.markPreloadReady q message).Answers message.loadedNetId q := ⟨rfl, rfl⟩
    obtain ⟨hq, hleft⟩ := (ResourceOp.ownAnswers_append_singleton.mp hown).2 _ hanswers
    exact (hheard.mark hq hleft hanswers message.isReady).everyone (.inr hcomplete) hp
  | removePreloadPeer q =>
    obtain ⟨session, hlookup, hdone⟩ := mem_removePreloadPeer_fst.mp hspawn
    obtain ⟨leavers, hheard⟩ := h.2 session hlookup
    have hanswers : (ResourceOp.removePreloadPeer q).Answers id q := rfl
    obtain ⟨hq, hleft⟩ := (ResourceOp.ownAnswers_append_singleton.mp hown).2 _ hanswers
    exact (hheard.leave hq hleft hanswers rfl).everyone hdone hp
  | startPreload => cases hspawn
  | loadResource | unloadResource | timedOutPreloads | allSceneUnloads | resetNonPersistent | reset => cases hop

/-- **A preload waits for everyone** it was started for, if nobody else answers and nobody who has left does. -/
theorem preload_waits_for_everyone {resource : LocalLoadResource} {since : List ResourceOp} {last : ResourceOp}
    (hstart : (state.startPreload resource peers).1 = true) (hops : ∀ op ∈ since ++ [last], op.OfPreloads)
    (hown : ResourceOp.OwnAnswers resource.loadedNetId peers (since ++ [last]))
    (hspawn : ⟨resource.loadedNetId⟩ ∈ (last.call (afterCalls since (state.startPreload resource peers).2)).1) :
    ∀ p ∈ peers, ∃ op ∈ since ++ [last], op.Answers resource.loadedNetId p := by
  intro p hp
  rw [List.forall_mem_append, List.forall_mem_singleton] at hops
  have hsince := (ResourceOp.ownAnswers_append_singleton.mp hown).1
  exact ((awaits_startPreload hstart).afterCalls hops.1 hsince).everyone hown hops.2 hspawn hp

theorem preload_waits_for_both :
    (∃ op ∈ [.markPreloadReady 1 ⟨"hall", true⟩] ++ [.removePreloadPeer 2], ResourceOp.Answers "hall" 1 op) ∧
      ∃ op ∈ [.markPreloadReady 1 ⟨"hall", true⟩] ++ [.removePreloadPeer 2], ResourceOp.Answers "hall" 2 op := by
  have hops : ∀ op ∈ [.markPreloadReady 1 ⟨"hall", true⟩] ++ [.removePreloadPeer 2], ResourceOp.OfPreloads op := by
    intro op hop
    simp only [List.cons_append, List.nil_append, List.mem_cons, List.not_mem_nil, or_false] at hop
    rcases hop with rfl | rfl <;> trivial
  have hfirst : ResourceOp.OwnAnswers "hall" [1, 2] ([] ++ [.markPreloadReady 1 ⟨"hall", true⟩]) := by
    refine ResourceOp.ownAnswers_append_singleton.mpr ⟨ResourceOp.ownAnswers_nil, ?_⟩
    rintro p ⟨rfl, -⟩
    exact ⟨by decide, nofun⟩
  have hown : ResourceOp.OwnAnswers "hall" [1, 2]
      ([.markPreloadReady 1 ⟨"hall", true⟩] ++ [.removePreloadPeer 2]) := by
    refine ResourceOp.ownAnswers_append_singleton.mpr ⟨hfirst, ?_⟩
    rintro p rfl
    refine ⟨by decide, fun earlier hearlier hleaves => ?_⟩
    rw [List.mem_singleton.mp hearlier] at hleaves
    exact hleaves
  have hall := @preload_waits_for_everyone {} [1, 2] hall [.markPreloadReady 1 ⟨"hall", true⟩] (.removePreloadPeer 2)
    (by decide) hops hown (by decide)
  exact ⟨hall 1 (by decide), hall 2 (by decide)⟩

/-- Player 3, who came later, answers in the place of player 2. -/
theorem spawns_without_player : ¬ ∀ (state : ResourceState) (resource : LocalLoadResource) (peers : List PeerId)
    (since : List ResourceOp) (last : ResourceOp), (state.startPreload resource peers).1 = true →
      (∀ op ∈ since ++ [last], op.OfPreloads) →
      ⟨resource.loadedNetId⟩ ∈ (last.call (afterCalls since (state.startPreload resource peers).2)).1 →
      ∀ p ∈ peers, ∃ op ∈ since ++ [last], op.Answers resource.loadedNetId p := by
  intro h
  obtain ⟨op, hop, hanswers⟩ := h {} hall [1, 2] [.markPreloadReady 1 ⟨"hall", true⟩]
    (.markPreloadReady 3 ⟨"hall", true⟩) (by decide)
    (fun op hop => by
      simp only [List.cons_append, List.nil_append, List.mem_cons, List.not_mem_nil, or_false] at hop
      rcases hop with rfl | rfl <;> trivial)
    (by decide) 2 (by decide)
  simp only [List.cons_append, List.nil_append, List.mem_cons, List.not_mem_nil, or_false] at hop
  rcases hop with rfl | rfl
  · exact absurd hanswers.1 (by decide)
  · exact absurd hanswers.1 (by decide)

end ResourceState
end BasisRust.Resources
