import BasisRust.Core.Cleanup

/-!
# Handlers in any order

`event_loop` gives each event a task of its own, so the messages of a peer may be handled after its
disconnect.  Most arms ask who the sender is, or write nothing under its id.  Four do not ask: the lists of
listeners, the two requests for ownership and the camera.  After the disconnect nothing of the peer comes
back exactly as long as none of these writes.
-/

namespace BasisRust.Core

open Lib Protocol Transport
open P2p Resources

/-- A task of the event loop: an event, and the outside while it is handled. -/
abbrev Task := Outside × ServerEvent

/-- The event is emitted for the peer. -/
def IsOf (peer : PeerId) : ServerEvent → Prop
  | .message sender _ _ _ => sender = peer
  | .peerConnected connected => connected = peer
  | .peerDisconnected disconnected _ => disconnected = peer
  | _ => False

namespace ServerState

def handleTask (s : ServerState) (task : Task) : ServerState := s.handleEvent task.1 task.2

/-- The tasks run to completion one after the other. -/
def handleTasks (s : ServerState) (tasks : List Task) : ServerState := tasks.foldl handleTask s

/-- No entry is keyed or owned by the peer. -/
structure NoEntry (peer : PeerId) (s : ServerState) : Prop where
  authenticatedPeers : peer ∉ s.authenticatedPeers
  pendingIdentity : peer ∉ s.pendingIdentity
  voiceRecipients : peer ∉ s.voiceRecipients
  ownership : ∀ object, s.ownership.byObject.lookup object ≠ some peer
  contentShare : ∀ key sphere, s.contentShare.spheres.lookup key = some sphere → sphere.playerId ≠ peer
  pip : peer ∉ s.pip.states

/-- The payload makes an entry under its sender's id: a list of listeners, a claim of an object, or a camera
that is switched on. -/
def EntersOn (peer : PeerId) (payload : Bytes) (s : ServerState) : Arm → Prop
  | .audioRecipients largeCount _ => (parse (VoiceReceiversMessage.deserialize largeCount) payload).isSome
  | .audioRecipientsBitfield => (bitfieldBytes payload).isSome
  | .getCurrentOwnerRequest => ∃ request, parse OwnershipTransferMessage.deserialize payload = some request ∧
      request.playerId = peer ∧ request.ownershipId ∉ s.ownership.byObject
  | .changeCurrentOwnerRequest => (parse OwnershipTransferMessage.deserialize payload).isSome
  | .cameraPipState => ∃ request, parse ClientCameraPipStateMessage.deserialize payload = some request ∧
      request.isActive
  | _ => False

/-- The event is a message that makes an entry under the peer's id. -/
def Enters (peer : PeerId) (s : ServerState) : ServerEvent → Prop
  | .message _ channel _ payload => s.EntersOn peer payload (armOf channel)
  | _ => False

section NoEntry

variable {peer : PeerId} {s s' : ServerState}

/-- After the disconnect there is none. -/
lemma Departed.noEntry (h : Departed peer s s') : s'.NoEntry peer where
  authenticatedPeers hmem := (AList.mem_erase.mp (h.authenticatedPeers ▸ hmem)).1 rfl
  pendingIdentity hmem := (AList.mem_erase.mp (h.pendingIdentity ▸ hmem)).1 rfl
  voiceRecipients hmem := (AList.mem_erase.mp (h.voiceRecipients ▸ hmem)).1 rfl
  ownership := h.lookup_owner
  contentShare _ _ := h.playerId_sphere
  pip := h.notMem_pip

lemma NoEntry.of_posted (h : s.NoEntry peer) (hp : Posted s s') : s'.NoEntry peer := by
  obtain ⟨_, rfl⟩ := hp
  exact ⟨h.1, h.2, h.3, h.4, h.5, h.6⟩

/-- An arm that writes none of the six stores. -/
lemma NoEntry.of_frame {store : Store} (hf : Frame store s s') (h : s.NoEntry peer)
    (hstore : store ∉ [Store.roster, .players, .ownership, .contentShare, .pip, .voiceRecipients]) :
    s'.NoEntry peer := by
  simp only [List.mem_cons, List.not_mem_nil, or_false, not_or] at hstore
  obtain ⟨hroster, hplayers, howner, hshare, hpip, hvoice⟩ := hstore
  exact
    { authenticatedPeers := by rw [hf.authenticatedPeers hroster hplayers]; exact h.authenticatedPeers
      pendingIdentity := by rw [hf.pendingIdentity hroster]; exact h.pendingIdentity
      voiceRecipients := by rw [hf.voiceRecipients hvoice]; exact h.voiceRecipients
      ownership := by rw [hf.ownership howner]; exact h.ownership
      contentShare := by rw [hf.contentShare hshare]; exact h.contentShare
      pip := by rw [hf.pip hpip]; exact h.pip }

/-! ### The arms that write under the sender's id -/

variable (h : s.NoEntry peer) {payload : Bytes}

include h

omit h in
lemma noEntry_setVoiceRecipients (recipients : List PeerId) :
    ¬ (s.setVoiceRecipients peer recipients).NoEntry peer :=
  fun hentry => hentry.voiceRecipients ((AList.mem_insert _).mpr (.inl rfl))

lemma noEntry_updateVoiceRecipients_iff {largeCount inverted : Bool} :
    (s.updateVoiceRecipients peer payload largeCount inverted).NoEntry peer ↔
      ¬ (parse (VoiceReceiversMessage.deserialize largeCount) payload).isSome := by
  unfold updateVoiceRecipients onParsed
  cases parse (VoiceReceiversMessage.deserialize largeCount) payload with
  | none => simpa using h
  | some message => simpa using noEntry_setVoiceRecipients _

lemma noEntry_updateVoiceRecipientsBitfield_iff :
    (s.updateVoiceRecipientsBitfield peer payload).NoEntry peer ↔ ¬ (bitfieldBytes payload).isSome := by
  unfold updateVoiceRecipientsBitfield
  cases bitfieldBytes payload with
  | none => simpa using h
  | some bytes => simpa using noEntry_setVoiceRecipients _

lemma NoEntry.with_ownership {ownership : OwnershipState}
    (howner : ∀ object, ownership.byObject.lookup object ≠ some peer) : { s with ownership }.NoEntry peer :=
  ⟨h.1, h.2, h.3, howner, h.5, h.6⟩

lemma noEntry_handleGetCurrentOwnerRequest_iff :
    (s.handleGetCurrentOwnerRequest peer payload).NoEntry peer ↔
      ¬ ∃ request, parse OwnershipTransferMessage.deserialize payload = some request ∧
        request.playerId = peer ∧ request.ownershipId ∉ s.ownership.byObject := by
  unfold handleGetCurrentOwnerRequest onParsed
  cases parse OwnershipTransferMessage.deserialize payload with
  | none => simpa using h
  | some request =>
    simp only [Option.some.injEq, exists_eq_left']
    unfold OwnershipState.requestNewOrExisting
    cases howner : s.ownership.byObject.lookup request.ownershipId with
    | some owner =>
      have hmem : request.ownershipId ∈ s.ownership.byObject := Dict.mem_iff_lookup.mpr ⟨owner, howner⟩
      exact ⟨fun _ hnew => hnew.2 hmem, fun _ => h.of_posted (posted_send _ _ _ _)⟩
    | none =>
      constructor
      · rintro hentry ⟨hplayer, -⟩
        exact hentry.ownership request.ownershipId (hplayer ▸ AList.lookup_insert _)
      · intro hnot
        refine NoEntry.of_posted (h.with_ownership fun object hobject => ?_) (posted_send _ _ _ _)
        rw [Dict.lookup_insert] at hobject
        split at hobject
        next => exact hnot ⟨Option.some.inj hobject, Dict.notMem_iff_lookup.mpr howner⟩
        next => exact h.ownership object hobject

lemma noEntry_handleChangeCurrentOwnerRequest_iff :
    (s.handleChangeCurrentOwnerRequest peer payload).NoEntry peer ↔
      ¬ (parse OwnershipTransferMessage.deserialize payload).isSome := by
  unfold handleChangeCurrentOwnerRequest onParsed
  cases parse OwnershipTransferMessage.deserialize payload with
  | none => simpa using h
  | some request =>
    rw [Option.isSome_some, iff_false_right (not_not.mpr rfl)]
    exact fun hentry => hentry.ownership request.ownershipId (AList.lookup_insert _)

lemma noEntry_handleCameraPipState_iff :
    (s.handleCameraPipState peer payload).NoEntry peer ↔
      ¬ ∃ request, parse ClientCameraPipStateMessage.deserialize payload = some request ∧ request.isActive := by
  unfold handleCameraPipState onParsed
  cases parse ClientCameraPipStateMessage.deserialize payload with
  | none => simpa using h
  | some request =>
    simp only [Option.some.injEq, exists_eq_left']
    unfold PipState.stateChange
    cases hactive : request.isActive with
    | true =>
      rw [iff_false_right (not_not.mpr rfl)]
      exact fun hentry => hentry.pip ((AList.mem_insert _).mpr (.inl rfl))
    | false =>
      refine iff_of_true ?_ Bool.false_ne_true
      have hentry : { s with pip := ⟨s.pip.states.modify peer PipState.switchOff⟩ }.NoEntry peer :=
        ⟨h.1, h.2, h.3, h.4, h.5, fun hmem => h.pip (Dict.mem_modify.mp hmem)⟩
      exact hentry.of_posted (posted_broadcast _ _ _ _ _)

/-! ### The arms that write nothing under it -/

lemma noEntry_handleAuthIdentity (env : Outside) : (s.handleAuthIdentity env peer).NoEntry peer := by
  rw [handleAuthIdentity, Dict.notMem_iff_lookup.mp h.pendingIdentity]
  exact h

lemma noEntry_handleAvatarChangeMessage : (s.handleAvatarChangeMessage peer payload).NoEntry peer := by
  unfold handleAvatarChangeMessage onParsed
  split
  next avatar _ =>
    split
    next => exact h
    next =>
      have hentry : { s with
          authenticatedPeers := s.authenticatedPeers.modify peer fun peerState =>
            { peerState with ready.clientAvatarChangeMessage := avatar } }.NoEntry peer :=
        ⟨fun hmem => h.authenticatedPeers (Dict.mem_modify.mp hmem), h.2, h.3, h.4, h.5, h.6⟩
      exact hentry.of_posted (posted_broadcast _ _ _ _ _)
  next => exact h

lemma noEntry_handleRemoveCurrentOwnerRequest : (s.handleRemoveCurrentOwnerRequest payload).NoEntry peer := by
  unfold handleRemoveCurrentOwnerRequest onParsed
  split
  next request _ =>
    have hentry : { s with
        ownership := (s.ownership.removeIfOwner request.ownershipId request.playerId).2 }.NoEntry peer := by
      refine h.with_ownership fun object hobject => ?_
      unfold OwnershipState.removeIfOwner at hobject
      split at hobject
      next =>
        rw [Dict.lookup_erase, Option.ite_none_left_eq_some] at hobject
        exact h.ownership object hobject.2
      next => exact h.ownership object hobject
    dsimp only
    split
    next => exact hentry.of_posted (posted_broadcast _ _ _ _ _)
    next => exact hentry
  next => exact h

lemma noEntry_handleContentShare : (s.handleContentShare peer payload).NoEntry peer := by
  have hlocked (locked : Bool) (node : String) : s.lockedFor peer locked node = true := by
    rw [lockedFor, Dict.notMem_iff_lookup.mp h.authenticatedPeers]
  have hcontent (contentType : ContentShareType) : s.contentLocked contentType peer = true := by
    cases contentType <;> exact hlocked _ _
  unfold handleContentShare onParsed
  split
  next request _ =>
    dsimp only
    rw [if_pos (hcontent request.contentType)]
    exact h
  next => exact h

lemma noEntry_handleContentShareCleanup : (s.handleContentShareCleanup peer payload).NoEntry peer := by
  unfold handleContentShareCleanup onParsed
  split
  next request _ =>
    have hentry : { s with contentShare := (s.contentShare.remove peer request).2 }.NoEntry peer := by
      refine ⟨h.1, h.2, h.3, h.4, fun key sphere hsphere => h.contentShare key sphere ?_, h.6⟩
      unfold ContentShareState.remove at hsphere
      split at hsphere
      next =>
        rw [Dict.lookup_erase, Option.ite_none_left_eq_some] at hsphere
        exact hsphere.2
      next => exact hsphere
    dsimp only
    split
    next => exact hentry
    next => exact hentry.of_posted (posted_broadcast _ _ _ _ _)
  next => exact h

lemma noEntry_handleCameraPipPosition : (s.handleCameraPipPosition peer payload).NoEntry peer := by
  unfold handleCameraPipPosition onParsed
  split
  next request _ =>
    have hnone : s.pip.positionUpdate peer request = (none, s.pip) := by
      rw [PipState.positionUpdate, Dict.notMem_iff_lookup.mp h.pip]
    dsimp only
    rw [hnone]
    exact h
  next => exact h

end NoEntry

/-! ### One task -/

/-- **One task.**  A peer that has no entry gets one only from a message that enters it. -/
theorem noEntry_handleTask_iff {peer : PeerId} {s : ServerState} (h : s.NoEntry peer) {task : Task}
    (hof : IsOf peer task.2) : (s.handleTask task).NoEntry peer ↔ ¬ s.Enters peer task.2 := by
  obtain ⟨env, event⟩ := task
  cases event with
  | peerConnected => exact iff_of_true h id
  | peerDisconnected disconnected reason =>
    obtain rfl : disconnected = peer := hof
    exact iff_of_true (departed_handleDisconnect env disconnected s).noEntry id
  | message sender channel delivery payload =>
    obtain rfl : sender = peer := hof
    have hframe := (writes_handleArm env sender payload s channel delivery (armOf channel)).frame
    change (s.handleArm env sender channel delivery payload (armOf channel)).NoEntry sender ↔
      ¬ s.EntersOn sender payload (armOf channel)
    cases harm : armOf channel with
    | audioRecipients => exact noEntry_updateVoiceRecipients_iff h
    | audioRecipientsBitfield => exact noEntry_updateVoiceRecipientsBitfield_iff h
    | getCurrentOwnerRequest => exact noEntry_handleGetCurrentOwnerRequest_iff h
    | changeCurrentOwnerRequest => exact noEntry_handleChangeCurrentOwnerRequest_iff h
    | cameraPipState => exact noEntry_handleCameraPipState_iff h
    | authIdentity => exact iff_of_true (noEntry_handleAuthIdentity h env) id
    | avatarChangeMessage => exact iff_of_true (noEntry_handleAvatarChangeMessage h) id
    | removeCurrentOwnerRequest => exact iff_of_true (noEntry_handleRemoveCurrentOwnerRequest h) id
    | contentShare => exact iff_of_true (noEntry_handleContentShare h) id
    | contentShareCleanup => exact iff_of_true (noEntry_handleContentShareCleanup h) id
    | cameraPipPosition => exact iff_of_true (noEntry_handleCameraPipPosition h) id
    | _ =>
      rw [harm] at hframe
      exact iff_of_true (h.of_frame hframe (by decide)) id
  | _ => cases hof

/-! ### All tasks -/

/-- **When a departed peer stays away.**  The tasks of a peer's events, its disconnect among them, run in any
order.  From the disconnect on the peer has no entry, whatever has run by then, if and only if no task behind
it handles a message that enters the peer. -/
theorem departed_peer_stays_away_iff {peer : PeerId} {reason : DisconnectReason} {events : List ServerEvent}
    (hevents : ∀ event ∈ events, IsOf peer event) {before after : List Task} {env : Outside}
    (horder : ((before ++ (env, .peerDisconnected peer reason) :: after).map (·.2)).Perm
      (events ++ [.peerDisconnected peer reason])) (s : ServerState) :
    (∀ first rest, after = first ++ rest →
      (s.handleTasks (before ++ (env, .peerDisconnected peer reason) :: first)).NoEntry peer) ↔
    ∀ first task rest, after = first ++ task :: rest →
      ¬ (s.handleTasks (before ++ (env, .peerDisconnected peer reason) :: first)).Enters peer task.2 := by
  have hof : ∀ task ∈ after, IsOf peer task.2 := by
    intro task htask
    have hmem : task.2 ∈ (before ++ (env, .peerDisconnected peer reason) :: after).map (·.2) :=
      List.mem_map_of_mem (List.mem_append_right _ (List.mem_cons_of_mem _ htask))
    rcases List.mem_append.mp (horder.mem_iff.mp hmem) with hevent | hlast
    · exact hevents task.2 hevent
    · rw [List.mem_singleton.mp hlast]
      exact rfl
  let reached (first : List Task) : ServerState :=
    s.handleTasks (before ++ (env, .peerDisconnected peer reason) :: first)
  have hsnoc (first : List Task) (task : Task) : reached (first ++ [task]) = (reached first).handleTask task := by
    change List.foldl _ _ _ = handleTask (List.foldl _ _ _) _
    rw [← List.cons_append, ← List.append_assoc, List.foldl_concat]
  constructor
  · intro hstays first task rest hsplit
    have hnow := hstays first (task :: rest) hsplit
    have hthen := hstays (first ++ [task]) rest (by rw [List.append_assoc]; exact hsplit)
    have htask : task ∈ after := by
      rw [hsplit]
      exact List.mem_append_right _ List.mem_cons_self
    refine (noEntry_handleTask_iff hnow (hof task htask)).mp ?_
    rw [← hsnoc]
    exact hthen
  · intro hquiet first
    induction first using List.reverseRecOn with
    | nil =>
      intro rest _
      rw [handleTasks, List.foldl_append]
      exact (departed_handleDisconnect env peer _).noEntry
    | append_singleton first task ih =>
      intro rest hsplit
      have hsplit' : after = first ++ task :: rest := by
        rw [hsplit, List.append_assoc]
        rfl
      have htask : task ∈ after := by
        rw [hsplit']
        exact List.mem_append_right _ List.mem_cons_self
      have hnow := ih (task :: rest) hsplit'
      change (reached (first ++ [task])).NoEntry peer
      rw [hsnoc]
      exact (noEntry_handleTask_iff hnow (hof task htask)).mpr (hquiet first task rest hsplit')

/-! ### A camera after the disconnect -/

/-- A player comes in, and its connection times out. -/
def playerGone : List Label := [handles (.connectionRequest (requestOf 1 "a")), .transport (.timeout 0, {})]

/-- The player's last message: its camera is on. -/
def cameraOn : ServerEvent := .message 0 channels.cameraPipState .reliableOrdered (1 :: List.replicate 28 0)

def goneState : ServerState := playerGone.foldl next (.start openConfig)

/-- The disconnect is handled before the message that came before it. -/
def lateCamera : List Task := [(plainOutside, .peerDisconnected 0 .timeout), (plainOutside, cameraOn)]

lemma perm_lateCamera : (lateCamera.map (·.2)).Perm ([cameraOn] ++ [.peerDisconnected 0 .timeout]) :=
  List.Perm.swap _ _ _

lemma mem_pip_lateCamera : 0 ∈ (goneState.handleTasks lateCamera).pip.states := by decide +kernel

/-- The departed player has a camera. -/
theorem departed_peer_comes_back : ∃ ts s, Run Steps (.start openConfig) ts s ∧ 0 ∉ s.transport.peers ∧
    IsOf 0 cameraOn ∧ (lateCamera.map (·.2)).Perm ([cameraOn] ++ [.peerDisconnected 0 .timeout]) ∧
    ¬ (s.handleTasks lateCamera).NoEntry 0 :=
  ⟨_, goneState, run_of_enabled playerGone (by decide +kernel), by decide +kernel, rfl, perm_lateCamera,
    fun h => h.pip mem_pip_lateCamera⟩

/-- The equivalence in this order: the message enters the player. -/
theorem departed_peer_stays_away_iff_camera :
    (goneState.handleTasks [(plainOutside, .peerDisconnected 0 .timeout)]).Enters 0 cameraOn := by
  by_contra hnot
  have hevents : ∀ event ∈ [cameraOn], IsOf 0 event := by
    intro event hevent
    rw [List.mem_singleton.mp hevent]
    exact rfl
  have hstays := (@departed_peer_stays_away_iff 0 .timeout [cameraOn] hevents [] [(plainOutside, cameraOn)]
    plainOutside perm_lateCamera goneState).mpr ?_
  · exact (hstays [(plainOutside, cameraOn)] [] rfl).pip mem_pip_lateCamera
  · intro first task rest hsplit
    obtain ⟨rfl, hcons⟩ : first = [] ∧ [(plainOutside, cameraOn)] = task :: rest := by
      cases first with
      | nil => exact ⟨rfl, hsplit⟩
      | cons head tail => cases tail <;> cases hsplit
    cases hcons
    exact hnot

end ServerState
end BasisRust.Core
