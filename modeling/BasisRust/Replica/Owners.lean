import BasisRust.Replica.Follow

/-!
# No player is wrong about an owner

Who asks for the owner of an object may become its owner, and nobody else is told.  So a player need not know every
owner; but what it has been told of an owner is never out of date.
-/

namespace BasisRust.Replica

open Lib Protocol Transport
open BasisRust.Core P2p Resources

/-! ### The player's reading -/

abbrev KnownOwners := String → Option PeerId

def learnOwner (m : OwnershipTransferMessage) (v : KnownOwners) : KnownOwners :=
  Function.update v m.ownershipId (some m.playerId)

def forgetOwner (m : OwnershipTransferMessage) (v : KnownOwners) : KnownOwners := Function.update v m.ownershipId none

def ownerReading : Reading UInt8 Bytes KnownOwners :=
  .ofTable (fun _ => none)
    [(channels.getCurrentOwnerRequest, onRead OwnershipTransferMessage.deserialize learnOwner),
      (channels.changeCurrentOwnerRequest, onRead OwnershipTransferMessage.deserialize learnOwner),
      (channels.removeCurrentOwnerRequest, onRead OwnershipTransferMessage.deserialize forgetOwner)]

/-- Nothing wrong is known. -/
def OwnersTrue (owners : Dict String PeerId) (v : KnownOwners) : Prop :=
  ∀ object owner, v object = some owner → owners.lookup object = some owner

def ownerCopy : Copy (Dict String PeerId) KnownOwners where
  reading := ownerReading
  stores := [.ownership]
  truth s := s.ownership.byObject
  Agrees _ truth v := OwnersTrue truth v
  truth_frame h hframe := by
    rw [hframe.ownership (List.ne_of_not_mem_cons h)]
  truth_moved _ _ _ _ := rfl
  p2pBroker := by decide
  authIdentity := by decide

variable {p q : PeerId} {s : ServerState}

lemma ownerCopy_holds_iff : ownerCopy.Holds p s ↔ OwnersTrue s.ownership.byObject (ownerCopy.view p s) := Iff.rfl

lemma learn_owner {m : OwnershipTransferMessage} (h : m.Fits) {channel : UInt8}
    (hchannel : channel ∈ [channels.getCurrentOwnerRequest, channels.changeCurrentOwnerRequest]) (v : KnownOwners) :
    ownerReading.learn channel m.serialize v = Function.update v m.ownershipId (some m.playerId) := by
  have hlearn := onRead_of_decodes (OwnershipTransferMessage.decodes h) learnOwner v
  rw [List.mem_cons, List.mem_singleton] at hchannel
  rcases hchannel with rfl | rfl <;> exact hlearn

lemma learn_removeOwner {m : OwnershipTransferMessage} (h : m.Fits) (v : KnownOwners) :
    ownerReading.learn channels.removeCurrentOwnerRequest m.serialize v = Function.update v m.ownershipId none :=
  onRead_of_decodes (OwnershipTransferMessage.decodes h) forgetOwner v

/-! ### What keeps it true -/

section OwnersTrue

variable {owners : Dict String PeerId} {v : KnownOwners} {object : String} {owner : PeerId}

/-- An owner is entered and told. -/
lemma OwnersTrue.told (h : OwnersTrue owners v) (object : String) (owner : PeerId) :
    OwnersTrue (owners.insert object owner) (Function.update v object (some owner)) := by
  intro object' owner' hv
  rw [Function.update_apply] at hv
  rw [Dict.lookup_insert]
  split at hv
  next heq => rwa [if_pos heq]
  next hne =>
    rw [if_neg hne]
    exact h object' owner' hv

/-- An owner is told that is there already. -/
lemma OwnersTrue.learned (h : OwnersTrue owners v) (hlookup : owners.lookup object = some owner) :
    OwnersTrue owners (Function.update v object (some owner)) := by
  intro object' owner' hv
  rw [Function.update_apply] at hv
  split at hv
  next heq =>
    rw [heq, hlookup]
    exact hv
  next => exact h object' owner' hv

/-- An object that had no owner gets one, of which nothing was known. -/
lemma OwnersTrue.unheard (h : OwnersTrue owners v) (hlookup : owners.lookup object = none) (owner : PeerId) :
    OwnersTrue (owners.insert object owner) v := by
  intro object' owner' hv
  have hbefore := h object' owner' hv
  rw [Dict.lookup_insert, if_neg]
  · exact hbefore
  · rintro rfl
    rw [hlookup] at hbefore
    cases hbefore

lemma OwnersTrue.removed (h : OwnersTrue owners v) (object : String) :
    OwnersTrue (owners.erase object) (Function.update v object none) := by
  intro object' owner' hv
  rw [Function.update_apply] at hv
  rw [Dict.lookup_erase]
  split at hv
  next => cases hv
  next hne =>
    rw [if_neg hne]
    exact h object' owner' hv

end OwnersTrue

/-! ### Entering and leaving -/

lemma owners_welcomed (env : Outside) (ready : ReadyMessage) (hsound : Sound s) (hp : p ∈ s.transport.peers) :
    ownerCopy.Holds p (s.finalizeAccept env p ready) := by
  have hall : ∀ e ∈ s.ownership.byObject.entries, StringFits e.1 := Dict.all_iff_entries.mp hsound.owners
  have hmessages : ownerMessages (s.entered p ready) = s.ownership.byObject.entries.map fun e =>
      (channels.getCurrentOwnerRequest, OwnershipTransferMessage.serialize ⟨e.2, e.1⟩) := by
    unfold ownerMessages OwnershipState.all
    exact List.map_map
  have hlearn : ∀ e ∈ s.ownership.byObject.entries, ∀ v, ownerReading.learn channels.getCurrentOwnerRequest
      (OwnershipTransferMessage.serialize ⟨e.2, e.1⟩) v = Function.update v e.1 (some e.2) :=
    fun e he v => learn_owner (m := ⟨e.2, e.1⟩) (show StringFits e.1 from hall e he) (by decide) v
  have hknown : ownerReading.replay (welcome p (s.entered p ready)) (fun _ => none) =
      Dict.known id s.ownership.byObject := by
    simp only [welcome, Reading.replay_append]
    rw [ownerReading.replay_of_kind channel_of_existing (by decide),
      ownerReading.replay_of_kind channel_of_netIds (by decide),
      ownerReading.replay_of_kind channel_of_resources (by decide), hmessages, ownerReading.replay_map hlearn,
      ownerReading.replay_of_kind channel_of_spheres (by decide),
      ownerReading.replay_of_kind channel_of_cameras (by decide),
      ownerReading.replay_of_kind channel_of_settings (by decide)]
    exact Dict.foldl_update id s.ownership.byObject
  refine Copy.holds_welcome hp fun object owner hv => ?_
  change ownerReading.replay (welcome p (s.entered p ready)) (fun _ => none) object = some owner at hv
  rw [hknown] at hv
  exact Option.map_id_apply.symm.trans hv

/-- What the leaving player owned is known no more. -/
lemma owners_left (env : Outside) (hsound : Sound s) (hq : q ≠ p) (hstays : Stays p s)
    (hholds : ownerCopy.Holds p s) : ownerCopy.Holds p (s.handleDisconnect env q) := by
  obtain ⟨hleft, hview⟩ := ownerCopy.view_left env hstays hq (by decide)
  set gone := s.ownership.byObject.entries.filter fun e => e.2 = q with hgone
  have hmessages : ownersLeft q s = gone.map fun e =>
      (channels.removeCurrentOwnerRequest, OwnershipTransferMessage.serialize ⟨q, e.1⟩) := by
    unfold ownersLeft OwnershipState.removePlayer
    exact List.map_map
  have hlearn : ∀ e ∈ gone, ∀ v, ownerReading.learn channels.removeCurrentOwnerRequest
      (OwnershipTransferMessage.serialize ⟨q, e.1⟩) v = Function.update v e.1 none :=
    fun e he v => learn_removeOwner (m := ⟨q, e.1⟩)
      (show StringFits e.1 from Dict.all_iff_entries.mp hsound.owners e (List.mem_filter.mp he).1) v
  have hreplay : ownerCopy.reading.replay (ownersLeft q s) (ownerCopy.view p s) =
      gone.foldl (fun (v : KnownOwners) e => Function.update v e.1 none) (ownerCopy.view p s) := by
    rw [hmessages]
    exact ownerReading.replay_map hlearn _
  rw [ownerCopy_holds_iff] at hholds ⊢
  rw [hview, hleft.ownership, hreplay,
    ownerCopy.reading.replay_of_kind channel_of_spheresLeft (by decide),
    ownerCopy.reading.replay_of_kind channel_of_cameraLeft (by decide),
    Copy.replay_rosterLeft (by decide) (by decide)]
  intro object owner hv
  have hfold := Dict.foldl_update_none (fun e : (_ : String) × PeerId => e.1) gone (ownerCopy.view p s) object
  rw [hfold] at hv
  split at hv
  next => cases hv
  next hkept =>
    have hlookup := hholds object owner hv
    have howner : owner ≠ q := by
      rintro rfl
      exact hkept (List.mem_map.mpr
        ⟨⟨object, owner⟩, List.mem_filter.mpr ⟨AList.mem_lookup_iff.mp hlookup, decide_eq_true rfl⟩, rfl⟩)
    rw [OwnershipState.removePlayer, Dict.lookup_retain, hlookup]
    exact Option.filter_eq_some_iff.mpr ⟨rfl, decide_eq_true howner⟩

/-! ### Requests -/

lemma owners_heard {s' : ServerState} {channel : UInt8} {payload : Bytes} {learn : KnownOwners → KnownOwners}
    (htold : told p s' = told p s ++ [(channel, payload)])
    (hlearn : ∀ v, ownerReading.learn channel payload v = learn v)
    (htrue : OwnersTrue s'.ownership.byObject (learn (ownerCopy.view p s))) : ownerCopy.Holds p s' := by
  rw [ownerCopy_holds_iff]
  have hlearned : ownerCopy.reading.learn channel payload (ownerCopy.view p s) = _ := hlearn _
  unfold Copy.view at htrue hlearned ⊢
  rw [htold, Reading.replay_append, Reading.replay_cons, Reading.replay_nil, hlearned]
  exact htrue

lemma owners_handleGetCurrentOwnerRequest_told (payload : Bytes) (hstays : Stays p s) (hholds : ownerCopy.Holds p s) :
    ownerCopy.Holds p (s.handleGetCurrentOwnerRequest q payload) := by
  refine onParsed_of_yields (P := ownerCopy.Holds p) OwnershipTransferMessage.accepted hholds fun request hrequest => ?_
  -- what the answer says is what the server keeps
  set current := s.ownership.requestNewOrExisting request.ownershipId request.playerId with hcurrent
  have hasked : OwnersTrue current.2.byObject (ownerCopy.view p s) ∧
      current.2.byObject.lookup request.ownershipId = some current.1 := by
    rw [hcurrent]
    unfold OwnershipState.requestNewOrExisting
    cases hlookup : s.ownership.byObject.lookup request.ownershipId with
    | none => exact ⟨OwnersTrue.unheard hholds hlookup _, AList.lookup_insert _⟩
    | some owner => exact ⟨hholds, hlookup⟩
  dsimp only
  set s' : ServerState := { s with ownership := current.2 }
  by_cases hq : q = p
  · subst hq
    have htold := told_send (s := s') hstays.live channels.getCurrentOwnerRequest (by decide)
      (OwnershipTransferMessage.serialize ⟨current.1, request.ownershipId⟩)
    exact owners_heard htold (fun v => learn_owner (m := ⟨current.1, request.ownershipId⟩) hrequest (by decide) v)
      (hasked.1.learned hasked.2)
  · have htold := told_send_of_ne (s := s') hstays.live hq channels.getCurrentOwnerRequest
      (OwnershipTransferMessage.serialize ⟨current.1, request.ownershipId⟩)
    rw [ownerCopy_holds_iff]
    unfold Copy.view at hasked ⊢
    rw [htold]
    exact hasked.1

lemma owners_handleChangeCurrentOwnerRequest_told (payload : Bytes) (hstays : Stays p s) (hholds : ownerCopy.Holds p s) :
    ownerCopy.Holds p (s.handleChangeCurrentOwnerRequest q payload) := by
  refine onParsed_of_yields (P := ownerCopy.Holds p) OwnershipTransferMessage.accepted hholds fun request hrequest => ?_
  set s' : ServerState := { s with ownership := (s.ownership.switchOwnership request.ownershipId q).2 }
  have htold := told_broadcast (s := s') (p := p) hstays.live hstays.auth channels.changeCurrentOwnerRequest
    (by decide) (by decide) none (Option.some_ne_none p) .reliableOrdered
    (OwnershipTransferMessage.serialize ⟨q, request.ownershipId⟩)
  exact owners_heard htold (fun v => learn_owner (m := ⟨q, request.ownershipId⟩) hrequest (by decide) v)
    (OwnersTrue.told hholds request.ownershipId q)

lemma owners_handleRemoveCurrentOwnerRequest_told (payload : Bytes) (hstays : Stays p s) (hholds : ownerCopy.Holds p s) :
    ownerCopy.Holds p (s.handleRemoveCurrentOwnerRequest payload) := by
  refine onParsed_of_yields (P := ownerCopy.Holds p) OwnershipTransferMessage.accepted hholds fun request hrequest => ?_
  unfold OwnershipState.removeIfOwner
  by_cases howner : s.ownership.byObject.lookup request.ownershipId = some request.playerId
  · rw [if_pos howner]
    dsimp only
    rw [if_pos rfl]
    set s' : ServerState :=
      { s with ownership := { byObject := s.ownership.byObject.erase request.ownershipId } }
    have htold := told_broadcast (s := s') (p := p) hstays.live hstays.auth
      channels.removeCurrentOwnerRequest (by decide) (by decide) none (Option.some_ne_none p)
      .reliableOrdered request.serialize
    exact owners_heard htold (fun v => learn_removeOwner hrequest v) (OwnersTrue.removed hholds request.ownershipId)
  · rw [if_neg howner]
    exact hholds

/-! ### The stay -/

/-- What a player has to be told of the owners. -/
lemma owners_follows (p : PeerId) : ownerCopy.Follows p fun _ => True where
  welcomed env ready _ hsound _ hp _ := owners_welcomed env ready hsound hp
  met _ _ _ _ _ _ hq hstays hholds := hholds.met hstays hq rfl (by decide)
  left env _ _ hsound hq hstays hholds := owners_left env hsound hq hstays hholds
  handled env q channel delivery payload arm s _ hconcerns _ hstays hholds := by
    cases arm with
    | getCurrentOwnerRequest => exact owners_handleGetCurrentOwnerRequest_told payload hstays hholds
    | changeCurrentOwnerRequest => exact owners_handleChangeCurrentOwnerRequest_told payload hstays hholds
    | removeCurrentOwnerRequest => exact owners_handleRemoveCurrentOwnerRequest_told payload hstays hholds
    | audioRecipients => exact absurd (Copy.voiceRecipients_of_concerns hconcerns) (by decide)
    | _ => exact absurd hconcerns (by decide)

/-- **No player is wrong about an owner.**  As long as a player stays, whoever it has last been told to be the owner of
an object is the owner. -/
theorem player_right_about_owners {config : ServerConfig} {ts : List (Transition ServerState Label)}
    (hstay : Stay config p ts s) (object : String) (owner : PeerId)
    (hknown : ownerReading.replay (told p s) (fun _ => none) object = some owner) :
    s.ownership.byObject.lookup object = some owner :=
  Copy.follows (owners_follows p) hstay (fun _ _ => trivial) object owner hknown

/-- An owner from before the player came. -/
theorem player_right_about_owners_visit : visited.ownership.byObject.lookup "ball" = some 0 :=
  player_right_about_owners stay_visit "ball" 0 (by decide +kernel)

end BasisRust.Replica
