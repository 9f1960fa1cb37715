import BasisRust.Core.System

/-!
# Who may own what

Three channels change the owners of objects.  Only one of their handlers goes by the peer that sent the message; the
others go by the player the message names.
-/

namespace BasisRust.Core

open Lib Protocol Transport
open Resources

/-- The change is one the peer may ask for: it is about the object that was named, who has it new is the peer, and
the peer had it where nobody has it any more. -/
structure OwnChange (peer : PeerId) (named : Option String) (before after : OwnershipState) : Prop where
  elsewhere : ∀ object, named ≠ some object → after.byObject.lookup object = before.byObject.lookup object
  taken : ∀ object owner, after.byObject.lookup object = some owner →
    before.byObject.lookup object = some owner ∨ owner = peer
  released : ∀ object owner, before.byObject.lookup object = some owner → after.byObject.lookup object = none →
    owner = peer

namespace OwnChange

variable {peer : PeerId} {before : OwnershipState} {object : String}

lemma refl (peer : PeerId) (named : Option String) (before : OwnershipState) :
    OwnChange peer named before before :=
  ⟨fun _ _ => rfl, fun _ _ h => .inl h, fun _ _ h h' => by rw [h] at h'; cases h'⟩

/-- An entry for the object is one for the peer, or was there before. -/
lemma insert_iff {owner : PeerId} :
    OwnChange peer (some object) before { byObject := before.byObject.insert object owner } ↔
      before.byObject.lookup object = some owner ∨ owner = peer := by
  constructor
  · intro h
    exact h.taken object owner (AList.lookup_insert _)
  · intro howner
    refine ⟨fun other hother => ?_, fun other owner' hafter => ?_, fun other owner' hbefore hnone => ?_⟩
    · have hne : other ≠ object := fun heq => hother (heq ▸ rfl)
      rw [Dict.lookup_insert, if_neg hne]
    · rw [Dict.lookup_insert] at hafter
      split at hafter
      next heq =>
        cases hafter
        exact heq ▸ howner
      next => exact .inl hafter
    · rw [Dict.lookup_insert] at hnone
      split at hnone
      next => cases hnone
      next =>
        rw [hbefore] at hnone
        cases hnone

/-- An entry is taken out for the peer that owns the object. -/
lemma erase_iff {owner : PeerId} (howner : before.byObject.lookup object = some owner) :
    OwnChange peer (some object) before { byObject := before.byObject.erase object } ↔ owner = peer := by
  constructor
  · intro h
    exact h.released object owner howner (AList.lookup_erase _ _)
  · rintro rfl
    refine ⟨fun other hother => ?_, fun other owner' hafter => ?_, fun other owner' hbefore hnone => ?_⟩
    · have hne : other ≠ object := fun heq => hother (heq ▸ rfl)
      rw [Dict.lookup_erase, if_neg hne]
    · rw [Dict.lookup_erase] at hafter
      split at hafter
      next => cases hafter
      next => exact .inl hafter
    · rw [Dict.lookup_erase] at hnone
      split at hnone
      next heq =>
        rw [heq, howner] at hbefore
        exact (Option.some.inj hbefore).symm
      next =>
        rw [hbefore] at hnone
        cases hnone

lemma requestNewOrExisting_iff {requester : PeerId} :
    OwnChange peer (some object) before (before.requestNewOrExisting object requester).2 ↔
      object ∈ before.byObject ∨ requester = peer := by
  unfold OwnershipState.requestNewOrExisting
  cases hlookup : before.byObject.lookup object with
  | some owner => exact iff_of_true (refl peer _ before) (.inl (Dict.mem_iff_lookup.mpr ⟨owner, hlookup⟩))
  | none =>
    dsimp only
    rw [insert_iff, hlookup, or_iff_right nofun, or_iff_right (Dict.notMem_iff_lookup.mpr hlookup)]

lemma removeIfOwner_iff {owner : PeerId} :
    OwnChange peer (some object) before (before.removeIfOwner object owner).2 ↔
      (before.byObject.lookup object = some owner → owner = peer) := by
  unfold OwnershipState.removeIfOwner
  split
  next howner => rw [erase_iff howner, imp_iff_right howner]
  next hother => exact iff_of_true (refl peer _ before) fun howner => absurd howner hother

end OwnChange

lemma channel_of_store_ownership {channel : UInt8} (h : (armOf channel).store = .ownership) :
    channel = channels.getCurrentOwnerRequest ∨ channel = channels.changeCurrentOwnerRequest ∨
      channel = channels.removeCurrentOwnerRequest := by
  revert h
  fun_cases armOf channel
  case case11 hchannel => exact fun _ => .inl hchannel
  case case12 hchannel => exact fun _ => .inr (.inl hchannel)
  case case13 hchannel => exact fun _ => .inr (.inr hchannel)
  all_goals
    intro h
    cases h

namespace ServerState

variable {s : ServerState} {peer : PeerId} {channel : UInt8} {payload : Bytes}

/-- The object the message is about. -/
def namedObject (payload : Bytes) : Option String :=
  (parse OwnershipTransferMessage.deserialize payload).map (·.ownershipId)

/-- The message asks for the peer itself, where that matters: it names the peer as the owner of what nobody owns yet,
or as the owner of what is to be given up. -/
def AsksForItself (peer : PeerId) (channel : UInt8) (payload : Bytes) (s : ServerState) : Prop :=
  ∀ request, parse OwnershipTransferMessage.deserialize payload = some request →
    (channel = channels.getCurrentOwnerRequest →
      request.ownershipId ∈ s.ownership.byObject ∨ request.playerId = peer) ∧
    (channel = channels.removeCurrentOwnerRequest →
      s.ownership.byObject.lookup request.ownershipId = some request.playerId → request.playerId = peer)

/-- What a message that can be read does, and one that cannot. -/
lemma ownChange_onParsed_iff {handle : OwnershipTransferMessage → ServerState} {Q : OwnershipTransferMessage → Prop}
    (h : ∀ request, OwnChange peer (some request.ownershipId) s.ownership (handle request).ownership ↔ Q request) :
    OwnChange peer (namedObject payload) s.ownership
        (s.onParsed OwnershipTransferMessage.deserialize payload handle).ownership ↔
      ∀ request, parse OwnershipTransferMessage.deserialize payload = some request → Q request := by
  unfold onParsed namedObject
  cases parse OwnershipTransferMessage.deserialize payload with
  | none => exact iff_of_true (.refl peer _ s.ownership) nofun
  | some request =>
    simp only [Option.some.injEq, forall_eq']
    exact h request

lemma ownChange_getCurrentOwner_iff :
    OwnChange peer (namedObject payload) s.ownership (s.handleGetCurrentOwnerRequest peer payload).ownership ↔
      ∀ request, parse OwnershipTransferMessage.deserialize payload = some request →
        request.ownershipId ∈ s.ownership.byObject ∨ request.playerId = peer :=
  ownChange_onParsed_iff fun _ => OwnChange.requestNewOrExisting_iff

/-- This handler goes by the sender. -/
lemma ownChange_changeCurrentOwner :
    OwnChange peer (namedObject payload) s.ownership (s.handleChangeCurrentOwnerRequest peer payload).ownership :=
  (ownChange_onParsed_iff fun _ => iff_true_intro (OwnChange.insert_iff.mpr (.inr rfl))).mpr fun _ _ => trivial

lemma ownChange_removeCurrentOwner_iff :
    OwnChange peer (namedObject payload) s.ownership (s.handleRemoveCurrentOwnerRequest payload).ownership ↔
      ∀ request, parse OwnershipTransferMessage.deserialize payload = some request →
        s.ownership.byObject.lookup request.ownershipId = some request.playerId → request.playerId = peer := by
  refine ownChange_onParsed_iff fun request => ?_
  rw [← OwnChange.removeIfOwner_iff]
  dsimp only
  split
  next => exact Iff.rfl
  next => exact Iff.rfl

/-- **Ownership is for oneself**: what a message does to the owners is the peer's own affair exactly when the message
asks for the peer itself. -/
theorem ownChange_handleMessage_iff (env : Outside) (peer : PeerId) (channel : UInt8) (delivery : DeliveryMethod)
    (payload : Bytes) (s : ServerState) :
    OwnChange peer (namedObject payload) s.ownership (s.handleMessage env peer channel delivery payload).ownership ↔
      s.AsksForItself peer channel payload := by
  unfold AsksForItself
  by_cases hstore : (armOf channel).store = .ownership
  · rcases channel_of_store_ownership hstore with rfl | rfl | rfl
    · refine ownChange_getCurrentOwner_iff.trans (forall₂_congr fun request _ => ?_)
      exact ⟨fun h => ⟨fun _ => h, fun heq => absurd heq (by decide)⟩, fun h => h.1 rfl⟩
    · refine iff_of_true ownChange_changeCurrentOwner fun request _ => ⟨fun heq => ?_, fun heq => ?_⟩
      · exact absurd heq (by decide)
      · exact absurd heq (by decide)
    · refine ownChange_removeCurrentOwner_iff.trans (forall₂_congr fun request _ => ?_)
      exact ⟨fun h => ⟨fun heq => absurd heq (by decide), fun _ => h⟩, fun h => h.2 rfl⟩
  · have hframe := (writes_handleArm env peer payload s channel delivery (armOf channel)).frame.ownership hstore
    rw [handleMessage, hframe]
    refine iff_of_true (.refl peer _ s.ownership) fun request _ => ⟨?_, ?_⟩
    · rintro rfl
      exact absurd rfl hstore
    · rintro rfl
      exact absurd rfl hstore

/-- Two clients come in, and the second takes an object. -/
def ballTaken : List Label :=
  [handles (.connectionRequest (requestOf 1 "a")), handles (.connectionRequest (requestOf 2 "b")),
    messageOf 1 channels.changeCurrentOwnerRequest (OwnershipTransferMessage.serialize ⟨1, "ball"⟩)]

/-- The first one gives up what the second owns. -/
def ballRelease : Bytes := OwnershipTransferMessage.serialize ⟨1, "ball"⟩

theorem ownership_released_by_other : ∃ ts s, Run Steps (.start openConfig) ts s ∧
    ¬ OwnChange 0 (namedObject ballRelease) s.ownership
      (s.handleMessage plainOutside 0 channels.removeCurrentOwnerRequest .reliableOrdered ballRelease).ownership := by
  let s := ballTaken.foldl next (.start openConfig)
  refine ⟨_, s, run_of_enabled ballTaken (by decide +kernel), fun h => ?_⟩
  have hbefore : s.ownership.byObject.lookup "ball" = some 1 := by decide +kernel
  have hafter : (s.handleMessage plainOutside 0 channels.removeCurrentOwnerRequest .reliableOrdered
    ballRelease).ownership.byObject.lookup "ball" = none := by decide +kernel
  exact absurd (h.released "ball" 1 hbefore hafter) (by decide)

end ServerState
end BasisRust.Core
