import BasisRust.Core.System
import BasisRust.P2p.Offload

/-!
# Cleaning up after a disconnect

`handle_disconnect` goes through the stores and takes the peer out of each.  It erases the peer's own entry
of `voice_recipients`, but not the peer from the lists of others, and it ends the sessions that are listed
under the peer.  So nothing of the peer is left exactly when nobody else speaks to it and all its sessions
are listed, as they are in every state the broker reaches.
-/

namespace BasisRust.Core

open Lib Protocol Transport
open Avatar P2p Resources

namespace ServerState

/-- The peer occurs nowhere in what is kept per peer. -/
structure Forgotten (peer : PeerId) (s : ServerState) : Prop where
  authenticatedPeers : peer ∉ s.authenticatedPeers
  pendingIdentity : peer ∉ s.pendingIdentity
  voiceRecipients : peer ∉ s.voiceRecipients
  recipients : ∀ other recipients, s.voiceRecipients.lookup other = some recipients → peer ∉ recipients
  ownership : ∀ object, s.ownership.byObject.lookup object ≠ some peer
  contentShare : ∀ key sphere, s.contentShare.spheres.lookup key = some sphere → sphere.playerId ≠ peer
  pip : peer ∉ s.pip.states
  avatarSync : ¬ s.avatarSync.Knows peer
  sessions : ∀ token session, s.p2pBroker.sessions.lookup token = some session → ¬ session.Involves peer

/-- Nobody else speaks to the peer. -/
def Unheard (peer : PeerId) (s : ServerState) : Prop :=
  ∀ other recipients, other ≠ peer → s.voiceRecipients.lookup other = some recipients → peer ∉ recipients

/-- All sessions of the peer are listed under it. -/
def SessionsListed (peer : PeerId) (s : ServerState) : Prop :=
  ∀ token session, s.p2pBroker.sessions.lookup token = some session → session.Involves peer →
    s.p2pBroker.Tracked peer token

section Departed

variable {peer : PeerId} {s s' : ServerState} (h : Departed peer s s')

include h

lemma Departed.lookup_owner (object : String) : s'.ownership.byObject.lookup object ≠ some peer := by
  rcases h.ownership with howner | howner
  · rw [howner]
    exact OwnershipState.lookup_removePlayer peer s.ownership object
  · rw [howner]
    exact fun hnone => by cases hnone

lemma Departed.playerId_sphere {key : String} {sphere : ServerContentShareMessage}
    (hsphere : s'.contentShare.spheres.lookup key = some sphere) : sphere.playerId ≠ peer := by
  rcases h.contentShare with hshare | hshare
  · rw [hshare] at hsphere
    exact ContentShareState.playerId_removePlayer hsphere
  · rw [hshare] at hsphere
    cases hsphere

lemma Departed.notMem_pip : peer ∉ s'.pip.states := by
  rcases h.pip with hpip | hpip
  · rw [hpip]
    exact PipState.notMem_removePlayer peer s.pip
  · rw [hpip]
    exact AList.notMem_empty peer

lemma Departed.recipients_iff :
    (∀ other recipients, s'.voiceRecipients.lookup other = some recipients → peer ∉ recipients) ↔ s.Unheard peer := by
  rw [h.voiceRecipients]
  constructor
  · intro hall other recipients hne hlookup
    refine hall other recipients ?_
    rw [Dict.lookup_erase, if_neg hne, hlookup]
  · intro hall other recipients hlookup
    rw [Dict.lookup_erase, Option.ite_none_left_eq_some] at hlookup
    exact hall other recipients hlookup.1 hlookup.2

lemma Departed.sessions_iff :
    (∀ token session, s'.p2pBroker.sessions.lookup token = some session → ¬ session.Involves peer) ↔
      s.SessionsListed peer := by
  rw [h.p2pBroker]
  constructor
  · intro hall token session hlookup hinvolves
    by_contra hnot
    exact hall token session (lookup_removePeer.mpr ⟨hnot, hlookup⟩) hinvolves
  · intro hall token session hlookup hinvolves
    obtain ⟨hnot, hlookup⟩ := lookup_removePeer.mp hlookup
    exact hnot (hall token session hlookup hinvolves)

end Departed

/-- The other stores are cleaned up in any case. -/
lemma Departed.forgotten_iff {peer : PeerId} {s s' : ServerState} (h : Departed peer s s') :
    s'.Forgotten peer ↔ s.Unheard peer ∧ s.SessionsListed peer := by
  constructor
  · intro hforgotten
    exact ⟨h.recipients_iff.mp hforgotten.recipients, h.sessions_iff.mp hforgotten.sessions⟩
  · rintro ⟨hunheard, hlisted⟩
    exact
      { authenticatedPeers := fun hmem => (AList.mem_erase.mp (h.authenticatedPeers ▸ hmem)).1 rfl
        pendingIdentity := fun hmem => (AList.mem_erase.mp (h.pendingIdentity ▸ hmem)).1 rfl
        voiceRecipients := fun hmem => (AList.mem_erase.mp (h.voiceRecipients ▸ hmem)).1 rfl
        recipients := h.recipients_iff.mpr hunheard
        ownership := h.lookup_owner
        contentShare := fun _ _ => h.playerId_sphere
        pip := h.notMem_pip
        avatarSync := h.avatarSync ▸ s.avatarSync.not_knows_removePlayer peer
        sessions := h.sessions_iff.mpr hlisted }

/-! ### The broker's index -/

/-- The broker only ever takes steps of its own. -/
lemma p2pBroker_next (s : ServerState) (l : Label) :
    (s.next l).p2pBroker = s.p2pBroker ∨ ∃ step : P2p.Step, (s.next l).p2pBroker = (step.apply s.p2pBroker).1 := by
  cases l with
  | transport => exact .inl rfl
  | handle env event =>
    cases event with
    | connectionRequest request =>
      obtain ⟨_, _, _, _, _, _, h⟩ := exists_handleConnectionRequest env request s
      refine .inl ?_
      rw [next, handleEvent, h]
      rfl
    | peerDisconnected peer _ => exact .inr ⟨.removePeer peer, (departed_handleDisconnect env peer s).p2pBroker⟩
    | message peer channel delivery payload =>
      have hframe := (writes_handleArm env peer payload s channel delivery (armOf channel)).frame
      cases harm : armOf channel with
      | p2p =>
        refine .inr ⟨.signal (fun id => id ∈ s.authenticatedPeers) peer payload, ?_⟩
        rw [next, handleEvent, handleMessage, harm]
        rfl
      | _ =>
        rw [harm] at hframe
        refine .inl ?_
        rw [next, handleEvent, handleMessage, harm]
        exact hframe.p2pBroker nofun
    | natIntroductionRequest remoteAddr localAddr token =>
      rw [next, handleEvent, handleNatIntroductionRequest]
      split
      next => exact .inr ⟨.natIntroductionRequest localAddr remoteAddr token, rfl⟩
      next => exact .inl rfl
    | unconnectedRequest => exact .inl rfl
    | networkError => exact .inl rfl
    | peerConnected => exact .inl rfl

/-- In every state that is reached the sessions are listed under both participants. -/
theorem indexed_of_run {config : ServerConfig} {ts : List (Transition ServerState Label)} {s : ServerState}
    (hrun : Run Steps (.start config) ts s) : s.p2pBroker.Indexed := by
  refine (Run.invariant (I := fun s => s.p2pBroker.Indexed) indexed_init ?_ hrun).2
  rintro s l t ⟨-, rfl⟩ h
  rcases p2pBroker_next s l with heq | ⟨step, heq⟩
  · rw [heq]
    exact h
  · rw [heq]
    exact step.indexed_apply h

/-! ### What a disconnect forgets -/

/-- **What a disconnect forgets.**  Nothing of the peer is left exactly when it is in nobody else's list of
listeners and its sessions are all listed under it. -/
theorem forgotten_handleDisconnect_iff (env : Outside) (peer : PeerId) (s : ServerState) :
    (s.handleDisconnect env peer).Forgotten peer ↔ s.Unheard peer ∧ s.SessionsListed peer :=
  (departed_handleDisconnect env peer s).forgotten_iff

/-- In a state that is reached, only the lists of listeners are left to ask for. -/
theorem forgotten_iff_of_run {config : ServerConfig} {ts : List (Transition ServerState Label)} {s : ServerState}
    (hrun : Run Steps (.start config) ts s) (env : Outside) (peer : PeerId) :
    (s.handleDisconnect env peer).Forgotten peer ↔ s.Unheard peer := by
  rw [(departed_handleDisconnect env peer s).forgotten_iff]
  exact and_iff_left fun token session => indexed_of_run hrun token session peer

/-! ### A listener who leaves -/

/-- Two players come in, player 1 speaks to player 0, and the connection of player 0 times out. -/
def listenerLeaving : List Label :=
  [handles (.connectionRequest (requestOf 1 "a")), handles (.connectionRequest (requestOf 2 "b")),
    messageOf 1 channels.audioRecipients [1, 0, 0], .transport (.timeout 0, {})]

/-- Player 1 goes on speaking to the id of player 0. -/
theorem not_forgotten_listener : ∃ ts s, Run Steps (.start openConfig) ts s ∧ 0 ∈ s.authenticatedPeers ∧
    0 ∉ s.transport.peers ∧ ¬ (s.handleDisconnect plainOutside 0).Forgotten 0 := by
  refine ⟨_, _, run_of_enabled listenerLeaving (by decide +kernel), by decide +kernel, by decide +kernel, ?_⟩
  intro h
  have hlist : ((listenerLeaving.foldl next (.start openConfig)).handleDisconnect plainOutside
    0).voiceRecipients.lookup 1 = some [0] := by decide +kernel
  exact h.recipients 1 [0] hlist List.mem_cons_self

end ServerState
end BasisRust.Core
