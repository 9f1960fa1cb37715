import BasisRust.P2p.Introduction

/-!
# A peer leaves the broker

`remove_peer` goes through the tokens that are listed under the peer.  A token may have been taken over by others
since, so the list has more than the peer's sessions; it never has less, and that is what ends every session of the
peer and tells everyone on its other side.
-/

namespace BasisRust.P2p

open BasisRust.Lib BasisRust.Protocol BasisRust.Transport

/-! ### Two sides -/

/-- Nobody has a session with oneself. -/
def P2pBroker.TwoSided (broker : P2pBroker) : Prop :=
  ∀ token session, broker.sessions.lookup token = some session → session.initiatorPeerId ≠ session.targetPeerId

lemma Moves.participants {step : Step} {token : String} {session session' : P2pSession}
    (h : Moves step token session session') :
    session'.initiatorPeerId = session.initiatorPeerId ∧ session'.targetPeerId = session.targetPeerId := by
  cases h with
  | entersB nat ready full state_ne =>
    unfold P2pBroker.enterEndpoints
    split
    · exact ⟨rfl, rfl⟩
    · exact ⟨rfl, rfl⟩
  | _ => exact ⟨rfl, rfl⟩

lemma twoSided_init : P2pBroker.TwoSided {} := fun _ _ hs => by cases hs

lemma twoSided_steps (s : P2pBroker) (step : Step) (t : P2pBroker) (hst : s.Steps step t) (h : s.TwoSided) :
    t.TwoSided := by
  rw [← hst]
  intro token session hs
  cases sessionStep_apply hs with
  | created request token_eq session_eq =>
    subst session_eq
    cases request with
    | intro parsed token_ne other_ne authenticated => exact other_ne.symm
  | moved stored startsNone moves =>
    rw [moves.participants.1, moves.participants.2]
    exact h token _ stored

/-! ### What `remove_peer` sends -/

section

variable {peer : PeerId} {token : String} {session : P2pSession}

/-- The participant `remove_peer` takes for the other one. -/
def P2pSession.otherSide (session : P2pSession) (peer : PeerId) : PeerId :=
  if session.initiatorPeerId = peer then session.targetPeerId else session.initiatorPeerId

lemma involves_otherSide (hsides : session.initiatorPeerId ≠ session.targetPeerId) :
    session.Involves (session.otherSide peer) ∧ session.otherSide peer ≠ peer := by
  unfold P2pSession.otherSide
  split
  next hinitiator => exact ⟨.inr rfl, fun htarget => hsides (hinitiator.trans htarget.symm)⟩
  next hinitiator => exact ⟨.inl rfl, hinitiator⟩

lemma prefix_removePeerToken (s : P2pBroker × List Outgoing) (token : String) :
    s.2 <+: (P2pBroker.removePeerToken peer s token).2 := by
  unfold P2pBroker.removePeerToken
  split
  · exact List.prefix_rfl
  · exact List.prefix_append _ _

lemma prefix_removePeerTokens (tokens : List String) (s : P2pBroker × List Outgoing) :
    s.2 <+: (tokens.foldl (P2pBroker.removePeerToken peer) s).2 := by
  induction tokens generalizing s with
  | nil => exact List.prefix_rfl
  | cons first tokens ih => exact (prefix_removePeerToken s first).trans (ih _)

/-- The loop of `remove_peer` tells the other side of each session when it comes to its token. -/
lemma cancel_mem_removePeerTokens {tokens : List String} {s : P2pBroker × List Outgoing} (hmem : token ∈ tokens)
    (hs : s.1.sessions.lookup token = some session) :
    sendSub (session.otherSide peer) channels.p2pSubCancel token peer ∈
      (tokens.foldl (P2pBroker.removePeerToken peer) s).2 := by
  induction tokens generalizing s with
  | nil => cases hmem
  | cons first tokens ih =>
    rw [List.foldl_cons]
    by_cases hfirst : token = first
    · subst hfirst
      refine (prefix_removePeerTokens tokens _).subset ?_
      rw [P2pBroker.removePeerToken, hs]
      exact List.mem_append_right _ (List.mem_singleton_self _)
    · refine ih ((List.mem_cons.mp hmem).resolve_left hfirst) ?_
      rw [removePeerToken_fst, lookup_removeSession, if_neg hfirst, hs]

lemma cancel_mem_removePeer {broker : P2pBroker} (htracked : broker.Tracked peer token)
    (hs : broker.sessions.lookup token = some session) :
    sendSub (session.otherSide peer) channels.p2pSubCancel token peer ∈ (broker.removePeer peer).2 := by
  obtain ⟨tokens, htokens, hmem⟩ := htracked
  rw [P2pBroker.removePeer, htokens]
  exact cancel_mem_removePeerTokens (HashSet.mem_elems.mpr hmem) hs

end

/-- **Sessions are indexed under both participants** in every state of a run; so a peer that leaves takes all its
sessions with it, and the other participant of each is told. -/
theorem departure_ends_sessions {ts : List (Transition P2pBroker Step)} {broker : P2pBroker}
    (hrun : Run P2pBroker.Steps {} ts broker) :
    (∀ token session, broker.sessions.lookup token = some session →
      broker.Tracked session.initiatorPeerId token ∧ broker.Tracked session.targetPeerId token) ∧
    ∀ peer,
      (∀ token session, (broker.removePeer peer).1.sessions.lookup token = some session →
        session.initiatorPeerId ≠ peer ∧ session.targetPeerId ≠ peer) ∧
      ∀ token session, broker.sessions.lookup token = some session → session.Involves peer →
        ∃ other, session.Involves other ∧ other ≠ peer ∧
          sendSub other channels.p2pSubCancel token peer ∈ (broker.removePeer peer).2 := by
  have hindexed : broker.Indexed := (hrun.invariant indexed_init indexed_steps).2
  have hsides : broker.TwoSided := (hrun.invariant twoSided_init twoSided_steps).2
  refine ⟨fun token session hs => ⟨?_, ?_⟩, fun peer => ⟨fun token session hs => ?_, fun token session hs hpeer => ?_⟩⟩
  · exact hindexed token session _ hs (.inl rfl)
  · exact hindexed token session _ hs (.inr rfl)
  · have hgone := (removePeer_spec peer hindexed).2.2 token session hs
    exact ⟨fun heq => hgone (.inl heq.symm), fun heq => hgone (.inr heq.symm)⟩
  · obtain ⟨hother, hne⟩ := involves_otherSide (hsides token session hs)
    exact ⟨_, hother, hne, cancel_mem_removePeer (hindexed token session peer hs hpeer) hs⟩

/-- Peers 1 and 2 have a session under a token that peer 3 has used in vain; peer 2 leaves. -/
def takenOverSteps : List Step := [signal 3 channels.p2pSubRequest 4, signal 1 channels.p2pSubRequest 2]

theorem departure_ends_sessions_takenOver :
    let broker := takenOverSteps.foldl (fun broker step => (step.apply broker).1) {}
    ∃ other, other ≠ 2 ∧ sendSub other channels.p2pSubCancel "t" 2 ∈ (broker.removePeer 2).2 := by
  intro broker
  have hrun : Run P2pBroker.Steps {} _ broker := .of_trace _ takenOverSteps fun tr htr => (dst_of_mem_trace htr).symm
  have hsession : broker.sessions.lookup "t" = some { initiatorPeerId := 1, targetPeerId := 2 } := by decide +kernel
  obtain ⟨other, -, hne, hsent⟩ := ((departure_ends_sessions hrun).2 2).2 "t" _ hsession (.inr rfl)
  exact ⟨other, hne, hsent⟩

end BasisRust.P2p
