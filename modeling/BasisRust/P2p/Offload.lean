import BasisRust.Lib.Run
import BasisRust.P2p.Broker

/-!
# Offloaded pairs

When does every offloaded pair have a session whose two links are up?  Every handler but one takes a pair
out of `offloaded_pairs` with the session that put it in.  `handle_request` overwrites a session that is
stored under the same token and leaves the pair behind, so a pair loses its backing exactly when an
accepted request reuses the token of the only session that backs it.

Layer 1 is the three maps, layer 2 one handler, layer 3 a run.
-/

namespace BasisRust.P2p

open BasisRust.Lib BasisRust.Protocol BasisRust.Transport

/-! ### Pairs -/

lemma toNat_min_max (a b : PeerId) :
    (min a b).toNat = min a.toNat b.toNat ∧ (max a b).toNat = max a.toNat b.toNat := by
  change (if a ≤ b then a else b).toNat = _ ∧ (if a ≤ b then b else a).toNat = _
  split
  next h =>
    have h := UInt16.le_iff_toNat_le.mp h
    omega
  next h =>
    have h : ¬ a.toNat ≤ b.toNat := fun hle => h (UInt16.le_iff_toNat_le.mpr hle)
    omega

lemma toNat_packPair (a b : PeerId) :
    (packPair a b).toNat = min a.toNat b.toNat * 2 ^ 32 + max a.toNat b.toNat := by
  obtain ⟨hmin, hmax⟩ := toNat_min_max a b
  have ha := a.toNat_lt
  have hb := b.toNat_lt
  have h32 : (32 : UInt64).toNat % 64 = 32 := by decide
  have hor := Nat.two_pow_add_eq_or_of_lt (show max a.toNat b.toNat < 2 ^ 32 by omega) (min a.toNat b.toNat)
  rw [packPair, UInt64.toNat_or, UInt64.toNat_shiftLeft, UInt16.toNat_toUInt64, UInt16.toNat_toUInt64,
    hmin, hmax, h32, Nat.shiftLeft_eq, Nat.mod_eq_of_lt (by omega), Nat.mul_comm, ← hor]

/-- A key of `offloaded_pairs` names its two peers. -/
theorem packPair_eq_iff {a b c d : PeerId} :
    packPair a b = packPair c d ↔ (a = c ∧ b = d) ∨ (a = d ∧ b = c) := by
  rw [← UInt64.toNat_inj, toNat_packPair, toNat_packPair]
  simp only [← UInt16.toNat_inj]
  have ha := a.toNat_lt
  have hb := b.toNat_lt
  have hc := c.toNat_lt
  have hd := d.toNat_lt
  omega

/-! ### The invariants -/

namespace P2pSession

/-- The peer is one of the two participants. -/
def Involves (session : P2pSession) (peer : PeerId) : Prop :=
  peer = session.initiatorPeerId ∨ peer = session.targetPeerId

def pair (session : P2pSession) : UInt64 := packPair session.initiatorPeerId session.targetPeerId

/-- Both links are up, and the key is the session's pair. -/
structure Backs (session : P2pSession) (key : UInt64) : Prop where
  initiatorLinkUp : session.initiatorLinkUp = true
  targetLinkUp : session.targetLinkUp = true
  pair_eq : session.pair = key

end P2pSession

namespace P2pBroker

/-- The token is listed under the peer. -/
def Tracked (broker : P2pBroker) (peer : PeerId) (token : String) : Prop :=
  ∃ tokens, broker.peerSessions.lookup peer = some tokens ∧ token ∈ tokens

/-- Every offloaded pair has a session with both links up. -/
def Backed (broker : P2pBroker) : Prop :=
  ∀ key ∈ broker.offloadedPairs, ∃ token session,
    broker.sessions.lookup token = some session ∧ session.Backs key

/-- Every session is listed under both participants. -/
def Indexed (broker : P2pBroker) : Prop :=
  ∀ token session peer, broker.sessions.lookup token = some session → session.Involves peer →
    broker.Tracked peer token

/-- The token's session backs an offloaded pair, and no other session does. -/
def SoleBacking (broker : P2pBroker) (token : String) : Prop :=
  ∃ key ∈ broker.offloadedPairs, (∃ session, broker.sessions.lookup token = some session ∧
    session.Backs key) ∧
    ∀ token' session, broker.sessions.lookup token' = some session → session.Backs key → token' = token

end P2pBroker

/-- Both invariants survive. -/
structure Keeps (broker broker' : P2pBroker) : Prop where
  backed : broker.Backed → broker'.Backed
  indexed : broker.Indexed → broker'.Indexed

theorem Keeps.refl (broker : P2pBroker) : Keeps broker broker := ⟨id, id⟩

/-! ### Layer 1: the maps -/

section Maps

variable {broker : P2pBroker} {token : String} {session session' : P2pSession}

lemma tracked_trackPeerSession {peer peer' : PeerId} {token' : String} :
    (broker.trackPeerSession peer token).Tracked peer' token' ↔
      (peer' = peer ∧ token' = token) ∨ broker.Tracked peer' token' := by
  unfold P2pBroker.Tracked P2pBroker.trackPeerSession
  rw [Dict.lookup_insert]
  by_cases hpeer : peer' = peer
  · subst hpeer
    simp only [if_true, Option.some.injEq, exists_eq_left', HashSet.mem_insert, true_and]
    cases broker.peerSessions.lookup peer' <;> simp
  · rw [if_neg hpeer]
    simp only [hpeer, false_and, false_or]

lemma tracked_untrackPeerSession {peer peer' : PeerId} {token' : String} :
    (broker.untrackPeerSession peer token).Tracked peer' token' ↔
      broker.Tracked peer' token' ∧ ¬ (peer' = peer ∧ token' = token) := by
  unfold P2pBroker.Tracked P2pBroker.untrackPeerSession
  rw [Dict.lookup_modify]
  by_cases hpeer : peer' = peer
  · subst hpeer
    cases broker.peerSessions.lookup peer' <;> simp [and_comm]
  · rw [if_neg hpeer]
    simp only [hpeer, false_and, not_false_eq_true, and_true]

/-- A session replaced by one with the same participants. -/
lemma P2pBroker.Indexed.insert (h : broker.Indexed) (hs : broker.sessions.lookup token = some session)
    (hsame : ∀ peer, session'.Involves peer → session.Involves peer) (offloaded : HashSet UInt64) :
    P2pBroker.Indexed { broker with
      sessions := broker.sessions.insert token session', offloadedPairs := offloaded } := by
  intro token' t peer ht hpeer
  replace ht : (broker.sessions.insert token session').lookup token' = some t := ht
  rw [Dict.lookup_insert] at ht
  split at ht
  next htoken =>
    obtain rfl := Option.some.inj ht
    exact h token' session peer (htoken ▸ hs) (hsame peer hpeer)
  next => exact h token' t peer ht hpeer

/-- A session replaced by one that backs what it backed. -/
lemma P2pBroker.Backed.insert (h : broker.Backed) (hs : broker.sessions.lookup token = some session)
    (hbacks : ∀ key, session.Backs key → session'.Backs key) :
    P2pBroker.Backed { broker with sessions := broker.sessions.insert token session' } := by
  intro key hkey
  obtain ⟨token', t, ht, hback⟩ := h key hkey
  by_cases htoken : token' = token
  · subst htoken
    obtain rfl : session = t := Option.some.inj (hs.symm.trans ht)
    exact ⟨token', session', by rw [Dict.lookup_insert, if_pos rfl], hbacks key hback⟩
  · exact ⟨token', t, by rw [Dict.lookup_insert, if_neg htoken, ht], hback⟩

/-- A session replaced by one with the same participants and at least the same links. -/
lemma Keeps.insert (hs : broker.sessions.lookup token = some session)
    (hpeers : ∀ peer, session'.Involves peer → session.Involves peer)
    (hbacks : ∀ key, session.Backs key → session'.Backs key) :
    Keeps broker { broker with sessions := broker.sessions.insert token session' } :=
  ⟨fun h => h.insert hs hbacks, fun h => h.insert hs hpeers _⟩

/-- The session's pair taken out, and its session changed in any way: no other pair depends on it. -/
lemma P2pBroker.Backed.erase (h : broker.Backed) (hs : broker.sessions.lookup token = some session)
    {sessions : Dict String P2pSession}
    (hother : ∀ token', token' ≠ token → sessions.lookup token' = broker.sessions.lookup token')
    (tracked : Dict PeerId (HashSet String)) :
    P2pBroker.Backed
      { sessions, peerSessions := tracked, offloadedPairs := broker.offloadedPairs.erase session.pair } := by
  intro key hkey
  obtain ⟨hne, hkey⟩ := HashSet.mem_erase.mp hkey
  obtain ⟨token', t, ht, hback⟩ := h key hkey
  have htoken : token' ≠ token := by
    rintro rfl
    obtain rfl : session = t := Option.some.inj (hs.symm.trans ht)
    exact hne hback.pair_eq.symm
  exact ⟨token', t, (hother token' htoken).trans ht, hback⟩

/-! ### Layer 2: the handlers -/

lemma lookup_removeSession (token' : String) : (broker.removeSession token).sessions.lookup token' =
    if token' = token then none else broker.sessions.lookup token' := by
  unfold P2pBroker.removeSession
  split
  next hs =>
    split
    next h => rw [h, hs]
    next => rfl
  next session hs => exact Dict.lookup_erase _ _ _

lemma tracked_removeSession {peer : PeerId} {token' : String} (h : token' ≠ token)
    (htracked : broker.Tracked peer token') : (broker.removeSession token).Tracked peer token' := by
  unfold P2pBroker.removeSession
  split
  next => exact htracked
  next session hs =>
    refine tracked_untrackPeerSession.mpr ⟨tracked_untrackPeerSession.mpr ⟨htracked, ?_⟩, ?_⟩
    · exact fun heq => h heq.2
    · exact fun heq => h heq.2

theorem keeps_removeSession : Keeps broker (broker.removeSession token) := by
  constructor
  · intro h
    unfold P2pBroker.removeSession
    split
    next => exact h
    next session hs =>
      apply h.erase hs
      intro token' htoken
      exact (Dict.lookup_erase _ _ _).trans (if_neg htoken)
  · intro h token' session peer hs hpeer
    rw [lookup_removeSession, Option.ite_none_left_eq_some] at hs
    exact tracked_removeSession hs.1 (h token' session peer hs.2 hpeer)

theorem keeps_handleAccept (sender : PeerId) (message : BasisP2PSignalMessage) :
    Keeps broker (broker.handleAccept sender message).1 := by
  unfold P2pBroker.handleAccept
  split
  next => exact .refl broker
  next session hs =>
    split
    next => exact .refl broker
    next =>
      apply Keeps.insert hs
      · exact fun peer hp => hp
      · exact fun key hb => ⟨hb.1, hb.2, hb.3⟩

theorem keeps_forwardAndDrop (sender : PeerId) (message : BasisP2PSignalMessage) (sub : UInt8)
    (dropSession : Bool) : Keeps broker (broker.forwardAndDrop sender message sub dropSession).1 := by
  unfold P2pBroker.forwardAndDrop
  dsimp only
  split
  next => exact keeps_removeSession
  next => exact .refl broker

theorem keeps_handleLinkLost (sender : PeerId) (message : BasisP2PSignalMessage) :
    Keeps broker (broker.handleLinkLost sender message).1 := by
  unfold P2pBroker.handleLinkLost P2pBroker.forwardAndDrop
  dsimp only
  rw [if_neg (by simp)]
  split
  next => exact .refl broker
  next session hs =>
    constructor
    · intro h
      apply h.erase hs
      intro token' htoken
      exact (Dict.lookup_insert _ _ _ _).trans (if_neg htoken)
    · intro h
      apply h.insert hs
      exact fun peer hp => hp

lemma linkUp_eq_some {sender : PeerId} (h : P2pBroker.linkUp sender session = some session') :
    session'.pair = session.pair ∧ (∀ peer, session'.Involves peer → session.Involves peer) ∧
      ∀ key, session.Backs key → session'.Backs key := by
  unfold P2pBroker.linkUp at h
  split at h
  next =>
    obtain rfl := Option.some.inj h
    exact ⟨rfl, fun _ => id, fun key hb => ⟨rfl, hb.2, hb.3⟩⟩
  next =>
    split at h
    next =>
      obtain rfl := Option.some.inj h
      exact ⟨rfl, fun _ => id, fun key hb => ⟨hb.1, rfl, hb.3⟩⟩
    next => cases h

theorem keeps_handleLinkUp (sender : PeerId) (message : BasisP2PSignalMessage) :
    Keeps broker (broker.handleLinkUp sender message) := by
  unfold P2pBroker.handleLinkUp
  split
  next => exact .refl broker
  next session' hsession =>
    obtain ⟨session, hs, hup⟩ := Option.bind_eq_some_iff.mp hsession
    obtain ⟨-, hinvolves, hbacks⟩ := linkUp_eq_some hup
    dsimp only
    split
    next hboth =>
      refine ⟨fun h key hkey => ?_, fun h => h.insert hs hinvolves _⟩
      rcases HashSet.mem_insert.mp hkey with rfl | hkey
      · exact ⟨message.sessionToken, session', by rw [Dict.lookup_insert, if_pos rfl],
          ⟨hboth.1, hboth.2, rfl⟩⟩
      · exact h.insert hs hbacks key hkey
    next => exact .insert hs hinvolves hbacks

lemma enterEndpoints_same (localAddr remoteAddr : SocketAddr) (session : P2pSession) :
    let session' := P2pBroker.enterEndpoints localAddr remoteAddr session
    (∀ peer, session'.Involves peer → session.Involves peer) ∧
      ∀ key, session.Backs key → session'.Backs key := by
  unfold P2pBroker.enterEndpoints
  split
  next => exact ⟨fun peer hp => hp, fun key hb => ⟨hb.1, hb.2, hb.3⟩⟩
  next => exact ⟨fun peer hp => hp, fun key hb => hb⟩

theorem keeps_handleNatIntroductionRequest (localAddr remoteAddr : SocketAddr) (token : String) :
    Keeps broker (broker.handleNatIntroductionRequest localAddr remoteAddr token).1 := by
  unfold P2pBroker.handleNatIntroductionRequest
  -- the endpoints and the state change, the participants and the links do not
  split
  next => exact .refl broker
  next =>
    split
    next => exact .refl broker
    next session hs =>
      split
      next => exact .refl broker
      next =>
        split
        next =>
          apply Keeps.insert hs
          · exact fun peer hp => hp
          · exact fun key hb => ⟨hb.1, hb.2, hb.3⟩
        next =>
          obtain ⟨hpeers, hbacks⟩ := enterEndpoints_same localAddr remoteAddr session
          dsimp only
          split
          next =>
            apply Keeps.insert hs
            · exact hpeers
            · exact fun key hb => ⟨(hbacks key hb).1, (hbacks key hb).2, (hbacks key hb).3⟩
          next => exact .insert hs hpeers hbacks

/-- While `remove_peer` works on its list, the sessions of the peer are those whose token is still to
come. -/
structure Leaving (peer : PeerId) (tokens : List String) (broker : P2pBroker) : Prop where
  others : ∀ token session other, broker.sessions.lookup token = some session → session.Involves other →
    other ≠ peer → broker.Tracked other token
  own : ∀ token session, broker.sessions.lookup token = some session → session.Involves peer →
    token ∈ tokens

lemma removePeerToken_fst (peer : PeerId) (s : P2pBroker × List Outgoing) (token : String) :
    (P2pBroker.removePeerToken peer s token).1 = s.1.removeSession token := by
  unfold P2pBroker.removePeerToken P2pBroker.removeSession
  cases s.1.sessions.lookup token with
  | none => rfl
  | some session => rfl

lemma Leaving.removeSession {peer : PeerId} {tokens : List String}
    (h : Leaving peer (token :: tokens) broker) : Leaving peer tokens (broker.removeSession token) := by
  constructor
  · intro token' session other hs hother hne
    rw [lookup_removeSession, Option.ite_none_left_eq_some] at hs
    exact tracked_removeSession hs.1 (h.others token' session other hs.2 hother hne)
  · intro token' session hs hpeer
    rw [lookup_removeSession, Option.ite_none_left_eq_some] at hs
    exact (List.mem_cons.mp (h.own token' session hs.2 hpeer)).resolve_left hs.1

/-- The loop of `remove_peer`. -/
lemma Leaving.foldl {peer : PeerId} (tokens : List String) : ∀ {s : P2pBroker × List Outgoing},
    Leaving peer tokens s.1 → let t := tokens.foldl (P2pBroker.removePeerToken peer) s
      Leaving peer [] t.1 ∧ (s.1.Backed → t.1.Backed) := by
  induction tokens with
  | nil => exact fun h => ⟨h, id⟩
  | cons token tokens ih =>
    intro s h
    rw [List.foldl_cons]
    have hstep := h.removeSession
    rw [← removePeerToken_fst] at hstep
    obtain ⟨hleft, hbacked⟩ := ih hstep
    refine ⟨hleft, fun hb => hbacked ?_⟩
    rw [removePeerToken_fst]
    exact keeps_removeSession.backed hb

/-- After `remove_peer` no session involves the peer. -/
theorem removePeer_spec (peer : PeerId) (h : broker.Indexed) :
    let broker' := (broker.removePeer peer).1
    broker'.Indexed ∧ (broker.Backed → broker'.Backed) ∧
      ∀ token session, broker'.sessions.lookup token = some session → ¬ session.Involves peer := by
  unfold P2pBroker.removePeer
  split
  next hnone =>
    refine ⟨h, id, fun token session hs hpeer => ?_⟩
    obtain ⟨tokens, htokens, -⟩ := h token session peer hs hpeer
    rw [hnone] at htokens
    cases htokens
  next tokens htokens =>
    have hleaving : Leaving peer tokens.elems
        { broker with peerSessions := broker.peerSessions.erase peer } := by
      constructor
      · intro token session other hs hother hne
        obtain ⟨tokens', htokens', hmem⟩ := h token session other hs hother
        exact ⟨tokens', by rw [Dict.lookup_erase, if_neg hne, htokens'], hmem⟩
      · intro token session hs hpeer
        obtain ⟨tokens', htokens', hmem⟩ := h token session peer hs hpeer
        obtain rfl := Option.some.inj (htokens.symm.trans htokens')
        exact hmem
    obtain ⟨hleft, hbacked⟩ := Leaving.foldl tokens.elems (s := (_, [])) hleaving
    have hgone (token : String) (session : P2pSession) := fun hs hpeer =>
      List.not_mem_nil (hleft.own token session hs hpeer)
    refine ⟨fun token session other hs hother => ?_, hbacked, hgone⟩
    refine hleft.others token session other hs hother fun heq => ?_
    exact hgone token session hs (heq ▸ hother)

lemma lookup_removePeerTokens (peer : PeerId) (tokens : List String) (s : P2pBroker × List Outgoing)
    (token : String) : (tokens.foldl (P2pBroker.removePeerToken peer) s).1.sessions.lookup token =
      if token ∈ tokens then none else s.1.sessions.lookup token := by
  induction tokens generalizing s with
  | nil => rfl
  | cons first tokens ih =>
    rw [List.foldl_cons, ih, removePeerToken_fst, lookup_removeSession]
    by_cases hfirst : token = first
    · rw [if_pos hfirst, if_pos (List.mem_cons.mpr (.inl hfirst))]
      exact ite_self none
    · rw [if_neg hfirst]
      simp only [List.mem_cons, hfirst, false_or]

/-- `remove_peer` ends the sessions that are listed under the peer. -/
theorem lookup_removePeer {peer : PeerId} {session : P2pSession} :
    (broker.removePeer peer).1.sessions.lookup token = some session ↔
      ¬ broker.Tracked peer token ∧ broker.sessions.lookup token = some session := by
  unfold P2pBroker.removePeer P2pBroker.Tracked
  cases htokens : broker.peerSessions.lookup peer with
  | none => simp
  | some tokens =>
    dsimp only
    rw [lookup_removePeerTokens, Option.ite_none_left_eq_some]
    simp only [Option.some.injEq, exists_eq_left', HashSet.mem_elems]

/-- What an accepted request does to the maps. -/
def P2pBroker.startSession (sender : PeerId) (message : BasisP2PSignalMessage) (broker : P2pBroker) :
    P2pBroker :=
  (P2pBroker.trackPeerSession message.otherPlayerId message.sessionToken
    (P2pBroker.trackPeerSession sender message.sessionToken
      { broker with
        sessions := broker.sessions.insert message.sessionToken
          { initiatorPeerId := sender, targetPeerId := message.otherPlayerId } }))

lemma indexed_startSession (sender : PeerId) (message : BasisP2PSignalMessage) (h : broker.Indexed) :
    (broker.startSession sender message).Indexed := by
  intro token session peer hs hpeer
  replace hs : (broker.sessions.insert _ _).lookup token = some session := hs
  rw [P2pBroker.startSession, tracked_trackPeerSession, tracked_trackPeerSession]
  rw [Dict.lookup_insert] at hs
  split at hs
  next htoken =>
    obtain rfl := Option.some.inj hs
    rcases hpeer with rfl | rfl
    · exact .inr (.inl ⟨rfl, htoken⟩)
    · exact .inl ⟨rfl, htoken⟩
  next => exact .inr (.inr (h token session peer hs hpeer))

/-- A new session backs nothing yet, so the pairs that keep a backing are those with another one. -/
theorem backed_startSession_iff (sender : PeerId) (message : BasisP2PSignalMessage) (h : broker.Backed) :
    (broker.startSession sender message).Backed ↔ ¬ broker.SoleBacking message.sessionToken := by
  have hlookup (token : String) : (broker.startSession sender message).sessions.lookup token =
      if token = message.sessionToken then
        some { initiatorPeerId := sender, targetPeerId := message.otherPlayerId }
      else broker.sessions.lookup token := Dict.lookup_insert _ _ _ _
  constructor
  · rintro hafter ⟨key, hkey, -, hsole⟩
    obtain ⟨token, session, hs, hback⟩ := hafter key hkey
    rw [hlookup] at hs
    split at hs
    next =>
      obtain rfl := Option.some.inj hs
      exact Bool.false_ne_true hback.initiatorLinkUp
    next htoken => exact htoken (hsole token session hs hback)
  · intro hsole key hkey
    obtain ⟨token, session, hs, hback⟩ := h key hkey
    by_cases hother : ∃ token' session', broker.sessions.lookup token' = some session' ∧
        session'.Backs key ∧ token' ≠ message.sessionToken
    · obtain ⟨token', session', hs', hback', hne⟩ := hother
      exact ⟨token', session', by rw [hlookup, if_neg hne, hs'], hback'⟩
    · have hall (token' : String) (session' : P2pSession) (hs' : broker.sessions.lookup token' = some session')
          (hback' : session'.Backs key) : token' = message.sessionToken := by
        by_contra hne
        exact hother ⟨token', session', hs', hback', hne⟩
      obtain rfl := hall token session hs hback
      exact absurd ⟨key, hkey, ⟨session, hs, hback⟩, hall⟩ hsole

end Maps

/-! ### Layer 3: steps and runs -/

namespace Step

/-- The step is a request the broker accepts. -/
inductive Requests : Step → PeerId → BasisP2PSignalMessage → Prop
  | intro {isAuthenticated sender rest message reader}
      (parsed : BasisP2PSignalMessage.deserialize rest = .ok message reader)
      (token_ne : message.sessionToken ≠ "") (other_ne : message.otherPlayerId ≠ sender)
      (authenticated : isAuthenticated message.otherPlayerId = true) :
      Requests (.signal isAuthenticated sender (channels.p2pSubRequest :: rest)) sender message

/-- The step is an accepted request that reuses the token of the only session backing some offloaded
pair. -/
def OrphansPair (broker : P2pBroker) (step : Step) : Prop :=
  ∃ sender message, step.Requests sender message ∧ broker.SoleBacking message.sessionToken

/-- What a step does: an accepted request starts a session, anything else keeps the invariants. -/
theorem apply_cases (broker : P2pBroker) (hindexed : broker.Indexed) (step : Step) :
    (∃ sender message, step.Requests sender message ∧
      (step.apply broker).1 = broker.startSession sender message) ∨
    ((∀ sender message, ¬ step.Requests sender message) ∧ Keeps broker (step.apply broker).1) := by
  cases step with
  | natIntroductionRequest localAddr remoteAddr token =>
    refine .inr ⟨fun sender message h => ?_, keeps_handleNatIntroductionRequest _ _ _⟩
    cases h
  | removePeer peer =>
    obtain ⟨hindexed', hbacked, -⟩ := removePeer_spec peer hindexed
    refine .inr ⟨fun sender message h => ?_, hbacked, fun _ => hindexed'⟩
    cases h
  | signal isAuthenticated sender payload =>
    cases payload with
    | nil =>
      refine .inr ⟨fun sender message h => ?_, .refl broker⟩
      cases h
    | cons sub rest =>
      rw [apply, P2pBroker.handleSignal]
      cases hparse : BasisP2PSignalMessage.deserialize rest with
      | error e r =>
        refine .inr ⟨?_, .refl broker⟩
        rintro sender message ⟨hparse'⟩
        rw [hparse] at hparse'
        cases hparse'
      | ok message r =>
        dsimp only
        by_cases hsub : sub = channels.p2pSubRequest
        · subst hsub
          rw [if_pos rfl, P2pBroker.handleRequest]
          by_cases hrefused : message.sessionToken = "" ∨ message.otherPlayerId = sender
          · rw [if_pos hrefused]
            refine .inr ⟨?_, .refl broker⟩
            rintro _ _ ⟨hparse', htoken, hother⟩
            rw [hparse] at hparse'
            cases hparse'
            exact hrefused.elim htoken hother
          · rw [if_neg hrefused]
            rw [not_or] at hrefused
            cases hauth : isAuthenticated message.otherPlayerId with
            | false =>
              refine .inr ⟨?_, .refl broker⟩
              rintro _ _ ⟨hparse', -, -, hauth'⟩
              rw [hparse] at hparse'
              cases hparse'
              rw [hauth] at hauth'
              cases hauth'
            | true => exact .inl ⟨sender, message, ⟨hparse, hrefused.1, hrefused.2, hauth⟩, rfl⟩
        · rw [if_neg hsub]
          refine .inr ⟨?_, ?_⟩
          · rintro _ _ ⟨-⟩
            exact hsub rfl
          · split_ifs
            · exact keeps_handleAccept _ _
            · exact keeps_forwardAndDrop _ _ _ _
            · exact keeps_forwardAndDrop _ _ _ _
            · exact keeps_handleLinkLost _ _
            · exact keeps_handleLinkUp _ _
            · exact .refl broker

/-- Sessions stay listed under both participants. -/
theorem indexed_apply {broker : P2pBroker} (h : broker.Indexed) (step : Step) :
    (step.apply broker).1.Indexed := by
  rcases step.apply_cases broker h with ⟨sender, message, -, heq⟩ | ⟨-, hkeeps⟩
  · rw [heq]
    exact indexed_startSession sender message h
  · exact hkeeps.indexed h

/-- Only the overwriting request breaks the backing of a pair. -/
theorem backed_apply_iff {broker : P2pBroker} (hindexed : broker.Indexed) (h : broker.Backed) (step : Step) :
    (step.apply broker).1.Backed ↔ ¬ step.OrphansPair broker := by
  rcases step.apply_cases broker hindexed with ⟨sender, message, hreq, heq⟩ | ⟨hreq, hkeeps⟩
  · rw [heq, backed_startSession_iff sender message h, not_iff_not]
    constructor
    · exact fun hsole => ⟨sender, message, hreq, hsole⟩
    · rintro ⟨sender', message', ⟨hparse', -⟩, hsole⟩
      obtain ⟨hparse, -⟩ := hreq
      rw [hparse] at hparse'
      cases hparse'
      exact hsole
  · refine ⟨fun _ => ?_, fun _ => hkeeps.backed h⟩
    rintro ⟨sender, message, hreq', -⟩
    exact hreq sender message hreq'

end Step

/-- The broker takes the step. -/
def P2pBroker.Steps (broker : P2pBroker) (step : Step) (broker' : P2pBroker) : Prop :=
  (step.apply broker).1 = broker'

lemma indexed_init : P2pBroker.Indexed {} := fun _ _ _ hs => by cases hs

lemma indexed_steps (s : P2pBroker) (l : Step) (t : P2pBroker) (hst : s.Steps l t) (h : s.Indexed) :
    t.Indexed := by
  rw [← hst]
  exact l.indexed_apply h

lemma backed_init : P2pBroker.Backed {} := fun key hkey => absurd hkey (HashSet.notMem_empty key)

lemma not_isOffloaded_of_backed {broker : P2pBroker} (h : broker.Backed) {peer : PeerId}
    (hgone : ∀ token session, broker.sessions.lookup token = some session → ¬ session.Involves peer)
    (other : PeerId) : broker.isOffloaded peer other = false ∧ broker.isOffloaded other peer = false := by
  have hkey (key : UInt64) (hk : key = packPair peer other ∨ key = packPair other peer) :
      key ∉ broker.offloadedPairs := by
    intro hmem
    obtain ⟨token, session, hs, hback⟩ := h key hmem
    have hpair : session.pair = packPair peer other := by
      rw [hback.pair_eq]
      exact hk.elim id fun hk => hk.trans (packPair_eq_iff.mpr (.inr ⟨rfl, rfl⟩))
    apply hgone token session hs
    rcases packPair_eq_iff.mp hpair with ⟨h₁, -⟩ | ⟨-, h₂⟩
    · exact .inl h₁.symm
    · exact .inr h₂.symm
  unfold P2pBroker.isOffloaded
  constructor
  · split
    · rfl
    · exact decide_eq_false (hkey _ (.inl rfl))
  · split
    · rfl
    · exact decide_eq_false (hkey _ (.inr rfl))

/-- **When offloaded pairs stay backed.**  In every run from the empty broker, all states have a live
session behind every offloaded pair, and no pair of a removed peer is left, if and only if no step is a
request that overwrites the only session behind an offloaded pair. -/
theorem offloaded_pairs_backed_iff {ts : List (Transition P2pBroker Step)} {broker : P2pBroker}
    (hrun : Run P2pBroker.Steps {} ts broker) :
    (∀ tr ∈ ts, tr.dst.Backed ∧ ∀ peer, tr.label = .removePeer peer → ∀ other,
      tr.dst.isOffloaded peer other = false ∧ tr.dst.isOffloaded other peer = false) ↔
    ∀ tr ∈ ts, ¬ tr.label.OrphansPair tr.src := by
  have hindexed := (hrun.invariant indexed_init indexed_steps).1
  have hbacked : (∀ tr ∈ ts, tr.dst.Backed) ↔ ∀ tr ∈ ts, ¬ tr.label.OrphansPair tr.src := by
    refine hrun.forall_iff (C := fun s l => ¬ l.OrphansPair s) indexed_init indexed_steps backed_init ?_
    rintro s l t hst hJ hI
    rw [← hst]
    exact l.backed_apply_iff hJ hI
  rw [← hbacked]
  constructor
  · exact fun h tr htr => (h tr htr).1
  · intro h tr htr
    refine ⟨h tr htr, fun peer hlabel => not_isOffloaded_of_backed (h tr htr) ?_⟩
    have hstep : (tr.label.apply tr.src).1 = tr.dst := hrun.step_of_mem tr htr
    rw [← hstep, hlabel]
    exact (removePeer_spec peer (hindexed tr htr).1).2.2

/-! ### A token used twice -/

def signal (sender : PeerId) (sub : UInt8) (otherPlayerId : PeerId) : Step :=
  .signal (fun _ => true) sender
    (sub :: BasisP2PSignalMessage.serialize { otherPlayerId, sessionToken := "t" })

/-- Peers 1 and 2 link up under a token that peer 3 then uses for a session with peer 4; peer 1 leaves. -/
def overwritingSteps : List Step :=
  [signal 1 channels.p2pSubRequest 2, signal 2 channels.p2pSubAccept 1, signal 1 channels.p2pSubLinkUp 2,
    signal 2 channels.p2pSubLinkUp 1, signal 3 channels.p2pSubRequest 4, .removePeer 1]

def overwritten : P2pBroker := overwritingSteps.foldl (fun broker step => (step.apply broker).1) {}

lemma overwritten_run : Run P2pBroker.Steps {}
    (trace (fun broker step => (step.apply broker).1) {} overwritingSteps) overwritten :=
  Run.of_trace _ _ fun _ htr => (dst_of_mem_trace htr).symm

lemma overwritten_offloaded :
    packPair 1 2 ∈ overwritten.offloadedPairs ∧ overwritten.sessions.entries = [] := by
  decide +kernel

lemma overwritten_not_backed : ¬ overwritten.Backed := by
  intro h
  obtain ⟨token, session, hs, -⟩ := h _ overwritten_offloaded.1
  rw [AList.lookup, overwritten_offloaded.2] at hs
  cases hs

/-- The run the equivalence is about: one of its steps orphans a pair. -/
theorem offloaded_pairs_backed_iff_overwriting :
    ∃ tr ∈ trace (fun broker step => (step.apply broker).1) {} overwritingSteps,
      tr.label.OrphansPair tr.src := by
  by_contra hnone
  have hall := (offloaded_pairs_backed_iff overwritten_run).mpr fun tr htr h => hnone ⟨tr, htr, h⟩
  exact overwritten_not_backed (hall _ (List.mem_of_getLast? rfl)).1

/-- The pair of peers 1 and 2 outlives both their session and peer 1. -/
theorem offloaded_pair_outlives_session : ∃ ts broker, Run P2pBroker.Steps {} ts broker ∧
    (∃ tr ∈ ts, tr.label = .removePeer 1 ∧ tr.dst = broker) ∧ ¬ broker.Backed ∧
    broker.isOffloaded 1 2 = true :=
  ⟨_, _, overwritten_run, ⟨_, List.mem_of_getLast? rfl, rfl, rfl⟩, overwritten_not_backed,
    decide_eq_true overwritten_offloaded.1⟩

end BasisRust.P2p
