import BasisRust.P2p.Offload

/-!
# The broker: signals that change nothing

Two brokers are the same if their maps and sets are, in whatever order.  For each signal: the brokers it leaves
the same without a message that reaches anybody but the sender.
-/

namespace BasisRust.P2p

open BasisRust.Lib BasisRust.Protocol BasisRust.Transport

structure P2pBroker.Same (broker broker' : P2pBroker) : Prop where
  sessions : Dict.Rel Eq broker.sessions broker'.sessions
  peerSessions : Dict.Rel HashSet.Same broker.peerSessions broker'.peerSessions
  offloadedPairs : broker.offloadedPairs.Same broker'.offloadedPairs

/-- The message reaches the sender or nobody. -/
def Outgoing.Spares (live : PeerId → Prop) (sender : PeerId) : Outgoing → Prop
  | .send target _ _ _ => live target → target = sender
  | .natIntroduce _ _ _ _ _ => False

namespace P2pBroker

variable {broker broker' : P2pBroker} {live : PeerId → Prop} {sender : PeerId} {message : BasisP2PSignalMessage}
  {token : String} {session : P2pSession}

lemma Same.refl (broker : P2pBroker) : broker.Same broker :=
  ⟨Dict.Rel.refl (fun _ => rfl) _, Dict.Rel.refl HashSet.Same.refl _, .refl _⟩

lemma Same.tracked_iff (h : broker.Same broker') (peer : PeerId) (token : String) :
    broker'.Tracked peer token ↔ broker.Tracked peer token := by
  constructor
  · rintro ⟨tokens', htokens', hmem⟩
    obtain ⟨tokens, htokens, hsame⟩ := h.peerSessions.lookup_eq_some' htokens'
    exact ⟨tokens, htokens, (hsame token).mp hmem⟩
  · rintro ⟨tokens, htokens, hmem⟩
    obtain ⟨tokens', htokens', hsame⟩ := h.peerSessions.lookup_eq_some htokens
    exact ⟨tokens', htokens', (hsame token).mpr hmem⟩

/-- What is left by a signal: the same broker, and nobody else told. -/
def Unmoved (live : PeerId → Prop) (sender : PeerId) (broker : P2pBroker) (result : P2pBroker × List Outgoing) :
    Prop :=
  broker.Same result.1 ∧ ∀ message ∈ result.2, message.Spares live sender

lemma unmoved_nil_iff : broker.Unmoved live sender (broker', []) ↔ broker.Same broker' :=
  and_iff_left fun _ hmessage => absurd hmessage List.not_mem_nil

lemma unmoved_refl : broker.Unmoved live sender (broker, []) := unmoved_nil_iff.mpr (.refl broker)

lemma unmoved_sendSub_iff {target other : PeerId} {sub : UInt8} :
    broker.Unmoved live sender (broker', [sendSub target sub token other]) ↔
      broker.Same broker' ∧ (live target → target = sender) :=
  and_congr_right fun _ => ⟨fun h => h _ (List.mem_singleton_self _), fun h message hmessage => by
    rw [List.mem_singleton.mp hmessage]
    exact h⟩

/-! ### Requests -/

/-- The session is there as it starts, and listed under both peers. -/
def Started (sender : PeerId) (message : BasisP2PSignalMessage) (broker : P2pBroker) : Prop :=
  broker.sessions.lookup message.sessionToken =
      some { initiatorPeerId := sender, targetPeerId := message.otherPlayerId } ∧
    Tracked broker sender message.sessionToken ∧ Tracked broker message.otherPlayerId message.sessionToken

lemma rel_trackPeerSession {peer : PeerId} (h : broker.Tracked peer token) :
    Dict.Rel HashSet.Same broker.peerSessions (broker.trackPeerSession peer token).peerSessions := by
  obtain ⟨tokens, htokens, hmem⟩ := h
  unfold trackPeerSession
  rw [htokens]
  exact (Dict.Rel.insert_iff HashSet.Same.refl).mpr ⟨tokens, htokens, HashSet.same_insert.mpr hmem⟩

theorem same_startSession_iff : broker.Same (broker.startSession sender message) ↔ broker.Started sender message := by
  have htracked (peer : PeerId) : (broker.startSession sender message).Tracked peer message.sessionToken ↔
      peer = message.otherPlayerId ∨ peer = sender ∨ broker.Tracked peer message.sessionToken := by
    rw [startSession, tracked_trackPeerSession, tracked_trackPeerSession]
    simp only [and_true]
    rfl
  constructor
  · intro h
    obtain ⟨session, hlookup, rfl⟩ := (Dict.Rel.insert_iff fun _ => rfl).mp h.sessions
    exact ⟨hlookup, (h.tracked_iff _ _).mp ((htracked _).mpr (.inr (.inl rfl))),
      (h.tracked_iff _ _).mp ((htracked _).mpr (.inl rfl))⟩
  · rintro ⟨hlookup, hsender, hother⟩
    refine ⟨(Dict.Rel.insert_iff fun _ => rfl).mpr ⟨_, hlookup, rfl⟩, ?_, .refl _⟩
    have hfirst := rel_trackPeerSession hsender
    refine Dict.Rel.trans (fun _ _ _ h h' a => (h' a).trans (h a)) hfirst (rel_trackPeerSession ?_)
    exact tracked_trackPeerSession.mpr (.inr hother)

/-- The request is not one, is turned down, or asks for a session that is there already. -/
def RequestIgnored (isAuthenticated : PeerId → Bool) (live : PeerId → Prop) (sender : PeerId)
    (message : BasisP2PSignalMessage) (broker : P2pBroker) : Prop :=
  message.sessionToken = "" ∨ message.otherPlayerId = sender ∨ isAuthenticated message.otherPlayerId = false ∨
    broker.Started sender message ∧ ¬ live message.otherPlayerId

lemma unmoved_handleRequest_iff {isAuthenticated : PeerId → Bool} :
    broker.Unmoved live sender (broker.handleRequest isAuthenticated sender message) ↔
      broker.RequestIgnored isAuthenticated live sender message := by
  unfold handleRequest RequestIgnored
  split
  next h => exact iff_of_true unmoved_refl (h.imp_right .inl)
  next h =>
    rw [not_or] at h
    rw [or_iff_right h.1, or_iff_right h.2]
    split
    next hauth =>
      rw [Bool.not_eq_true'] at hauth
      exact iff_of_true (unmoved_sendSub_iff.mpr ⟨.refl broker, fun _ => rfl⟩) (.inl hauth)
    next hauth =>
      rw [Bool.not_eq_true', Bool.not_eq_false] at hauth
      rw [hauth, or_iff_right Bool.false_ne_true.symm, ← same_startSession_iff]
      refine and_congr_right fun _ => ⟨fun hall hlive => h.2 (hall _ List.mem_cons_self hlive), fun hdead m hm => ?_⟩
      rcases List.mem_cons.mp hm with rfl | hm
      · exact fun hlive => absurd hlive hdead
      · rw [List.mem_singleton.mp hm]
        exact fun _ => rfl

/-! ### Answers -/

/-- There is no session to accept, or it is accepted already. -/
def AcceptIgnored (live : PeerId → Prop) (sender : PeerId) (message : BasisP2PSignalMessage) (broker : P2pBroker) :
    Prop :=
  ∀ session, broker.sessions.lookup message.sessionToken = some session →
    session.targetPeerId = sender → session.initiatorPeerId = message.otherPlayerId →
      session.state = .readyForPunch ∧ (live session.initiatorPeerId → session.initiatorPeerId = sender)

/-- A session entered again is the one that is there. -/
lemma same_insert_iff {session' : P2pSession} (h : broker.sessions.lookup token = some session) :
    broker.Same { broker with sessions := broker.sessions.insert token session' } ↔ session = session' := by
  have hrel : Dict.Rel Eq broker.sessions (broker.sessions.insert token session') ↔ session = session' := by
    rw [Dict.Rel.insert_iff fun _ => rfl, h]
    simp only [Option.some.injEq, exists_eq_left']
  exact ⟨fun hsame => hrel.mp hsame.sessions,
    fun heq => ⟨hrel.mpr heq, Dict.Rel.refl HashSet.Same.refl _, .refl _⟩⟩

lemma unmoved_handleAccept_iff :
    broker.Unmoved live sender (broker.handleAccept sender message) ↔ broker.AcceptIgnored live sender message := by
  unfold handleAccept AcceptIgnored
  cases hlookup : broker.sessions.lookup message.sessionToken with
  | none => exact iff_of_true unmoved_refl fun _ h => by cases h
  | some session =>
    simp only [Option.some.injEq, forall_eq']
    split
    next hother => exact iff_of_true unmoved_refl fun htarget hinitiator => absurd hother (by simp [htarget, hinitiator])
    next hboth =>
      rw [not_or, not_not, not_not] at hboth
      rw [imp_iff_right hboth.1, imp_iff_right hboth.2, unmoved_sendSub_iff, same_insert_iff hlookup]
      refine and_congr_left' ⟨fun h => congrArg P2pSession.state h, fun h => ?_⟩
      rw [← h]

lemma same_removeSession_iff : broker.Same (broker.removeSession token) ↔ token ∉ broker.sessions := by
  constructor
  · intro h hmem
    have hback := (h.sessions.mem_iff token).mpr hmem
    obtain ⟨session, hsession⟩ := Dict.mem_iff_lookup.mp hback
    rw [lookup_removeSession, if_pos rfl] at hsession
    cases hsession
  · intro hmem
    unfold removeSession
    rw [Dict.notMem_iff_lookup.mp hmem]
    exact .refl broker

/-- There is no session to drop, and the other peer is not told. -/
def DropIgnored (live : PeerId → Prop) (sender : PeerId) (message : BasisP2PSignalMessage) (broker : P2pBroker) :
    Prop :=
  (message.sessionToken = "" ∨ message.sessionToken ∉ broker.sessions) ∧
    (live message.otherPlayerId → message.otherPlayerId = sender)

lemma unmoved_forwardAndDrop_iff {sub : UInt8} :
    broker.Unmoved live sender (broker.forwardAndDrop sender message sub true) ↔
      broker.DropIgnored live sender message := by
  unfold forwardAndDrop DropIgnored
  rw [unmoved_sendSub_iff]
  refine and_congr_left' ?_
  split
  next h => rw [same_removeSession_iff, or_iff_right h.2]
  next h =>
    have hempty : message.sessionToken = "" := not_not.mp fun hne => h ⟨rfl, hne⟩
    exact iff_of_true (.refl broker) (.inl hempty)

/-! ### Links -/

/-- The session as a lost link leaves it. -/
def lostLink (session : P2pSession) : P2pSession where
  initiatorPeerId := session.initiatorPeerId
  targetPeerId := session.targetPeerId
  state := .readyForPunch

/-- The link is lost already, and the other peer is not told. -/
def LinkLostIgnored (live : PeerId → Prop) (sender : PeerId) (message : BasisP2PSignalMessage) (broker : P2pBroker) :
    Prop :=
  (∀ session, broker.sessions.lookup message.sessionToken = some session →
      session = lostLink session ∧ session.pair ∉ broker.offloadedPairs) ∧
    (live message.otherPlayerId → message.otherPlayerId = sender)

lemma forwardAndDrop_false (sub : UInt8) : broker.forwardAndDrop sender message sub false =
    (broker, [sendSub message.otherPlayerId sub message.sessionToken sender]) := by
  simp [forwardAndDrop]

lemma unmoved_handleLinkLost_iff :
    broker.Unmoved live sender (broker.handleLinkLost sender message) ↔ broker.LinkLostIgnored live sender message := by
  unfold handleLinkLost LinkLostIgnored
  dsimp only
  rw [forwardAndDrop_false, unmoved_sendSub_iff]
  refine and_congr_left' ?_
  cases hlookup : broker.sessions.lookup message.sessionToken with
  | none => exact iff_of_true (.refl broker) fun _ h => by cases h
  | some session =>
    simp only [Option.some.injEq, forall_eq']
    refine ⟨fun h => ?_, fun h => ?_⟩
    · obtain ⟨old, hold, hsame⟩ := (Dict.Rel.insert_iff fun _ => rfl).mp h.sessions
      rw [hlookup] at hold
      cases hold
      exact ⟨hsame, HashSet.same_erase.mp h.offloadedPairs⟩
    · exact ⟨(Dict.Rel.insert_iff fun _ => rfl).mpr ⟨session, hlookup, h.1⟩, Dict.Rel.refl HashSet.Same.refl _,
        HashSet.same_erase.mpr h.2⟩

/-- The sender's link is up already, and if both are the pair is offloaded. -/
def LinkUpIgnored (sender : PeerId) (message : BasisP2PSignalMessage) (broker : P2pBroker) : Prop :=
  ∀ session, broker.sessions.lookup message.sessionToken = some session → session.Involves sender →
    (if sender = session.initiatorPeerId then session.initiatorLinkUp else session.targetLinkUp) = true ∧
      (session.initiatorLinkUp → session.targetLinkUp → session.pair ∈ broker.offloadedPairs)

/-- The session is entered again, and its pair where both links are up. -/
lemma same_insert_insert_iff {session' : P2pSession} (h : broker.sessions.lookup token = some session) :
    broker.Same (if session'.initiatorLinkUp ∧ session'.targetLinkUp then
        { broker with
          sessions := broker.sessions.insert token session'
          offloadedPairs := broker.offloadedPairs.insert session'.pair }
      else { broker with sessions := broker.sessions.insert token session' }) ↔
      session = session' ∧
        (session.initiatorLinkUp → session.targetLinkUp → session.pair ∈ broker.offloadedPairs) := by
  have hsession (hsame : Dict.Rel Eq broker.sessions (broker.sessions.insert token session')) : session = session' := by
    obtain ⟨old, hold, rfl⟩ := (Dict.Rel.insert_iff fun _ => rfl).mp hsame
    exact Option.some.inj (h.symm.trans hold)
  split
  next hboth =>
    constructor
    · intro hsame
      obtain rfl := hsession hsame.sessions
      exact ⟨rfl, fun _ _ => HashSet.same_insert.mp hsame.offloadedPairs⟩
    · rintro ⟨rfl, hpair⟩
      exact ⟨(Dict.Rel.insert_iff fun _ => rfl).mpr ⟨session, h, rfl⟩, Dict.Rel.refl HashSet.Same.refl _,
        HashSet.same_insert.mpr (hpair hboth.1 hboth.2)⟩
  next hboth =>
    rw [same_insert_iff h]
    refine (and_iff_left_of_imp ?_).symm
    rintro rfl hinitiator htarget
    exact absurd ⟨hinitiator, htarget⟩ hboth

lemma same_handleLinkUp_iff : broker.Same (broker.handleLinkUp sender message) ↔ broker.LinkUpIgnored sender message := by
  unfold handleLinkUp LinkUpIgnored
  cases hlookup : broker.sessions.lookup message.sessionToken with
  | none => exact iff_of_true (.refl broker) fun _ h => by cases h
  | some session =>
    simp only [Option.bind_some, Option.some.injEq, forall_eq']
    unfold linkUp P2pSession.Involves
    by_cases hinitiator : sender = session.initiatorPeerId
    · rw [if_pos hinitiator, if_pos hinitiator, imp_iff_right (.inl hinitiator)]
      refine (same_insert_insert_iff hlookup).trans (and_congr_left' ⟨fun h => ?_, fun h => ?_⟩)
      · exact congrArg P2pSession.initiatorLinkUp h
      · rw [← h]
    · rw [if_neg hinitiator, if_neg hinitiator]
      by_cases htarget : sender = session.targetPeerId
      · rw [if_pos htarget, imp_iff_right (.inr htarget)]
        refine (same_insert_insert_iff hlookup).trans (and_congr_left' ⟨fun h => ?_, fun h => ?_⟩)
        · exact congrArg P2pSession.targetLinkUp h
        · rw [← h]
      · rw [if_neg htarget]
        refine iff_of_true (.refl broker) fun h => ?_
        exact h.elim (fun heq => absurd heq hinitiator) fun heq => absurd heq htarget

/-! ### All signals -/

/-- The signal cannot be read, or asks for what is so already and tells nobody else. -/
def Ignored (isAuthenticated : PeerId → Bool) (live : PeerId → Prop) (sender : PeerId) (payload : Bytes)
    (broker : P2pBroker) : Prop :=
  match payload with
  | [] => True
  | sub :: rest =>
    match BasisP2PSignalMessage.deserialize rest with
    | .error _ _ => True
    | .ok message _ =>
      if sub = channels.p2pSubRequest then broker.RequestIgnored isAuthenticated live sender message
      else if sub = channels.p2pSubAccept then broker.AcceptIgnored live sender message
      else if sub = channels.p2pSubDecline then broker.DropIgnored live sender message
      else if sub = channels.p2pSubCancel then broker.DropIgnored live sender message
      else if sub = channels.p2pSubLinkLost then broker.LinkLostIgnored live sender message
      else if sub = channels.p2pSubLinkUp then broker.LinkUpIgnored sender message
      else True

/-- **Signals without effect.** -/
theorem unmoved_handleSignal_iff {isAuthenticated : PeerId → Bool} {payload : Bytes} :
    broker.Unmoved live sender (broker.handleSignal isAuthenticated sender payload) ↔
      broker.Ignored isAuthenticated live sender payload := by
  unfold handleSignal Ignored
  cases payload with
  | nil => exact iff_true_intro unmoved_refl
  | cons sub rest =>
    dsimp only
    cases BasisP2PSignalMessage.deserialize rest with
    | error e reader => exact iff_true_intro unmoved_refl
    | ok message reader =>
      dsimp only
      split_ifs
      · exact unmoved_handleRequest_iff
      · exact unmoved_handleAccept_iff
      · exact unmoved_forwardAndDrop_iff
      · exact unmoved_forwardAndDrop_iff
      · exact unmoved_handleLinkLost_iff
      · exact unmoved_nil_iff.trans same_handleLinkUp_iff
      · exact iff_true_intro unmoved_refl

end P2pBroker
end BasisRust.P2p
