import BasisRust.P2p.Offload

/-!
# NAT introductions

When does the broker introduce two endpoints only after the target has accepted, and only two different
ones?  `SessionStep` says once how the session of a token can come to be what it is after a step.  Two moves
go wrong: a lost link makes a session ready that nobody has accepted yet, and a second request from the
initiator's own external endpoint is taken for the target's.  In a run without these two every introduction
has been agreed to and has two sides.
-/

namespace BasisRust.P2p

open BasisRust.Lib BasisRust.Protocol BasisRust.Transport

/-! ### Steps -/

namespace Step

/-- The step is an accept signal, read as this message. -/
inductive Accepts : Step → PeerId → BasisP2PSignalMessage → Prop
  | intro {isAuthenticated sender rest message reader}
      (parsed : BasisP2PSignalMessage.deserialize rest = .ok message reader) :
      Accepts (.signal isAuthenticated sender (channels.p2pSubAccept :: rest)) sender message

/-- The kind of a signal. -/
def sub : Step → Option UInt8
  | signal _ _ payload => payload.head?
  | _ => none

lemma Accepts.sub_eq {step : Step} {sender : PeerId} {message : BasisP2PSignalMessage}
    (h : step.Accepts sender message) : step.sub = some channels.p2pSubAccept := by
  cases h
  rfl

/-- The step is a lost-link signal for the token, from anybody. -/
inductive LosesLink : Step → String → Prop
  | intro {isAuthenticated sender rest message reader}
      (parsed : BasisP2PSignalMessage.deserialize rest = .ok message reader) :
      LosesLink (.signal isAuthenticated sender (channels.p2pSubLinkLost :: rest)) message.sessionToken

lemma LosesLink.sub_eq {step : Step} {token : String} (h : step.LosesLink token) :
    step.sub = some channels.p2pSubLinkLost := by
  cases h
  rfl

/-- The step starts no session under the token. -/
def StartsNone (step : Step) (token : String) : Prop :=
  ∀ sender message, step.Requests sender message → message.sessionToken ≠ token

/-- The step is a lost-link signal for a session that is not accepted yet. -/
def LosesUnaccepted (broker : P2pBroker) (step : Step) : Prop :=
  ∃ token session, step.LosesLink token ∧ broker.sessions.lookup token = some session ∧
    session.state = .awaiting

/-- The step is a NAT request that enters the first endpoint's external address a second time. -/
def MirrorsEndpoint (broker : P2pBroker) : Step → Prop
  | natIntroductionRequest _ remoteAddr token =>
    ∃ session ∈ broker.sessions.lookup token, session.state ≠ .awaiting ∧
      session.endpointAExternal = some remoteAddr ∧ session.endpointBInternal = none
  | _ => False

instance (broker : P2pBroker) (step : Step) : Decidable (step.MirrorsEndpoint broker) := by
  cases step <;> unfold MirrorsEndpoint <;> infer_instance

end Step

/-- How a step can change the session that is stored under a token. -/
inductive Moves (step : Step) (token : String) (session : P2pSession) : P2pSession → Prop
  | same : Moves step token session session
  | accepted (accept : step.Accepts session.targetPeerId
      { otherPlayerId := session.initiatorPeerId, sessionToken := token }) :
      Moves step token session { session with state := .readyForPunch }
  | lost (lost : step.LosesLink token) :
      Moves step token session { session with
        endpointAInternal := none, endpointAExternal := none, endpointBInternal := none
        endpointBExternal := none, initiatorLinkUp := false, targetLinkUp := false, state := .readyForPunch }
  | linkUp (initiator target : Bool) :
      Moves step token session { session with initiatorLinkUp := initiator, targetLinkUp := target }
  | entersA {localAddr remoteAddr : SocketAddr} (nat : step = .natIntroductionRequest localAddr remoteAddr token)
      (ready : session.state ≠ .awaiting) (empty : session.endpointAInternal = none) :
      Moves step token session { session with
        endpointAInternal := some localAddr, endpointAExternal := some remoteAddr }
  | entersB {localAddr remoteAddr : SocketAddr} (nat : step = .natIntroductionRequest localAddr remoteAddr token)
      (ready : session.state ≠ .awaiting) (full : session.endpointAInternal ≠ none) {state : SessionState}
      (state_ne : state ≠ .awaiting) :
      Moves step token session { P2pBroker.enterEndpoints localAddr remoteAddr session with state := state }

/-- How the session of a token can come to be what it is after a step. -/
inductive SessionStep (broker : P2pBroker) (step : Step) (token : String) (session' : P2pSession) : Prop
  | created {sender : PeerId} {message : BasisP2PSignalMessage} (request : step.Requests sender message)
      (token_eq : message.sessionToken = token)
      (session_eq : session' = { initiatorPeerId := sender, targetPeerId := message.otherPlayerId })
  | moved {session : P2pSession} (stored : broker.sessions.lookup token = some session)
      (startsNone : step.StartsNone token) (moves : Moves step token session session')

/-! ### What a step does to a session -/

section Inversion

variable {broker : P2pBroker} {step : Step} {token : String} {session' : P2pSession}

/-- A step that leaves the session of the token as it was. -/
lemma SessionStep.same (hnone : step.StartsNone token)
    (h : broker.sessions.lookup token = some session') : SessionStep broker step token session' :=
  .moved h hnone .same

/-- A step that replaces the session of one token. -/
lemma SessionStep.of_insert (hnone : step.StartsNone token) {other : String} {session₀ session : P2pSession}
    (hs : broker.sessions.lookup other = some session₀) (hmove : Moves step other session₀ session)
    (h : (broker.sessions.insert other session).lookup token = some session') :
    SessionStep broker step token session' := by
  rw [Dict.lookup_insert] at h
  split at h
  next htoken =>
    subst htoken
    obtain rfl := Option.some.inj h
    exact .moved hs hnone hmove
  next => exact .same hnone h

lemma startsNone_of_not_signal (h : ∀ isAuthenticated sender payload,
    step ≠ .signal isAuthenticated sender payload) : step.StartsNone token := by
  rintro sender message ⟨hparse⟩
  exact absurd rfl (h _ _ _)

lemma sessionStep_natIntroductionRequest {localAddr remoteAddr : SocketAddr} {other : String}
    (h : (broker.handleNatIntroductionRequest localAddr remoteAddr other).1.sessions.lookup token = some session') :
    SessionStep broker (.natIntroductionRequest localAddr remoteAddr other) token session' := by
  have hnone : Step.StartsNone (.natIntroductionRequest localAddr remoteAddr other) token :=
    startsNone_of_not_signal fun _ _ _ heq => by cases heq
  unfold P2pBroker.handleNatIntroductionRequest at h
  split at h
  next => exact .same hnone h
  next =>
    split at h
    next => exact .same hnone h
    next session hs =>
      split at h
      next => exact .same hnone h
      next hrank =>
        have hready : session.state ≠ .awaiting := fun heq => hrank (by rw [heq]; decide)
        split at h
        next hempty => exact .of_insert hnone hs (.entersA rfl hready hempty) h
        next hfull =>
          dsimp only at h
          have hsame : (P2pBroker.enterEndpoints localAddr remoteAddr session).state = session.state := by
            unfold P2pBroker.enterEndpoints
            split <;> rfl
          split at h
          next => exact .of_insert hnone hs (.entersB rfl hready hfull (by decide)) h
          next =>
            have hmove : Moves (.natIntroductionRequest localAddr remoteAddr other) other session
                { P2pBroker.enterEndpoints localAddr remoteAddr session with state := session.state } :=
              .entersB rfl hready hfull hready
            rw [← hsame] at hmove
            exact .of_insert hnone hs hmove h

open P2pBroker in
/-- **The cases of a step**, for the session of one token. -/
theorem sessionStep_apply (h : (step.apply broker).1.sessions.lookup token = some session') :
    SessionStep broker step token session' := by
  cases step with
  | natIntroductionRequest localAddr remoteAddr other => exact sessionStep_natIntroductionRequest h
  | removePeer peer =>
    exact .same (startsNone_of_not_signal fun _ _ _ heq => by cases heq) (lookup_removePeer.mp h).2
  | signal isAuthenticated sender payload =>
    cases payload with
    | nil =>
      refine .same ?_ h
      rintro _ _ ⟨⟩
    | cons sub rest =>
      rw [Step.apply, handleSignal] at h
      cases hparse : BasisP2PSignalMessage.deserialize rest with
      | error e r =>
        rw [hparse] at h
        refine .same ?_ h
        rintro _ _ ⟨hparse'⟩
        rw [hparse] at hparse'
        cases hparse'
      | ok message r =>
        rw [hparse] at h
        dsimp only at h
        by_cases hrequest : sub = channels.p2pSubRequest
        · subst hrequest
          have hmessage {sender' message'} (hr : Step.Requests
              (.signal isAuthenticated sender (channels.p2pSubRequest :: rest)) sender' message') :
              message' = message := by
            obtain ⟨hparse'⟩ := hr
            rw [hparse] at hparse'
            cases hparse'
            rfl
          rw [if_pos rfl, handleRequest] at h
          split at h
          next hrefused =>
            refine .same ?_ h
            rintro sender' message' hr
            obtain rfl := hmessage hr
            obtain ⟨-, htoken, hother, -⟩ := hr
            exact absurd hrefused (not_or.mpr ⟨htoken, hother⟩)
          next hrefused =>
            rw [not_or] at hrefused
            split at h
            next hauth =>
              refine .same ?_ h
              rintro sender' message' hr
              obtain rfl := hmessage hr
              obtain ⟨-, -, -, hauth'⟩ := hr
              rw [hauth'] at hauth
              exact absurd hauth (by decide)
            next hauth =>
              replace h : (broker.sessions.insert _ _).lookup token = some session' := h
              rw [Dict.lookup_insert] at h
              split at h
              next htoken =>
                have hauth : isAuthenticated message.otherPlayerId = true := by simpa using hauth
                exact .created ⟨hparse, hrefused.1, hrefused.2, hauth⟩ htoken.symm (Option.some.inj h).symm
              next htoken =>
                refine .same ?_ h
                rintro sender' message' hr heq
                obtain rfl := hmessage hr
                exact htoken heq.symm
        · have hnone : Step.StartsNone (.signal isAuthenticated sender (sub :: rest)) token := by
            rintro _ _ ⟨-⟩
            exact absurd rfl hrequest
          rw [if_neg hrequest] at h
          have hdropped {sub : UInt8} (h : (broker.forwardAndDrop sender message sub true).1.sessions.lookup token
              = some session') : broker.sessions.lookup token = some session' := by
            unfold forwardAndDrop at h
            dsimp only at h
            split at h
            next =>
              rw [lookup_removeSession, Option.ite_none_left_eq_some] at h
              exact h.2
            next => exact h
          split at h
          next hsub =>
            subst hsub
            unfold handleAccept at h
            split at h
            next => exact .same hnone h
            next session hs =>
              split at h
              next => exact .same hnone h
              next hpeers =>
                rw [not_or, not_not, not_not] at hpeers
                refine .of_insert hnone hs (.accepted ?_) h
                rw [hpeers.1, hpeers.2]
                exact .intro hparse
          next =>
            split at h
            next => exact .same hnone (hdropped h)
            next =>
              split at h
              next => exact .same hnone (hdropped h)
              next =>
                split at h
                next hsub =>
                  subst hsub
                  unfold handleLinkLost forwardAndDrop at h
                  dsimp only at h
                  rw [if_neg (by simp)] at h
                  split at h
                  next => exact .same hnone h
                  next session hs => exact .of_insert hnone hs (.lost (.intro hparse)) h
                next =>
                  split at h
                  next =>
                    unfold handleLinkUp at h
                    split at h
                    next => exact .same hnone h
                    next session hsession =>
                      obtain ⟨session₀, hs, hup⟩ := Option.bind_eq_some_iff.mp hsession
                      have hmove : Moves (.signal isAuthenticated sender (sub :: rest)) message.sessionToken
                          session₀ session := by
                        unfold linkUp at hup
                        split at hup
                        next =>
                          obtain rfl := Option.some.inj hup
                          exact .linkUp true session₀.targetLinkUp
                        next =>
                          split at hup
                          next =>
                            obtain rfl := Option.some.inj hup
                            exact .linkUp session₀.initiatorLinkUp true
                          next => cases hup
                      dsimp only at h
                      split at h
                      next => exact .of_insert hnone hs hmove h
                      next => exact .of_insert hnone hs hmove h
                  next => exact .same hnone h

/-- **What is introduced** is the first pair of endpoints and the second one, or the request's own if there
was no second one. -/
theorem natIntroduce_spec {aInternal aExternal bInternal bExternal : SocketAddr}
    (h : .natIntroduce aInternal aExternal bInternal bExternal token ∈ (step.apply broker).2) :
    ∃ localAddr remoteAddr session, step = .natIntroductionRequest localAddr remoteAddr token ∧
      broker.sessions.lookup token = some session ∧ session.state ≠ .awaiting ∧
      session.endpointAExternal = some aExternal ∧
      ((session.endpointBInternal = none ∧ bExternal = remoteAddr) ∨
        (session.endpointBInternal ≠ none ∧ session.endpointBExternal = some bExternal)) := by
  have hsub {peer other : PeerId} {sub : UInt8} {token' : String} :
      Outgoing.natIntroduce aInternal aExternal bInternal bExternal token ≠ sendSub peer sub token' other :=
    fun heq => by cases heq
  cases step with
  | natIntroductionRequest localAddr remoteAddr other =>
    rw [Step.apply, P2pBroker.handleNatIntroductionRequest] at h
    split at h
    next => cases h
    next =>
      split at h
      next => cases h
      next session hs =>
        split at h
        next => cases h
        next hrank =>
          have hready : session.state ≠ .awaiting := fun heq => hrank (by rw [heq]; decide)
          split at h
          next => cases h
          next hfull =>
            dsimp only at h
            split at h
            next ai ae bi be hai hae hbi hbe =>
              rw [List.mem_singleton] at h
              cases h
              refine ⟨localAddr, remoteAddr, session, rfl, hs, hready, ?_⟩
              unfold P2pBroker.enterEndpoints at hae hbe
              split at hae
              next hempty =>
                rw [if_pos hempty] at hbe
                exact ⟨hae, .inl ⟨hempty, (Option.some.inj hbe).symm⟩⟩
              next hsome =>
                rw [if_neg hsome] at hbe
                exact ⟨hae, .inr ⟨hsome, hbe⟩⟩
            next => cases h
  | removePeer peer =>
    rw [Step.apply, P2pBroker.removePeer] at h
    split at h
    next => cases h
    next tokens htokens =>
      have hfold (l : List String) : ∀ s : P2pBroker × List Outgoing,
          Outgoing.natIntroduce aInternal aExternal bInternal bExternal token ∉ s.2 →
          Outgoing.natIntroduce aInternal aExternal bInternal bExternal token ∉
            (l.foldl (P2pBroker.removePeerToken peer) s).2 := by
        induction l with
        | nil => exact fun s h => h
        | cons t l ih =>
          intro s hs
          refine ih _ ?_
          unfold P2pBroker.removePeerToken
          split
          next => exact hs
          next session _ =>
            dsimp only
            rw [List.mem_append, List.mem_singleton, not_or]
            exact ⟨hs, hsub⟩
      exact absurd h (hfold _ _ List.not_mem_nil)
  | signal isAuthenticated sender payload =>
    exfalso
    cases payload with
    | nil => cases h
    | cons sub rest =>
      rw [Step.apply, P2pBroker.handleSignal] at h
      split at h
      next => cases h
      next message _ _ =>
        have hforward (sub : UInt8) (dropSession : Bool) (broker : P2pBroker) :
            Outgoing.natIntroduce aInternal aExternal bInternal bExternal token ∉
              (broker.forwardAndDrop sender message sub dropSession).2 := by
          intro hmem
          exact hsub (List.mem_singleton.mp hmem)
        split at h
        next =>
          unfold P2pBroker.handleRequest at h
          split at h
          next => cases h
          next =>
            split at h
            next => exact hsub (List.mem_singleton.mp h)
            next =>
              rcases List.mem_cons.mp h with h | h
              · exact hsub h
              · exact hsub (List.mem_singleton.mp h)
        next =>
          split at h
          next =>
            unfold P2pBroker.handleAccept at h
            split at h
            next => cases h
            next =>
              split at h
              next => cases h
              next => exact hsub (List.mem_singleton.mp h)
          next =>
            split at h
            next => exact hforward _ _ _ h
            next =>
              split at h
              next => exact hforward _ _ _ h
              next =>
                split at h
                next => exact hforward _ _ _ h
                next =>
                  split at h
                  next => cases h
                  next => cases h

end Inversion

/-! ### Histories -/

/-- The last request for the token was `initiator`'s for `target`; `since` are the steps after it. -/
structure RequestedBy (steps : List Step) (token : String) (initiator target : PeerId) (since : List Step) :
    Prop where
  request : ∃ before request, steps = before ++ request :: since ∧
    request.Requests initiator { otherPlayerId := target, sessionToken := token }
  last : ∀ step ∈ since, step.StartsNone token

/-- Since the request that started the session of the token, its target has accepted and named the
initiator. -/
def Consented (steps : List Step) (token : String) : Prop :=
  ∃ initiator target since, RequestedBy steps token initiator target since ∧
    ∃ step ∈ since, step.Accepts target { otherPlayerId := initiator, sessionToken := token }

/-- What the history says about a session. -/
structure Agreed (steps : List Step) (token : String) (session : P2pSession) : Prop where
  requested : ∃ since, RequestedBy steps token session.initiatorPeerId session.targetPeerId since ∧
    (session.state ≠ .awaiting → ∃ step ∈ since, step.Accepts session.targetPeerId
      { otherPlayerId := session.initiatorPeerId, sessionToken := token })
  order : session.endpointAInternal = none → session.endpointBInternal = none
  paired : session.endpointBInternal = none → session.endpointBExternal = none
  differ : ∀ a b, session.endpointAExternal = some a → session.endpointBExternal = some b → a ≠ b

lemma RequestedBy.snoc {steps since : List Step} {token : String} {initiator target : PeerId} {step : Step}
    (h : RequestedBy steps token initiator target since) (hnone : step.StartsNone token) :
    RequestedBy (steps ++ [step]) token initiator target (since ++ [step]) := by
  obtain ⟨before, request, rfl, hrequest⟩ := h.request
  refine ⟨⟨before, request, by rw [List.append_assoc, List.cons_append], hrequest⟩, ?_⟩
  rw [List.forall_mem_append, List.forall_mem_singleton]
  exact ⟨h.last, hnone⟩

/-- **One step** that neither loses an unaccepted session nor mirrors an endpoint. -/
theorem Agreed.step {steps : List Step} {broker : P2pBroker} {step : Step}
    (h : ∀ token session, broker.sessions.lookup token = some session → Agreed steps token session)
    (hlost : ¬ step.LosesUnaccepted broker) (hmirror : ¬ step.MirrorsEndpoint broker) :
    ∀ token session, (step.apply broker).1.sessions.lookup token = some session →
      Agreed (steps ++ [step]) token session := by
  intro token session' hs'
  cases sessionStep_apply hs' with
  | @created sender message request token_eq session_eq =>
    subst token_eq session_eq
    refine ⟨⟨[], ⟨⟨steps, step, rfl, request⟩, fun s hs => absurd hs List.not_mem_nil⟩, ?_⟩, ?_, ?_, ?_⟩
    · exact fun hready => absurd rfl hready
    · exact fun _ => rfl
    · exact fun _ => rfl
    · intro a b ha
      cases ha
  | @moved session stored startsNone moves =>
    have hagreed := h token session stored
    obtain ⟨since, hrequested, haccepted⟩ := hagreed.requested
    have hsince := hrequested.snoc startsNone
    have hkept (hready : session.state ≠ .awaiting) : ∃ s ∈ since ++ [step], s.Accepts session.targetPeerId
        { otherPlayerId := session.initiatorPeerId, sessionToken := token } := by
      obtain ⟨s, hs, haccept⟩ := haccepted hready
      exact ⟨s, List.mem_append_left _ hs, haccept⟩
    cases moves with
    | same => exact ⟨⟨_, hsince, hkept⟩, hagreed.order, hagreed.paired, hagreed.differ⟩
    | accepted accept =>
      refine ⟨⟨_, hsince, fun _ => ?_⟩, hagreed.order, hagreed.paired, hagreed.differ⟩
      exact ⟨step, List.mem_append_right _ (List.mem_singleton_self step), accept⟩
    | lost lost =>
      -- a session whose link is lost has been accepted before
      have hready : session.state ≠ .awaiting := fun heq => hlost ⟨token, session, lost, stored, heq⟩
      refine ⟨⟨_, hsince, fun _ => hkept hready⟩, fun _ => rfl, fun _ => rfl, ?_⟩
      intro a b ha
      cases ha
    | linkUp initiator target => exact ⟨⟨_, hsince, hkept⟩, hagreed.order, hagreed.paired, hagreed.differ⟩
    | @entersA localAddr remoteAddr nat ready empty =>
      have hnone := hagreed.order empty
      refine ⟨⟨_, hsince, hkept⟩, fun _ => hnone, hagreed.paired, fun a b _ hb => ?_⟩
      rw [hagreed.paired hnone] at hb
      cases hb
    | @entersB localAddr remoteAddr nat ready full state state_ne =>
      unfold P2pBroker.enterEndpoints
      split
      next hempty =>
        refine ⟨⟨_, hsince, fun _ => hkept ready⟩, fun hnone => absurd hnone full, fun hnone => ?_, ?_⟩
        · cases hnone
        · rintro a b ha hb rfl
          obtain rfl := Option.some.inj hb
          subst nat
          exact hmirror ⟨session, stored, ready, ha, hempty⟩
      next hsome =>
        exact ⟨⟨_, hsince, fun _ => hkept ready⟩, hagreed.order, hagreed.paired, hagreed.differ⟩

/-- **When introductions are agreed to and have two sides.**  In every run from the empty broker in which no
link of an unaccepted session is reported lost and no NAT request enters an endpoint a second time: whenever
endpoints are introduced under a token, the target has accepted the initiator's last request for it, and the
external endpoints differ. -/
theorem nat_introduction_agreed {ts : List (Transition P2pBroker Step)} {broker : P2pBroker}
    (hrun : Run P2pBroker.Steps {} ts broker)
    (hsafe : ∀ tr ∈ ts, ¬ tr.label.LosesUnaccepted tr.src ∧ ¬ tr.label.MirrorsEndpoint tr.src) :
    ∀ before tr after, ts = before ++ tr :: after → ∀ aInternal aExternal bInternal bExternal token,
      .natIntroduce aInternal aExternal bInternal bExternal token ∈ (tr.label.apply tr.src).2 →
      Consented (before.map (·.label)) token ∧ aExternal ≠ bExternal := by
  rintro before tr after rfl aInternal aExternal bInternal bExternal token hsent
  have hagreed : ∀ token session, tr.src.sessions.lookup token = some session →
      Agreed (before.map (·.label)) token session := by
    refine hrun.split.history (P := fun ts broker => ∀ token session,
      broker.sessions.lookup token = some session → Agreed (ts.map (·.label)) token session)
      (C := fun broker step => ¬ step.LosesUnaccepted broker ∧ ¬ step.MirrorsEndpoint broker) ?_ ?_ ?_
    · exact fun _ _ hs => by cases hs
    · rintro ts s l t hst ⟨hlost, hmirror⟩ h
      rw [← hst, List.map_append]
      exact Agreed.step h hlost hmirror
    · exact fun tr htr => hsafe tr (List.mem_append_left _ htr)
  obtain ⟨localAddr, remoteAddr, session, hstep, hs, hready, ha, hb⟩ := natIntroduce_spec hsent
  have h := hagreed token session hs
  obtain ⟨since, hrequested, haccepted⟩ := h.requested
  refine ⟨⟨_, _, since, hrequested, haccepted hready⟩, ?_⟩
  rcases hb with ⟨hempty, rfl⟩ | ⟨-, hb⟩
  · rintro rfl
    have hmirror := (hsafe tr (List.mem_append_right _ List.mem_cons_self)).2
    rw [hstep] at hmirror
    exact hmirror ⟨session, hs, hready, ha, hempty⟩
  · exact h.differ _ _ ha hb

def endpointA : SocketAddr := .v4 (.ofFn fun _ => 10) 4296
def endpointB : SocketAddr := .v4 (.ofFn fun _ => 20) 4296

/-- Peer 1 asks peer 2, which accepts; both send their NAT request. -/
def agreedIntroduction : List Step :=
  [signal 1 channels.p2pSubRequest 2, signal 2 channels.p2pSubAccept 1,
    .natIntroductionRequest endpointA endpointA "t", .natIntroductionRequest endpointB endpointB "t"]

/-- The run the theorem is about: its last step introduces the two endpoints. -/
theorem nat_introduction_agreed_both : Consented (agreedIntroduction.take 3) "t" ∧ endpointA ≠ endpointB := by
  have hrun : Run P2pBroker.Steps {}
      (trace (fun broker step => (step.apply broker).1) {} agreedIntroduction) _ :=
    Run.of_trace _ _ fun _ htr => (dst_of_mem_trace htr).symm
  have hlost : ∀ tr ∈ trace (fun broker step => (step.apply broker).1) {} agreedIntroduction,
      tr.label.sub ≠ some channels.p2pSubLinkLost := by decide +kernel
  have hmirror : ∀ tr ∈ trace (fun broker step => (step.apply broker).1) {} agreedIntroduction,
      ¬ tr.label.MirrorsEndpoint tr.src := by decide +kernel
  refine nat_introduction_agreed hrun (fun tr htr => ⟨?_, hmirror tr htr⟩)
    ((trace (fun broker step => (step.apply broker).1) {} agreedIntroduction).take 3) _ [] rfl
    endpointA endpointA endpointB endpointB "t" (by decide +kernel)
  rintro ⟨token, session, hloses, -⟩
  exact hlost tr htr hloses.sub_eq

/-! ### One endpoint, introduced to itself -/

/-- Peer 1 asks peer 2, which never answers; peer 3 reports the link lost, and peer 1 sends its NAT request
twice. -/
def selfIntroduction : List Step :=
  [signal 1 channels.p2pSubRequest 2, signal 3 channels.p2pSubLinkLost 2,
    .natIntroductionRequest endpointA endpointA "t", .natIntroductionRequest endpointA endpointA "t"]

/-- The transition that introduces the endpoint to itself. -/
def selfIntroduced : Transition P2pBroker Step :=
  let src := selfIntroduction.dropLast.foldl (fun broker step => (step.apply broker).1) {}
  ⟨src, .natIntroductionRequest endpointA endpointA "t",
    (Step.apply src (.natIntroductionRequest endpointA endpointA "t")).1⟩

/-- Nobody has accepted, and both sides of the introduction are one endpoint. -/
theorem nat_introduction_of_itself : ∃ ts broker, Run P2pBroker.Steps {} ts broker ∧
    ∃ before tr, ts = before ++ [tr] ∧
      .natIntroduce endpointA endpointA endpointA endpointA "t" ∈ (tr.label.apply tr.src).2 ∧
      ¬ Consented (before.map (·.label)) "t" := by
  refine ⟨trace (fun broker step => (step.apply broker).1) {} selfIntroduction, _,
    Run.of_trace _ _ fun _ htr => (dst_of_mem_trace htr).symm,
    (trace (fun broker step => (step.apply broker).1) {} selfIntroduction).dropLast, selfIntroduced, rfl, ?_, ?_⟩
  · decide +kernel
  · rintro ⟨initiator, target, since, hrequested, step, hstep, haccept⟩
    obtain ⟨before, request, hsteps, -⟩ := hrequested.request
    have hmem : step ∈ before ++ request :: since :=
      List.mem_append_right _ (List.mem_cons_of_mem _ hstep)
    rw [← hsteps] at hmem
    have hnone : ∀ step ∈ (trace (fun broker step => (step.apply broker).1) {} selfIntroduction).dropLast.map (·.label),
        step.sub ≠ some channels.p2pSubAccept := by decide +kernel
    exact hnone step hmem haccept.sub_eq

end BasisRust.P2p
