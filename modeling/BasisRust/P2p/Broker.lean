import BasisRust.Lib.Dict
import BasisRust.Lib.HashSet
import BasisRust.Protocol.Channels
import BasisRust.Protocol.Messages
import BasisRust.Transport.Packet

/-!
# The peer-to-peer broker

`P2pBroker` of `basis-server-core`: sessions by client-chosen token, the tokens each peer takes part in
and the pairs of peers whose traffic the server no longer relays.  Each handler returns the new state and
the packets it hands to the transport, in order; the broker ignores whether a send succeeds.
-/

namespace BasisRust.P2p

open BasisRust.Lib BasisRust.Protocol BasisRust.Transport

inductive SessionState where
  | awaiting
  | readyForPunch
  | punched
  deriving DecidableEq, Repr

/-- The order of declaration. -/
def SessionState.rank : SessionState → ℕ
  | awaiting => 0
  | readyForPunch => 1
  | punched => 2

structure P2pSession where
  initiatorPeerId : PeerId
  targetPeerId : PeerId
  state : SessionState := .awaiting
  endpointAInternal : Option SocketAddr := none
  endpointAExternal : Option SocketAddr := none
  endpointBInternal : Option SocketAddr := none
  endpointBExternal : Option SocketAddr := none
  initiatorLinkUp : Bool := false
  targetLinkUp : Bool := false
  deriving DecidableEq

structure P2pBroker where
  sessions : Dict String P2pSession := ∅
  peerSessions : Dict PeerId (HashSet String) := ∅
  offloadedPairs : HashSet UInt64 := ∅

/-- What the broker asks of the transport. -/
inductive Outgoing where
  | send (peer : PeerId) (channel : UInt8) (delivery : DeliveryMethod) (payload : Bytes)
  | natIntroduce (aInternal aExternal bInternal bExternal : SocketAddr) (token : String)
  deriving DecidableEq

def packPair (a b : PeerId) : UInt64 :=
  let lo := (min a b).toUInt64
  let hi := (max a b).toUInt64
  (lo <<< 32) ||| hi

def sendSub (peer : PeerId) (sub : UInt8) (token : String) (otherPlayerId : PeerId) : Outgoing :=
  .send peer channels.p2p .reliableOrdered
    (sub :: BasisP2PSignalMessage.serialize { otherPlayerId, sessionToken := token })

namespace P2pBroker

def isOffloaded (broker : P2pBroker) (a b : PeerId) : Bool :=
  if a = b then false else packPair a b ∈ broker.offloadedPairs

/-! ### The maps -/

def trackPeerSession (peer : PeerId) (token : String) (broker : P2pBroker) : P2pBroker :=
  { broker with
    peerSessions := broker.peerSessions.insert peer
      (((broker.peerSessions.lookup peer).getD ∅).insert token) }

def untrackPeerSession (peer : PeerId) (token : String) (broker : P2pBroker) : P2pBroker :=
  { broker with peerSessions := broker.peerSessions.modify peer (·.erase token) }

def removeSession (token : String) (broker : P2pBroker) : P2pBroker :=
  match broker.sessions.lookup token with
  | none => broker
  | some session =>
    let broker := { broker with sessions := broker.sessions.erase token }
    let broker := broker.untrackPeerSession session.initiatorPeerId token
    let broker := broker.untrackPeerSession session.targetPeerId token
    { broker with
      offloadedPairs := broker.offloadedPairs.erase
        (packPair session.initiatorPeerId session.targetPeerId) }

/-! ### Signals -/

def handleRequest (isAuthenticated : PeerId → Bool) (sender : PeerId) (message : BasisP2PSignalMessage)
    (broker : P2pBroker) : P2pBroker × List Outgoing :=
  if message.sessionToken = "" ∨ message.otherPlayerId = sender then (broker, [])
  else if !isAuthenticated message.otherPlayerId then
    (broker, [sendSub sender channels.p2pSubCancel message.sessionToken message.otherPlayerId])
  else
    let session : P2pSession := { initiatorPeerId := sender, targetPeerId := message.otherPlayerId }
    let broker := { broker with sessions := broker.sessions.insert message.sessionToken session }
    let broker := broker.trackPeerSession sender message.sessionToken
    let broker := broker.trackPeerSession message.otherPlayerId message.sessionToken
    (broker,
      [sendSub message.otherPlayerId channels.p2pSubRequest message.sessionToken sender,
        sendSub sender channels.p2pSubServerArmed message.sessionToken message.otherPlayerId])

def handleAccept (sender : PeerId) (message : BasisP2PSignalMessage) (broker : P2pBroker) :
    P2pBroker × List Outgoing :=
  match broker.sessions.lookup message.sessionToken with
  | none => (broker, [])
  | some session =>
    if session.targetPeerId ≠ sender ∨ session.initiatorPeerId ≠ message.otherPlayerId then (broker, [])
    else
      ({ broker with
          sessions := broker.sessions.insert message.sessionToken
            { session with state := .readyForPunch } },
        [sendSub session.initiatorPeerId channels.p2pSubAccept message.sessionToken sender])

def forwardAndDrop (sender : PeerId) (message : BasisP2PSignalMessage) (sub : UInt8) (dropSession : Bool)
    (broker : P2pBroker) : P2pBroker × List Outgoing :=
  (if dropSession ∧ message.sessionToken ≠ "" then broker.removeSession message.sessionToken else broker,
    [sendSub message.otherPlayerId sub message.sessionToken sender])

def handleLinkLost (sender : PeerId) (message : BasisP2PSignalMessage) (broker : P2pBroker) :
    P2pBroker × List Outgoing :=
  let broker :=
    match broker.sessions.lookup message.sessionToken with
    | none => broker
    | some session =>
      { broker with
        sessions := broker.sessions.insert message.sessionToken
          { session with
            endpointAInternal := none
            endpointAExternal := none
            endpointBInternal := none
            endpointBExternal := none
            initiatorLinkUp := false
            targetLinkUp := false
            state := .readyForPunch }
        offloadedPairs := broker.offloadedPairs.erase
          (packPair session.initiatorPeerId session.targetPeerId) }
  broker.forwardAndDrop sender message channels.p2pSubLinkLost false

/-- The session after the sender's link came up; nothing changes for a sender that takes no part. -/
def linkUp (sender : PeerId) (session : P2pSession) : Option P2pSession :=
  if sender = session.initiatorPeerId then some { session with initiatorLinkUp := true }
  else if sender = session.targetPeerId then some { session with targetLinkUp := true }
  else none

def handleLinkUp (sender : PeerId) (message : BasisP2PSignalMessage) (broker : P2pBroker) : P2pBroker :=
  match (broker.sessions.lookup message.sessionToken).bind (linkUp sender) with
  | none => broker
  | some session =>
    let broker := { broker with sessions := broker.sessions.insert message.sessionToken session }
    if session.initiatorLinkUp ∧ session.targetLinkUp then
      { broker with
        offloadedPairs := broker.offloadedPairs.insert
          (packPair session.initiatorPeerId session.targetPeerId) }
    else broker

def handleSignal (isAuthenticated : PeerId → Bool) (sender : PeerId) (payload : Bytes)
    (broker : P2pBroker) : P2pBroker × List Outgoing :=
  match payload with
  | [] => (broker, [])
  | sub :: rest =>
    match BasisP2PSignalMessage.deserialize rest with
    | .error _ _ => (broker, [])
    | .ok message _ =>
      if sub = channels.p2pSubRequest then broker.handleRequest isAuthenticated sender message
      else if sub = channels.p2pSubAccept then broker.handleAccept sender message
      else if sub = channels.p2pSubDecline then
        broker.forwardAndDrop sender message channels.p2pSubDecline true
      else if sub = channels.p2pSubCancel then
        broker.forwardAndDrop sender message channels.p2pSubCancel true
      else if sub = channels.p2pSubLinkLost then broker.handleLinkLost sender message
      else if sub = channels.p2pSubLinkUp then (broker.handleLinkUp sender message, [])
      else (broker, [])

/-! ### NAT introduction and departures -/

/-- The session once a NAT request from `local`, seen as `remote`, has been entered: the first pair of
endpoints is the initiator's, the second one the target's. -/
def enterEndpoints (localAddr remoteAddr : SocketAddr) (session : P2pSession) : P2pSession :=
  if session.endpointBInternal = none then
    { session with endpointBInternal := some localAddr, endpointBExternal := some remoteAddr }
  else session

def handleNatIntroductionRequest (localAddr remoteAddr : SocketAddr) (token : String)
    (broker : P2pBroker) : P2pBroker × List Outgoing :=
  if token = "" then (broker, [])
  else
    match broker.sessions.lookup token with
    | none => (broker, [])
    | some session =>
      if session.state.rank < SessionState.readyForPunch.rank then (broker, [])
      else if session.endpointAInternal = none then
        ({ broker with
            sessions := broker.sessions.insert token
              { session with
                endpointAInternal := some localAddr, endpointAExternal := some remoteAddr } }, [])
      else
        let session := enterEndpoints localAddr remoteAddr session
        match session.endpointAInternal, session.endpointAExternal, session.endpointBInternal,
            session.endpointBExternal with
        | some aInternal, some aExternal, some bInternal, some bExternal =>
          ({ broker with sessions := broker.sessions.insert token { session with state := .punched } },
            [.natIntroduce aInternal aExternal bInternal bExternal token])
        | _, _, _, _ => ({ broker with sessions := broker.sessions.insert token session }, [])

/-- The loop body of `remove_peer`. -/
def removePeerToken (peer : PeerId) (s : P2pBroker × List Outgoing) (token : String) :
    P2pBroker × List Outgoing :=
  match s.1.sessions.lookup token with
  | none => s
  | some session =>
    let other :=
      if session.initiatorPeerId = peer then session.targetPeerId else session.initiatorPeerId
    (s.1.removeSession token, s.2 ++ [sendSub other channels.p2pSubCancel token peer])

def removePeer (peer : PeerId) (broker : P2pBroker) : P2pBroker × List Outgoing :=
  match broker.peerSessions.lookup peer with
  | none => (broker, [])
  | some tokens =>
    tokens.elems.foldl (removePeerToken peer)
      ({ broker with peerSessions := broker.peerSessions.erase peer }, [])

end P2pBroker

/-! ### Steps -/

/-- What reaches the broker; `isAuthenticated` is the server's answer at that moment. -/
inductive Step where
  | signal (isAuthenticated : PeerId → Bool) (sender : PeerId) (payload : Bytes)
  | natIntroductionRequest (localAddr remoteAddr : SocketAddr) (token : String)
  | removePeer (peer : PeerId)

def Step.apply (broker : P2pBroker) : Step → P2pBroker × List Outgoing
  | signal isAuthenticated sender payload => broker.handleSignal isAuthenticated sender payload
  | natIntroductionRequest localAddr remoteAddr token =>
    broker.handleNatIntroductionRequest localAddr remoteAddr token
  | removePeer peer => broker.removePeer peer

end BasisRust.P2p
