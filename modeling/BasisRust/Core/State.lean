import BasisRust.Admin.Moderation
import BasisRust.Avatar.Sync
import BasisRust.P2p.Broker
import BasisRust.Permissions.Manager
import BasisRust.Protocol.Database
import BasisRust.Resources.State
import BasisRust.Server.Roster
import BasisRust.Transport.Send

/-!
# The server

`ServerState` of `basis-server-core` with all its stores, and the two ways a handler acts outside of them:
messages for peers, and calls on the transport.  Every message goes through `post`, which hands it to the
transport and records it if its peer is live; errors of a send are ignored or cannot occur.
-/

namespace BasisRust.Core

open Lib Protocol Transport
open Admin Avatar P2p Permissions Resources
open Server (ConnectedPeer isHeadlessPlatform)

/-! ### Data -/

inductive BasisUserRestrictionMode where
  | none
  | whiteList
  | blackList
  deriving DecidableEq, Repr

structure ServerConfig where
  peerLimit : Int32 := 65535
  serverName : String := "Basis Server"
  serverMotd : String := ""
  natPunchEnabled : Bool := false
  bsrsmillisecondDefaultInterval : Int32 := 50
  bsrbaseMultiplier : Int32 := 1
  /-- `0.005` -/
  bsrsincreaseRate : F32 := 0x3ba3d70a
  /-- `2.55` -/
  bsrslowestSendRate : F32 := 0x40233333
  password : String := "default_password"
  useAuth : Bool := true
  useAuthIdentity : Bool := true
  basisUserRestrictionMode : BasisUserRestrictionMode := .none
  disallowHeadless : Bool := false
  avatarsLocked : Bool := false
  propsLocked : Bool := false
  worldsLocked : Bool := false
  serversLocked : Bool := false
  thirdPersonDisabled : Bool := false
  additionalAvatarDataLock : Bool := false
  deriving DecidableEq

/-- `GlobalState::from` -/
def globalStateOf (config : ServerConfig) : GlobalState where
  avatarsLocked := config.avatarsLocked
  propsLocked := config.propsLocked
  worldsLocked := config.worldsLocked
  serversLocked := config.serversLocked
  thirdPersonDisabled := config.thirdPersonDisabled
  additionalAvatarDataLock := config.additionalAvatarDataLock
  disallowHeadless := config.disallowHeadless
  headlessAudioOff := false
  opusPacketLossPercent := 10
  opusFrameDurationMs := 20

structure BasisData where
  name : String
  jsonPayload : Value

structure ServerState where
  config : ServerConfig
  transport : TransportHandle := {}
  authenticatedPeers : Dict PeerId ConnectedPeer := ∅
  pendingIdentity : Dict PeerId ReadyMessage := ∅
  permissions : PermissionStore := {}
  database : Dict String BasisData := ∅
  resources : ResourceState := {}
  netIds : NetIdState := {}
  ownership : OwnershipState := {}
  contentShare : ContentShareState := {}
  pip : PipState := {}
  voiceRecipients : Dict PeerId (List PeerId) := ∅
  avatarSync : AvatarSyncSystem := {}
  p2pBroker : P2pBroker := {}
  moderation : ModerationLists := {}
  globalState : GlobalState
  /-- the messages handed to the transport for a live peer -/
  sent : List Outgoing := []

/-- The server before anybody has connected. -/
def ServerState.start (config : ServerConfig) : ServerState where
  config := config
  permissions := PermissionManager.ensureDefaults {}
  globalState := globalStateOf config

/-- What the rest of the world contributes while one event is handled. -/
structure Outside where
  /-- the outside during a call on the transport -/
  io : Io := {}
  allocateFuel : ℕ
  json : SerdeJson
  deflate : Bytes → Option Bytes
  /-- the bytes of a fresh `Uuid::new_v4` -/
  challenge : Bytes
  /-- `status_text_with_detail(true)` -/
  statusText : String
  /-- `utc_timestamp_string` -/
  timestamp : String
  /-- the ban list could be written -/
  saved : Bool

/-! ### Numbers and addresses -/

/-- `value as usize`, on 64 bits. -/
def asUsize (value : Int32) : ℕ := (value.toInt % 18446744073709551616).toNat

/-- The longest run of zeros, the first one of equals: where it starts and how long it is. -/
def longestZeros (segments : List ℕ) : ℕ × ℕ :=
  let scan := segments.zipIdx.foldl (fun (longest, current) (segment, i) =>
    if segment = 0 then
      let current : ℕ × ℕ := if current.2 = 0 then (i, 1) else (current.1, current.2 + 1)
      (if current.2 > longest.2 then current else longest, current)
    else (longest, (0, 0))) (((0, 0), (0, 0)) : (ℕ × ℕ) × (ℕ × ℕ))
  scan.1

def segmentsText (segments : List ℕ) : String :=
  ":".intercalate (segments.map fun segment => String.ofList (Nat.toDigits 16 segment))

def ipv4Text (octets : List UInt8) : String := ".".intercalate (octets.map fun octet => toString octet.toNat)

/-- `Ipv6Addr::to_string` -/
def ipv6Text (octets : List UInt8) : String :=
  let segments := (List.range 8).map fun i => (octets.getD (2 * i) 0).toNat * 256 + (octets.getD (2 * i + 1) 0).toNat
  if segments.take 6 = [0, 0, 0, 0, 0, 0xffff] then "::ffff:" ++ ipv4Text (octets.drop 12)
  else
    let (start, len) := longestZeros segments
    if len > 1 then segmentsText (segments.take start) ++ "::" ++ segmentsText (segments.drop (start + len))
    else segmentsText segments

/-- `addr.ip().to_string()` -/
def ipText : SocketAddr → String
  | .v4 octets _ => ipv4Text octets.toList
  | .v6 octets _ _ _ => ipv6Text octets.toList

/-! ### Messages -/

def isP2pOffloadChannel (channel : UInt8) : Bool :=
  channel = channels.voice || channel = channels.voiceLarge || channel = channels.shoutVoice ||
    channel = channels.avatar

namespace ServerState

/-- The message is for a peer of the table, or for none. -/
def isLive (handle : TransportHandle) : Outgoing → Bool
  | .send target _ _ _ => target ∈ handle.peers
  | .natIntroduce _ _ _ _ _ => true

def deliver (handle : TransportHandle) : Outgoing → TransportHandle
  | .send target channel delivery payload => handle.send target channel delivery payload
  | .natIntroduce _ _ _ _ _ => handle

/-- `transport.send` of each message. -/
def post (messages : List Outgoing) (s : ServerState) : ServerState :=
  { s with
    transport := messages.foldl deliver s.transport
    sent := s.sent ++ messages.filter (isLive s.transport) }

/-- On the channels all messages to one peer go over. -/
def send (target : PeerId) (channel : UInt8) (payload : Bytes) (s : ServerState) : ServerState :=
  s.post [.send target channel .reliableOrdered payload]

/-- Whom `broadcast` sends to. -/
def audience (channel : UInt8) (except : Option PeerId) (s : ServerState) : List PeerId :=
  s.authenticatedPeers.keys.filter fun target =>
    some target ≠ except &&
      !(isP2pOffloadChannel channel && except.any fun sender => s.p2pBroker.isOffloaded sender target)

def broadcast (channel : UInt8) (delivery : DeliveryMethod) (payload : Bytes) (except : Option PeerId)
    (s : ServerState) : ServerState :=
  s.post ((s.audience channel except).map fun target => .send target channel delivery payload)

/-- A call on the transport; none of those a handler makes emits an event. -/
def call (op : Op) (env : Outside) (s : ServerState) : ServerState :=
  { s with transport := (s.transport.outcome (op, env.io)).handle }

def playerCount (s : ServerState) : ℕ := s.authenticatedPeers.keys.length

end ServerState
end BasisRust.Core
