import BasisRust.Lib.Bitmap
import BasisRust.Lib.CircularWindow
import BasisRust.Lib.Dict
import BasisRust.Transport.Packet

/-!
# One peer: sequence numbers, pending packets and acknowledgements

`PeerState` with the functions that work on a single peer.  Instants are milliseconds of one monotonic
clock.  The acknowledgements are a bitmap of the last 128 sequence numbers received on a channel id,
numbers running modulo 32768; it is the circular window of `Lib.CircularWindow`
(`AckState.toWindow`).
-/

namespace BasisRust.Transport

open Lib Protocol

def maxPendingReliablePerPeer : ℕ := 4096

structure PendingReliableKey where
  channelId : UInt8
  sequence : UInt16
  deriving DecidableEq, Repr

structure PendingReliable where
  bytes : Bytes
  lastSent : ℕ
  deriving DecidableEq, Repr

structure AckState where
  windowStart : UInt16
  bits : Bytes
  deriving DecidableEq, Repr

structure PeerState where
  id : PeerId
  addr : SocketAddr
  connectionNumber : UInt8
  connectTime : Int64
  lastSeen : ℕ
  lastPingSent : ℕ
  nextPingSequence : UInt16
  nextReliableSequence : Dict UInt8 UInt16
  nextSequencedSequence : Dict UInt8 UInt16
  pendingReliable : Dict PendingReliableKey PendingReliable
  outgoingReliable : Dict UInt8 (List Bytes)
  outgoingAcks : Dict UInt8 AckState
  deriving DecidableEq

/-- A peer as `accept` creates it. -/
def PeerState.new (id : PeerId) (addr : SocketAddr) (connectionNumber : UInt8) (connectTime : Int64)
    (now : ℕ) : PeerState where
  id := id
  addr := addr
  connectionNumber := connectionNumber
  connectTime := connectTime
  lastSeen := now
  lastPingSent := now
  nextPingSequence := 0
  nextReliableSequence := ∅
  nextSequencedSequence := ∅
  pendingReliable := ∅
  outgoingReliable := ∅
  outgoingAcks := ∅

/-! ### Sending -/

structure BuiltPacket where
  bytes : Bytes
  reliableKey : Option (UInt8 × UInt16)

/-- The number to send next on a channel id, and the counters moved on. -/
def nextChannelSequence (sequences : Dict UInt8 UInt16) (channelId : UInt8) :
    UInt16 × Dict UInt8 UInt16 :=
  let current := (sequences.lookup channelId).getD 0
  (current, sequences.insert channelId ((current + 1) % 32768))

def isReliableDelivery : DeliveryMethod → Bool
  | .reliableUnordered | .reliableOrdered | .reliableSequenced => true
  | _ => false

def enqueueReliablePayload (peer : PeerState) (channel : UInt8) (delivery : DeliveryMethod)
    (payload : Bytes) : PeerState :=
  let channelId := DeliveryMethod.channelId channel delivery
  let queue := (peer.outgoingReliable.lookup channelId).getD []
  { peer with outgoingReliable := peer.outgoingReliable.insert channelId (queue ++ [payload]) }

/-- The number that is given out next on the channel id. -/
def nextOn (channelId : UInt8) (peer : PeerState) : UInt16 := (peer.nextReliableSequence.lookup channelId).getD 0

def channeledBytes (peer : PeerState) (sequence : UInt16) (channelId : UInt8) (payload : Bytes) :
    Bytes :=
  putU8 (headerByte .channeled peer.connectionNumber) ++ putU16 sequence ++ putU8 channelId ++
  putBytes payload

def buildQueuedReliablePacket (peer : PeerState) (channelId : UInt8) (payload : Bytes) :
    BuiltPacket × PeerState :=
  let (sequence, nextReliableSequence) := nextChannelSequence peer.nextReliableSequence channelId
  (⟨channeledBytes peer sequence channelId payload, some (channelId, sequence)⟩,
    { peer with nextReliableSequence })

def buildOutboundPacket (peer : PeerState) (channel : UInt8) (delivery : DeliveryMethod)
    (payload : Bytes) : BuiltPacket × PeerState :=
  match delivery with
  | .unreliable =>
    (⟨putU8 (headerByte .unreliable peer.connectionNumber) ++ putU8 channel ++ putBytes payload,
      none⟩, peer)
  | .sequenced =>
    let channelId := DeliveryMethod.channelId channel delivery
    let (sequence, nextSequencedSequence) := nextChannelSequence peer.nextSequencedSequence channelId
    (⟨channeledBytes peer sequence channelId payload, none⟩, { peer with nextSequencedSequence })
  | _ => buildQueuedReliablePacket peer (DeliveryMethod.channelId channel delivery) payload

/-- The first entry of the iteration with the smallest `last_sent`. -/
def oldestPending (pending : Dict PendingReliableKey PendingReliable) : Option PendingReliableKey :=
  pending.entries.foldl (fun oldest e =>
    match oldest with
    | some (key, lastSent) => if e.2.lastSent < lastSent then some (e.1, e.2.lastSent)
        else some (key, lastSent)
    | none => some (e.1, e.2.lastSent)) none |>.map (·.1)

/-- A full table makes room by dropping the packet sent longest ago. -/
def recordPendingReliable (now : ℕ) (peer : PeerState) (built : BuiltPacket) : PeerState :=
  match built.reliableKey with
  | none => peer
  | some (channelId, sequence) =>
    let pending :=
      if peer.pendingReliable.entries.length ≥ maxPendingReliablePerPeer then
        match oldestPending peer.pendingReliable with
        | some oldest => peer.pendingReliable.erase oldest
        | none => peer.pendingReliable
      else peer.pendingReliable
    { peer with pendingReliable := pending.insert ⟨channelId, sequence⟩ ⟨built.bytes, now⟩ }

def buildPingPacket (connectionNumber : UInt8) (sequence : UInt16) : Bytes :=
  putU8 (headerByte .ping connectionNumber) ++ putU16 sequence

/-- A disconnect datagram is meant for this connection of the peer. -/
def disconnectMatches (peer : PeerState) (bytes : Bytes) (connectionNumber : UInt8) : Bool :=
  if bytes.length < 9 ∨ connectionNumber ≠ peer.connectionNumber then false
  else i64At bytes 1 = peer.connectTime

/-! ### Acknowledgements -/

def relativeSequence (seq expected : UInt16) : ℤ :=
  let diff : ℤ := (seq.toNat : ℤ) - (expected.toNat : ℤ)
  if diff ≤ -16384 then diff + 32768
  else if diff ≥ 16384 then diff - 32768
  else diff

/-- The window of a channel id on which nothing was received yet. -/
def AckState.fresh (sequence : UInt16) : AckState where
  windowStart := sequence
  bits := List.replicate ((defaultWindowSize - 1) / 8 + 2) 0

/-- The sequences that leave a window moved on by `shift`; the range ends where the `u16` addition
does. -/
def AckState.oldSequences (ack : AckState) (shift : ℕ) : List ℕ :=
  let stop := (ack.windowStart + UInt16.ofNat shift).toNat
  List.range' ack.windowStart.toNat (stop - ack.windowStart.toNat)

def AckState.slide (ack : AckState) (shift : ℕ) : AckState where
  windowStart := (ack.windowStart + UInt16.ofNat shift) % 32768
  bits := ((ack.oldSequences shift).map (· % defaultWindowSize)).foldl clearBit ack.bits

/-- The body of `queue_ack` once the entry is there. -/
def AckState.receive (ack : AckState) (sequence : UInt16) : AckState :=
  let rel := relativeSequence sequence ack.windowStart
  if rel < 0 then ack
  else
    let ack :=
      if rel.toNat ≥ defaultWindowSize then ack.slide (rel.toNat - defaultWindowSize + 1) else ack
    { ack with bits := setBit ack.bits (sequence.toNat % defaultWindowSize) }

def queueAck (peer : PeerState) (channelId : UInt8) (sequence : UInt16) : PeerState :=
  let ack := (peer.outgoingAcks.lookup channelId).getD (AckState.fresh sequence)
  { peer with outgoingAcks := peer.outgoingAcks.insert channelId (ack.receive sequence) }

def buildAckPacket (connectionNumber channelId : UInt8) (ack : AckState) : Bytes :=
  [headerByte .ack connectionNumber] ++ leBytes 2 ack.windowStart.toNat ++ [channelId] ++ ack.bits

/-- An ack packet acknowledges this sequence. -/
def ackBitSet (bytes : Bytes) (sequence : UInt16) : Bool :=
  let rel := relativeSequence sequence (u16At bytes 1)
  if rel < 0 ∨ rel.toNat ≥ defaultWindowSize then false
  else getBit (bytes.drop 4) (sequence.toNat % defaultWindowSize)

def processAck (peer : PeerState) (bytes : Bytes) : PeerState :=
  if bytes.length < 4 then peer
  else
    { peer with
      pendingReliable := Dict.retain
        (fun key _ => if key.channelId ≠ u8At bytes 3 then true else !ackBitSet bytes key.sequence)
        peer.pendingReliable }

end BasisRust.Transport
