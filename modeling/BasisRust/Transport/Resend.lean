import BasisRust.Transport.Send

/-!
# The resend loop

`reliable_resend_loop` for one peer, tick by tick: a ping when the last one is old, the acknowledgements of what
was received since the last tick, the payloads the windows have room for, and once more every packet sent too long
ago.  Each part holds the lock of what it works on; between two parts other calls may come in.
-/

namespace BasisRust.Transport

open Lib Protocol

def pingIntervalMillis : ℕ := 1500
def resendAfterMillis : ℕ := 150

/-- The ping, when the last one is old enough. -/
def pingIfDue (now : ℕ) (peer : PeerState) : PeerState × List Bytes :=
  if now - peer.lastPingSent ≥ pingIntervalMillis then
    ({ peer with lastPingSent := now, nextPingSequence := peer.nextPingSequence + 1 },
      [buildPingPacket peer.connectionNumber peer.nextPingSequence])
  else (peer, [])

/-- `acks.drain()`, and the packets built of it. -/
def drainAcks (peer : PeerState) : PeerState × List Bytes :=
  ({ peer with outgoingAcks := ∅ },
    peer.outgoingAcks.entries.map fun e => buildAckPacket peer.connectionNumber e.1 e.2)

/-- `pending_by_channel` -/
def pendingOn (peer : PeerState) (channelId : UInt8) : ℕ :=
  peer.pendingReliable.entries.countP fun e => e.1.channelId = channelId

/-- How many packets the window of the channel id has room for. -/
def capacityOn (peer : PeerState) (channelId : UInt8) : ℕ := defaultWindowSize - pendingOn peer channelId

/-- What is taken from the queues, `newly_queued`, and the queues without it. -/
def takeQueued (peer : PeerState) : PeerState × List (UInt8 × Bytes) :=
  ({ peer with outgoingReliable := peer.outgoingReliable.mapEntries fun c queue => queue.drop (capacityOn peer c) },
    peer.outgoingReliable.entries.flatMap fun e => (e.2.take (capacityOn peer e.1)).map fun payload => (e.1, payload))

/-- One payload of `newly_queued` is numbered, recorded and sent. -/
def sendQueued (now : ℕ) (peer : PeerState) (queued : UInt8 × Bytes) : PeerState × Bytes :=
  let (built, peer) := buildQueuedReliablePacket peer queued.1 queued.2
  (recordPendingReliable now peer built, built.bytes)

/-- What was sent too long ago is sent again. -/
def resendDue (now : ℕ) (peer : PeerState) : PeerState × List Bytes :=
  ({ peer with
      pendingReliable := peer.pendingReliable.mapValues fun item =>
        if now - item.lastSent ≥ resendAfterMillis then { item with lastSent := now } else item },
    (peer.pendingReliable.entries.filter fun e => now - e.2.lastSent ≥ resendAfterMillis).map (·.2.bytes))

/-- The payloads sent one after the other, each at its own instant. -/
def sendAllQueued (instant : ℕ → ℕ) : PeerState → List (UInt8 × Bytes) → PeerState × List Bytes
  | peer, [] => (peer, [])
  | peer, queued :: rest =>
    let (peer, bytes) := sendQueued (instant rest.length) peer queued
    let (peer, sends) := sendAllQueued instant peer rest
    (peer, bytes :: sends)

/-- One tick without anything in between; the second part is what it sends, before datagrams are merged. -/
def resendTick (now : ℕ) (instant : ℕ → ℕ) (peer : PeerState) : PeerState × List Bytes :=
  let (peer, pings) := pingIfDue now peer
  let (peer, acks) := drainAcks peer
  let (peer, newlyQueued) := takeQueued peer
  let (peer, packets) := sendAllQueued instant peer newlyQueued
  let (peer, resends) := resendDue now peer
  (peer, pings ++ acks ++ packets ++ resends)

end BasisRust.Transport
