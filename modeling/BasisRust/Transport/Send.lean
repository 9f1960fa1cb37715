import BasisRust.Transport.Effect

/-!
# Sending to a peer

`TransportHandle::send`, as far as it changes the peer: a reliable payload is queued, for any other one the
next sequence number is taken.  A peer that is gone is passed over.
-/

namespace BasisRust.Transport

open Lib Protocol

namespace TransportHandle

def send (peer : PeerId) (channel : UInt8) (delivery : DeliveryMethod) (payload : Bytes)
    (handle : TransportHandle) : TransportHandle :=
  handle.modifyPeer peer fun state =>
    if isReliableDelivery delivery then enqueueReliablePayload state channel delivery payload
    else (buildOutboundPacket state channel delivery payload).2

end TransportHandle

lemma samePeer_buildOutboundPacket (state : PeerState) (channel : UInt8) (delivery : DeliveryMethod)
    (payload : Bytes) : SamePeer state (buildOutboundPacket state channel delivery payload).2 := by
  cases delivery <;> exact ⟨rfl, rfl, rfl, rfl⟩

/-- A send leaves the tables as they are. -/
theorem sameTables_send (peer : PeerId) (channel : UInt8) (delivery : DeliveryMethod) (payload : Bytes)
    (handle : TransportHandle) : SameTables handle (handle.send peer channel delivery payload) := by
  refine .modifyPeer peer fun state => ?_
  split
  · exact ⟨rfl, rfl, rfl, rfl⟩
  · exact samePeer_buildOutboundPacket state channel delivery payload

end BasisRust.Transport
