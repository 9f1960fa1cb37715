import BasisRust.Client.Merged
import BasisRust.Client.Reliable
import BasisRust.Lib.FinalState

/-!
# The client's session

What the client does with the datagrams of its server and what its maintenance loop does besides.  Whatever it gives
to its socket is recorded in `sent`; an error ends what is under way.
-/

namespace BasisRust.Client

open Lib Protocol Transport

/-! ### Packets -/

structure ParsedPacket where
  property : PacketProperty
  connectionNumber : UInt8
  sequence : Option UInt16
  channelId : Option UInt8
  payload : Bytes
  deriving DecidableEq, Repr

/-- The length of the header. -/
def headerLen : PacketProperty → ℕ
  | .unreliable => 2
  | .channeled | .ack => 4
  | .ping => 3
  | .pong => 11
  | .connectAccept => 15
  | .disconnect => 9
  | _ => 1

def parsePacket (bytes : Bytes) : Option ParsedPacket :=
  match bytes with
  | [] => none
  | header :: _ =>
    match PacketProperty.fromByte header with
    | none => none
    | some property =>
      if bytes.length < headerLen property then none
      else
        some {
          property
          connectionNumber := connectionNumberOf header
          sequence :=
            match property with
            | .channeled | .ack | .ping | .pong => some (u16At bytes 1)
            | _ => none
          channelId :=
            match property with
            | .channeled | .ack => some (u8At bytes 3)
            | _ => none
          payload := bytes.drop (headerLen property) }

def readBytesMessage (data : Bytes) : Option Bytes :=
  if data.length < 2 then none
  else
    let len := (u16At data 0).toNat
    if data.length < 2 + len then none else some (slice data 2 len)

/-! ### The client -/

structure Session extends ReliableClient where
  remotePeerId : Option Int32 := none
  inUse : Bool := true
  pingSequence : UInt16 := 0

inductive ClientError where
  | io
  | identity
  deriving DecidableEq, Repr

structure ClientWorld where
  session : Session
  /-- `SystemTime::now()`, in milliseconds -/
  now : ℕ := 0
  /-- `dotnet_utc_ticks()` -/
  utcTicks : Int64 := 0
  /-- whether the sends still to come succeed; all do when the list has run out -/
  sendResults : List Bool := []
  sent : List Bytes := []
  /-- every reliable packet that was built, whether the socket took it or not -/
  numbered : List Bytes := []

abbrev ClientM := EStateM ClientError ClientWorld

def modifySession (f : Session → Session) : ClientM Unit := modify fun w => { w with session := f w.session }

/-- `socket.send_to(.., server_addr)` -/
def sendToServer (bytes : Bytes) : ClientM Unit := fun w =>
  match w.sendResults with
  | false :: rest => .error .io { w with sendResults := rest }
  | results => .ok () { w with sendResults := results.tail, sent := w.sent ++ [bytes] }

/-! ### Sending -/

def sendReliable (channel : UInt8) (payload : Bytes) : ClientM Unit := fun w =>
  let taken := w.sendResults.headD true
  let (client, packet) := w.session.toReliableClient.sendReliableOrdered ⟨channel, payload, w.now, taken⟩
  let w := { w with session := { w.session with toReliableClient := client } }
  match packet with
  | none => .ok () w
  | some packet => sendToServer packet { w with numbered := w.numbered ++ [packet] }

def sendUnreliable (channel : UInt8) (payload : Bytes) : ClientM Unit := do
  let w ← get
  if !w.session.connected then return
  else sendToServer ([headerByte .unreliable w.session.connectionNumber, channel] ++ payload)

def sendAckPacket (channelId : UInt8) (sequence : UInt16) : ClientM Unit := do
  let w ← get
  sendToServer (sendAck w.session.connectionNumber channelId sequence)

def sendPong (sequence : UInt16) : ClientM Unit := do
  let w ← get
  sendToServer (putU8 (headerByte .pong w.session.connectionNumber) ++ putU16 sequence ++ putI64 w.utcTicks)

def sendPing : ClientM Unit := do
  let w ← get
  if !w.session.connected then return
  else
    modifySession fun session => { session with pingSequence := session.pingSequence + 1 }
    sendToServer (putU8 (headerByte .ping w.session.connectionNumber) ++ putU16 w.session.pingSequence)

/-- What was sent 150 milliseconds ago, or in a future the clock has been put back from, is sent again. -/
def ReliableSend.isDue (now : ℕ) (item : ReliableSend) : Bool :=
  match item.lastSent with
  | some sent => if now < sent then true else now - sent ≥ 150
  | none => true

/-- One round of the loop of `resend_reliable`. -/
def resendItem (index : ℕ) : ClientM Unit := do
  let w ← get
  match w.session.pendingReliable[index]? with
  | none => return
  | some item =>
    if item.isDue w.now then
      sendToServer item.bytes
      modifySession fun session =>
        { session with
          pendingReliable := session.pendingReliable.set index { item with lastSent := some w.now } }
    else return

def resendReliable : ClientM Unit := do
  let w ← get
  if !w.session.connected then return
  else (List.range w.session.pendingReliable.length).forM resendItem

/-- `disconnect`; whether the datagram could be sent does not matter. -/
def disconnect : ClientM Unit := do
  modifySession fun session => { session with inUse := false, connected := false }
  let w ← get
  tryCatch (sendToServer (putU8 (headerByte .disconnect w.session.connectionNumber) ++ putI64 w.session.connectTime))
    fun _ => pure ()

/-! ### Receiving -/

/-- `process_ack`; what lies behind the bits is not acknowledged. -/
def stillPending (channelId : UInt8) (ackWindowStart : UInt16) (ackBits : Bytes) (item : ReliableSend) : Bool :=
  if item.channelId ≠ channelId then true
  else
    let rel := relativeSequence item.sequence ackWindowStart
    if rel < 0 ∨ rel.toNat ≥ defaultWindowSize then true
    else !getBit ackBits (item.sequence.toNat % defaultWindowSize)

def processAck (channelId : UInt8) (ackWindowStart : UInt16) (ackBits : Bytes) : ClientM Unit :=
  modifySession fun session =>
    { session with pendingReliable := session.pendingReliable.filter (stillPending channelId ackWindowStart ackBits) }

section Receiving

-- the client's identity: what it answers to a challenge
variable (responsePayload : Bytes → Option Bytes)

def handleChanneled (channelId : UInt8) (sequence : UInt16) (payload : Bytes) : ClientM Unit := do
  let delivery := DeliveryMethod.fromChannelId channelId
  if delivery = .reliableOrdered ∨ delivery = .reliableUnordered then sendAckPacket channelId sequence
  if channelId / 4 = channels.authIdentity then
    match readBytesMessage payload with
    | none => return
    | some challenge =>
      match responsePayload challenge with
      | none => throw .identity
      | some response => sendReliable channels.authIdentity response
  else return

/-- An accept datagram that answers the request of this client. -/
def acceptedAs (connectTime : Int64) (bytes : Bytes) : Option Int32 :=
  if bytes.length = 15 ∧ i64At bytes 1 = connectTime then some (i32At bytes 11) else none

def handleAccept (bytes : Bytes) : ClientM Unit :=
  modifySession fun session =>
    match acceptedAs session.connectTime bytes with
    | none => session
    | some remotePeer => { session with remotePeerId := some remotePeer, connected := true }

def handleClosed : ClientM Unit := modifySession fun session => { session with connected := false, inUse := false }

/-- The arms of `handle_packet` but for merged datagrams. -/
def handleSingle (packet : ParsedPacket) (bytes : Bytes) : ClientM Unit :=
  match packet.property with
  | .connectAccept => handleAccept bytes
  | .disconnect | .peerNotFound | .invalidProtocol => handleClosed
  | .ping =>
    match packet.sequence with
    | some sequence => sendPong sequence
    | none => return
  | .ack =>
    match packet.sequence, packet.channelId with
    | some sequence, some channelId => processAck channelId sequence packet.payload
    | _, _ => return
  | .channeled =>
    match packet.channelId with
    | some channelId => handleChanneled responsePayload channelId (packet.sequence.getD 0) packet.payload
    | none => return
  | _ => return

lemma length_lt_of_mem_mergedPackets {bytes packet : Bytes} (h : packet ∈ mergedPackets bytes) :
    packet.length < bytes.length := by
  rw [mergedPackets, mergedPacketsFrom_eq] at h
  have hlt := length_lt_of_mem_cutFrames h
  rw [List.length_drop] at hlt
  omega

def handlePacket (bytes : Bytes) : ClientM Unit :=
  match parsePacket bytes with
  | none => return
  | some packet =>
    match packet.property with
    | .merged => (mergedPackets bytes).attach.forM fun packet => handlePacket packet.1
    | _ => handleSingle responsePayload packet bytes
termination_by bytes.length
decreasing_by exact length_lt_of_mem_mergedPackets packet.2

/-! ### Leaves -/

/-- The packets of a datagram, merged ones taken apart. -/
def leaves (bytes : Bytes) : List Bytes :=
  if propertyOf bytes = some .merged then (mergedPackets bytes).attach.flatMap fun packet => leaves packet.1
  else [bytes]
termination_by bytes.length
decreasing_by exact length_lt_of_mem_mergedPackets packet.2

lemma leaves_of_not_merged {bytes : Bytes} (h : propertyOf bytes ≠ some .merged) : leaves bytes = [bytes] := by
  rw [leaves, if_neg h]

/-- `handle_packet` on a leaf. -/
def handleLeaf (bytes : Bytes) : ClientM Unit :=
  match parsePacket bytes with
  | none => return
  | some packet => handleSingle responsePayload packet bytes

lemma property_of_parsePacket {bytes : Bytes} {packet : ParsedPacket} (h : parsePacket bytes = some packet) :
    propertyOf bytes = some packet.property := by
  unfold parsePacket at h
  split at h
  next => cases h
  next header rest =>
    split at h
    next => cases h
    next property hproperty =>
      split at h
      next => cases h
      next =>
        cases h
        exact hproperty

/-- Channeled and ack packets have a number and a channel id. -/
lemma header_of_parsePacket {bytes : Bytes} {packet : ParsedPacket} (h : parsePacket bytes = some packet)
    (hproperty : packet.property = .channeled ∨ packet.property = .ack) :
    4 ≤ bytes.length ∧ packet.sequence = some (u16At bytes 1) ∧ packet.channelId = some (u8At bytes 3) ∧
      packet.payload = bytes.drop 4 := by
  unfold parsePacket at h
  split at h
  next => cases h
  next header rest =>
    split at h
    next => cases h
    next property _ =>
      split at h
      next => cases h
      next hlength =>
        cases h
        rcases hproperty with hproperty | hproperty <;> subst hproperty <;> exact ⟨not_lt.mp hlength, rfl, rfl, rfl⟩

/-- The header of a merged datagram is its first byte. -/
lemma parsePacket_of_merged {bytes : Bytes} (h : propertyOf bytes = some .merged) :
    ∃ packet, parsePacket bytes = some packet ∧ packet.property = .merged := by
  cases bytes with
  | nil => cases h
  | cons header rest =>
    have hproperty : PacketProperty.fromByte header = some .merged := h
    unfold parsePacket
    simp [hproperty, headerLen]

lemma handlePacket_of_merged {bytes : Bytes} (h : propertyOf bytes = some .merged) :
    handlePacket responsePayload bytes =
      (mergedPackets bytes).attach.forM fun packet => handlePacket responsePayload packet.1 := by
  obtain ⟨packet, hparse, hmerged⟩ := parsePacket_of_merged h
  rw [handlePacket, hparse]
  dsimp only
  rw [hmerged]

lemma handlePacket_of_not_merged {bytes : Bytes} (h : propertyOf bytes ≠ some .merged) :
    handlePacket responsePayload bytes = handleLeaf responsePayload bytes := by
  rw [handlePacket, handleLeaf]
  cases hparse : parsePacket bytes with
  | none => rfl
  | some packet =>
    rw [property_of_parsePacket hparse] at h
    dsimp only
    split
    next hmerged => exact absurd (congrArg some hmerged) h
    next => rfl

lemma forM_flatMap {α : Type} {f : Bytes → ClientM PUnit} {g : α → List Bytes} (as : List α) :
    (as.flatMap g).forM f = as.forM fun a => (g a).forM f := by
  induction as with
  | nil => rfl
  | cons a as ih =>
    rw [List.flatMap_cons]
    exact List.forM_append.trans (congrArg (fun rest => (g a).forM f >>= fun _ => rest) ih)

lemma forM_congr {α : Type} {f g : α → ClientM PUnit} {as : List α} (h : ∀ a ∈ as, f a = g a) : as.forM f = as.forM g := by
  induction as with
  | nil => rfl
  | cons a as ih =>
    change (f a >>= fun _ => as.forM f) = (g a >>= fun _ => as.forM g)
    rw [h a List.mem_cons_self, ih fun b hb => h b (List.mem_cons_of_mem _ hb)]

/-- **A datagram is its packets, one after the other.** -/
theorem handlePacket_eq (bytes : Bytes) :
    handlePacket responsePayload bytes = (leaves bytes).forM (handleLeaf responsePayload) := by
  fun_induction leaves bytes with
  | case1 bytes hmerged ih =>
    rw [handlePacket_of_merged responsePayload hmerged, forM_flatMap]
    exact forM_congr fun packet _ => ih packet
  | case2 bytes hsingle =>
    rw [handlePacket_of_not_merged responsePayload hsingle]
    exact (bind_pure _).symm

end Receiving

end BasisRust.Client
