import BasisRust.Protocol.Channels
import BasisRust.Protocol.Io

/-!
# `basis-transport`: datagrams

The first byte of a datagram carries the property in its low five bits and the connection number in
the next two.  The parsers below look into a received slice at fixed offsets; every look stands behind
the length check the source makes first, so the value a missing byte is read as is never used.
-/

namespace BasisRust.Transport

open Lib Protocol

abbrev PeerId := UInt16

def defaultWindowSize : ℕ := 128
def maxSequence : ℕ := 32768
def maxMergedPacketSize : ℕ := 1200

/-! ### Words at an offset -/

/-- `&bytes[i..i + len]`. -/
def slice (bytes : Bytes) (i len : ℕ) : Bytes := (bytes.drop i).take len

def u8At (bytes : Bytes) (i : ℕ) : UInt8 := bytes.getD i 0
def u16At (bytes : Bytes) (i : ℕ) : UInt16 := UInt16.ofNat (leVal (slice bytes i 2))
def u32At (bytes : Bytes) (i : ℕ) : UInt32 := UInt32.ofNat (leVal (slice bytes i 4))
def u64At (bytes : Bytes) (i : ℕ) : UInt64 := UInt64.ofNat (leVal (slice bytes i 8))
def i32At (bytes : Bytes) (i : ℕ) : Int32 := ⟨u32At bytes i⟩
def i64At (bytes : Bytes) (i : ℕ) : Int64 := ⟨u64At bytes i⟩

theorem u16At_of_slice {bytes : Bytes} {i : ℕ} {v : UInt16}
    (h : slice bytes i 2 = leBytes 2 v.toNat) : u16At bytes i = v := by
  rw [u16At, h, leVal_leBytes_of_lt v.toNat_lt, UInt16.ofNat_toNat]

theorem i32At_of_slice {bytes : Bytes} {i : ℕ} {v : Int32}
    (h : slice bytes i 4 = leBytes 4 v.toUInt32.toNat) : i32At bytes i = v := by
  rw [i32At, u32At, h, leVal_leBytes_of_lt v.toUInt32.toNat_lt, UInt32.ofNat_toNat]

theorem i64At_of_slice {bytes : Bytes} {i : ℕ} {v : Int64}
    (h : slice bytes i 8 = leBytes 8 v.toUInt64.toNat) : i64At bytes i = v := by
  rw [i64At, u64At, h, leVal_leBytes_of_lt v.toUInt64.toNat_lt, UInt64.ofNat_toNat]

/-! ### Properties and delivery methods -/

inductive PacketProperty where
  | unreliable
  | channeled
  | ack
  | ping
  | pong
  | connectRequest
  | connectAccept
  | disconnect
  | unconnectedMessage
  | mtuCheck
  | mtuOk
  | broadcast
  | merged
  | shutdownOk
  | peerNotFound
  | invalidProtocol
  | natMessage
  | empty
  deriving DecidableEq, Repr

namespace PacketProperty

/-- The discriminant, `property as u8`. -/
def toU8 : PacketProperty → UInt8
  | unreliable => 0
  | channeled => 1
  | ack => 2
  | ping => 3
  | pong => 4
  | connectRequest => 5
  | connectAccept => 6
  | disconnect => 7
  | unconnectedMessage => 8
  | mtuCheck => 9
  | mtuOk => 10
  | broadcast => 11
  | merged => 12
  | shutdownOk => 13
  | peerNotFound => 14
  | invalidProtocol => 15
  | natMessage => 16
  | empty => 17

def fromByte (value : UInt8) : Option PacketProperty :=
  match (value &&& 0x1f).toNat with
  | 0 => some unreliable
  | 1 => some channeled
  | 2 => some ack
  | 3 => some ping
  | 4 => some pong
  | 5 => some connectRequest
  | 6 => some connectAccept
  | 7 => some disconnect
  | 8 => some unconnectedMessage
  | 9 => some mtuCheck
  | 10 => some mtuOk
  | 11 => some broadcast
  | 12 => some merged
  | 13 => some shutdownOk
  | 14 => some peerNotFound
  | 15 => some invalidProtocol
  | 16 => some natMessage
  | 17 => some empty
  | _ => none

end PacketProperty

/-- The first byte of a datagram, `property as u8 | (connection_number << 5)`. -/
def headerByte (property : PacketProperty) (connectionNumber : UInt8) : UInt8 :=
  property.toU8 ||| (connectionNumber <<< 5)

/-- `(header & 0x60) >> 5`. -/
def connectionNumberOf (header : UInt8) : UInt8 := (header &&& 0x60) >>> 5

/-- A mask of the two parts of a header. -/
lemma headerByte_and (property : PacketProperty) (connectionNumber mask : UInt8) :
    headerByte property connectionNumber &&& mask =
      (property.toU8 &&& mask) ||| ((connectionNumber <<< 5) &&& mask) := by
  have hbits (a b c : BitVec 8) : (a ||| b) &&& c = (a &&& c) ||| (b &&& c) := by
    ext i hi
    simp [Bool.and_or_distrib_right]
  exact UInt8.toBitVec_inj.mp (hbits property.toU8.toBitVec (connectionNumber <<< 5).toBitVec mask.toBitVec)

/-- The property is under the mask of five bits, whatever the connection number. -/
theorem fromByte_headerByte (property : PacketProperty) (connectionNumber : UInt8) :
    PacketProperty.fromByte (headerByte property connectionNumber) = some property := by
  have hshift : ∀ c : UInt8, (c <<< 5) &&& 0x1f = 0 := by decide +kernel
  have hproperty : property.toU8 &&& 0x1f = property.toU8 := by cases property <;> rfl
  rw [PacketProperty.fromByte, headerByte_and, hshift, hproperty, UInt8.or_zero]
  cases property <;> rfl

/-- Two bits of connection number come back. -/
theorem connectionNumberOf_headerByte (property : PacketProperty) {connectionNumber : UInt8}
    (h : connectionNumber < 4) :
    connectionNumberOf (headerByte property connectionNumber) = connectionNumber := by
  have hshift : ∀ c : UInt8, c < 4 → ((c <<< 5) &&& 0x60) >>> 5 = c := by decide +kernel
  have hproperty : property.toU8 &&& 0x60 = 0 := by cases property <;> rfl
  rw [connectionNumberOf, headerByte_and, hproperty, UInt8.zero_or]
  exact hshift connectionNumber h

/-- Two bits are never four. -/
theorem connectionNumberOf_lt (header : UInt8) : connectionNumberOf header < 4 := by
  have h : ∀ b : UInt8, connectionNumberOf b < 4 := by decide +kernel
  exact h header

inductive DeliveryMethod where
  | reliableUnordered
  | sequenced
  | reliableOrdered
  | reliableSequenced
  | unreliable
  deriving DecidableEq, Repr

namespace DeliveryMethod

def fromChannelId (channelId : UInt8) : DeliveryMethod :=
  match (channelId % 4).toNat with
  | 0 => reliableUnordered
  | 1 => sequenced
  | 2 => reliableOrdered
  | _ => reliableSequenced

/-- The product wraps as in a release build; the channels of the protocol are below 64. -/
def channelId (channel : UInt8) (delivery : DeliveryMethod) : UInt8 :=
  channel * 4 +
    match delivery with
    | reliableUnordered => 0
    | sequenced => 1
    | reliableOrdered => 2
    | reliableSequenced => 3
    | unreliable => 1

end DeliveryMethod

/-! ### Addresses -/

/-- `std::net::SocketAddr`. -/
inductive SocketAddr where
  | v4 (octets : Vector UInt8 4) (port : UInt16)
  | v6 (octets : Vector UInt8 16) (port : UInt16) (flowinfo scopeId : UInt32)
  deriving DecidableEq, Repr

/-! ### Connection requests -/

structure ParsedConnectRequest where
  payload : Bytes
  connectTime : Int64
  localPeerId : Int32
  deriving DecidableEq, Repr

inductive ConnectRequestParse where
  | ok (parsed : ParsedConnectRequest)
  | invalidProtocol
  | malformed
  deriving DecidableEq, Repr

def parseConnectRequest (bytes : Bytes) : ConnectRequestParse :=
  if bytes.length < 18 then .malformed
  else if i32At bytes 1 ≠ litenetlibProtocolId then .invalidProtocol
  else if connectionNumberOf (u8At bytes 0) ≥ 4 then .malformed
  else
    let addrLen := (u8At bytes 17).toNat
    if addrLen ≠ 16 ∧ addrLen ≠ 28 then .malformed
    else if bytes.length < 18 + addrLen then .malformed
    else .ok
      { payload := bytes.drop (18 + addrLen)
        connectTime := i64At bytes 5
        localPeerId := i32At bytes 13 }

/-! ### Messages -/

def parseMessagePacket (property : PacketProperty) (bytes : Bytes) :
    Option (UInt8 × DeliveryMethod × Bytes) :=
  match property with
  | .unreliable =>
    if bytes.length < 2 then none else some (u8At bytes 1, .unreliable, bytes.drop 2)
  | .channeled =>
    if bytes.length < 4 then none
    else
      let channelId := u8At bytes 3
      some (channelId / 4, DeliveryMethod.fromChannelId channelId, bytes.drop 4)
  | _ => none

/-! ### Server info queries -/

def serverInfoQueryMagic : UInt32 := 0xBA515101
def serverInfoProtocolVersion : UInt16 := 1
def serverInfoMinRequestBytes : ℕ := 384

def parseServerInfoQueryNonce (bytes : Bytes) : Option UInt16 :=
  if bytes.length < 8 then none
  else if u32At bytes 0 ≠ serverInfoQueryMagic ∨ u16At bytes 4 ≠ serverInfoProtocolVersion then none
  else some (u16At bytes 6)

def looksLikeServerInfoPayload (bytes : Bytes) : Bool :=
  if bytes.length < 6 then false
  else u32At bytes 0 = serverInfoQueryMagic ∧ u16At bytes 4 = serverInfoProtocolVersion

def serverInfoPayload (bytes : Bytes) : Option Bytes :=
  if looksLikeServerInfoPayload bytes then some bytes
  else
    match bytes with
    | [] => none
    | header :: payload =>
      if header &&& 0x1f = PacketProperty.unconnectedMessage.toU8 ∧
          looksLikeServerInfoPayload payload then some payload
      else none

/-! ### NAT introduction -/

def fnv1_64 (text : String) : UInt64 :=
  (asBytes text).foldl (fun hash b => (hash ^^^ b.toUInt64) * 1099511628211) 14695981039346656037

def natIntroduceRequestHash : UInt64 :=
  fnv1_64 "LiteNetLib.NatPunchModule+NatIntroduceRequestPacket"

/-- `bytes.get(position..position + len)`, with the position moved past what was read. -/
def getRange (len : ℕ) : StateT Bytes Option Bytes := fun bytes =>
  if bytes.length < len then none else some (bytes.take len, bytes.drop len)

/-- `bytes.get(position..position + N)?.try_into().ok()?`. -/
def getArray (n : ℕ) : StateT Bytes Option (Vector UInt8 n) := fun bytes =>
  if h : (bytes.take n).length = n then some (⟨(bytes.take n).toArray, h⟩, bytes.drop n) else none

def readLitenetEndpoint : StateT Bytes Option SocketAddr := do
  let family := (← getRange 1).headD 0
  match family.toNat with
  | 0 =>
    let octets ← getArray 4
    let port ← getRange 2
    return .v4 octets (u16At port 0)
  | 1 =>
    let octets ← getArray 16
    let port ← getRange 2
    return .v6 octets (u16At port 0) 0 0
  | _ => fun _ => none

def readLitenetString : StateT Bytes Option String := do
  let size := (u16At (← getRange 2) 0).toNat
  if size = 0 then return ""
  let raw ← getRange (size - 1)
  fun bytes => (fromUtf8 raw).map fun s => (s, bytes)

def parseNatIntroduceRequest (bytes : Bytes) : Option (SocketAddr × String) :=
  if bytes.length < 8 then none
  else if u64At bytes 0 ≠ natIntroduceRequestHash then none
  else
    let read : StateT Bytes Option (SocketAddr × String) := do
      let localAddr ← readLitenetEndpoint
      let token ← readLitenetString
      return (localAddr, token)
    (read (bytes.drop 8)).map (·.1)

end BasisRust.Transport
