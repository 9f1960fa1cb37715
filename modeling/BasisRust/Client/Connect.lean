import BasisRust.Protocol.RoundTrip
import BasisRust.Transport.Packet

/-!
# The connect datagram: written by the client, read by the server

The client has its own writer and its own message types; the server parses the datagram with
`parse_connect_request` and its payload with the readers of `messages.rs`.  The two are tied by giving
each client message the server message it stands for.
-/

namespace BasisRust.Client

open Lib Protocol Transport

/-! ### The client's `NetWriter` -/

def putU8 (v : UInt8) : Bytes := [v]
def putU16 (v : UInt16) : Bytes := leBytes 2 v.toNat
def putI32 (v : Int32) : Bytes := leBytes 4 v.toUInt32.toNat
def putI64 (v : Int64) : Bytes := leBytes 8 v.toUInt64.toNat
def putBytes (v : Bytes) : Bytes := v

def putString (v : String) : Bytes :=
  if v = "" then putU16 0
  else putU16 (UInt16.ofNat ((asBytes v).length + 1)) ++ putBytes (asBytes v)

def putBytesMessage (data : Bytes) : Bytes :=
  putU16 (UInt16.ofNat data.length) ++ putBytes data

/-! ### The client's messages -/

structure ClientMetaDataMessage where
  playerUuid : String
  playerDisplayName : String
  playerPlatform : String

def nonEmptyOrFailure (value : String) : String := if value = "" then "Failure" else value

def ClientMetaDataMessage.serialize (m : ClientMetaDataMessage) : Bytes :=
  putString (nonEmptyOrFailure m.playerUuid) ++
  putString (nonEmptyOrFailure m.playerDisplayName) ++
  putString (nonEmptyOrFailure m.playerPlatform)

structure ClientAvatarChangeMessage where
  loadMode : UInt8
  byteArray : Bytes
  localAvatarIndex : UInt8

def ClientAvatarChangeMessage.serialize (m : ClientAvatarChangeMessage) : Bytes :=
  putU8 m.loadMode ++
  putU16 (UInt16.ofNat m.byteArray.length) ++
  putBytes m.byteArray ++
  putU8 m.localAvatarIndex

inductive BitQuality where
  | veryLow
  | low
  | medium
  | high

def BitQuality.toU8 : BitQuality → UInt8
  | veryLow => 0
  | low => 1
  | medium => 2
  | high => 3

def BitQuality.payloadLen : BitQuality → ℕ
  | veryLow => 112
  | low => 131
  | medium => 156
  | high => 182

structure LocalAvatarSyncMessage where
  quality : BitQuality
  payload : Bytes

def LocalAvatarSyncMessage.serializeInitial (m : LocalAvatarSyncMessage) : Bytes :=
  putU8 m.quality.toU8 ++ putBytes m.payload ++ putU8 0

structure ReadyMessage where
  metadata : ClientMetaDataMessage
  avatarChange : ClientAvatarChangeMessage
  localAvatarSync : LocalAvatarSyncMessage

def ReadyMessage.serialize (m : ReadyMessage) : Bytes :=
  m.metadata.serialize ++ m.avatarChange.serialize ++ m.localAvatarSync.serializeInitial

/-- The part of the client's configuration that reaches the datagram. -/
structure Config where
  password : String

def buildConnectionPayload (config : Config) (ready : ReadyMessage) : Bytes :=
  putU16 serverVersion ++ putBytesMessage (asBytes config.password) ++ ready.serialize

/-! ### The datagram -/

/-- `port().to_be_bytes()`. -/
def portBytes (port : UInt16) : Bytes := (leBytes 2 port.toNat).reverse

def socketAddressBytes : SocketAddr → Bytes
  | .v4 octets port => [2, 0] ++ portBytes port ++ octets.toList ++ List.replicate 8 0
  | .v6 octets port _ _ =>
    [23, 0] ++ portBytes port ++ List.replicate 4 0 ++ octets.toList ++ List.replicate 4 0

/-- The fields of the client that reach the datagram. -/
structure BasisClient where
  serverAddr : SocketAddr
  connectTime : Int64
  connectionNumber : UInt8
  localPeerId : Int32

def BasisClient.makeConnectRequest (client : BasisClient) (payload : Bytes) : Bytes :=
  let addrBytes := socketAddressBytes client.serverAddr
  putU8 (headerByte .connectRequest client.connectionNumber) ++
  putI32 litenetlibProtocolId ++
  putI64 client.connectTime ++
  putI32 client.localPeerId ++
  putU8 (UInt8.ofNat addrBytes.length) ++
  putBytes addrBytes ++
  putBytes payload

/-- The reads that `handle_connection_request` makes of the payload, in a row. -/
def readConnectionPayload : ReadResult (UInt16 × BytesMessage × Protocol.ReadyMessage) := do
  let clientVersion ← getU16
  let auth ← BytesMessage.deserialize
  let ready ← ReadyMessage.deserialize
  return (clientVersion, auth, ready)

/-! ### What the client's messages stand for -/

/-- The server's ready message with the same fields; the client has no additional avatar data. -/
def ReadyMessage.toProtocol (m : ReadyMessage) : Protocol.ReadyMessage where
  playerMetaDataMessage := ⟨m.metadata.playerUuid, m.metadata.playerDisplayName,
    m.metadata.playerPlatform⟩
  clientAvatarChangeMessage := ⟨m.avatarChange.loadMode, m.avatarChange.byteArray,
    m.avatarChange.localAvatarIndex⟩
  localAvatarSyncMessage := ⟨m.localAvatarSync.quality.toU8, m.localAvatarSync.payload, [], 0⟩

/-- The two writers agree, field by field. -/
theorem ReadyMessage.serialize_toProtocol (m : ReadyMessage) :
    m.toProtocol.serialize = m.serialize := by
  have hsync : m.toProtocol.localAvatarSyncMessage.serialize
      = m.localAvatarSync.serializeInitial := by
    simp only [LocalAvatarSyncMessage.serialize, toProtocol, ne_eq, not_true_eq_false, if_false,
      List.append_nil]
    rfl
  rw [Protocol.ReadyMessage.serialize, hsync]
  rfl

/-- What a ready message the client builds satisfies: counts that can be written and a full pose of
high quality. -/
structure ReadyMessage.Fits (m : ReadyMessage) : Prop where
  playerUuid : StringFits m.metadata.playerUuid
  playerDisplayName : StringFits m.metadata.playerDisplayName
  playerPlatform : StringFits m.metadata.playerPlatform
  byteArray : m.avatarChange.byteArray.length < 65535
  quality : m.localAvatarSync.quality = .high
  payload : m.localAvatarSync.payload.length = 182

theorem ReadyMessage.Fits.toProtocol {m : ReadyMessage} (h : m.Fits) : m.toProtocol.Fits where
  playerMetaDataMessage := ⟨h.playerUuid, h.playerDisplayName, h.playerPlatform⟩
  clientAvatarChangeMessage := h.byteArray.le
  localAvatarSyncMessage :=
    { array := by
        have hq : m.toProtocol.localAvatarSyncMessage.dataQualityLevel = 3 := by
          show m.localAvatarSync.quality.toU8 = 3
          rw [h.quality]
          rfl
        rw [hq]
        exact h.payload
      count := Nat.zero_le _
      datas := fun _ hd => absurd hd List.not_mem_nil }

/-- The payload is read back to the last byte. -/
theorem readConnectionPayload_buildConnectionPayload {config : Config} {ready : ReadyMessage}
    (hpassword : (asBytes config.password).length < 65535) (hready : ready.Fits) :
    readConnectionPayload (buildConnectionPayload config ready)
      = .ok (serverVersion, ⟨asBytes config.password⟩, ready.toProtocol.canon) [] := by
  have hwrite : buildConnectionPayload config ready
      = Protocol.putU16 serverVersion ++
        (BytesMessage.serialize ⟨asBytes config.password⟩ ++ ready.toProtocol.serialize) := by
    rw [ReadyMessage.serialize_toProtocol, ← List.append_assoc]
    rfl
  have hread : Decodes readConnectionPayload (buildConnectionPayload config ready)
      (serverVersion, ⟨asBytes config.password⟩, ready.toProtocol.canon) := by
    rw [hwrite]
    refine (decodes_getU16 serverVersion).bind ?_
    have hauth : BytesMessage.Fits ⟨asBytes config.password⟩ := hpassword.le
    exact (BytesMessage.decodes hauth).bind ((ReadyMessage.decodes hready.toProtocol).map _)
  have h := hread []
  rwa [List.append_nil] at h

/-! ### What the server makes of the header -/

theorem length_socketAddressBytes (addr : SocketAddr) :
    (socketAddressBytes addr).length = 16 ∨ (socketAddressBytes addr).length = 28 := by
  cases addr with
  | v4 octets port => exact .inl (by simp [socketAddressBytes, portBytes])
  | v6 octets port flowinfo scopeId => exact .inr (by simp [socketAddressBytes, portBytes])

/-- The header is parsed and the payload behind the address block is untouched. -/
theorem parseConnectRequest_makeConnectRequest {client : BasisClient} (payload : Bytes)
    (hnumber : client.connectionNumber < 4) :
    parseConnectRequest (client.makeConnectRequest payload)
      = .ok ⟨payload, client.connectTime, client.localPeerId⟩ := by
  have haddr := length_socketAddressBytes client.serverAddr
  have hlen : (client.makeConnectRequest payload).length
      = 18 + (socketAddressBytes client.serverAddr).length + payload.length := by
    simp only [BasisClient.makeConnectRequest, putU8, putI32, putI64, putBytes, List.length_append,
      List.length_singleton, length_leBytes]
  -- the header is eighteen explicit bytes in front, so each field is found by computation
  have hheader : u8At (client.makeConnectRequest payload) 0
      = headerByte .connectRequest client.connectionNumber := rfl
  have hprotocol : i32At (client.makeConnectRequest payload) 1 = litenetlibProtocolId :=
    i32At_of_slice rfl
  have htime : i64At (client.makeConnectRequest payload) 5 = client.connectTime :=
    i64At_of_slice rfl
  have hpeer : i32At (client.makeConnectRequest payload) 13 = client.localPeerId :=
    i32At_of_slice rfl
  have haddrLen : (u8At (client.makeConnectRequest payload) 17).toNat
      = (socketAddressBytes client.serverAddr).length := by
    show (UInt8.ofNat (socketAddressBytes client.serverAddr).length).toNat = _
    rw [UInt8.toNat_ofNat']
    omega
  have hpayload : (client.makeConnectRequest payload).drop
      (18 + (socketAddressBytes client.serverAddr).length) = payload := by
    rw [← List.drop_drop]
    show (putBytes (socketAddressBytes client.serverAddr) ++ putBytes payload).drop _ = _
    exact List.drop_left
  have hknown : ¬ ((socketAddressBytes client.serverAddr).length ≠ 16 ∧
      (socketAddressBytes client.serverAddr).length ≠ 28) := by omega
  have hnumber' : ¬ client.connectionNumber ≥ 4 := UInt8.not_le.mpr hnumber
  unfold parseConnectRequest
  rw [if_neg (by omega), if_neg (by rw [hprotocol]; simp), hheader,
    connectionNumberOf_headerByte _ hnumber, if_neg hnumber']
  simp only [haddrLen, htime, hpeer, hpayload]
  rw [if_neg hknown, if_neg (by omega)]

/-- **The connect datagram is understood as it was meant.** -/
theorem connect_request_understood {config : Config} {ready : ReadyMessage} {client : BasisClient}
    (hpassword : (asBytes config.password).length < 65535) (hready : ready.Fits)
    (hnumber : client.connectionNumber < 4) :
    ∃ parsed,
      parseConnectRequest (client.makeConnectRequest (buildConnectionPayload config ready))
        = .ok parsed ∧
      parsed.connectTime = client.connectTime ∧ parsed.localPeerId = client.localPeerId ∧
      readConnectionPayload parsed.payload = .ok
        (serverVersion, ⟨asBytes config.password⟩,
          { playerMetaDataMessage :=
              { playerUuid := nonEmptyOrFailure ready.metadata.playerUuid
                playerDisplayName := nonEmptyOrFailure ready.metadata.playerDisplayName
                playerPlatform := nonEmptyOrFailure ready.metadata.playerPlatform }
            clientAvatarChangeMessage :=
              { loadMode := ready.avatarChange.loadMode
                byteArray := ready.avatarChange.byteArray
                localAvatarIndex := ready.avatarChange.localAvatarIndex }
            localAvatarSyncMessage :=
              { dataQualityLevel := 3
                array := ready.localAvatarSync.payload
                additionalAvatarDatas := []
                linkedAvatarIndex := 0 } }) [] := by
  refine ⟨_, parseConnectRequest_makeConnectRequest _ hnumber, rfl, rfl, ?_⟩
  have hquality : (3 : UInt8) = ready.localAvatarSync.quality.toU8 := by rw [hready.quality]; rfl
  rw [hquality]
  exact readConnectionPayload_buildConnectionPayload hpassword hready

theorem connect_request_understood_headless :
    ∃ parsed,
      parseConnectRequest
        (BasisClient.makeConnectRequest ⟨.v4 #v[127, 0, 0, 1] 4296, 77, 3, 5⟩
          (buildConnectionPayload ⟨"pw"⟩
            ⟨⟨"id", "", "Headless"⟩, ⟨2, [1, 2, 3], 0⟩, ⟨.high, List.replicate 182 9⟩⟩))
        = .ok parsed ∧
      parsed.connectTime = 77 ∧ parsed.localPeerId = 5 ∧
      readConnectionPayload parsed.payload = .ok
        (33, ⟨asBytes "pw"⟩,
          ⟨⟨"id", "Failure", "Headless"⟩, ⟨2, [1, 2, 3], 0⟩, ⟨3, List.replicate 182 9, [], 0⟩⟩)
        [] :=
  connect_request_understood
    (by decide) ⟨by decide, by decide, by decide, by decide, rfl, rfl⟩ (by decide)

end BasisRust.Client
