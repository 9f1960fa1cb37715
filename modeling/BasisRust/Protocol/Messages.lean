import BasisRust.Protocol.Avatar

/-!
# `messages.rs`: the self-delimiting messages

Each message keeps the fields of its source type, the bytes `serialize` writes and the reader
`deserialize`.  `Fits` is what a value must satisfy for its counts to be written without loss, and
`canon` is the value the other side is left with: it differs only in what the format does not carry.
-/

namespace BasisRust.Protocol

open Lib

/-- The longest string `put_string` can announce: its length plus one is a `u16`. -/
def StringFits (s : String) : Prop := (asBytes s).length ≤ 65534

/-- A byte array behind a `u16` count. -/
def BytesFit (bs : Bytes) : Prop := bs.length ≤ 65535

instance (s : String) : Decidable (StringFits s) := inferInstanceAs (Decidable (_ ≤ _))
instance (bs : Bytes) : Decidable (BytesFit bs) := inferInstanceAs (Decidable (_ ≤ _))

/-! ### Byte arrays, ids and the login message -/

structure BytesMessage where
  data : Bytes
  deriving DecidableEq, Repr

namespace BytesMessage

def serialize (m : BytesMessage) : Bytes :=
  putU16 (UInt16.ofNat m.data.length) ++ putBytes m.data

def deserialize : ReadResult BytesMessage := do
  let len ← getU16
  let data ← getBytes len.toNat
  return ⟨data⟩

def Fits (m : BytesMessage) : Prop := BytesFit m.data

end BytesMessage

structure PlayerIdMessage where
  playerId : UInt16
  deriving DecidableEq, Repr

namespace PlayerIdMessage

def serialize (m : PlayerIdMessage) : Bytes := putU16 m.playerId

def deserialize : ReadResult PlayerIdMessage := do
  let playerId ← getU16
  return ⟨playerId⟩

end PlayerIdMessage

structure ClientMetaDataMessage where
  playerUuid : String
  playerDisplayName : String
  playerPlatform : String
  deriving DecidableEq, Repr

def nonEmptyOrFailure (value : String) : String := if value = "" then "Failure" else value

namespace ClientMetaDataMessage

def serialize (m : ClientMetaDataMessage) : Bytes :=
  putString (nonEmptyOrFailure m.playerUuid) ++
  putString (nonEmptyOrFailure m.playerDisplayName) ++
  putString (nonEmptyOrFailure m.playerPlatform)

def deserialize : ReadResult ClientMetaDataMessage := do
  let playerUuid ← getString
  let playerDisplayName ← getString
  let playerPlatform ← getString
  return ⟨playerUuid, playerDisplayName, playerPlatform⟩

structure Fits (m : ClientMetaDataMessage) : Prop where
  playerUuid : StringFits m.playerUuid
  playerDisplayName : StringFits m.playerDisplayName
  playerPlatform : StringFits m.playerPlatform

/-- No field arrives empty. -/
def canon (m : ClientMetaDataMessage) : ClientMetaDataMessage where
  playerUuid := nonEmptyOrFailure m.playerUuid
  playerDisplayName := nonEmptyOrFailure m.playerDisplayName
  playerPlatform := nonEmptyOrFailure m.playerPlatform

end ClientMetaDataMessage

structure ClientAvatarChangeMessage where
  loadMode : UInt8
  byteArray : Bytes
  localAvatarIndex : UInt8
  deriving DecidableEq, Repr

namespace ClientAvatarChangeMessage

def serialize (m : ClientAvatarChangeMessage) : Bytes :=
  putU8 m.loadMode ++
  putU16 (UInt16.ofNat m.byteArray.length) ++
  putBytes m.byteArray ++
  putU8 m.localAvatarIndex

def deserialize : ReadResult ClientAvatarChangeMessage := do
  let loadMode ← getU8
  let len ← getU16
  let byteArray ← getBytes len.toNat
  let localAvatarIndex ← getU8
  return ⟨loadMode, byteArray, localAvatarIndex⟩

def Fits (m : ClientAvatarChangeMessage) : Prop := BytesFit m.byteArray

end ClientAvatarChangeMessage

structure AdditionalAvatarData where
  messageIndex : UInt8
  data : Bytes
  deriving DecidableEq, Repr

namespace AdditionalAvatarData

/-- Longer data is cut to 255 bytes; without data the index is not written. -/
def serialize (m : AdditionalAvatarData) : Bytes :=
  let len := min m.data.length 255
  putU8 (UInt8.ofNat len) ++
  if len > 0 then putU8 m.messageIndex ++ putBytes (m.data.take len) else []

def deserialize : ReadResult AdditionalAvatarData := do
  let len ← getU8
  if len.toNat = 0 then return ⟨0, []⟩
  let messageIndex ← getU8
  let data ← getBytes len.toNat
  return ⟨messageIndex, data⟩

def Fits (m : AdditionalAvatarData) : Prop := m.data.length ≤ 255

/-- The index of an empty entry is lost. -/
def canon (m : AdditionalAvatarData) : AdditionalAvatarData :=
  if m.data = [] then ⟨0, []⟩ else m

end AdditionalAvatarData

structure LocalAvatarSyncMessage where
  dataQualityLevel : UInt8
  array : Bytes
  additionalAvatarDatas : List AdditionalAvatarData
  linkedAvatarIndex : UInt8
  deriving DecidableEq, Repr

namespace LocalAvatarSyncMessage

/-- The length of the pose that a quality byte announces; every byte from 3 on is high quality. -/
def payloadLen (dataQualityLevel : UInt8) : ℕ :=
  match dataQualityLevel.toNat with
  | 0 => BitQuality.veryLow.payloadLen
  | 1 => BitQuality.low.payloadLen
  | 2 => BitQuality.medium.payloadLen
  | _ => BitQuality.high.payloadLen

def serialize (m : LocalAvatarSyncMessage) : Bytes :=
  putU8 m.dataQualityLevel ++
  putBytes m.array ++
  putU8 (UInt8.ofNat m.additionalAvatarDatas.length) ++
  if m.additionalAvatarDatas ≠ [] then
    putU8 m.linkedAvatarIndex ++ m.additionalAvatarDatas.flatMap AdditionalAvatarData.serialize
  else []

def deserialize : ReadResult LocalAvatarSyncMessage := do
  let dataQualityLevel ← getU8
  let array ← getBytes (payloadLen dataQualityLevel)
  let count ← getU8
  let linkedAvatarIndex ← if count.toNat > 0 then getU8 else pure 0
  let additionalAvatarDatas ← readN AdditionalAvatarData.deserialize count.toNat
  return ⟨dataQualityLevel, array, additionalAvatarDatas, linkedAvatarIndex⟩

structure Fits (m : LocalAvatarSyncMessage) : Prop where
  /-- The pose has the length its quality byte implies. -/
  array : m.array.length = payloadLen m.dataQualityLevel
  count : m.additionalAvatarDatas.length ≤ 255
  datas : ∀ d ∈ m.additionalAvatarDatas, d.Fits

/-- Without additional data the linked index is lost. -/
def canon (m : LocalAvatarSyncMessage) : LocalAvatarSyncMessage where
  dataQualityLevel := m.dataQualityLevel
  array := m.array
  additionalAvatarDatas := m.additionalAvatarDatas.map AdditionalAvatarData.canon
  linkedAvatarIndex := if m.additionalAvatarDatas = [] then 0 else m.linkedAvatarIndex

end LocalAvatarSyncMessage

structure ReadyMessage where
  playerMetaDataMessage : ClientMetaDataMessage
  clientAvatarChangeMessage : ClientAvatarChangeMessage
  localAvatarSyncMessage : LocalAvatarSyncMessage
  deriving DecidableEq, Repr

namespace ReadyMessage

def serialize (m : ReadyMessage) : Bytes :=
  m.playerMetaDataMessage.serialize ++
  m.clientAvatarChangeMessage.serialize ++
  m.localAvatarSyncMessage.serialize

def deserialize : ReadResult ReadyMessage := do
  let playerMetaDataMessage ← ClientMetaDataMessage.deserialize
  let clientAvatarChangeMessage ← ClientAvatarChangeMessage.deserialize
  let localAvatarSyncMessage ← LocalAvatarSyncMessage.deserialize
  return ⟨playerMetaDataMessage, clientAvatarChangeMessage, localAvatarSyncMessage⟩

structure Fits (m : ReadyMessage) : Prop where
  playerMetaDataMessage : m.playerMetaDataMessage.Fits
  clientAvatarChangeMessage : m.clientAvatarChangeMessage.Fits
  localAvatarSyncMessage : m.localAvatarSyncMessage.Fits

def canon (m : ReadyMessage) : ReadyMessage where
  playerMetaDataMessage := m.playerMetaDataMessage.canon
  clientAvatarChangeMessage := m.clientAvatarChangeMessage
  localAvatarSyncMessage := m.localAvatarSyncMessage.canon

end ReadyMessage

/-- The spawn message: who a player is. -/
structure ServerReadyMessage where
  localReadyMessage : ReadyMessage
  playerIdMessage : PlayerIdMessage
  deriving DecidableEq, Repr

namespace ServerReadyMessage

def serialize (m : ServerReadyMessage) : Bytes :=
  m.playerIdMessage.serialize ++ m.localReadyMessage.serialize

end ServerReadyMessage

/-! ### Avatar state -/

structure ServerSideSyncPlayerMessage where
  playerId : UInt16
  interval : UInt8
  sequence : UInt8
  avatarSerialization : LocalAvatarSyncMessage
  deriving DecidableEq, Repr

namespace ServerSideSyncPlayerMessage

def serialize (m : ServerSideSyncPlayerMessage) : Bytes :=
  putU16 m.playerId ++
  putU8 m.interval ++
  putU8 m.sequence ++
  m.avatarSerialization.serialize

def deserialize : ReadResult ServerSideSyncPlayerMessage := do
  let playerId ← getU16
  let interval ← getU8
  let sequence ← getU8
  let avatarSerialization ← LocalAvatarSyncMessage.deserialize
  return ⟨playerId, interval, sequence, avatarSerialization⟩

def Fits (m : ServerSideSyncPlayerMessage) : Prop := m.avatarSerialization.Fits

def canon (m : ServerSideSyncPlayerMessage) : ServerSideSyncPlayerMessage :=
  { m with avatarSerialization := m.avatarSerialization.canon }

end ServerSideSyncPlayerMessage

structure ServerAvatarChangeMessage where
  playerId : UInt16
  clientAvatarChangeMessage : ClientAvatarChangeMessage
  deriving DecidableEq, Repr

namespace ServerAvatarChangeMessage

def serialize (m : ServerAvatarChangeMessage) : Bytes :=
  putU16 m.playerId ++ m.clientAvatarChangeMessage.serialize

def deserialize : ReadResult ServerAvatarChangeMessage := do
  let playerId ← getU16
  let clientAvatarChangeMessage ← ClientAvatarChangeMessage.deserialize
  return ⟨playerId, clientAvatarChangeMessage⟩

def Fits (m : ServerAvatarChangeMessage) : Prop := m.clientAvatarChangeMessage.Fits

end ServerAvatarChangeMessage

structure AvatarLoadDataMessage where
  messageIndex : UInt8
  whoSentUsThis : UInt16
  payload : Bytes
  deriving DecidableEq, Repr

namespace AvatarLoadDataMessage

def serialize (m : AvatarLoadDataMessage) : Bytes :=
  putU8 m.messageIndex ++
  putU16 m.whoSentUsThis ++
  putU16 (UInt16.ofNat m.payload.length) ++
  putBytes m.payload

def deserialize : ReadResult AvatarLoadDataMessage := do
  let messageIndex ← getU8
  let whoSentUsThis ← getU16
  let len ← getU16
  let payload ← getBytes len.toNat
  return ⟨messageIndex, whoSentUsThis, payload⟩

def Fits (m : AvatarLoadDataMessage) : Prop := BytesFit m.payload

end AvatarLoadDataMessage

/-! ### Resources -/

structure LocalLoadResource where
  mode : UInt8
  loadedNetId : String
  unlockPassword : String
  combinedUrl : String
  uuidOfCreator : String
  isAdminLocked : Bool
  positionX : F32
  positionY : F32
  positionZ : F32
  quaternionX : F32
  quaternionY : F32
  quaternionZ : F32
  quaternionW : F32
  scaleX : F32
  scaleY : F32
  scaleZ : F32
  persist : Bool
  modifyScale : Bool
  loadStrategy : UInt8
  deriving DecidableEq, Repr

namespace LocalLoadResource

/-- Only mode 0, a world object, carries its transform. -/
def serialize (m : LocalLoadResource) : Bytes :=
  putU8 m.mode ++
  putString m.loadedNetId ++
  putString m.unlockPassword ++
  putString m.combinedUrl ++
  putString m.uuidOfCreator ++
  putBool m.isAdminLocked ++
  putBool m.persist ++
  putBool m.modifyScale ++
  putU8 m.loadStrategy ++
  if m.mode = 0 then
    putF32 m.positionX ++ putF32 m.positionY ++ putF32 m.positionZ ++
    putF32 m.quaternionX ++ putF32 m.quaternionY ++ putF32 m.quaternionZ ++ putF32 m.quaternionW ++
    putF32 m.scaleX ++ putF32 m.scaleY ++ putF32 m.scaleZ
  else []

def deserialize : ReadResult LocalLoadResource := do
  let mode ← getU8
  let loadedNetId ← getString
  let unlockPassword ← getString
  let combinedUrl ← getString
  let uuidOfCreator ← getString
  let isAdminLocked ← getBool
  let persist ← getBool
  let modifyScale ← getBool
  let loadStrategy ← getU8
  let value : LocalLoadResource :=
    { mode, loadedNetId, unlockPassword, combinedUrl, uuidOfCreator, isAdminLocked
      positionX := 0, positionY := 0, positionZ := 0
      quaternionX := 0, quaternionY := 0, quaternionZ := 0, quaternionW := F32.one
      scaleX := F32.one, scaleY := F32.one, scaleZ := F32.one
      persist, modifyScale, loadStrategy }
  if mode = 0 then
    let positionX ← getF32
    let positionY ← getF32
    let positionZ ← getF32
    let quaternionX ← getF32
    let quaternionY ← getF32
    let quaternionZ ← getF32
    let quaternionW ← getF32
    let scaleX ← getF32
    let scaleY ← getF32
    let scaleZ ← getF32
    return { value with positionX, positionY, positionZ, quaternionX, quaternionY, quaternionZ,
                        quaternionW, scaleX, scaleY, scaleZ }
  else
    return value

structure Fits (m : LocalLoadResource) : Prop where
  loadedNetId : StringFits m.loadedNetId
  unlockPassword : StringFits m.unlockPassword
  combinedUrl : StringFits m.combinedUrl
  uuidOfCreator : StringFits m.uuidOfCreator

/-- Outside mode 0 the transform is the identity. -/
def canon (m : LocalLoadResource) : LocalLoadResource :=
  if m.mode = 0 then m
  else
    { m with
      positionX := 0, positionY := 0, positionZ := 0
      quaternionX := 0, quaternionY := 0, quaternionZ := 0, quaternionW := F32.one
      scaleX := F32.one, scaleY := F32.one, scaleZ := F32.one }

end LocalLoadResource

structure UnloadResource where
  mode : UInt8
  loadedNetId : String
  deriving DecidableEq, Repr

namespace UnloadResource

def serialize (m : UnloadResource) : Bytes := putU8 m.mode ++ putString m.loadedNetId

def deserialize : ReadResult UnloadResource := do
  let mode ← getU8
  let loadedNetId ← getString
  return ⟨mode, loadedNetId⟩

def Fits (m : UnloadResource) : Prop := StringFits m.loadedNetId

end UnloadResource

structure PreloadReadyMessage where
  loadedNetId : String
  isReady : Bool
  deriving DecidableEq, Repr

namespace PreloadReadyMessage

def serialize (m : PreloadReadyMessage) : Bytes := putString m.loadedNetId ++ putBool m.isReady

def deserialize : ReadResult PreloadReadyMessage := do
  let loadedNetId ← getString
  let isReady ← getBool
  return ⟨loadedNetId, isReady⟩

def Fits (m : PreloadReadyMessage) : Prop := StringFits m.loadedNetId

end PreloadReadyMessage

structure OwnershipTransferMessage where
  playerId : UInt16
  ownershipId : String
  deriving DecidableEq, Repr

namespace OwnershipTransferMessage

def serialize (m : OwnershipTransferMessage) : Bytes := putU16 m.playerId ++ putString m.ownershipId

def deserialize : ReadResult OwnershipTransferMessage := do
  let playerId ← getU16
  let ownershipId ← getString
  return ⟨playerId, ownershipId⟩

def Fits (m : OwnershipTransferMessage) : Prop := StringFits m.ownershipId

end OwnershipTransferMessage

inductive ContentShareType where
  | avatar
  | prop
  | world
  | server
  deriving DecidableEq, Repr

namespace ContentShareType

/-- The discriminant, `content_type as u8`. -/
def toU8 : ContentShareType → UInt8
  | avatar => 0
  | prop => 1
  | world => 2
  | server => 3

/-- `From<u8>`: an unknown byte is an avatar. -/
def ofU8 (value : UInt8) : ContentShareType :=
  match value.toNat with
  | 1 => prop
  | 2 => world
  | 3 => server
  | _ => avatar

@[simp] lemma ofU8_toU8 (t : ContentShareType) : ofU8 t.toU8 = t := by cases t <;> rfl

end ContentShareType

structure ContentShareMessage where
  sphereNetId : String
  contentUrl : String
  unlockPassword : String
  contentType : ContentShareType
  positionX : F32
  positionY : F32
  positionZ : F32
  deriving DecidableEq, Repr

namespace ContentShareMessage

def serialize (m : ContentShareMessage) : Bytes :=
  putString m.sphereNetId ++
  putString m.contentUrl ++
  putString m.unlockPassword ++
  putU8 m.contentType.toU8 ++
  putF32 m.positionX ++
  putF32 m.positionY ++
  putF32 m.positionZ

def deserialize : ReadResult ContentShareMessage := do
  let sphereNetId ← getString
  let contentUrl ← getString
  let unlockPassword ← getString
  let contentType ← getU8
  let positionX ← getF32
  let positionY ← getF32
  let positionZ ← getF32
  return ⟨sphereNetId, contentUrl, unlockPassword, ContentShareType.ofU8 contentType,
    positionX, positionY, positionZ⟩

structure Fits (m : ContentShareMessage) : Prop where
  sphereNetId : StringFits m.sphereNetId
  contentUrl : StringFits m.contentUrl
  unlockPassword : StringFits m.unlockPassword

end ContentShareMessage

/-! ### Camera, library and console -/

structure CameraPipStateMessage where
  playerId : UInt16
  isActive : Bool
  positionX : F32
  positionY : F32
  positionZ : F32
  rotationX : F32
  rotationY : F32
  rotationZ : F32
  rotationW : F32
  deriving DecidableEq, Repr

namespace CameraPipStateMessage

def writePipTransform (m : CameraPipStateMessage) : Bytes :=
  putF32 m.positionX ++ putF32 m.positionY ++ putF32 m.positionZ ++
  putF32 m.rotationX ++ putF32 m.rotationY ++ putF32 m.rotationZ ++ putF32 m.rotationW

def readPipTransform (m : CameraPipStateMessage) : ReadResult CameraPipStateMessage := do
  let positionX ← getF32
  let positionY ← getF32
  let positionZ ← getF32
  let rotationX ← getF32
  let rotationY ← getF32
  let rotationZ ← getF32
  let rotationW ← getF32
  return { m with positionX, positionY, positionZ, rotationX, rotationY, rotationZ, rotationW }

def serialize (m : CameraPipStateMessage) : Bytes :=
  putU16 m.playerId ++ putBool m.isActive ++ if m.isActive then writePipTransform m else []

def deserialize : ReadResult CameraPipStateMessage := do
  let playerId ← getU16
  let isActive ← getBool
  let message : CameraPipStateMessage :=
    { playerId, isActive
      positionX := 0, positionY := 0, positionZ := 0
      rotationX := 0, rotationY := 0, rotationZ := 0, rotationW := F32.one }
  if isActive then readPipTransform message else return message

/-- An inactive camera arrives at the identity. -/
def canon (m : CameraPipStateMessage) : CameraPipStateMessage :=
  if m.isActive then m
  else
    { m with
      positionX := 0, positionY := 0, positionZ := 0
      rotationX := 0, rotationY := 0, rotationZ := 0, rotationW := F32.one }

end CameraPipStateMessage

structure ServerLibraryItem where
  mode : UInt8
  url : String
  password : String
  deriving DecidableEq, Repr

namespace ServerLibraryItem

def serialize (m : ServerLibraryItem) : Bytes :=
  putU8 m.mode ++ putString m.url ++ putString m.password

def deserialize : ReadResult ServerLibraryItem := do
  let mode ← getU8
  let url ← getString
  let password ← getString
  return ⟨mode, url, password⟩

structure Fits (m : ServerLibraryItem) : Prop where
  url : StringFits m.url
  password : StringFits m.password

end ServerLibraryItem

structure ServerLibraryMessage where
  items : List ServerLibraryItem
  deriving DecidableEq, Repr

namespace ServerLibraryMessage

def serialize (m : ServerLibraryMessage) : Bytes :=
  putU16 (UInt16.ofNat m.items.length) ++ m.items.flatMap ServerLibraryItem.serialize

def deserialize : ReadResult ServerLibraryMessage := do
  let count ← getU16
  let items ← readN ServerLibraryItem.deserialize count.toNat
  return ⟨items⟩

structure Fits (m : ServerLibraryMessage) : Prop where
  count : m.items.length ≤ 65535
  items : ∀ i ∈ m.items, i.Fits

end ServerLibraryMessage

structure ConsoleData where
  messageIndex : UInt8
  array : Bytes
  deriving DecidableEq, Repr

namespace ConsoleData

def serialize (m : ConsoleData) : Bytes :=
  putU8 m.messageIndex ++ putU16 (UInt16.ofNat m.array.length) ++ putBytes m.array

def deserialize : ReadResult ConsoleData := do
  let messageIndex ← getU8
  let len ← getU16
  let array ← getBytes len.toNat
  return ⟨messageIndex, array⟩

def Fits (m : ConsoleData) : Prop := BytesFit m.array

end ConsoleData

/-! ### Peer-to-peer signalling -/

structure BasisP2PSignalMessage where
  otherPlayerId : UInt16
  sessionToken : String
  deriving DecidableEq, Repr

namespace BasisP2PSignalMessage

def serialize (m : BasisP2PSignalMessage) : Bytes :=
  putU16 m.otherPlayerId ++ putString m.sessionToken

def deserialize : ReadResult BasisP2PSignalMessage := do
  let otherPlayerId ← getU16
  let sessionToken ← getString
  return ⟨otherPlayerId, sessionToken⟩

def Fits (m : BasisP2PSignalMessage) : Prop := StringFits m.sessionToken

end BasisP2PSignalMessage

end BasisRust.Protocol
