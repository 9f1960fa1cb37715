import BasisRust.Protocol.Messages

/-!
# `messages.rs`: what clients ask of the server and what it sends them

The messages of the message loop of the server that are not read back from their own bytes: requests are
only read here, answers only written.
-/

namespace BasisRust.Protocol

open Lib

/-- What a reader makes of a whole payload; what is left over is not looked at. -/
def parse {α : Type} (read : ReadResult α) (payload : Bytes) : Option α :=
  match read payload with
  | .ok a _ => some a
  | .error _ _ => none

/-- Goes on with what is read, or with `onError` where it cannot be read. -/
def withRead {α β : Type} (read : ReadResult α) (reader : NetReader) (onError : β) (next : α → NetReader → β) : β :=
  match read reader with
  | .ok a reader => next a reader
  | .error _ _ => onError

lemma withRead_of {α β : Type} {P : β → Prop} {read : ReadResult α} {reader : NetReader} {onError : β}
    {next : α → NetReader → β} (herror : P onError) (hnext : ∀ a rest, P (next a rest)) :
    P (withRead read reader onError next) := by
  unfold withRead
  split
  next a rest _ => exact hnext a rest
  next => exact herror

/-- What is read satisfies the condition, where anything can be read. -/
lemma withRead_iff {α β : Type} {P : β → Prop} {Q : α → NetReader → Prop} {read : ReadResult α}
    {reader : NetReader} {onError : β} {next : α → NetReader → β} (herror : P onError)
    (hnext : ∀ a rest, P (next a rest) ↔ Q a rest) :
    P (withRead read reader onError next) ↔ withRead read reader True Q := by
  unfold withRead
  split
  next a rest _ => exact hnext a rest
  next => exact iff_of_true herror trivial

/-- `read.unwrap_or(default)` for the last argument of a request. -/
def lastOr {α : Type} (read : ReadResult α) (reader : NetReader) (default : α) : α :=
  withRead read reader default fun a _ => a

/-! ### Net ids and chat -/

structure NetIdMessage where
  playerId : String
  deriving DecidableEq, Repr

namespace NetIdMessage

def serialize (m : NetIdMessage) : Bytes := if m.playerId = "" then [] else putString m.playerId

def deserialize : ReadResult NetIdMessage := do
  let rest ← remainingSlice
  if rest.length = 0 then return ⟨""⟩
  let playerId ← getString
  return ⟨playerId⟩

end NetIdMessage

structure UshortUniqueIdMessage where
  uniqueIdUshort : UInt16
  deriving DecidableEq, Repr

def UshortUniqueIdMessage.serialize (m : UshortUniqueIdMessage) : Bytes := putU16 m.uniqueIdUshort

structure ServerNetIdMessage where
  netIdMessage : NetIdMessage
  ushortUniqueIdMessage : UshortUniqueIdMessage
  deriving DecidableEq, Repr

def ServerNetIdMessage.serialize (m : ServerNetIdMessage) : Bytes :=
  m.netIdMessage.serialize ++ m.ushortUniqueIdMessage.serialize

structure ServerUniqueIdMessages where
  messages : List ServerNetIdMessage
  deriving DecidableEq, Repr

def ServerUniqueIdMessages.serialize (m : ServerUniqueIdMessages) : Bytes :=
  putU16 (UInt16.ofNat m.messages.length) ++ m.messages.flatMap ServerNetIdMessage.serialize

structure ChatMessage where
  payload : Bytes
  deriving DecidableEq, Repr

namespace ChatMessage

/-- At most 512 bytes are written. -/
def serialize (m : ChatMessage) : Bytes :=
  let len := min m.payload.length 512
  putU16 (UInt16.ofNat len) ++ putBytes (m.payload.take len)

/-- At most 512 bytes are read, whatever length is announced. -/
def deserialize : ReadResult ChatMessage := do
  let len ← getU16
  let payload ← getBytes (min len.toNat 512)
  return ⟨payload⟩

end ChatMessage

structure ServerChatMessage where
  playerId : UInt16
  chatMessage : ChatMessage
  deriving DecidableEq, Repr

def ServerChatMessage.serialize (m : ServerChatMessage) : Bytes :=
  putU16 m.playerId ++ m.chatMessage.serialize

/-! ### Voice -/

structure ServerAudioSegmentMessage where
  playerId : UInt16
  audioSegment : Bytes
  deriving DecidableEq, Repr

def ServerAudioSegmentMessage.serializeWithIdSize (m : ServerAudioSegmentMessage) (largeId : Bool) : Bytes :=
  (if largeId then putU16 m.playerId else putU8 m.playerId.toUInt8) ++ putBytes m.audioSegment

structure VoiceReceiversMessage where
  users : List UInt16
  deriving DecidableEq, Repr

def VoiceReceiversMessage.deserialize (largeCount : Bool) : ReadResult VoiceReceiversMessage := do
  let count ← if largeCount then UInt16.toNat <$> getU16 else UInt8.toNat <$> getU8
  let users ← readN getU16 count
  return ⟨users⟩

/-! ### Avatar and scene data -/

structure AvatarDataMessage where
  playerId : UInt16
  avatarLinkIndex : UInt8
  messageIndex : UInt8
  recipients : List UInt16
  payload : Bytes
  deriving DecidableEq, Repr

def AvatarDataMessage.deserialize : ReadResult AvatarDataMessage := do
  let playerId ← getU16
  let avatarLinkIndex ← getU8
  let messageIndex ← getU8
  let count ← getU16
  let recipients ← readN getU16 count.toNat
  let payload ← remainingSlice
  return ⟨playerId, avatarLinkIndex, messageIndex, recipients, payload⟩

structure RemoteAvatarDataMessage where
  playerId : UInt16
  avatarLinkIndex : UInt8
  messageIndex : UInt8
  payload : Bytes
  deriving DecidableEq, Repr

def RemoteAvatarDataMessage.serialize (m : RemoteAvatarDataMessage) : Bytes :=
  putU16 m.playerId ++ putU8 m.avatarLinkIndex ++ putU8 m.messageIndex ++ putBytes m.payload

structure ServerAvatarDataMessage where
  playerId : UInt16
  avatarDataMessage : RemoteAvatarDataMessage
  deriving DecidableEq, Repr

def ServerAvatarDataMessage.serialize (m : ServerAvatarDataMessage) : Bytes :=
  putU16 m.playerId ++ m.avatarDataMessage.serialize

structure SceneDataMessage where
  messageIndex : UInt16
  recipients : List UInt16
  payload : Bytes
  deriving DecidableEq, Repr

def SceneDataMessage.deserialize : ReadResult SceneDataMessage := do
  let messageIndex ← getU16
  let count ← getU16
  let recipients ← readN getU16 count.toNat
  let payload ← remainingSlice
  return ⟨messageIndex, recipients, payload⟩

structure RemoteSceneDataMessage where
  messageIndex : UInt16
  payload : Bytes
  deriving DecidableEq, Repr

def RemoteSceneDataMessage.serialize (m : RemoteSceneDataMessage) : Bytes :=
  putU16 m.messageIndex ++ putBytes m.payload

structure ServerSceneDataMessage where
  playerId : UInt16
  sceneDataMessage : RemoteSceneDataMessage
  deriving DecidableEq, Repr

def ServerSceneDataMessage.serialize (m : ServerSceneDataMessage) : Bytes :=
  putU16 m.playerId ++ m.sceneDataMessage.serialize

/-! ### Resources and shared content -/

abbrev ResourceManagementMessage := LocalLoadResource

structure SpawnPreloadedMessage where
  loadedNetId : String
  deriving DecidableEq, Repr

def SpawnPreloadedMessage.serialize (m : SpawnPreloadedMessage) : Bytes := putString m.loadedNetId

structure ServerContentShareMessage where
  playerId : UInt16
  sharerUuid : String
  sharerDisplayName : String
  contentShareMessage : ContentShareMessage
  deriving DecidableEq, Repr

def ServerContentShareMessage.serialize (m : ServerContentShareMessage) : Bytes :=
  putU16 m.playerId ++ putString m.sharerUuid ++ putString m.sharerDisplayName ++ m.contentShareMessage.serialize

structure ContentShareCleanupMessage where
  sphereNetId : String
  deriving DecidableEq, Repr

namespace ContentShareCleanupMessage

def serialize (m : ContentShareCleanupMessage) : Bytes := putString m.sphereNetId

def deserialize : ReadResult ContentShareCleanupMessage := do
  let sphereNetId ← getString
  return ⟨sphereNetId⟩

end ContentShareCleanupMessage

structure ServerContentShareCleanupMessage where
  playerId : UInt16
  contentShareCleanupMessage : ContentShareCleanupMessage
  deriving DecidableEq, Repr

def ServerContentShareCleanupMessage.serialize (m : ServerContentShareCleanupMessage) : Bytes :=
  putU16 m.playerId ++ m.contentShareCleanupMessage.serialize

structure DataBaseRequest where
  databaseId : String
  deriving DecidableEq, Repr

def DataBaseRequest.deserialize : ReadResult DataBaseRequest := do
  let databaseId ← getString
  return ⟨databaseId⟩

/-! ### Camera -/

structure ClientCameraPipStateMessage where
  isActive : Bool
  positionX : F32
  positionY : F32
  positionZ : F32
  rotationX : F32
  rotationY : F32
  rotationZ : F32
  rotationW : F32
  deriving DecidableEq, Repr

def ClientCameraPipStateMessage.deserialize : ReadResult ClientCameraPipStateMessage := do
  let isActive ← getBool
  if isActive then
    let positionX ← getF32
    let positionY ← getF32
    let positionZ ← getF32
    let rotationX ← getF32
    let rotationY ← getF32
    let rotationZ ← getF32
    let rotationW ← getF32
    return ⟨isActive, positionX, positionY, positionZ, rotationX, rotationY, rotationZ, rotationW⟩
  else
    return ⟨isActive, 0, 0, 0, 0, 0, 0, F32.one⟩

structure ClientCameraPipPositionMessage where
  positionX : F32
  positionY : F32
  positionZ : F32
  rotationX : F32
  rotationY : F32
  rotationZ : F32
  rotationW : F32
  deriving DecidableEq, Repr

def ClientCameraPipPositionMessage.deserialize : ReadResult ClientCameraPipPositionMessage := do
  let positionX ← getF32
  let positionY ← getF32
  let positionZ ← getF32
  let rotationX ← getF32
  let rotationY ← getF32
  let rotationZ ← getF32
  let rotationW ← getF32
  return ⟨positionX, positionY, positionZ, rotationX, rotationY, rotationZ, rotationW⟩

structure CameraPipPositionMessage where
  playerId : UInt16
  positionX : F32
  positionY : F32
  positionZ : F32
  rotationX : F32
  rotationY : F32
  rotationZ : F32
  rotationW : F32
  deriving DecidableEq, Repr

def CameraPipPositionMessage.serialize (m : CameraPipPositionMessage) : Bytes :=
  putU16 m.playerId ++
  putF32 m.positionX ++ putF32 m.positionY ++ putF32 m.positionZ ++
  putF32 m.rotationX ++ putF32 m.rotationY ++ putF32 m.rotationZ ++ putF32 m.rotationW

structure CameraShutterSoundMessage where
  playerId : UInt16
  deriving DecidableEq, Repr

def CameraShutterSoundMessage.serialize (m : CameraShutterSoundMessage) : Bytes := putU16 m.playerId

structure ClientCameraCountdownMessage where
  seconds : UInt8
  deriving DecidableEq, Repr

def ClientCameraCountdownMessage.deserialize : ReadResult ClientCameraCountdownMessage := do
  let seconds ← getU8
  return ⟨seconds⟩

structure CameraCountdownMessage where
  playerId : UInt16
  seconds : UInt8
  deriving DecidableEq, Repr

def CameraCountdownMessage.serialize (m : CameraCountdownMessage) : Bytes := putU16 m.playerId ++ putU8 m.seconds

/-! ### Administration -/

structure ServerStatisticMessage where
  data : Bytes
  deriving DecidableEq, Repr

def ServerStatisticMessage.serialize (m : ServerStatisticMessage) : Bytes := putBytes m.data

inductive AdminRequestMode where
  | ban
  | kick
  | ipAndBan
  | message
  | messageAll
  | unBanIP
  | unBan
  | teleportAll
  | teleportPlayer
  | getPermissions
  | setUserGroup
  | setUserNode
  | setGroupNode
  | createGroup
  | deleteGroup
  | setGroupParent
  | enableShoutMode
  | disableShoutMode
  | globalToggleAvatars
  | globalToggleProps
  | globalToggleWorlds
  | globalGetLockState
  | globalGetHeadlessAudioState
  | setGlobalHeadlessAudio
  | globalGetHeadlessDisallowState
  | setGlobalHeadlessDisallow
  | setGlobalOpusPacketLoss
  | globalGetOpusPacketLossState
  | setUserOpusBitrate
  | userOpusBitrateOverride
  | setGlobalOpusFrameDuration
  | globalGetOpusFrameDurationState
  | setServerName
  | setServerMotd
  | setWhitelistMode
  | addWhitelist
  | removeWhitelist
  | globalToggleServers
  | globalToggleThirdPerson
  | addDefaultLibraryItem
  | removeDefaultLibraryItem
  | globalToggleAdditionalAvatarDataLock
  deriving DecidableEq, Repr

namespace AdminRequestMode

/-- All modes by their discriminants. -/
def all : List AdminRequestMode :=
  [ban, kick, ipAndBan, message, messageAll, unBanIP, unBan, teleportAll, teleportPlayer, getPermissions,
    setUserGroup, setUserNode, setGroupNode, createGroup, deleteGroup, setGroupParent, enableShoutMode,
    disableShoutMode, globalToggleAvatars, globalToggleProps, globalToggleWorlds, globalGetLockState,
    globalGetHeadlessAudioState, setGlobalHeadlessAudio, globalGetHeadlessDisallowState,
    setGlobalHeadlessDisallow, setGlobalOpusPacketLoss, globalGetOpusPacketLossState, setUserOpusBitrate,
    userOpusBitrateOverride, setGlobalOpusFrameDuration, globalGetOpusFrameDurationState, setServerName,
    setServerMotd, setWhitelistMode, addWhitelist, removeWhitelist, globalToggleServers,
    globalToggleThirdPerson, addDefaultLibraryItem, removeDefaultLibraryItem,
    globalToggleAdditionalAvatarDataLock]

/-- The discriminant, `mode as u8`. -/
def toU8 (mode : AdminRequestMode) : UInt8 := UInt8.ofNat (all.idxOf mode)

/-- `From<u8>`: a byte that stands for no mode is read as `Ban`. -/
def ofU8 (value : UInt8) : AdminRequestMode := all.getD value.toNat ban

@[simp] lemma ofU8_toU8 (mode : AdminRequestMode) : ofU8 mode.toU8 = mode := by cases mode <;> rfl

end AdminRequestMode

structure AdminRequest where
  mode : AdminRequestMode
  deriving DecidableEq, Repr

namespace AdminRequest

def serialize (m : AdminRequest) : Bytes := putU8 m.mode.toU8

def deserialize : ReadResult AdminRequest := do
  let mode ← getU8
  return ⟨AdminRequestMode.ofU8 mode⟩

end AdminRequest

end BasisRust.Protocol
