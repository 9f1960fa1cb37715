import BasisRust.Protocol.Accepted

/-!
# `messages.rs`: the other direction

The readers of what the server sends and the writers of what it only reads, and the messages that the server
neither sends nor reads.  A payload that runs to the end of its message has no length of its own, so these
messages are read back from the whole of their bytes.
-/

namespace BasisRust.Protocol

open Lib

/-! ### Net ids and errors -/

def UshortUniqueIdMessage.deserialize : ReadResult UshortUniqueIdMessage := do
  let uniqueIdUshort ← getU16
  return ⟨uniqueIdUshort⟩

def ServerNetIdMessage.deserialize : ReadResult ServerNetIdMessage := do
  let netIdMessage ← NetIdMessage.deserialize
  let ushortUniqueIdMessage ← UshortUniqueIdMessage.deserialize
  return ⟨netIdMessage, ushortUniqueIdMessage⟩

def SpawnPreloadedMessage.deserialize : ReadResult SpawnPreloadedMessage := do
  let loadedNetId ← getString
  return ⟨loadedNetId⟩

def DataBaseRequest.serialize (m : DataBaseRequest) : Bytes := putString m.databaseId

structure ErrorMessage where
  message : String
  deriving DecidableEq, Repr

namespace ErrorMessage

def serialize (m : ErrorMessage) : Bytes := putString m.message

def deserialize : ReadResult ErrorMessage := do
  let message ← getString
  return ⟨message⟩

end ErrorMessage

structure BasisAvatarCloneRequest where
  requestingUser : UInt16
  deriving DecidableEq, Repr

namespace BasisAvatarCloneRequest

def serialize (m : BasisAvatarCloneRequest) : Bytes := putU16 m.requestingUser

def deserialize : ReadResult BasisAvatarCloneRequest := do
  let requestingUser ← getU16
  return ⟨requestingUser⟩

end BasisAvatarCloneRequest

structure BasisAvatarCloneResponse where
  requestingUser : UInt16
  deriving DecidableEq, Repr

namespace BasisAvatarCloneResponse

def serialize (m : BasisAvatarCloneResponse) : Bytes := putU16 m.requestingUser

def deserialize : ReadResult BasisAvatarCloneResponse := do
  let requestingUser ← getU16
  return ⟨requestingUser⟩

end BasisAvatarCloneResponse

/-! ### Camera -/

def CameraPipPositionMessage.deserialize : ReadResult CameraPipPositionMessage := do
  let playerId ← getU16
  let positionX ← getF32
  let positionY ← getF32
  let positionZ ← getF32
  let rotationX ← getF32
  let rotationY ← getF32
  let rotationZ ← getF32
  let rotationW ← getF32
  return ⟨playerId, positionX, positionY, positionZ, rotationX, rotationY, rotationZ, rotationW⟩

def CameraShutterSoundMessage.deserialize : ReadResult CameraShutterSoundMessage := do
  let playerId ← getU16
  return ⟨playerId⟩

def CameraCountdownMessage.deserialize : ReadResult CameraCountdownMessage := do
  let playerId ← getU16
  let seconds ← getU8
  return ⟨playerId, seconds⟩

def ClientCameraCountdownMessage.serialize (m : ClientCameraCountdownMessage) : Bytes := putU8 m.seconds

/-! ### Payloads that run to the end -/

structure AudioSegmentDataMessage where
  audioSegment : Bytes
  deriving DecidableEq, Repr

namespace AudioSegmentDataMessage

def serialize (m : AudioSegmentDataMessage) : Bytes := putBytes m.audioSegment

def deserialize : ReadResult AudioSegmentDataMessage := do
  let audioSegment ← remainingSlice
  return ⟨audioSegment⟩

end AudioSegmentDataMessage

namespace ServerAudioSegmentMessage

def serialize (m : ServerAudioSegmentMessage) : Bytes := putU16 m.playerId ++ putBytes m.audioSegment

def deserialize : ReadResult ServerAudioSegmentMessage := do
  let playerId ← getU16
  let data ← AudioSegmentDataMessage.deserialize
  return ⟨playerId, data.audioSegment⟩

end ServerAudioSegmentMessage

def AvatarDataMessage.serialize (m : AvatarDataMessage) : Bytes :=
  putU16 m.playerId ++
  putU8 m.avatarLinkIndex ++
  putU8 m.messageIndex ++
  putU16 (UInt16.ofNat m.recipients.length) ++
  m.recipients.flatMap putU16 ++
  putBytes m.payload

def RemoteAvatarDataMessage.deserialize : ReadResult RemoteAvatarDataMessage := do
  let playerId ← getU16
  let avatarLinkIndex ← getU8
  let messageIndex ← getU8
  let payload ← remainingSlice
  return ⟨playerId, avatarLinkIndex, messageIndex, payload⟩

def SceneDataMessage.serialize (m : SceneDataMessage) : Bytes :=
  putU16 m.messageIndex ++
  putU16 (UInt16.ofNat m.recipients.length) ++
  m.recipients.flatMap putU16 ++
  putBytes m.payload

def RemoteSceneDataMessage.deserialize : ReadResult RemoteSceneDataMessage := do
  let messageIndex ← getU16
  let payload ← remainingSlice
  return ⟨messageIndex, payload⟩

def ServerStatisticMessage.deserialize : ReadResult ServerStatisticMessage := do
  let data ← remainingSlice
  return ⟨data⟩

/-! ### Reading back -/

lemma parse_of_decodes {α : Type} {read : ReadResult α} {bytes : Bytes} {a : α} (h : Decodes read bytes a) :
    parse read bytes = some a := by
  have hnil := h []
  rw [List.append_nil] at hnil
  rw [parse, hnil]

/-- A field in front. -/
lemma parse_bind {α β : Type} {read : ReadResult α} {next : α → ReadResult β} {field rest : Bytes} {a : α} {b : β}
    (hfield : Decodes read field a) (hrest : parse (next a) rest = some b) :
    parse (read >>= next) (field ++ rest) = some b := by
  have hread : (read >>= next) (field ++ rest) = next a rest := by
    change EStateM.bind read next (field ++ rest) = _
    rw [EStateM.bind, hfield rest]
  rwa [parse, hread]

/-- The bytes that are left are the last field. -/
lemma parse_remainingSlice {α : Type} (f : Bytes → α) (bytes : Bytes) :
    parse (do let rest ← remainingSlice; return f rest) bytes = some (f bytes) := rfl

lemma decodes_ids (ids : List UInt16) : Decodes (readN getU16 ids.length) (ids.flatMap putU16) ids := by
  have h := Decodes.readN (f := id) fun recipient (_ : recipient ∈ ids) => decodes_getU16 recipient
  rwa [List.map_id] at h

lemma decodes_recipients {recipients : List UInt16} (h : recipients.length ≤ 65535) :
    Decodes (readN getU16 (UInt16.ofNat recipients.length).toNat) (recipients.flatMap putU16) recipients := by
  have hcount : (UInt16.ofNat recipients.length).toNat = recipients.length := by
    rw [UInt16.toNat_ofNat']
    omega
  rw [hcount]
  exact decodes_ids recipients

lemma NetIdMessage.decodes {m : NetIdMessage} (hfits : StringFits m.playerId) (hne : m.playerId ≠ "") :
    Decodes deserialize m.serialize m := by
  intro rest
  have hlength : ¬ (putString m.playerId ++ rest).length = 0 := by
    rw [putString, if_neg hne, List.length_append, List.length_append, putU16, length_leBytes]
    omega
  have hread := decodes_getString hfits rest
  rw [serialize, if_neg hne]
  change (if (putString m.playerId ++ rest).length = 0 then (pure ⟨""⟩ : ReadResult NetIdMessage)
    else do return ⟨← getString⟩) (putString m.playerId ++ rest) = _
  rw [if_neg hlength]
  change EStateM.bind getString _ (putString m.playerId ++ rest) = _
  rw [EStateM.bind, hread]
  rfl

lemma ServerNetIdMessage.decodes {m : ServerNetIdMessage} (hfits : StringFits m.netIdMessage.playerId)
    (hne : m.netIdMessage.playerId ≠ "") : Decodes deserialize m.serialize m := by
  refine (NetIdMessage.decodes hfits hne).bind ?_
  exact ((decodes_getU16 m.ushortUniqueIdMessage.uniqueIdUshort).map UshortUniqueIdMessage.mk).map _

lemma ChatMessage.decodes {m : ChatMessage} (h : m.payload.length ≤ 512) : Decodes deserialize m.serialize m := by
  have hmin : min m.payload.length 512 = m.payload.length := min_eq_left h
  have hcount : (UInt16.ofNat m.payload.length).toNat = m.payload.length := by
    rw [UInt16.toNat_ofNat']
    omega
  unfold deserialize serialize
  simp only [hmin, List.take_length]
  refine (decodes_getU16 _).bind ?_
  exact (decodes_getBytes (by rw [hcount, hmin])).map _

lemma CameraPipPositionMessage.decodes (m : CameraPipPositionMessage) : Decodes deserialize m.serialize m := by
  unfold deserialize serialize
  simp only [List.append_assoc]
  refine (decodes_getU16 _).bind ?_
  iterate 6 refine (decodes_getF32 _).bind ?_
  exact (decodes_getF32 _).map _

/-- **The rest of the format.**  Every message that the server sends without reading it, or reads without sending
it, is read back from its bytes when its counts can be written: a recipient list as long as a `u16` counts, a
chat text of 512 bytes, a string of 65534, a net id with a name. -/
theorem parse_serialize :
    (∀ m : ServerNetIdMessage, StringFits m.netIdMessage.playerId → m.netIdMessage.playerId ≠ "" →
      parse ServerNetIdMessage.deserialize m.serialize = some m) ∧
    (∀ m : SpawnPreloadedMessage, StringFits m.loadedNetId →
      parse SpawnPreloadedMessage.deserialize m.serialize = some m) ∧
    (∀ m : DataBaseRequest, StringFits m.databaseId → parse DataBaseRequest.deserialize m.serialize = some m) ∧
    (∀ m : ErrorMessage, StringFits m.message → parse ErrorMessage.deserialize m.serialize = some m) ∧
    (∀ m : ChatMessage, m.payload.length ≤ 512 → parse ChatMessage.deserialize m.serialize = some m) ∧
    (∀ m : CameraPipPositionMessage, parse CameraPipPositionMessage.deserialize m.serialize = some m) ∧
    (∀ m : CameraCountdownMessage, parse CameraCountdownMessage.deserialize m.serialize = some m) ∧
    (∀ m : ServerAudioSegmentMessage, parse ServerAudioSegmentMessage.deserialize m.serialize = some m) ∧
    (∀ m : AvatarDataMessage, m.recipients.length ≤ 65535 →
      parse AvatarDataMessage.deserialize m.serialize = some m) ∧
    (∀ m : RemoteAvatarDataMessage, parse RemoteAvatarDataMessage.deserialize m.serialize = some m) ∧
    (∀ m : SceneDataMessage, m.recipients.length ≤ 65535 →
      parse SceneDataMessage.deserialize m.serialize = some m) ∧
    (∀ m : RemoteSceneDataMessage, parse RemoteSceneDataMessage.deserialize m.serialize = some m) ∧
    (∀ m : ServerStatisticMessage, parse ServerStatisticMessage.deserialize m.serialize = some m) ∧
    (∀ m : BasisAvatarCloneRequest, parse BasisAvatarCloneRequest.deserialize m.serialize = some m) ∧
    (∀ m : BasisAvatarCloneResponse, parse BasisAvatarCloneResponse.deserialize m.serialize = some m) ∧
    (∀ m : CameraShutterSoundMessage, parse CameraShutterSoundMessage.deserialize m.serialize = some m) ∧
    (∀ m : ClientCameraCountdownMessage, parse ClientCameraCountdownMessage.deserialize m.serialize = some m) := by
  refine ⟨fun m hfits hne => parse_of_decodes (ServerNetIdMessage.decodes hfits hne),
    fun m h => parse_of_decodes ((decodes_getString h).map SpawnPreloadedMessage.mk),
    fun m h => parse_of_decodes ((decodes_getString h).map DataBaseRequest.mk),
    fun m h => parse_of_decodes ((decodes_getString h).map ErrorMessage.mk),
    fun m h => parse_of_decodes (ChatMessage.decodes h), fun m => ?_, fun m => ?_, fun m => ?_, fun m h => ?_,
    fun m => ?_, fun m h => ?_, fun m => ?_, fun m => rfl,
    fun m => parse_of_decodes ((decodes_getU16 m.requestingUser).map BasisAvatarCloneRequest.mk),
    fun m => parse_of_decodes ((decodes_getU16 m.requestingUser).map BasisAvatarCloneResponse.mk),
    fun m => parse_of_decodes ((decodes_getU16 m.playerId).map CameraShutterSoundMessage.mk),
    fun m => parse_of_decodes ((decodes_getU8 m.seconds).map ClientCameraCountdownMessage.mk)⟩
  · exact parse_of_decodes (CameraPipPositionMessage.decodes m)
  · exact parse_bind (decodes_getU16 _) (parse_of_decodes ((decodes_getU8 _).map _))
  · exact parse_bind (decodes_getU16 _) rfl
  · unfold AvatarDataMessage.deserialize AvatarDataMessage.serialize
    simp only [List.append_assoc]
    refine parse_bind (decodes_getU16 _) (parse_bind (decodes_getU8 _) (parse_bind (decodes_getU8 _) ?_))
    exact parse_bind (decodes_getU16 _) (parse_bind (decodes_recipients h) (parse_remainingSlice _ _))
  · unfold RemoteAvatarDataMessage.deserialize RemoteAvatarDataMessage.serialize
    simp only [List.append_assoc]
    refine parse_bind (decodes_getU16 _) (parse_bind (decodes_getU8 _) (parse_bind (decodes_getU8 _) ?_))
    exact parse_remainingSlice _ _
  · unfold SceneDataMessage.deserialize SceneDataMessage.serialize
    simp only [List.append_assoc]
    refine parse_bind (decodes_getU16 _) (parse_bind (decodes_getU16 _) ?_)
    exact parse_bind (decodes_recipients h) (parse_remainingSlice _ _)
  · exact parse_bind (decodes_getU16 _) (parse_remainingSlice _ _)

theorem parse_serialize_samples :
    parse ServerNetIdMessage.deserialize (ServerNetIdMessage.serialize ⟨⟨"door"⟩, ⟨3⟩⟩) = some ⟨⟨"door"⟩, ⟨3⟩⟩ ∧
    parse SpawnPreloadedMessage.deserialize (SpawnPreloadedMessage.serialize ⟨"hall"⟩) = some ⟨"hall"⟩ ∧
    parse DataBaseRequest.deserialize (DataBaseRequest.serialize ⟨"score"⟩) = some ⟨"score"⟩ ∧
    parse ErrorMessage.deserialize (ErrorMessage.serialize ⟨"banned"⟩) = some ⟨"banned"⟩ ∧
    parse ChatMessage.deserialize (ChatMessage.serialize ⟨[1, 2]⟩) = some ⟨[1, 2]⟩ ∧
    parse AvatarDataMessage.deserialize (AvatarDataMessage.serialize ⟨5, 0, 1, [0, 7], [4]⟩) = some ⟨5, 0, 1, [0, 7], [4]⟩ ∧
    parse SceneDataMessage.deserialize (SceneDataMessage.serialize ⟨2, [], [6]⟩) = some ⟨2, [], [6]⟩ := by
  obtain ⟨hnetId, hspawn, hrequest, herror, hchat, -, -, -, havatar, -, hscene, -⟩ := parse_serialize
  exact ⟨hnetId _ (by decide) (by decide), hspawn _ (by decide), hrequest _ (by decide), herror _ (by decide),
    hchat _ (by decide), havatar _ (by decide), hscene _ (by decide)⟩

end BasisRust.Protocol
