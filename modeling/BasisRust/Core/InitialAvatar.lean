import BasisRust.Avatar.Tick
import BasisRust.Core.System
import BasisRust.Protocol.RoundTrip

/-!
# The first pose of a player

The ready message carries a quality byte and a pose, and every byte from 3 on announces a pose of high quality.
`cache_initial_avatar_sync` makes a channel number of the byte, and a tick a quality of the channel number.  Channel
numbers for long ids begin at 41 again with the lowest quality, so high bytes come out as lower qualities there, and
the highest bytes have no channel number at all.
-/

namespace BasisRust.Core

open Lib Protocol Transport
open Avatar

/-! ### Arithmetic that may overflow -/

/-- `u8::checked_add` -/
def checkedAdd (a b : UInt8) : Option UInt8 := if a.toNat + b.toNat < 256 then some (a + b) else none

/-- `u8::checked_mul` -/
def checkedMul (a b : UInt8) : Option UInt8 := if a.toNat * b.toNat < 256 then some (a * b) else none

/-- `player_avatar_channel_for_quality`, with `none` where the arithmetic overflows. -/
def checkedChannelForQuality (qualityIndex : UInt8) (hasAdditionalData : Bool) : Option UInt8 := do
  let offset ← checkedMul qualityIndex 2
  let channel ← checkedAdd channels.playerAvatarVeryLow offset
  checkedAdd channel (if hasAdditionalData then 1 else 0)

lemma checkedChannelForQuality_eq_some {level channel : UInt8} {hasAdditional : Bool}
    (h : checkedChannelForQuality level hasAdditional = some channel) :
    playerAvatarChannelForQuality level hasAdditional = channel := by
  obtain ⟨offset, hoffset, h⟩ := Option.bind_eq_some_iff.mp h
  obtain ⟨small, hsmall, h⟩ := Option.bind_eq_some_iff.mp h
  rw [checkedMul, Option.ite_none_right_eq_some] at hoffset
  rw [checkedAdd, Option.ite_none_right_eq_some] at hsmall h
  rw [playerAvatarChannelForQuality, ← Option.some.inj h.2, ← Option.some.inj hsmall.2, ← Option.some.inj hoffset.2]

/-! ### Qualities -/

/-- The quality `LocalAvatarSyncMessage::deserialize` sizes the pose by. -/
def qualityOfLevel (dataQualityLevel : UInt8) : BitQuality :=
  match dataQualityLevel.toNat with
  | 0 => .veryLow
  | 1 => .low
  | 2 => .medium
  | _ => .high

lemma payloadLen_qualityOfLevel (level : UInt8) :
    (qualityOfLevel level).payloadLen = LocalAvatarSyncMessage.payloadLen level := by
  unfold qualityOfLevel LocalAvatarSyncMessage.payloadLen
  generalize level.toNat = n
  match n with
  | 0 => rfl
  | 1 => rfl
  | 2 => rfl
  | _ + 3 => rfl

/-- The channel number does not overflow and means the same quality as the byte. -/
def LevelKept (level : UInt8) (hasAdditional : Bool) : Prop :=
  level ≤ 16 ∨ level = 17 ∧ hasAdditional = false ∨ level = 20 ∧ hasAdditional = true ∨ 21 ≤ level ∧ level ≤ 124

instance (level : UInt8) (hasAdditional : Bool) : Decidable (LevelKept level hasAdditional) :=
  inferInstanceAs (Decidable (_ ∨ _))

lemma levelKept_iff (level : UInt8) (hasAdditional : Bool) :
    (checkedChannelForQuality level hasAdditional).map qualityOfChannel = some (qualityOfLevel level) ↔
      LevelKept level hasAdditional := by
  have hall : ∀ n < 256, ∀ additional : Bool,
      ((checkedChannelForQuality (.ofNat n) additional).map qualityOfChannel = some (qualityOfLevel (.ofNat n)) ↔
        LevelKept (.ofNat n) additional) := by decide +kernel
  have hlevel := hall level.toNat level.toNat_lt hasAdditional
  rwa [UInt8.ofNat_toNat] at hlevel

/-! ### Caching -/

def tooSmall (quality : BitQuality) (got need : ℕ) : String :=
  let name :=
    match quality with
    | .veryLow => "VeryLow"
    | .low => "Low"
    | .medium => "Medium"
    | .high => "High"
  "avatar payload too small for " ++ name ++ ": got " ++ toString got ++ ", need " ++ toString need

/-- `upsert_from_channel_payload`, with its error. -/
def tryUpsert (peerId : PeerId) (channel : UInt8) (payload : Bytes) (system : AvatarSyncSystem) :
    Except String AvatarSyncSystem :=
  let quality := qualityOfChannel channel
  let expected := quality.payloadLen
  if payload = [] then .ok system
  else if payload.length < 1 + expected then .error (tooSmall quality payload.length (1 + expected))
  else .ok { system with pending := system.pending.insert peerId ⟨channel, payload.take (1 + expected)⟩ }

lemma upsertFromChannelPayload_of_ok {peerId : PeerId} {channel : UInt8} {payload : Bytes}
    {system system' : AvatarSyncSystem} (h : tryUpsert peerId channel payload system = .ok system') :
    system.upsertFromChannelPayload peerId channel payload = system' := by
  unfold tryUpsert at h
  unfold AvatarSyncSystem.upsertFromChannelPayload
  dsimp only at h ⊢
  split at h
  next hempty =>
    rw [if_pos hempty]
    exact Except.ok.inj h
  next hempty =>
    split at h
    next => cases h
    next hlong =>
      rw [if_neg hempty, if_neg hlong]
      exact Except.ok.inj h

/-- The payload that is cached. -/
def initialPayload (sync : LocalAvatarSyncMessage) : Bytes :=
  putU8 0 ++ serializeForChannel sync (!sync.additionalAvatarDatas.isEmpty)

/-- `cache_initial_avatar_sync` on the avatar system: `none` is an overflow, the error is logged. -/
def tryCacheInitial (peerId : PeerId) (sync : LocalAvatarSyncMessage) (system : AvatarSyncSystem) :
    Option (Except String AvatarSyncSystem) := do
  let channel ← checkedChannelForQuality sync.dataQualityLevel (!sync.additionalAvatarDatas.isEmpty)
  return tryUpsert peerId channel (initialPayload sync) system

namespace ServerState

/-- No overflow, no error, and what waits for the next tick has the quality of the message and its whole pose. -/
def CachesInitial (peerId : PeerId) (ready : ReadyMessage) (s : ServerState) : Prop :=
  let sync := ready.localAvatarSyncMessage
  let after := (s.cacheInitialAvatarSync peerId ready).avatarSync
  tryCacheInitial peerId sync s.avatarSync = some (.ok after) ∧
    ∃ update processed, after.pending.lookup peerId = some update ∧
      processPendingUpdate peerId update = some processed ∧
      processed.quality = qualityOfLevel sync.dataQualityLevel ∧
      (processed.payload.drop 1).take processed.payloadLen = sync.array

/-- What is left when nothing overflows and nothing fails. -/
lemma cacheInitialAvatarSync_of_ok {peerId : PeerId} {ready : ReadyMessage} {s : ServerState}
    {system : AvatarSyncSystem}
    (h : tryCacheInitial peerId ready.localAvatarSyncMessage s.avatarSync = some (.ok system)) :
    (s.cacheInitialAvatarSync peerId ready).avatarSync = system := by
  obtain ⟨channel, hchannel, h⟩ := Option.bind_eq_some_iff.mp h
  rw [cacheInitialAvatarSync]
  dsimp only
  rw [checkedChannelForQuality_eq_some hchannel]
  exact upsertFromChannelPayload_of_ok (Option.some.inj h)

end ServerState

/-! ### Messages that are accepted -/

lemma length_of_take {len : ℕ} {reader rest bytes : Bytes} (h : take len reader = .ok bytes rest) :
    bytes.length = len := by
  unfold take at h
  split at h
  next => cases h
  next hlen =>
    cases h
    exact List.length_take_of_le (not_lt.mp hlen)

/-- The pose is as long as its quality byte asks for. -/
lemma length_array_of_deserialize {reader rest : NetReader} {sync : LocalAvatarSyncMessage}
    (h : LocalAvatarSyncMessage.deserialize reader = .ok sync rest) :
    sync.array.length = (qualityOfLevel sync.dataQualityLevel).payloadLen := by
  obtain ⟨level, afterLevel, -, h⟩ := ok_of_bind_ok h
  obtain ⟨array, afterArray, harray, h⟩ := ok_of_bind_ok h
  obtain ⟨count, afterCount, -, h⟩ := ok_of_bind_ok h
  have hsame : sync.dataQualityLevel = level ∧ sync.array = array := by
    dsimp only at h
    split at h
    all_goals
      obtain ⟨linked, afterLinked, -, h⟩ := ok_of_bind_ok h
      obtain ⟨datas, afterDatas, -, h⟩ := ok_of_bind_ok h
      cases h
      exact ⟨rfl, rfl⟩
  rw [hsame.1, hsame.2, payloadLen_qualityOfLevel]
  exact length_of_take harray

lemma length_array_of_accepted {reader rest : NetReader} {ready : ReadyMessage}
    (h : ReadyMessage.deserialize reader = .ok ready rest) :
    ready.localAvatarSyncMessage.array.length =
      (qualityOfLevel ready.localAvatarSyncMessage.dataQualityLevel).payloadLen := by
  obtain ⟨metaData, afterMetaData, -, h⟩ := ok_of_bind_ok h
  obtain ⟨change, afterChange, -, h⟩ := ok_of_bind_ok h
  obtain ⟨sync, afterSync, hsync, h⟩ := ok_of_bind_ok h
  cases h
  exact length_array_of_deserialize hsync

/-- The channel of what waits is the one it came on. -/
lemma channel_of_tryUpsert {peerId : PeerId} {channel : UInt8} {payload : Bytes} {system system' : AvatarSyncSystem}
    {update : PendingAvatarUpdate} (hne : payload ≠ []) (h : tryUpsert peerId channel payload system = .ok system')
    (hpending : system'.pending.lookup peerId = some update) : update.channel = channel := by
  unfold tryUpsert at h
  dsimp only at h
  rw [if_neg hne] at h
  split at h
  next => cases h
  next =>
    cases h
    have hinserted := (AList.lookup_insert system.pending).symm.trans hpending
    exact (congrArg PendingAvatarUpdate.channel (Option.some.inj hinserted)).symm

lemma quality_of_processPendingUpdate {peerId : PeerId} {update : PendingAvatarUpdate}
    {processed : ProcessedAvatarUpdate} (h : processPendingUpdate peerId update = some processed) :
    processed.quality = qualityOfChannel update.channel := by
  obtain ⟨sequence, -, h⟩ := Option.bind_eq_some_iff.mp h
  cases h
  rfl

/-- A channel of the right quality takes the sequence number and the whole pose. -/
lemma tryUpsert_initialPayload {peerId : PeerId} {channel : UInt8} {sync : LocalAvatarSyncMessage}
    (system : AvatarSyncSystem) (hlength : sync.array.length = (qualityOfChannel channel).payloadLen) :
    tryUpsert peerId channel (initialPayload sync) system =
      .ok { system with pending := system.pending.insert peerId ⟨channel, 0 :: sync.array⟩ } := by
  obtain ⟨rest, hpayload⟩ : ∃ rest, initialPayload sync = (0 :: sync.array) ++ rest := ⟨_, rfl⟩
  have hwhole : (0 :: sync.array).length = 1 + (qualityOfChannel channel).payloadLen := by
    rw [List.length_cons, hlength, Nat.add_comm]
  have hlong : ¬ ((0 :: sync.array) ++ rest).length < 1 + (qualityOfChannel channel).payloadLen := by
    rw [List.length_append, hwhole]
    omega
  have hne : (0 :: sync.array) ++ rest ≠ [] := List.cons_ne_nil _ _
  unfold tryUpsert
  dsimp only
  rw [hpayload, if_neg hne, if_neg hlong, ← hwhole, List.take_left]

namespace ServerState

lemma cachesInitial_iff_levelKept {ready : ReadyMessage}
    (hlength : ready.localAvatarSyncMessage.array.length =
      (qualityOfLevel ready.localAvatarSyncMessage.dataQualityLevel).payloadLen) (peerId : PeerId) (s : ServerState) :
    s.CachesInitial peerId ready ↔
      LevelKept ready.localAvatarSyncMessage.dataQualityLevel
        (!ready.localAvatarSyncMessage.additionalAvatarDatas.isEmpty) := by
  rw [← levelKept_iff]
  generalize hsync : ready.localAvatarSyncMessage = sync at hlength
  constructor
  · rintro ⟨hcached, update, processed, hpending, hprocessed, hquality, -⟩
    rw [hsync] at hcached hquality
    obtain ⟨channel, hchannel, hcached⟩ := Option.bind_eq_some_iff.mp hcached
    have hsame : update.channel = channel :=
      channel_of_tryUpsert (List.cons_ne_nil _ _) (Option.some.inj hcached) hpending
    rw [quality_of_processPendingUpdate hprocessed, hsame] at hquality
    rw [hchannel, Option.map_some, hquality]
  · intro hkept
    obtain ⟨channel, hchannel, hquality⟩ := Option.map_eq_some_iff.mp hkept
    rw [← hquality] at hlength
    have hcached : tryCacheInitial peerId sync s.avatarSync = some (.ok { s.avatarSync with
        pending := s.avatarSync.pending.insert peerId ⟨channel, 0 :: sync.array⟩ }) := by
      rw [tryCacheInitial, hchannel]
      exact congrArg some (tryUpsert_initialPayload s.avatarSync hlength)
    have hafter := @cacheInitialAvatarSync_of_ok _ ready s _ (hsync ▸ hcached)
    have hwhole : PendingAvatarUpdate.Whole ⟨channel, 0 :: sync.array⟩ := by
      rw [PendingAvatarUpdate.Whole, List.length_cons, hlength, Nat.add_comm]
      rfl
    rw [CachesInitial, hafter, hsync]
    exact ⟨hcached, _, _, AList.lookup_insert _, hwhole.processPendingUpdate peerId, hquality, hwhole.body_eq⟩

/-- **The first pose is cached whole** under the quality it was parsed with, exactly when the channel number of the
quality byte means that quality. -/
theorem cachesInitial_iff {reader rest : NetReader} {ready : ReadyMessage}
    (h : ReadyMessage.deserialize reader = .ok ready rest) (peerId : PeerId) (s : ServerState) :
    s.CachesInitial peerId ready ↔
      LevelKept ready.localAvatarSyncMessage.dataQualityLevel
        (!ready.localAvatarSyncMessage.additionalAvatarDatas.isEmpty) :=
  cachesInitial_iff_levelKept (length_array_of_accepted h) peerId s

/-- A player with a pose of the highest quality, under a quality byte of its own. -/
def readyAt (level : UInt8) : ReadyMessage where
  playerMetaDataMessage := ⟨"v", "Visitor", "Windows"⟩
  clientAvatarChangeMessage := ⟨0, [], 0⟩
  localAvatarSyncMessage := ⟨level, List.replicate 182 0, [], 0⟩

lemma deserialize_readyAt {level : UInt8} (h : 3 ≤ level.toNat) :
    ReadyMessage.deserialize (readyAt level).serialize = .ok (readyAt level) [] := by
  have hpose : LocalAvatarSyncMessage.payloadLen level = 182 := by
    unfold LocalAvatarSyncMessage.payloadLen
    obtain ⟨n, hn⟩ := Nat.exists_eq_add_of_le' h
    rw [hn]
    rfl
  have hfits : (readyAt level).Fits := by
    have hmetaData : StringFits "v" ∧ StringFits "Visitor" ∧ StringFits "Windows" := by
      unfold StringFits
      decide
    refine ⟨⟨hmetaData.1, hmetaData.2.1, hmetaData.2.2⟩, Nat.zero_le _, ⟨?_, Nat.zero_le _, nofun⟩⟩
    exact hpose.symm ▸ List.length_replicate
  have hread := ReadyMessage.decodes hfits []
  rw [List.append_nil] at hread
  exact hread

theorem cachesInitial_iff_high :
    (ServerState.start openConfig).CachesInitial 1 (readyAt 3) :=
  (cachesInitial_iff (deserialize_readyAt (by decide)) 1 _).mpr (by decide)

/-- The pose under the quality byte 18 is parsed as one of high quality, and cached as one of the lowest. -/
theorem initial_pose_cut : ∃ reader ready, ReadyMessage.deserialize reader = .ok ready [] ∧
    ¬ (ServerState.start openConfig).CachesInitial 1 ready := by
  refine ⟨_, _, @deserialize_readyAt 18 (by decide), ?_⟩
  rw [cachesInitial_iff_levelKept (length_array_of_accepted (deserialize_readyAt (by decide)))]
  decide

end ServerState
end BasisRust.Core
