import BasisRust.Lib.Dict
import BasisRust.Protocol.Avatar
import BasisRust.Protocol.Channels
import BasisRust.Transport.Packet

/-!
# `avatar_sync.rs`: who is known to the avatar system

The four maps of `AvatarSyncSystem`, with what enters a player into them between two ticks and what takes a
player out of them.
-/

namespace BasisRust.Avatar

open Lib Protocol Transport

structure PreSerializedQuality where
  channelSmall : UInt8
  channelLarge : UInt8
  bytesSmall : Bytes
  bytesLarge : Bytes
  deriving DecidableEq

structure PlayerAvatarState where
  peerId : PeerId
  position : Vector F32 3
  generation : UInt64
  lastInboundSequence : UInt8
  outboundSequence : UInt8
  hasReceivedFirst : Bool
  qualities : Vector (Option PreSerializedQuality) 4
  deriving DecidableEq

structure PendingAvatarUpdate where
  channel : UInt8
  payload : Bytes
  deriving DecidableEq

structure ReceiverTracking where
  lastSeenGeneration : UInt64
  /-- in nanoseconds -/
  lastSent : ℕ
  cachedQualityIndex : UInt8
  cachedIntervalByte : UInt8
  cachedIntervalMs : UInt64
  deriving DecidableEq

structure AvatarSyncSystem where
  states : Dict PeerId PlayerAvatarState := ∅
  pending : Dict PeerId PendingAvatarUpdate := ∅
  /-- by receiver, then by sender -/
  tracking : Dict PeerId (Dict PeerId ReceiverTracking) := ∅
  bundleRatios : Dict PeerId F32 := ∅

/-! ### `channels.rs` -/

def playerAvatarChannelForQuality (qualityIndex : UInt8) (hasAdditionalData : Bool) : UInt8 :=
  channels.playerAvatarVeryLow + qualityIndex * 2 + if hasAdditionalData then 1 else 0

def qualityFromChannel (channel : UInt8) : UInt8 :=
  if channel ≥ channels.playerAvatarVeryLowLarge then (channel - channels.playerAvatarVeryLowLarge) / 2
  else (channel - channels.playerAvatarVeryLow) / 2

/-- The quality an update on the channel has; any other number counts as the highest. -/
def qualityOfChannel (channel : UInt8) : BitQuality :=
  match (qualityFromChannel channel).toNat with
  | 0 => .veryLow
  | 1 => .low
  | 2 => .medium
  | _ => .high

namespace AvatarSyncSystem

/-- An empty update and one that is too short for its quality change nothing. -/
def upsertFromChannelPayload (peerId : PeerId) (channel : UInt8) (payload : Bytes) (system : AvatarSyncSystem) :
    AvatarSyncSystem :=
  let expected := (qualityOfChannel channel).payloadLen
  if payload = [] then system
  else if payload.length < 1 + expected then system
  else { system with pending := system.pending.insert peerId ⟨channel, payload.take (1 + expected)⟩ }

def removePlayer (peerId : PeerId) (system : AvatarSyncSystem) : AvatarSyncSystem where
  states := system.states.erase peerId
  pending := system.pending.erase peerId
  tracking := Dict.mapValues (·.erase peerId) (system.tracking.erase peerId)
  bundleRatios := system.bundleRatios.erase peerId

/-- The player is a key of a map, or an inner key of `tracking`. -/
def Knows (system : AvatarSyncSystem) (peerId : PeerId) : Prop :=
  peerId ∈ system.states ∨ peerId ∈ system.pending ∨ peerId ∈ system.tracking ∨ peerId ∈ system.bundleRatios ∨
    ∃ receiver senders, system.tracking.lookup receiver = some senders ∧ peerId ∈ senders

/-- Nothing of the player stays. -/
theorem not_knows_removePlayer (peerId : PeerId) (system : AvatarSyncSystem) :
    ¬ (system.removePlayer peerId).Knows peerId := by
  rintro (h | h | h | h | ⟨receiver, senders, hlookup, hmem⟩)
  · exact (AList.mem_erase.mp h).1 rfl
  · exact (AList.mem_erase.mp h).1 rfl
  · obtain ⟨senders, hsenders⟩ := Dict.mem_iff_lookup.mp h
    rw [removePlayer, Dict.lookup_mapValues, AList.lookup_erase] at hsenders
    cases hsenders
  · exact (AList.mem_erase.mp h).1 rfl
  · rw [removePlayer, Dict.lookup_mapValues, Option.map_eq_some_iff] at hlookup
    obtain ⟨before, -, rfl⟩ := hlookup
    exact (AList.mem_erase.mp hmem).1 rfl

end AvatarSyncSystem
end BasisRust.Avatar
