import BasisRust.Lib.Bitmap
import BasisRust.Protocol.Messages

/-!
# `permissions.rs` and the metadata message

The nodes the server knows by name, and how the rules of a player travel: a bit for each node of a fixed
table, the names of all others as text.  The deflate compressor of the text is left open.
-/

namespace BasisRust.Protocol

open Lib

namespace nodes

def all : String := "*"
def help : String := "basis.command.help"
def serverStats : String := "basis.server.stats"
def resourceLoadWorld : String := "basis.resource.load.world"
def resourceUnloadWorld : String := "basis.resource.unload.world"
def resourceLoadProp : String := "basis.resource.load.prop"
def resourceUnloadProp : String := "basis.resource.unload.prop"
def resourceLoadAvatar : String := "basis.resource.load.avatar"
def resourceUnloadAvatar : String := "basis.resource.unload.avatar"
def resourceLockBypassAvatar : String := "basis.resource.lockbypass.avatar"
def resourceLockBypassProp : String := "basis.resource.lockbypass.prop"
def resourceLockBypassWorld : String := "basis.resource.lockbypass.world"
def resourceLockBypassServer : String := "basis.resource.lockbypass.server"
def ownershipTransfer : String := "basis.ownership.transfer"
def ownershipRemove : String := "basis.ownership.remove"
def ownershipGet : String := "basis.ownership.get"
def contentShareDelete : String := "basis.contentshare.delete"
def contentShareCreate : String := "basis.contentshare.create"
def protection : String := "basis.protection"
def configurationEditor : String := "basis.configuration"
def playerModeration : String := "basis.moderation"
def moderationBan : String := "basis.moderation.ban"
def moderationKick : String := "basis.moderation.kick"
def moderationIpBan : String := "basis.moderation.ipban"
def moderationUnban : String := "basis.moderation.unban"
def moderationUnbanIp : String := "basis.moderation.unbanip"
def moderationMessage : String := "basis.moderation.message"
def moderationMessageAll : String := "basis.moderation.messageall"
def moderationTeleport : String := "basis.moderation.teleport"
def moderationShout : String := "basis.moderation.shout"
def moderationGlobalLock : String := "basis.moderation.globallock"
def moderationHeadlessAudio : String := "basis.moderation.headlessaudio"
def moderationOpusBitrate : String := "basis.moderation.opusbitrate"
def permissionsView : String := "basis.permissions.view"
def permissionsEdit : String := "basis.permissions.edit"

end nodes

def defaultGroupNodes : List String :=
  [nodes.help, nodes.resourceLoadProp, nodes.resourceUnloadProp, nodes.resourceLoadAvatar,
    nodes.resourceUnloadAvatar, nodes.resourceLoadWorld, nodes.resourceUnloadWorld,
    nodes.ownershipTransfer, nodes.ownershipRemove, nodes.ownershipGet, nodes.contentShareDelete,
    nodes.contentShareCreate]

/-! ### Rules on the wire -/

def permissionWireNodes : List String :=
  [nodes.all, nodes.serverStats, nodes.resourceLoadWorld, nodes.resourceUnloadWorld,
    nodes.resourceLoadProp, nodes.resourceUnloadProp, nodes.resourceLoadAvatar,
    nodes.resourceUnloadAvatar, nodes.ownershipTransfer, nodes.ownershipRemove, nodes.ownershipGet,
    nodes.contentShareDelete, nodes.contentShareCreate, nodes.protection, nodes.configurationEditor,
    nodes.playerModeration, nodes.moderationBan, nodes.moderationKick, nodes.moderationIpBan,
    nodes.moderationUnban, nodes.moderationUnbanIp, nodes.moderationMessage, nodes.moderationMessageAll,
    nodes.moderationTeleport, nodes.moderationShout, nodes.permissionsView, nodes.permissionsEdit,
    nodes.moderationHeadlessAudio]

/-- `str::to_ascii_lowercase`. -/
def toAsciiLowercase (s : String) : String := String.ofList (s.toList.map Char.toLower)

def permissionWireIndex (node : String) : Option ℕ :=
  permissionWireNodes.findIdx? fun known => toAsciiLowercase known = toAsciiLowercase node

/-- The bit set and the rules that have no bit. -/
def encodePermissionWire (allowed denied : List String) : Bytes × List String :=
  let bitset := (allowed.filterMap permissionWireIndex).foldl setBit
    (List.replicate ((permissionWireNodes.length + 7) / 8) 0)
  let bitset :=
    if nodes.all ∈ allowed then (List.range permissionWireNodes.length).foldl setBit bitset else bitset
  ((denied.filterMap permissionWireIndex).foldl clearBit bitset,
    allowed.filter fun node => permissionWireIndex node = none)

/-- The names joined by zero bytes, deflated if that makes them shorter. -/
def compressPermissionExtras (deflate : Bytes → Option Bytes) (extras : List String) : Bytes :=
  let raw := ([0] : Bytes).intercalate (extras.map asBytes)
  match deflate raw with
  | some deflated => if deflated.length < raw.length then 1 :: deflated else 0 :: raw
  | none => 0 :: raw

structure ServerMetaDataMessage where
  clientMetaDataMessage : ClientMetaDataMessage
  syncInterval : Int32
  baseMultiplier : Int32
  increaseRate : F32
  slowestSendRate : F32
  peerLimit : Int32
  allowedPermissions : List String
  deniedPermissions : List String

def ServerMetaDataMessage.serialize (deflate : Bytes → Option Bytes) (m : ServerMetaDataMessage) : Bytes :=
  let (bitset, extras) := encodePermissionWire m.allowedPermissions m.deniedPermissions
  m.clientMetaDataMessage.serialize ++
  putI32 m.syncInterval ++
  putI32 m.baseMultiplier ++
  putF32 m.increaseRate ++
  putF32 m.slowestSendRate ++
  putI32 m.peerLimit ++
  putBytesWithLength bitset ++
  putU16 (UInt16.ofNat extras.length) ++
  if extras = [] then [] else putBytesWithLength (compressPermissionExtras deflate extras)

end BasisRust.Protocol
