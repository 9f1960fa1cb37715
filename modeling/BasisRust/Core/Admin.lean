import BasisRust.Core.Login

/-!
# Admin requests

`handle_admin_message`: one arm per mode, each with the arguments it reads.
-/

namespace BasisRust.Core

open Lib Protocol Transport
open Admin P2p Permissions
open Server (ConnectedPeer isHeadlessPlatform)

/-- An argument or its default, and the reader behind it. -/
def readOrDefault {α : Type} (read : ReadResult α) (reader : NetReader) (default : α) : α × NetReader :=
  match read reader with
  | .ok a reader => (a, reader)
  | .error _ reader => (default, reader)

/-- The bitrate that is applied for one that is asked for. -/
def appliedBitrate (requested : Int32) : Int32 :=
  let requested := max 0 (min requested.toInt 510000)
  if requested = 0 then 0 else Int32.ofInt (max requested 6000)

def whitelistModeOf (mode : UInt8) : BasisUserRestrictionMode :=
  match mode.toNat with
  | 1 => .whiteList
  | 2 => .blackList
  | _ => .none

namespace ServerState

def peerByUuid (uuid : String) (s : ServerState) : Option PeerId := Server.peerByUuid uuid s.authenticatedPeers

def sendLockStateToPeer (peerId : PeerId) (s : ServerState) : ServerState :=
  s.send peerId channels.admin (encodeLockStatePayload s.globalState)

def broadcastLockState (s : ServerState) : ServerState :=
  s.broadcast channels.admin .reliableOrdered (encodeLockStatePayload s.globalState) none

def sendBoolAdminState (peerId : PeerId) (mode : AdminRequestMode) (value : Bool) (s : ServerState) : ServerState :=
  s.send peerId channels.admin (encodeBoolAdminStatePayload mode value)

def broadcastBoolAdminState (mode : AdminRequestMode) (value : Bool) (s : ServerState) : ServerState :=
  s.broadcast channels.admin .reliableOrdered (encodeBoolAdminStatePayload mode value) none

def sendU8AdminState (peerId : PeerId) (mode : AdminRequestMode) (value : UInt8) (s : ServerState) : ServerState :=
  s.send peerId channels.admin (encodeU8AdminStatePayload mode value)

def broadcastU8AdminState (mode : AdminRequestMode) (value : UInt8) (s : ServerState) : ServerState :=
  s.broadcast channels.admin .reliableOrdered (encodeU8AdminStatePayload mode value) none

def sendAdminText (peerId : PeerId) (message : String) (s : ServerState) : ServerState :=
  if message = "" then s
  else s.send peerId channels.admin (AdminRequest.serialize ⟨.message⟩ ++ putString message)

/-- A list of names behind its length. -/
def namesBytes (names : HashSet String) : Bytes :=
  putI32 (Int32.ofNat names.elems.length) ++ names.elems.flatMap putString

def permissionsBytes (store : PermissionStore) : Bytes :=
  putI32 (Int32.ofNat store.groups.entries.length) ++
  (store.groups.entries.flatMap fun e => putString e.2.name ++ namesBytes e.2.nodes ++ namesBytes e.2.parents) ++
  putI32 (Int32.ofNat store.users.entries.length) ++
  (store.users.entries.flatMap fun e => putString e.2.uuid ++ namesBytes e.2.groups ++ namesBytes e.2.nodes)

def sendPermissionsSnapshot (peerId : PeerId) (s : ServerState) : ServerState :=
  s.send peerId channels.admin (AdminRequest.serialize ⟨.getPermissions⟩ ++ permissionsBytes s.permissions)

/-- The global settings are changed, and everybody is told the locks. -/
def toggle (change : GlobalState → GlobalState) (s : ServerState) : ServerState :=
  { s with globalState := change s.globalState }.broadcastLockState

/-- The permission store is changed; whether it can be saved does not matter. -/
def updatePermissions (peer : PeerId) (change : PermissionStore → PermissionStore) (s : ServerState) : ServerState :=
  { s with permissions := change s.permissions }.sendAdminText peer "Permission updated"

def headlessPeers (s : ServerState) : List PeerId := Server.headlessPeers s.authenticatedPeers

def disconnect (env : Outside) (reason : String) (s : ServerState) (peer : PeerId) : ServerState :=
  s.call (.disconnect peer reason) env

def disconnectHeadlessPeers (env : Outside) (s : ServerState) : ServerState :=
  s.headlessPeers.foldl (disconnect env "Headless client disallowed by server.") s

/-- Disconnects the session that is found for the UUID. -/
def disconnectUuid (env : Outside) (uuid reason : String) (s : ServerState) : ServerState :=
  match s.peerByUuid uuid with
  | some target => s.disconnect env reason target
  | none => s

/-- The ban is entered; only where it could be saved the session is ended. -/
def ban (env : Outside) (uuid reason : String) (ip : Option String) (s : ServerState) : ServerState :=
  let added := s.moderation.addBanWithDetails uuid reason ip env.timestamp env.saved
  let s := { s with moderation := added.1 }
  if added.2 then s.disconnectUuid env uuid reason else s

/-- The address of the session that is found for the UUID. -/
def ipOfUuid (uuid : String) (s : ServerState) : Option String :=
  (s.peerByUuid uuid).bind fun target => (s.transport.peers.lookup target).map fun peer => ipText peer.addr

def handleAdminRequest (env : Outside) (peer : PeerId) (mode : AdminRequestMode) (reader : NetReader)
    (s : ServerState) : ServerState :=
  match mode with
  | .globalToggleAvatars => s.toggle fun g => { g with avatarsLocked := !g.avatarsLocked }
  | .globalToggleProps => s.toggle fun g => { g with propsLocked := !g.propsLocked }
  | .globalToggleWorlds => s.toggle fun g => { g with worldsLocked := !g.worldsLocked }
  | .globalToggleServers => s.toggle fun g => { g with serversLocked := !g.serversLocked }
  | .globalToggleThirdPerson => s.toggle fun g => { g with thirdPersonDisabled := !g.thirdPersonDisabled }
  | .globalToggleAdditionalAvatarDataLock =>
    s.toggle fun g => { g with additionalAvatarDataLock := !g.additionalAvatarDataLock }
  | .globalGetLockState => s.sendLockStateToPeer peer
  | .globalGetHeadlessAudioState =>
    s.sendBoolAdminState peer .globalGetHeadlessAudioState s.globalState.headlessAudioOff
  | .setGlobalHeadlessAudio =>
    let value := lastOr getBool reader false
    { s with globalState.headlessAudioOff := value }.broadcastBoolAdminState .globalGetHeadlessAudioState value
  | .globalGetHeadlessDisallowState =>
    s.sendBoolAdminState peer .globalGetHeadlessDisallowState s.globalState.disallowHeadless
  | .setGlobalHeadlessDisallow =>
    let value := lastOr getBool reader false
    let s := { s with globalState.disallowHeadless := value, config.disallowHeadless := value }
    let s := s.broadcastBoolAdminState .globalGetHeadlessDisallowState value
    if value then s.disconnectHeadlessPeers env else s
  | .globalGetOpusPacketLossState =>
    s.sendU8AdminState peer .globalGetOpusPacketLossState s.globalState.opusPacketLossPercent
  | .setGlobalOpusPacketLoss =>
    let value := min (lastOr getU8 reader 10) 100
    { s with globalState.opusPacketLossPercent := value }.broadcastU8AdminState .globalGetOpusPacketLossState value
  | .globalGetOpusFrameDurationState =>
    s.sendU8AdminState peer .globalGetOpusFrameDurationState s.globalState.opusFrameDurationMs
  | .setGlobalOpusFrameDuration =>
    let value : UInt8 := if lastOr getU8 reader 20 = 40 then 40 else 20
    { s with globalState.opusFrameDurationMs := value }.broadcastU8AdminState .globalGetOpusFrameDurationState value
  | .setUserOpusBitrate =>
    let (target, reader) := readOrDefault getU16 reader peer
    s.send target channels.admin
      (encodeUserOpusBitrateOverridePayload (appliedBitrate (lastOr getI32 reader 0)))
  | .getPermissions => s.sendPermissionsSnapshot peer
  | .setUserGroup =>
    withRead getString reader s fun uuid reader => withRead getString reader s fun group _ =>
      s.updatePermissions peer (PermissionManager.addUserToGroup uuid group)
  | .setUserNode =>
    withRead getString reader s fun uuid reader => withRead getString reader s fun node _ =>
      s.updatePermissions peer (PermissionManager.addUserNode uuid node)
  | .setGroupNode =>
    withRead getString reader s fun group reader => withRead getString reader s fun node _ =>
      s.updatePermissions peer (PermissionManager.addGroupNode group node)
  | .createGroup =>
    withRead getString reader s fun group _ => s.updatePermissions peer (PermissionManager.getOrCreateGroup group)
  | .deleteGroup =>
    withRead getString reader s fun group _ => s.updatePermissions peer (PermissionManager.deleteGroup group)
  | .setGroupParent =>
    withRead getString reader s fun group reader => withRead getString reader s fun parent _ =>
      s.updatePermissions peer (PermissionManager.addGroupParent group parent)
  | .message =>
    let (target, reader) := readOrDefault getU16 reader peer
    s.sendAdminText target (lastOr getString reader "")
  | .messageAll =>
    s.broadcast channels.admin .reliableOrdered
      (AdminRequest.serialize ⟨.messageAll⟩ ++ putString (lastOr getString reader "")) none
  | .teleportAll =>
    s.broadcast channels.admin .reliableOrdered
      (AdminRequest.serialize ⟨mode⟩ ++ putU16 (lastOr getU16 reader peer)) (some peer)
  | .teleportPlayer =>
    s.send (lastOr getU16 reader peer) channels.admin (AdminRequest.serialize ⟨mode⟩ ++ putU16 peer)
  | .enableShoutMode | .disableShoutMode =>
    s.broadcast channels.admin .reliableOrdered
      (AdminRequest.serialize ⟨mode⟩ ++ putU16 (lastOr getU16 reader peer)) none
  | .ban =>
    withRead getString reader s fun uuid reader => s.ban env uuid (lastOr getString reader "Banned") none
  | .kick =>
    withRead getString reader s fun uuid reader => s.disconnectUuid env uuid (lastOr getString reader "Kicked")
  | .ipAndBan =>
    withRead getString reader s fun uuid reader =>
      s.ban env uuid (lastOr getString reader "Banned") (s.ipOfUuid uuid)
  | .unBan => withRead getString reader s fun uuid _ => { s with moderation := s.moderation.removeBan uuid }
  | .unBanIP => withRead getString reader s fun ip _ => { s with moderation := s.moderation.removeIpBan ip }
  | .setServerName => { s with config.serverName := lastOr getString reader "" }
  | .setServerMotd => { s with config.serverMotd := lastOr getString reader "" }
  | .setWhitelistMode =>
    { s with config.basisUserRestrictionMode := whitelistModeOf (lastOr getU8 reader 0) }
  | .addWhitelist =>
    withRead getString reader s fun uuid _ => { s with moderation := s.moderation.addWhitelist uuid }
  | .removeWhitelist =>
    withRead getString reader s fun uuid _ => { s with moderation := s.moderation.removeWhitelist uuid }
  | .addDefaultLibraryItem | .removeDefaultLibraryItem =>
    s.sendAdminText peer "Default library mutation is accepted by the Rust admin API, but filesystem persistence is handled by server startup library loading."
  | .userOpusBitrateOverride => s

def handleAdminMessage (env : Outside) (peer : PeerId) (payload : Bytes) (s : ServerState) : ServerState :=
  withRead AdminRequest.deserialize payload s fun request reader => s.handleAdminRequest env peer request.mode reader

end ServerState
end BasisRust.Core
