import BasisRust.Core.System
import BasisRust.Permissions.Unchanged

/-!
# Administration without authority

`handle_admin_message` asks nobody for a permission: what a request does depends on its mode, its arguments
and the state, and not on who sends it.  So a player who is granted nothing leaves the server as it was exactly
when the request asks for what is so already.
-/

namespace BasisRust.Core

open Lib Protocol Transport
open Admin Permissions
open Permissions.PermissionManager (Present Unused)

namespace ServerState

/-- What administration works on is as before. -/
structure Unadministered (s s' : ServerState) : Prop where
  permissions : s.permissions.Same s'.permissions
  moderation : s'.moderation = s.moderation
  globalState : s'.globalState = s.globalState
  config : s'.config = s.config

/-- The same peers are connected. -/
def SamePeers (s s' : ServerState) : Prop := ∀ peer, peer ∈ s'.transport.peers ↔ peer ∈ s.transport.peers

/-! ### The conditions -/

/-- The request asks for what is so already. -/
def KeepsStores (env : Outside) (mode : AdminRequestMode) (reader : NetReader) (s : ServerState) : Prop :=
  match mode with
  | .globalToggleAvatars | .globalToggleProps | .globalToggleWorlds | .globalToggleServers
  | .globalToggleThirdPerson | .globalToggleAdditionalAvatarDataLock => False
  | .setGlobalHeadlessAudio => lastOr getBool reader false = s.globalState.headlessAudioOff
  | .setGlobalHeadlessDisallow =>
    lastOr getBool reader false = s.globalState.disallowHeadless ∧
      lastOr getBool reader false = s.config.disallowHeadless
  | .setGlobalOpusPacketLoss => min (lastOr getU8 reader 10) 100 = s.globalState.opusPacketLossPercent
  | .setGlobalOpusFrameDuration =>
    (if lastOr getU8 reader 20 = 40 then 40 else 20) = s.globalState.opusFrameDurationMs
  | .setUserGroup =>
    withRead getString reader True fun uuid reader => withRead getString reader True fun group _ =>
      ∃ user, s.permissions.users.lookup uuid = some user ∧ trim group ∈ user.groups
  | .setUserNode =>
    withRead getString reader True fun uuid reader => withRead getString reader True fun node _ =>
      ∃ user, s.permissions.users.lookup uuid = some user ∧ trim node ∈ user.nodes
  | .setGroupNode =>
    withRead getString reader True fun group reader => withRead getString reader True fun node _ =>
      Present group s.permissions ∧
        ∀ entry, s.permissions.groups.lookup (trim group) = some entry → trim node ∈ entry.nodes
  | .createGroup => withRead getString reader True fun group _ => Present group s.permissions
  | .deleteGroup =>
    withRead getString reader True fun group _ =>
      trim group = "default" ∨ trim group = "" ∨ Unused (trim group) s.permissions
  | .setGroupParent =>
    withRead getString reader True fun group reader => withRead getString reader True fun parent _ =>
      Present group s.permissions ∧ Present parent s.permissions ∧
        ∀ entry, s.permissions.groups.lookup (trim group) = some entry → trim parent ∈ entry.parents
  | .ban =>
    withRead getString reader True fun uuid reader =>
      s.moderation.HasBan uuid (lastOr getString reader "Banned") none env.timestamp
  | .ipAndBan =>
    withRead getString reader True fun uuid reader =>
      s.moderation.HasBan uuid (lastOr getString reader "Banned") (s.ipOfUuid uuid) env.timestamp
  | .unBan =>
    withRead getString reader True fun uuid _ => ∀ player ∈ s.moderation.bannedPlayers, player.uuid ≠ uuid
  | .unBanIP =>
    withRead getString reader True fun ip _ =>
      (∀ player ∈ s.moderation.bannedPlayers, player.hasBannedIp → player.bannedIp ≠ ip) ∧
        ip ∉ s.moderation.bannedIps
  | .setServerName => lastOr getString reader "" = s.config.serverName
  | .setServerMotd => lastOr getString reader "" = s.config.serverMotd
  | .setWhitelistMode => whitelistModeOf (lastOr getU8 reader 0) = s.config.basisUserRestrictionMode
  | .addWhitelist =>
    withRead getString reader True fun uuid _ => isBlank uuid ∨ uuid ∈ s.moderation.whitelist
  | .removeWhitelist => withRead getString reader True fun uuid _ => uuid ∉ s.moderation.whitelist
  | _ => True

/-- The session that is found for the UUID is not live. -/
def NotLive (uuid : String) (s : ServerState) : Prop :=
  ∀ target, s.peerByUuid uuid = some target → target ∉ s.transport.peers

/-- The request finds nobody to disconnect, or does not get that far. -/
def KeepsPeers (env : Outside) (mode : AdminRequestMode) (reader : NetReader) (s : ServerState) : Prop :=
  match mode with
  | .setGlobalHeadlessDisallow =>
    lastOr getBool reader false = true → ∀ target ∈ s.headlessPeers, target ∉ s.transport.peers
  | .ban | .ipAndBan =>
    withRead getString reader True fun uuid _ => isBlank uuid ∨ env.saved → s.NotLive uuid
  | .kick => withRead getString reader True fun uuid _ => s.NotLive uuid
  | _ => True

variable {s s' s'' : ServerState}

/-! ### Stores -/

lemma unadministered_iff {permissions : PermissionStore} {moderation : ModerationLists} {globalState : GlobalState}
    {config : ServerConfig} : s.Unadministered { s with permissions, moderation, globalState, config } ↔
      s.permissions.Same permissions ∧ moderation = s.moderation ∧ globalState = s.globalState ∧
        config = s.config :=
  ⟨fun h => ⟨h.permissions, h.moderation, h.globalState, h.config⟩,
    fun h => ⟨h.1, h.2.1, h.2.2.1, h.2.2.2⟩⟩

lemma Unadministered.refl (s : ServerState) : s.Unadministered s := ⟨.refl _, rfl, rfl, rfl⟩

lemma unadministered_of_posted (h : Posted s' s'') : s.Unadministered s'' ↔ s.Unadministered s' := by
  obtain ⟨messages, rfl⟩ := h
  exact ⟨fun h => ⟨h.permissions, h.moderation, h.globalState, h.config⟩,
    fun h => ⟨h.permissions, h.moderation, h.globalState, h.config⟩⟩

lemma unadministered_permissions_iff {permissions : PermissionStore} :
    s.Unadministered { s with permissions } ↔ s.permissions.Same permissions := by
  rw [unadministered_iff]
  exact and_iff_left ⟨rfl, rfl, rfl⟩

lemma unadministered_moderation_iff {moderation : ModerationLists} :
    s.Unadministered { s with moderation } ↔ moderation = s.moderation := by
  rw [unadministered_iff]
  exact ⟨fun h => h.2.1, fun h => ⟨.refl _, h, rfl, rfl⟩⟩

lemma unadministered_globalState_iff {globalState : GlobalState} :
    s.Unadministered { s with globalState } ↔ globalState = s.globalState := by
  rw [unadministered_iff]
  exact ⟨fun h => h.2.2.1, fun h => ⟨.refl _, rfl, h, rfl⟩⟩

lemma unadministered_config_iff {config : ServerConfig} :
    s.Unadministered { s with config } ↔ config = s.config := by
  rw [unadministered_iff]
  exact ⟨fun h => h.2.2.2, fun h => ⟨.refl _, rfl, rfl, h⟩⟩

lemma posted_broadcastBoolAdminState (mode : AdminRequestMode) (value : Bool) (s : ServerState) :
    Posted s (s.broadcastBoolAdminState mode value) := posted_broadcast _ _ _ _ s

lemma posted_broadcastU8AdminState (mode : AdminRequestMode) (value : UInt8) (s : ServerState) :
    Posted s (s.broadcastU8AdminState mode value) := posted_broadcast _ _ _ _ s

lemma unadministered_toggle_iff {change : GlobalState → GlobalState} :
    s.Unadministered (s.toggle change) ↔ change s.globalState = s.globalState :=
  (unadministered_of_posted (posted_broadcast _ _ _ _ _)).trans unadministered_globalState_iff

lemma unadministered_updatePermissions_iff {peer : PeerId} {change : PermissionStore → PermissionStore} :
    s.Unadministered (s.updatePermissions peer change) ↔ s.permissions.Same (change s.permissions) :=
  (unadministered_of_posted (posted_sendAdminText _ _ _)).trans unadministered_permissions_iff

/-- Ending connections is nothing to the stores. -/
lemma unadministered_foldl_disconnect_iff {env : Outside} {reason : String} (targets : List PeerId) :
    s.Unadministered (targets.foldl (disconnect env reason) s') ↔ s.Unadministered s' := by
  induction targets generalizing s' with
  | nil => exact Iff.rfl
  | cons target targets ih =>
    rw [List.foldl_cons, ih]
    exact ⟨fun h => ⟨h.permissions, h.moderation, h.globalState, h.config⟩,
      fun h => ⟨h.permissions, h.moderation, h.globalState, h.config⟩⟩

lemma disconnectUuid_eq_foldl (env : Outside) (uuid reason : String) (s : ServerState) :
    s.disconnectUuid env uuid reason = (s.peerByUuid uuid).toList.foldl (disconnect env reason) s := by
  unfold disconnectUuid
  cases s.peerByUuid uuid with
  | none => rfl
  | some target => rfl

lemma unadministered_ban_iff {env : Outside} {uuid reason : String} {ip : Option String} :
    s.Unadministered (s.ban env uuid reason ip) ↔ s.moderation.HasBan uuid reason ip env.timestamp := by
  have hadded : (s.moderation.addBanWithDetails uuid reason ip env.timestamp env.saved).1 = s.moderation ↔
      s.moderation.HasBan uuid reason ip env.timestamp := ModerationLists.addBanWithDetails_eq_self_iff
  rw [← hadded, ← unadministered_moderation_iff]
  unfold ban
  dsimp only
  split
  next =>
    rw [disconnectUuid_eq_foldl]
    exact unadministered_foldl_disconnect_iff _
  next => exact Iff.rfl

section Requests

variable {env : Outside} {peer : PeerId} {mode : AdminRequestMode} {reader : NetReader}

/-- Which requests leave the stores as they are. -/
theorem unadministered_handleAdminRequest_iff :
    s.Unadministered (s.handleAdminRequest env peer mode reader) ↔ s.KeepsStores env mode reader := by
  have hself : s.Unadministered s := .refl s
  cases mode
  case globalToggleAvatars | globalToggleProps | globalToggleWorlds | globalToggleServers
    | globalToggleThirdPerson | globalToggleAdditionalAvatarDataLock =>
    rw [handleAdminRequest, unadministered_toggle_iff]
    refine iff_of_false (fun h => ?_) id
    generalize s.globalState = globals at h
    cases globals
    simp at h
  case setGlobalHeadlessAudio =>
    rw [handleAdminRequest, unadministered_of_posted (posted_broadcastBoolAdminState _ _ _),
      unadministered_globalState_iff, KeepsStores]
    exact ⟨congrArg GlobalState.headlessAudioOff, fun h => by rw [h]⟩
  case setGlobalOpusPacketLoss =>
    rw [handleAdminRequest, unadministered_of_posted (posted_broadcastU8AdminState _ _ _),
      unadministered_globalState_iff, KeepsStores]
    exact ⟨congrArg GlobalState.opusPacketLossPercent, fun h => by rw [h]⟩
  case setGlobalOpusFrameDuration =>
    rw [handleAdminRequest, unadministered_of_posted (posted_broadcastU8AdminState _ _ _),
      unadministered_globalState_iff, KeepsStores]
    exact ⟨congrArg GlobalState.opusFrameDurationMs, fun h => by rw [h]⟩
  case setGlobalHeadlessDisallow =>
    have hset (value : Bool) : s.Unadministered
        ({ s with globalState.disallowHeadless := value, config.disallowHeadless := value }.broadcastBoolAdminState
          .globalGetHeadlessDisallowState value) ↔
        value = s.globalState.disallowHeadless ∧ value = s.config.disallowHeadless := by
      rw [unadministered_of_posted (posted_broadcastBoolAdminState _ _ _)]
      refine ⟨fun h => ⟨congrArg GlobalState.disallowHeadless h.globalState,
        congrArg ServerConfig.disallowHeadless h.config⟩, fun h => ⟨.refl _, rfl, ?_, ?_⟩⟩
      · exact h.1 ▸ rfl
      · exact h.2 ▸ rfl
    rw [handleAdminRequest, KeepsStores, ← hset]
    dsimp only
    split
    next => exact unadministered_foldl_disconnect_iff _
    next => exact Iff.rfl
  case setUserGroup =>
    exact withRead_iff hself fun uuid reader => withRead_iff hself fun group _ =>
      unadministered_updatePermissions_iff.trans PermissionManager.same_addUserToGroup_iff
  case setUserNode =>
    exact withRead_iff hself fun uuid reader => withRead_iff hself fun node _ =>
      unadministered_updatePermissions_iff.trans PermissionManager.same_addUserNode_iff
  case setGroupNode =>
    exact withRead_iff hself fun group reader => withRead_iff hself fun node _ =>
      unadministered_updatePermissions_iff.trans PermissionManager.same_addGroupNode_iff
  case createGroup =>
    exact withRead_iff hself fun group _ =>
      unadministered_updatePermissions_iff.trans PermissionManager.same_getOrCreateGroup_iff
  case deleteGroup =>
    exact withRead_iff hself fun group _ =>
      unadministered_updatePermissions_iff.trans PermissionManager.same_deleteGroup_iff
  case setGroupParent =>
    exact withRead_iff hself fun group reader => withRead_iff hself fun parent _ =>
      unadministered_updatePermissions_iff.trans PermissionManager.same_addGroupParent_iff
  case message | addDefaultLibraryItem | removeDefaultLibraryItem =>
    exact iff_true_intro ((unadministered_of_posted (posted_sendAdminText _ _ s)).mpr hself)
  case ban | ipAndBan => exact withRead_iff hself fun uuid reader => unadministered_ban_iff
  case kick =>
    refine iff_true_intro (withRead_of hself fun uuid reader => ?_)
    rw [disconnectUuid_eq_foldl]
    exact (unadministered_foldl_disconnect_iff _).mpr hself
  case unBan =>
    exact withRead_iff hself fun uuid _ =>
      unadministered_moderation_iff.trans ModerationLists.removeBan_eq_self_iff
  case unBanIP =>
    exact withRead_iff hself fun ip _ =>
      unadministered_moderation_iff.trans ModerationLists.removeIpBan_eq_self_iff
  case addWhitelist =>
    exact withRead_iff hself fun uuid _ =>
      unadministered_moderation_iff.trans ModerationLists.addWhitelist_eq_self_iff
  case removeWhitelist =>
    exact withRead_iff hself fun uuid _ =>
      unadministered_moderation_iff.trans ModerationLists.removeWhitelist_eq_self_iff
  case setServerName =>
    exact unadministered_config_iff.trans ⟨congrArg ServerConfig.serverName, fun h => by rw [h]⟩
  case setServerMotd =>
    exact unadministered_config_iff.trans ⟨congrArg ServerConfig.serverMotd, fun h => by rw [h]⟩
  case setWhitelistMode =>
    exact unadministered_config_iff.trans ⟨congrArg ServerConfig.basisUserRestrictionMode, fun h => by rw [h]⟩
  case userOpusBitrateOverride => exact iff_true_intro hself
  all_goals exact iff_true_intro ((unadministered_of_posted ⟨_, rfl⟩).mpr hself)

end Requests

/-! ### Connections -/

lemma SamePeers.refl (s : ServerState) : s.SamePeers s := fun _ => Iff.rfl

lemma samePeers_of_posted (h : Posted s s') : s.SamePeers s' := by
  obtain ⟨messages, rfl⟩ := h
  exact fun _ => mem_peers_post

lemma samePeers_updatePermissions {peer : PeerId} {change : PermissionStore → PermissionStore} :
    s.SamePeers (s.updatePermissions peer change) := by
  obtain ⟨messages, h⟩ := posted_sendAdminText peer "Permission updated" { s with permissions := change s.permissions }
  rw [updatePermissions, h]
  exact fun _ => mem_peers_post

lemma mem_peers_foldl_disconnect {env : Outside} {reason : String} {targets : List PeerId} {peer : PeerId} :
    peer ∈ (targets.foldl (disconnect env reason) s).transport.peers ↔ peer ∉ targets ∧ peer ∈ s.transport.peers := by
  induction targets generalizing s with
  | nil => simp
  | cons target targets ih =>
    rw [List.foldl_cons, ih, disconnect, transport_call_disconnect, mem_peers_dropLive, List.mem_cons, not_or]
    exact ⟨fun h => ⟨⟨h.2.1, h.1⟩, h.2.2⟩, fun h => ⟨h.1.2, h.1.1, h.2⟩⟩

lemma samePeers_foldl_disconnect_iff {env : Outside} {reason : String} {targets : List PeerId} (h : s.SamePeers s') :
    s.SamePeers (targets.foldl (disconnect env reason) s') ↔ ∀ target ∈ targets, target ∉ s.transport.peers := by
  refine (forall_congr' fun peer => iff_congr (mem_peers_foldl_disconnect.trans (and_congr_right' (h peer))) Iff.rfl).trans
    ⟨fun hsame target htarget hpeer => ?_, fun hnone peer => ?_⟩
  · exact ((hsame target).mpr hpeer).1 htarget
  · exact and_iff_right_of_imp fun hpeer htarget => hnone peer htarget hpeer

lemma samePeers_disconnectUuid_iff {env : Outside} {uuid reason : String} (h : s.SamePeers s')
    (huuid : s'.peerByUuid uuid = s.peerByUuid uuid) :
    s.SamePeers (s'.disconnectUuid env uuid reason) ↔ s.NotLive uuid := by
  rw [disconnectUuid_eq_foldl, samePeers_foldl_disconnect_iff h, huuid]
  exact forall_congr' fun target => imp_congr_left Option.mem_toList

lemma samePeers_ban_iff {env : Outside} {uuid reason : String} {ip : Option String} :
    s.SamePeers (s.ban env uuid reason ip) ↔ (isBlank uuid ∨ env.saved → s.NotLive uuid) := by
  have hadded : (s.moderation.addBanWithDetails uuid reason ip env.timestamp env.saved).2 = true ↔
      isBlank uuid ∨ env.saved := by
    unfold ModerationLists.addBanWithDetails
    split
    next hblank => exact iff_of_true rfl (.inl hblank)
    next hblank => exact (or_iff_right hblank).symm
  unfold ban
  dsimp only
  split
  next h =>
    rw [imp_iff_right (hadded.mp h)]
    exact samePeers_disconnectUuid_iff (fun _ => Iff.rfl) rfl
  next h => exact iff_of_true (fun _ => Iff.rfl) fun hends => absurd (hadded.mpr hends) h

/-- Which requests leave the connections as they are. -/
theorem samePeers_handleAdminRequest_iff {env : Outside} {peer : PeerId} {mode : AdminRequestMode}
    {reader : NetReader} :
    s.SamePeers (s.handleAdminRequest env peer mode reader) ↔ s.KeepsPeers env mode reader := by
  have hself : s.SamePeers s := .refl s
  cases mode
  case setGlobalHeadlessDisallow =>
    rw [handleAdminRequest, KeepsPeers]
    dsimp only
    split
    next h =>
      rw [imp_iff_right h]
      exact samePeers_foldl_disconnect_iff fun _ => mem_peers_post
    next h => exact iff_of_true (fun _ => mem_peers_post) fun h' => absurd h' h
  case ban | ipAndBan => exact withRead_iff hself fun uuid reader => samePeers_ban_iff
  case kick => exact withRead_iff hself fun uuid reader => samePeers_disconnectUuid_iff hself rfl
  case setUserGroup | setUserNode | setGroupNode | setGroupParent =>
    exact iff_true_intro (withRead_of hself fun _ _ => withRead_of hself fun _ _ => samePeers_updatePermissions)
  case createGroup | deleteGroup =>
    exact iff_true_intro (withRead_of hself fun _ _ => samePeers_updatePermissions)
  case message | addDefaultLibraryItem | removeDefaultLibraryItem =>
    exact iff_true_intro (samePeers_of_posted (posted_sendAdminText _ _ s))
  case unBan | unBanIP | addWhitelist | removeWhitelist =>
    exact iff_true_intro (withRead_of hself fun _ _ _ => Iff.rfl)
  case setServerName | setServerMotd | setWhitelistMode | userOpusBitrateOverride => exact iff_true_intro hself
  all_goals exact iff_true_intro fun _ => mem_peers_post

/-- **What it takes without authority.**  Whoever sends it, the message leaves the stores and the connections as
they are if and only if it cannot be read or asks for what is so already. -/
theorem unadministered_handleAdminMessage_iff (env : Outside) (peer : PeerId) (payload : Bytes) (s : ServerState) :
    (s.Unadministered (s.handleAdminMessage env peer payload) ∧ s.SamePeers (s.handleAdminMessage env peer payload)) ↔
      withRead AdminRequest.deserialize payload True fun request reader =>
        s.KeepsStores env request.mode reader ∧ s.KeepsPeers env request.mode reader :=
  @withRead_iff _ _ (fun s' => s.Unadministered s' ∧ s.SamePeers s') _ _ _ _ _ ⟨.refl s, .refl s⟩ fun _ _ =>
    and_congr unadministered_handleAdminRequest_iff samePeers_handleAdminRequest_iff

/-! ### A player without rights -/

/-- A server whose permission file grants nothing to the group `default`. -/
def strictStart : ServerState :=
  { ServerState.start openConfig with
    permissions := PermissionManager.ensureDefaults
      { groups := AList.insert "default" { name := "default" } ∅ } }

/-- One client has come in. -/
def strictState : ServerState := [handles (.connectionRequest (requestOf 1 "a"))].foldl next strictStart

lemma has_of_effectiveDecisions_eq_nil {store : PermissionStore} {uuid : String}
    (h : (PermissionManager.effectiveDecisions store uuid).entries = []) (node : String) :
    PermissionManager.has store uuid node = false := by
  have hempty : PermissionManager.effectiveDecisions store uuid = ∅ := AList.ext h
  rw [PermissionManager.has, hempty]
  by_cases hnode : trim node = ""
  · simp [checkNode, hnode]
  · rw [checkNode_eq _ hnode, List.findSome?_eq_none_iff.mpr fun name _ => AList.lookup_empty name]
    rfl

/-- The player of `strictState` is granted nothing, and locks the avatars of everybody. -/
theorem unadministered_fails_without_rights : ∃ ts s entry, Run Steps strictStart ts s ∧
    s.authenticatedPeers.lookup 0 = some entry ∧
    (∀ node, PermissionManager.has s.permissions entry.metadata.playerUuid node = false) ∧
    ¬ s.Unadministered (s.handleAdminMessage plainOutside 0 (AdminRequest.serialize ⟨.globalToggleAvatars⟩)) := by
  have hname : (strictState.authenticatedPeers.lookup 0).map (·.metadata.playerUuid) = some "a" := by decide +kernel
  obtain ⟨entry, hlookup, huuid⟩ := Option.map_eq_some_iff.mp hname
  have henabled : ∀ tr ∈ trace next strictStart [handles (.connectionRequest (requestOf 1 "a"))],
      tr.src.Enabled tr.label := by decide +kernel
  refine ⟨_, strictState, entry, run_of_enabled _ henabled, hlookup, fun node => ?_, fun h => ?_⟩
  · rw [huuid]
    exact has_of_effectiveDecisions_eq_nil (by decide +kernel) node
  · have hlocked : (strictState.handleAdminMessage plainOutside 0
        (AdminRequest.serialize ⟨.globalToggleAvatars⟩)).globalState.avatarsLocked ≠
        strictState.globalState.avatarsLocked := by decide +kernel
    exact hlocked (congrArg GlobalState.avatarsLocked h.globalState)

end ServerState
end BasisRust.Core
