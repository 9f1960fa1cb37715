import BasisRust.Replica.Follow

/-!
# Every player knows the settings

The global settings are told on entering, on request and whenever they are changed, each kind of them in an admin
message of its own; the other admin messages say nothing about them.
-/

namespace BasisRust.Replica

open Lib Protocol Transport
open BasisRust.Core P2p Permissions
open Admin (GlobalState)

/-! ### The player's reading -/

/-- What is behind the mode of an admin message. -/
def readSettings (mode : AdminRequestMode) (v : GlobalState) : ReadResult GlobalState :=
  match mode with
  | .globalGetLockState => do
    let avatarsLocked ← getBool
    let propsLocked ← getBool
    let worldsLocked ← getBool
    let serversLocked ← getBool
    let thirdPersonDisabled ← getBool
    let additionalAvatarDataLock ← getBool
    return { v with
      avatarsLocked, propsLocked, worldsLocked, serversLocked, thirdPersonDisabled, additionalAvatarDataLock }
  | .globalGetHeadlessAudioState => do
    let headlessAudioOff ← getBool
    return { v with headlessAudioOff }
  | .globalGetHeadlessDisallowState => do
    let disallowHeadless ← getBool
    return { v with disallowHeadless }
  | .globalGetOpusPacketLossState => do
    let opusPacketLossPercent ← getU8
    return { v with opusPacketLossPercent }
  | .globalGetOpusFrameDurationState => do
    let opusFrameDurationMs ← getU8
    return { v with opusFrameDurationMs }
  | _ => return v

def readAdminSettings (v : GlobalState) : ReadResult GlobalState := do
  let request ← AdminRequest.deserialize
  readSettings request.mode v

def learnSettings (payload : Bytes) (v : GlobalState) : GlobalState := (parse (readAdminSettings v) payload).getD v

/-- Whatever a player takes for the settings before it has been told. -/
def settingsReading : Reading UInt8 Bytes GlobalState := .ofTable {} [(channels.admin, learnSettings)]

def settingsCopy : Copy GlobalState GlobalState where
  reading := settingsReading
  stores := [.administration]
  truth s := s.globalState
  Agrees _ truth v := v = truth
  truth_frame h hframe := hframe.globalState (List.ne_of_not_mem_cons h)
  truth_moved _ _ _ _ := rfl
  p2pBroker := by decide
  authIdentity := by decide

variable {env : Outside} {p q : PeerId} {s s' s'' : ServerState}

lemma settingsCopy_holds_iff : settingsCopy.Holds p s ↔ settingsCopy.view p s = s.globalState := Iff.rfl

lemma learn_admin (payload : Bytes) (v : GlobalState) :
    settingsReading.learn channels.admin payload v = learnSettings payload v := rfl

lemma learnSettings_of_decodes {mode : AdminRequestMode} {v v' : GlobalState} {bytes : Bytes}
    (h : Decodes (readSettings mode v) bytes v') : learnSettings (AdminRequest.serialize ⟨mode⟩ ++ bytes) v = v' := by
  have hmode : Decodes AdminRequest.deserialize (AdminRequest.serialize ⟨mode⟩) ⟨mode⟩ := by
    have hread := (decodes_getU8 mode.toU8).map fun value => (⟨AdminRequestMode.ofU8 value⟩ : AdminRequest)
    rwa [AdminRequestMode.ofU8_toU8] at hread
  have hparse : parse (readAdminSettings v) (AdminRequest.serialize ⟨mode⟩ ++ bytes) = some v' :=
    parse_of_decodes (hmode.bind h)
  unfold learnSettings
  rw [hparse]
  rfl

lemma learn_lockState (g v : GlobalState) : learnSettings (encodeLockStatePayload g) v =
    { v with
      avatarsLocked := g.avatarsLocked
      propsLocked := g.propsLocked
      worldsLocked := g.worldsLocked
      serversLocked := g.serversLocked
      thirdPersonDisabled := g.thirdPersonDisabled
      additionalAvatarDataLock := g.additionalAvatarDataLock } := by
  unfold encodeLockStatePayload
  simp only [List.append_assoc]
  refine @learnSettings_of_decodes .globalGetLockState _ _ _ ?_
  unfold readSettings
  iterate 5 refine (decodes_getBool _).bind ?_
  exact (decodes_getBool _).map _

lemma learn_headlessAudio (value : Bool) (v : GlobalState) :
    learnSettings (encodeBoolAdminStatePayload .globalGetHeadlessAudioState value) v =
      { v with headlessAudioOff := value } := learnSettings_of_decodes ((decodes_getBool value).map _)

lemma learn_headlessDisallow (value : Bool) (v : GlobalState) :
    learnSettings (encodeBoolAdminStatePayload .globalGetHeadlessDisallowState value) v =
      { v with disallowHeadless := value } := learnSettings_of_decodes ((decodes_getBool value).map _)

lemma learn_packetLoss (value : UInt8) (v : GlobalState) :
    learnSettings (encodeU8AdminStatePayload .globalGetOpusPacketLossState value) v =
      { v with opusPacketLossPercent := value } := learnSettings_of_decodes ((decodes_getU8 value).map _)

lemma learn_frameDuration (value : UInt8) (v : GlobalState) :
    learnSettings (encodeU8AdminStatePayload .globalGetOpusFrameDurationState value) v =
      { v with opusFrameDurationMs := value } := learnSettings_of_decodes ((decodes_getU8 value).map _)

/-! ### Messages about something else -/

/-- The message says nothing about the settings. -/
def Quiet (payload : Bytes) : Prop := ∀ v, learnSettings payload v = v

/-- The modes of messages about the settings. -/
def settingModes : List AdminRequestMode :=
  [.globalGetLockState, .globalGetHeadlessAudioState, .globalGetHeadlessDisallowState, .globalGetOpusPacketLossState,
    .globalGetOpusFrameDurationState]

lemma quiet_of_mode {mode : AdminRequestMode} (h : mode ∉ settingModes) (bytes : Bytes) :
    Quiet (AdminRequest.serialize ⟨mode⟩ ++ bytes) := by
  intro v
  have hread : readSettings mode v = pure v := by
    cases mode <;> first | rfl | exact absurd (by decide) h
  have hparse : parse (readAdminSettings v) (AdminRequest.serialize ⟨mode⟩ ++ bytes) = some v := by
    change parse (readAdminSettings v) (mode.toU8 :: bytes) = some v
    change parse (fun reader => readSettings (AdminRequestMode.ofU8 mode.toU8) v reader) bytes = some v
    rw [AdminRequestMode.ofU8_toU8, hread]
    rfl
  unfold learnSettings
  rw [hparse]
  rfl

/-- The settings are the same, and nothing has been said about them. -/
structure Unsaid (s s' : ServerState) : Prop where
  globalState : s'.globalState = s.globalState
  sent : ∃ messages, s'.sent = s.sent ++ messages ∧
    ∀ p, ∀ r ∈ messages.filterMap (heardBy p), r.1 = channels.admin ∧ Quiet r.2

lemma Unsaid.refl (s : ServerState) : Unsaid s s :=
  ⟨rfl, [], (List.append_nil _).symm, fun _ _ h => absurd h List.not_mem_nil⟩

lemma Unsaid.holds (h : Unsaid s s') (hholds : settingsCopy.Holds p s) : settingsCopy.Holds p s' := by
  obtain ⟨hglobal, messages, hsent, hquiet⟩ := h
  have htold : told p s' = told p s ++ messages.filterMap (heardBy p) := by
    unfold told
    rw [hsent, List.filterMap_append, afterLast_append]
    intro r hr hchannel
    rw [(hquiet p r hr).1] at hchannel
    exact absurd hchannel (by decide)
  have hreplay (log : List (UInt8 × Bytes)) (hlog : ∀ r ∈ log, r.1 = channels.admin ∧ Quiet r.2) (v : GlobalState) :
      settingsReading.replay log v = v := by
    induction log generalizing v with
    | nil => rfl
    | cons r log ih =>
      obtain ⟨channel, payload⟩ := r
      rw [List.forall_mem_cons] at hlog
      obtain ⟨⟨rfl, hpayload⟩, hlog⟩ := hlog
      rw [Reading.replay_cons, learn_admin, hpayload v, ih hlog]
  rw [settingsCopy_holds_iff] at hholds ⊢
  unfold Copy.view at hholds ⊢
  rw [htold, Reading.replay_append, hholds, hglobal]
  exact hreplay _ (hquiet p) _

lemma Unsaid.broadcast {payload : Bytes} (h : Quiet payload) (delivery : DeliveryMethod) (except : Option PeerId)
    (s : ServerState) : Unsaid s (s.broadcast channels.admin delivery payload except) := by
  refine ⟨rfl, _, rfl, fun p r hr => ?_⟩
  obtain ⟨message, hmessage, heard⟩ := List.mem_filterMap.mp hr
  obtain ⟨target, -, rfl⟩ := List.mem_map.mp (List.mem_filter.mp hmessage).1
  obtain ⟨-, heq⟩ := Option.ite_none_right_eq_some.mp heard
  cases heq
  exact ⟨rfl, h⟩

lemma Unsaid.send {payload : Bytes} (h : Quiet payload) (target : PeerId) (s : ServerState) :
    Unsaid s (s.send target channels.admin payload) := by
  refine ⟨rfl, _, rfl, fun p r hr => ?_⟩
  obtain ⟨message, hmessage, heard⟩ := List.mem_filterMap.mp hr
  obtain rfl := List.mem_singleton.mp (List.mem_filter.mp hmessage).1
  obtain ⟨-, heq⟩ := Option.ite_none_right_eq_some.mp heard
  cases heq
  exact ⟨rfl, h⟩

lemma unsaid_sendAdminText (target : PeerId) (message : String) (s : ServerState) :
    Unsaid s (s.sendAdminText target message) := by
  unfold ServerState.sendAdminText
  split
  next => exact .refl s
  next => exact .send (quiet_of_mode (by decide) _) target s

lemma Unsaid.withRead {α : Type} {read : ReadResult α} {reader : NetReader} {next : α → NetReader → ServerState}
    (h : ∀ a rest, Unsaid s (next a rest)) : Unsaid s (Protocol.withRead read reader s next) :=
  withRead_of (P := Unsaid s) (.refl s) h

lemma unsaid_updatePermissions (peer : PeerId) (change : PermissionStore → PermissionStore) (s : ServerState) :
    Unsaid s (s.updatePermissions peer change) := by
  have htext := unsaid_sendAdminText peer "Permission updated" { s with permissions := change s.permissions }
  exact ⟨htext.globalState, htext.sent⟩

lemma unsaid_foldl_disconnect (env : Outside) (reason : String) (targets : List PeerId) (s : ServerState) :
    Unsaid s (targets.foldl (ServerState.disconnect env reason) s) := by
  induction targets generalizing s with
  | nil => exact .refl s
  | cons target targets ih =>
    have hrest := ih (s.disconnect env reason target)
    exact ⟨hrest.globalState, hrest.sent⟩

lemma unsaid_disconnectUuid (env : Outside) (uuid reason : String) (s : ServerState) :
    Unsaid s (s.disconnectUuid env uuid reason) := by
  unfold ServerState.disconnectUuid
  split
  next => exact ⟨rfl, (Unsaid.refl s).sent⟩
  next => exact .refl s

lemma unsaid_ban (env : Outside) (uuid reason : String) (ip : Option String) (s : ServerState) :
    Unsaid s (s.ban env uuid reason ip) := by
  unfold ServerState.ban
  dsimp only
  split
  next =>
    have hkick := unsaid_disconnectUuid env uuid reason
      { s with moderation := (s.moderation.addBanWithDetails uuid reason ip env.timestamp env.saved).1 }
    exact ⟨hkick.globalState, hkick.sent⟩
  next => exact ⟨rfl, (Unsaid.refl s).sent⟩

/-! ### Requests about the settings -/

/-- The requests that ask for the settings or change them. -/
def settingRequests : List AdminRequestMode :=
  settingModes ++ [.globalToggleAvatars, .globalToggleProps, .globalToggleWorlds, .globalToggleServers,
    .globalToggleThirdPerson, .globalToggleAdditionalAvatarDataLock, .setGlobalHeadlessAudio,
    .setGlobalHeadlessDisallow, .setGlobalOpusPacketLoss, .setGlobalOpusFrameDuration]

lemma unsaid_handleAdminRequest (env : Outside) (peer : PeerId) {mode : AdminRequestMode} (h : mode ∉ settingRequests)
    (reader : NetReader) (s : ServerState) : Unsaid s (s.handleAdminRequest env peer mode reader) := by
  cases mode
  case setUserGroup | setUserNode | setGroupNode | setGroupParent =>
    exact .withRead fun _ _ => .withRead fun _ _ => unsaid_updatePermissions peer _ s
  case createGroup | deleteGroup => exact .withRead fun _ _ => unsaid_updatePermissions peer _ s
  case message | addDefaultLibraryItem | removeDefaultLibraryItem => exact unsaid_sendAdminText _ _ s
  case ban | ipAndBan => exact .withRead fun _ _ => unsaid_ban env _ _ _ s
  case kick => exact .withRead fun _ _ => unsaid_disconnectUuid env _ _ s
  case unBan | unBanIP | addWhitelist | removeWhitelist =>
    exact .withRead fun _ _ => ⟨rfl, (Unsaid.refl s).sent⟩
  case setServerName | setServerMotd | setWhitelistMode => exact ⟨rfl, (Unsaid.refl s).sent⟩
  case userOpusBitrateOverride => exact .refl s
  case messageAll | teleportAll | enableShoutMode | disableShoutMode =>
    exact .broadcast (quiet_of_mode (by decide) _) _ _ s
  case setUserOpusBitrate | getPermissions | teleportPlayer => exact .send (quiet_of_mode (by decide) _) _ s
  all_goals exact absurd (by decide) h

/-- A message about the settings, to everybody or to the player alone. -/
lemma settings_heard {payload : Bytes} (hholds : settingsCopy.Holds p s)
    (htold : told p s' = told p s ++ [(channels.admin, payload)])
    (hlearn : learnSettings payload s.globalState = s'.globalState) : settingsCopy.Holds p s' := by
  rw [settingsCopy_holds_iff] at hholds ⊢
  unfold Copy.view at hholds ⊢
  rw [htold, Reading.replay_append, hholds, Reading.replay_cons, Reading.replay_nil]
  exact hlearn

/-- The settings are changed, and everybody is told. -/
lemma settings_changed (globalState : GlobalState) (config : ServerConfig) {payload : Bytes} (hstays : Stays p s)
    (hholds : settingsCopy.Holds p s) (hlearn : learnSettings payload s.globalState = globalState) :
    settingsCopy.Holds p
      ({ s with globalState, config }.broadcast channels.admin .reliableOrdered payload none) := by
  have htold := told_broadcast (s := { s with globalState, config }) (p := p) hstays.live hstays.auth
    channels.admin (by decide) (by decide) none (Option.some_ne_none p) .reliableOrdered payload
  exact settings_heard hholds htold hlearn

/-- Somebody asks, and is told what is so. -/
lemma settings_asked {payload : Bytes} (hstays : Stays p s) (hholds : settingsCopy.Holds p s)
    (hlearn : learnSettings payload s.globalState = s.globalState) :
    settingsCopy.Holds p (s.send q channels.admin payload) := by
  by_cases hq : q = p
  · subst hq
    exact settings_heard hholds (told_send hstays.live _ (by decide) payload) hlearn
  · rw [settingsCopy_holds_iff] at hholds ⊢
    unfold Copy.view at hholds ⊢
    rw [told_send_of_ne hstays.live hq]
    exact hholds

lemma settings_handleAdminRequest (env : Outside) (peer : PeerId) (mode : AdminRequestMode) (reader : NetReader)
    (hstays : Stays p s) (hholds : settingsCopy.Holds p s) :
    settingsCopy.Holds p (s.handleAdminRequest env peer mode reader) := by
  by_cases hmode : mode ∈ settingRequests
  · cases mode
    case globalGetLockState => exact settings_asked hstays hholds (learn_lockState _ _)
    case globalGetHeadlessAudioState => exact settings_asked hstays hholds (learn_headlessAudio _ _)
    case globalGetHeadlessDisallowState => exact settings_asked hstays hholds (learn_headlessDisallow _ _)
    case globalGetOpusPacketLossState => exact settings_asked hstays hholds (learn_packetLoss _ _)
    case globalGetOpusFrameDurationState => exact settings_asked hstays hholds (learn_frameDuration _ _)
    case globalToggleAvatars | globalToggleProps | globalToggleWorlds | globalToggleServers | globalToggleThirdPerson
      | globalToggleAdditionalAvatarDataLock =>
      exact settings_changed _ _ hstays hholds (learn_lockState _ _)
    case setGlobalHeadlessAudio => exact settings_changed _ _ hstays hholds (learn_headlessAudio _ _)
    case setGlobalOpusPacketLoss => exact settings_changed _ _ hstays hholds (learn_packetLoss _ _)
    case setGlobalOpusFrameDuration => exact settings_changed _ _ hstays hholds (learn_frameDuration _ _)
    case setGlobalHeadlessDisallow =>
      unfold ServerState.handleAdminRequest
      dsimp only
      have hset (value : Bool) : settingsCopy.Holds p
          ({ s with globalState.disallowHeadless := value, config.disallowHeadless := value }.broadcastBoolAdminState
            .globalGetHeadlessDisallowState value) :=
        settings_changed _ _ hstays hholds (learn_headlessDisallow value _)
      split
      next => exact (unsaid_foldl_disconnect env _ _ _).holds (hset _)
      next => exact hset _
    all_goals exact absurd hmode (by decide)
  · exact (unsaid_handleAdminRequest env peer hmode reader s).holds hholds

/-! ### The stay -/

lemma settings_welcomed (env : Outside) (ready : ReadyMessage) (hp : p ∈ s.transport.peers) :
    settingsCopy.Holds p (s.finalizeAccept env p ready) := by
  refine Copy.holds_welcome hp ?_
  change settingsReading.replay (welcome p (s.entered p ready)) {} = s.globalState
  have hsettings : settingsReading.replay (settingsMessages (s.entered p ready)) {} = s.globalState := by
    unfold settingsMessages
    simp only [List.map_cons, List.map_nil, Reading.replay_cons, Reading.replay_nil, learn_admin]
    rw [learn_lockState, learn_headlessAudio, learn_headlessDisallow, learn_packetLoss, learn_frameDuration]
    exact quiet_of_mode (show AdminRequestMode.userOpusBitrateOverride ∉ settingModes by decide) (putI32 0) _
  simp only [welcome, Reading.replay_append]
  rw [settingsReading.replay_of_kind channel_of_existing (by decide),
    settingsReading.replay_of_kind channel_of_netIds (by decide),
    settingsReading.replay_of_kind channel_of_resources (by decide),
    settingsReading.replay_of_kind channel_of_owners (by decide),
    settingsReading.replay_of_kind channel_of_spheres (by decide),
    settingsReading.replay_of_kind channel_of_cameras (by decide), hsettings]

/-- What a player has to be told of the settings. -/
lemma settings_follows (p : PeerId) : settingsCopy.Follows p fun _ => True where
  welcomed env ready _ _ _ hp _ := settings_welcomed env ready hp
  met _ _ _ _ _ _ hq hstays hholds := hholds.met hstays hq rfl (by decide)
  left _ _ _ _ hq hstays hholds := hholds.left hstays hq (fun _ hleft => hleft.globalState) (by decide)
  handled env q channel delivery payload arm s _ hconcerns _ hstays hholds := by
    cases arm with
    | admin =>
      exact withRead_of (P := settingsCopy.Holds p) hholds fun request reader =>
        settings_handleAdminRequest env q request.mode reader hstays hholds
    | audioRecipients => exact absurd (Copy.voiceRecipients_of_concerns hconcerns) (by decide)
    | _ => exact absurd hconcerns (by decide)

/-- **Every player knows the settings.**  As long as a player stays, the locks, the headless rules and the voice
settings it has been told are those of the server, whoever changes them and however. -/
theorem player_knows_settings {config : ServerConfig} {ts : List (Transition ServerState Label)} (hstay : Stay config p ts s) :
    settingsReading.replay (told p s) {} = s.globalState :=
  Copy.follows (settings_follows p) hstay fun _ _ => trivial

/-- A lock that was set while the player was there. -/
theorem player_knows_settings_visit : (settingsReading.replay (told 1 visited) {}).propsLocked = true := by
  rw [player_knows_settings stay_visit]
  decide +kernel

end BasisRust.Replica
