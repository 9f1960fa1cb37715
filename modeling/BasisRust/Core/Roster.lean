import BasisRust.Core.System
import BasisRust.Server.Departures

/-!
# The roster of the server

`Server.ServerState` is the part of the server that says who is live, who waits for authentication and who is
authenticated.  An event that is handled there and here leads to the same roster, whatever else the handlers
here do; what is known of the roster there is therefore known here, also when the events that wait are handled in
another order than they came in.
-/

namespace BasisRust.Core

open Lib Protocol Transport
open Admin P2p Permissions
open Server (ConnectedPeer Handling)

/-! ### Calls on the tables -/

lemma sameTables_dropLive {h h' : TransportHandle} (hs : SameTables h h') (peer : PeerId) :
    SameTables (h.dropLive peer) (h'.dropLive peer) := by
  cases hlookup : h.peers.lookup peer with
  | none =>
    have hlookup' : h'.peers.lookup peer = none := by
      rw [← Dict.notMem_iff_lookup, hs.peers.mem_iff, Dict.notMem_iff_lookup]
      exact hlookup
    rw [dropLive_of_none hlookup, dropLive_of_none hlookup']
    exact hs
  | some state =>
    obtain ⟨state', hlookup', hsame⟩ := hs.peers.lookup_eq_some hlookup
    rw [dropLive_of_some hlookup, dropLive_of_some hlookup', hsame.addr]
    refine ⟨fun id => ?_, fun addr => ?_, hs.nextPeerId, hs.reusablePeerIds, ?_⟩
    · change Option.Rel SamePeer ((h.peers.erase peer).lookup id) ((h'.peers.erase peer).lookup id)
      rw [Dict.lookup_erase, Dict.lookup_erase]
      split
      next => exact .none
      next => exact hs.peers id
    · change (h'.byAddr.erase state.addr).lookup addr = (h.byAddr.erase state.addr).lookup addr
      rw [Dict.lookup_erase, Dict.lookup_erase, hs.byAddr addr]
    · exact congrArg (HashSet.insert · peer) hs.retiredPeerIds

lemma sameTables_foldl_dropLive {h h' : TransportHandle} (hs : SameTables h h') (peers : List PeerId) :
    SameTables (peers.foldl (fun handle peer => handle.dropLive peer) h)
      (peers.foldl (fun handle peer => handle.dropLive peer) h') := by
  induction peers generalizing h h' with
  | nil => exact hs
  | cons peer peers ih => exact ih (sameTables_dropLive hs peer)

lemma sameTables_recyclePeerId {h h' : TransportHandle} (hs : SameTables h h') (peer : PeerId) :
    SameTables (h.recyclePeerId peer) (h'.recyclePeerId peer) := by
  unfold TransportHandle.recyclePeerId
  simp only [hs.peers.mem_iff, hs.retiredPeerIds, hs.reusablePeerIds]
  split
  next => exact hs
  next =>
    split
    next => exact hs
    next =>
      split
      next => exact ⟨hs.peers, hs.byAddr, hs.nextPeerId, rfl, rfl⟩
      next => exact ⟨hs.peers, hs.byAddr, hs.nextPeerId, rfl, rfl⟩

/-! ### Rosters that agree -/

/-- The same player; the avatar may have been changed since. -/
structure SamePlayer (p q : ConnectedPeer) : Prop where
  id : q.id = p.id
  metadata : q.metadata = p.metadata

theorem SamePlayer.refl (p : ConnectedPeer) : SamePlayer p p := ⟨rfl, rfl⟩

/-- The same peers in the tables, the same events, the same players. -/
structure Agrees (r r' : Server.ServerState) : Prop where
  tables : SameTables r.transport r'.transport
  queue : r'.queue = r.queue
  pendingIdentity : r'.pendingIdentity = r.pendingIdentity
  authenticatedPeers : r.authenticatedPeers.Rel SamePlayer r'.authenticatedPeers

theorem Agrees.refl (r : Server.ServerState) : Agrees r r := ⟨.refl _, rfl, rfl, .refl .refl _⟩

lemma Agrees.known {r r' : Server.ServerState} (h : Agrees r r') {id : PeerId} (hknown : r.Known id) :
    r'.Known id := by
  rcases hknown with hlive | hqueued
  · exact .inl ((h.tables.peers.mem_iff id).mpr hlive)
  · refine .inr ?_
    rw [h.queue]
    exact hqueued

theorem Agrees.rosterKnown {r r' : Server.ServerState} (h : Agrees r r') (hroster : r.RosterKnown) :
    r'.RosterKnown := by
  refine ⟨fun id hid => ?_, fun id hid => ?_⟩
  · rw [h.pendingIdentity] at hid
    exact h.known (hroster.pending id hid)
  · exact h.known (hroster.authenticated id ((h.authenticatedPeers.mem_iff id).mp hid))

namespace ServerState

/-- The roster of the server, with the events that are still to be handled. -/
def roster (queue : List ServerEvent) (s : ServerState) : Server.ServerState where
  transport := s.transport
  queue := queue
  pendingIdentity := s.pendingIdentity
  authenticatedPeers := s.authenticatedPeers

/-- What the rest of the server contributes to the handling of an event. -/
def handling (env : Outside) (banRecorded : Bool) (s : ServerState) : Handling where
  admission request := s.admission request
  useAuthIdentity := s.config.useAuthIdentity
  allocateFuel := env.allocateFuel
  banRecorded := banRecorded
  io _ := env.io

variable {queue : List ServerEvent} {s s' : ServerState}

lemma Posted.agrees {r : Server.ServerState} (hp : Posted s s') (h : Agrees r (s.roster queue)) :
    Agrees r (s'.roster queue) := by
  obtain ⟨messages, rfl⟩ := hp
  exact ⟨h.tables.trans (sameTables_post messages s), h.queue, h.pendingIdentity, h.authenticatedPeers⟩

/-! ### Connection requests -/

/-- A call that emits nothing. -/
lemma roster_call {op : Op} {env : Outside} (h : (s.transport.outcome (op, env.io)).events = []) :
    (s.roster queue).call op env.io = (s.call op env).roster queue := by
  change { s.roster queue with
    transport := (s.transport.outcome (op, env.io)).handle
    queue := queue ++ (s.transport.outcome (op, env.io)).events } = _
  rw [h, List.append_nil]
  rfl

lemma agrees_greet (env : Outside) (peerId : PeerId) (ready : ReadyMessage) (s : ServerState) :
    Agrees (if s.config.useAuthIdentity then
        { s.roster queue with pendingIdentity := s.pendingIdentity.insert peerId ready }
      else (s.roster queue).finalizeAccept peerId ready) ((s.greet env peerId ready).roster queue) := by
  unfold greet
  split
  next => exact (posted_send _ _ _ _).agrees (.refl _)
  next => exact (posted_finalizeAccept env peerId ready s).agrees (.refl _)

lemma events_outcome_accept (fuel : ℕ) (request : ConnectionRequest) (io : Io) (handle : TransportHandle) :
    (handle.outcome (.accept fuel request, io)).events = [] := by
  rw [TransportHandle.outcome, Op.run, final_bind_pure, events_accept]
  rfl

lemma events_outcome_reject (request : ConnectionRequest) (reason : String) (io : Io) (handle : TransportHandle) :
    (handle.outcome (.reject request reason, io)).events = [] := events_reject request reason _

theorem agrees_handleConnectionRequest (env : Outside) (recorded : Bool) (request : ConnectionRequest)
    (s : ServerState) :
    Agrees ((s.roster queue).handleConnectionRequest (s.handling env recorded) request)
      ((s.handleConnectionRequest env request).roster queue) := by
  unfold Server.ServerState.handleConnectionRequest handleConnectionRequest
  dsimp only [handling]
  cases s.admission request with
  | error reason =>
    dsimp only
    rw [roster_call (events_outcome_reject request reason env.io s.transport)]
    exact .refl _
  | ok ready =>
    dsimp only
    rw [roster_call (events_outcome_accept env.allocateFuel request env.io s.transport)]
    have hworld : (s.roster queue).transport.world env.io = s.transport.world env.io := rfl
    rw [hworld]
    cases accept env.allocateFuel request (s.transport.world env.io) with
    | error => exact .refl _
    | ok peerId w =>
      cases peerId with
      | none => exact .refl _
      | some peerId => exact agrees_greet env peerId ready (s.call (.accept env.allocateFuel request) env)

/-! ### Departures -/

/-- The roster when the peer has been taken off it, before its id is released. -/
lemma agrees_left (queue : List ServerEvent) (peer : PeerId) (s : ServerState) :
    ∃ left : ServerState, (∀ env, s.handleDisconnect env peer = left.call (.recyclePeerId peer) env) ∧
      Agrees { s.roster queue with
        pendingIdentity := s.pendingIdentity.erase peer
        authenticatedPeers := s.authenticatedPeers.erase peer } (left.roster queue) := by
  refine ⟨_, fun _ => rfl, ?_⟩
  obtain ⟨messages, -, h⟩ := postedOn_leaveStores peer s
  rw [h]
  generalize hstores : ServerState.post messages _ = stores
  have hagrees : Agrees { s.roster queue with pendingIdentity := s.pendingIdentity.erase peer }
      (stores.roster queue) := by
    subst hstores
    exact Posted.agrees ⟨messages, rfl⟩ (.refl _)
  have hplayers : stores.authenticatedPeers = s.authenticatedPeers := by
    subst hstores
    rfl
  rw [← hplayers]
  rcases leaveRoster_cases peer stores with ⟨hpeer, hsame⟩ | ⟨resources, hposted | hposted⟩
  · rw [hsame, Dict.erase_of_notMem hpeer]
    exact ⟨hagrees.tables, hagrees.queue, hagrees.pendingIdentity, .refl .refl _⟩
  · exact hposted.agrees ⟨hagrees.tables, hagrees.queue, hagrees.pendingIdentity, .refl .refl _⟩
  · exact hposted.agrees ⟨hagrees.tables, hagrees.queue, hagrees.pendingIdentity, .refl .refl _⟩

theorem agrees_handleDisconnect (env : Outside) (recorded : Bool) (peer : PeerId) (s : ServerState) :
    Agrees ((s.roster queue).handleDisconnect (s.handling env recorded) peer)
      ((s.handleDisconnect env peer).roster queue) := by
  obtain ⟨left, hleft, hagrees⟩ := agrees_left queue peer s
  rw [hleft env]
  refine ⟨sameTables_recyclePeerId hagrees.tables peer, ?_, hagrees.pendingIdentity, hagrees.authenticatedPeers⟩
  exact (List.append_nil queue).symm

/-! ### Admin requests -/

/-- The tables lose these peers; nobody is told, and the roster stays. -/
structure Drops (targets : List PeerId) (s s' : ServerState) : Prop where
  tables : SameTables (targets.foldl (fun handle peer => handle.dropLive peer) s.transport) s'.transport
  pendingIdentity : s'.pendingIdentity = s.pendingIdentity
  authenticatedPeers : s'.authenticatedPeers = s.authenticatedPeers

namespace Drops

theorem refl (s : ServerState) : Drops [] s s := ⟨.refl _, rfl, rfl⟩

theorem trans {targets targets' : List PeerId} {s s' s'' : ServerState} (h : Drops targets s s')
    (h' : Drops targets' s' s'') : Drops (targets ++ targets') s s'' where
  tables := by
    rw [List.foldl_append]
    exact (sameTables_foldl_dropLive h.tables targets').trans h'.tables
  pendingIdentity := h'.pendingIdentity.trans h.pendingIdentity
  authenticatedPeers := h'.authenticatedPeers.trans h.authenticatedPeers

/-- What posts messages and changes settings drops nobody. -/
lemma posted {t : ServerState} (h : Drops [] s t) (hp : Posted t s') : Drops [] s s' := by
  obtain ⟨messages, rfl⟩ := hp
  exact ⟨h.tables.trans (sameTables_post messages t), h.pendingIdentity, h.authenticatedPeers⟩

lemma disconnect (env : Outside) (reason : String) (s : ServerState) (target : PeerId) :
    Drops [target] s (s.disconnect env reason target) := by
  refine ⟨?_, rfl, rfl⟩
  rw [ServerState.disconnect, transport_call_disconnect]
  exact .refl _

lemma foldl_disconnect (env : Outside) (reason : String) (targets : List PeerId) (s : ServerState) :
    Drops targets s (targets.foldl (ServerState.disconnect env reason) s) := by
  induction targets generalizing s with
  | nil => exact .refl s
  | cons target targets ih => exact (disconnect env reason s target).trans (ih _)

lemma disconnectUuid (env : Outside) (uuid reason : String) (s : ServerState) :
    Drops (s.peerByUuid uuid).toList s (s.disconnectUuid env uuid reason) := by
  unfold ServerState.disconnectUuid
  split
  next target htarget =>
    rw [htarget]
    exact disconnect env reason s target
  next hnone =>
    rw [hnone]
    exact .refl s

/-- The session is only ended where the ban could be recorded. -/
lemma ban (env : Outside) (uuid reason : String) (ip : Option String) (s : ServerState) :
    Drops (if isBlank uuid || env.saved then (s.peerByUuid uuid).toList else []) s (s.ban env uuid reason ip) := by
  have hrecorded : (s.moderation.addBanWithDetails uuid reason ip env.timestamp env.saved).2 =
      (isBlank uuid || env.saved) := by
    unfold ModerationLists.addBanWithDetails
    split
    next hblank => rw [hblank, Bool.true_or]
    next hblank => rw [Bool.not_eq_true _ |>.mp hblank, Bool.false_or]
  unfold ServerState.ban
  dsimp only
  rw [hrecorded]
  generalize (s.moderation.addBanWithDetails uuid reason ip env.timestamp env.saved).1 = moderation
  have hentered : Drops [] s { s with moderation } := ⟨.refl _, rfl, rfl⟩
  split
  next => exact hentered.trans (disconnectUuid env uuid reason { s with moderation })
  next => exact hentered

end Drops

/-- Settings change, and messages are posted. -/
lemma drops_settings (permissions : PermissionStore) (globalState : GlobalState) (config : ServerConfig)
    (messages : List Outgoing) (s : ServerState) :
    Drops [] s ({ s with permissions, globalState, config }.post messages) :=
  .posted (t := { s with permissions, globalState, config }) ⟨.refl _, rfl, rfl⟩ ⟨messages, rfl⟩

lemma drops_updatePermissions (peer : PeerId) (change : PermissionStore → PermissionStore) (s : ServerState) :
    Drops [] s (s.updatePermissions peer change) :=
  .posted (t := { s with permissions := change s.permissions }) ⟨.refl _, rfl, rfl⟩ (posted_sendAdminText peer _ _)

/-- Requests that disconnect nobody. -/
lemma drops_none {mode : AdminRequestMode} (hkick : mode ≠ .kick) (hban : mode ≠ .ban) (hipAndBan : mode ≠ .ipAndBan)
    (hheadless : mode ≠ .setGlobalHeadlessDisallow) (env : Outside) (peer : PeerId) (reader : NetReader)
    (s : ServerState) : Drops [] s (s.handleAdminRequest env peer mode reader) := by
  have hself : Drops [] s s := .refl s
  cases mode
  case kick => exact absurd rfl hkick
  case ban => exact absurd rfl hban
  case ipAndBan => exact absurd rfl hipAndBan
  case setGlobalHeadlessDisallow => exact absurd rfl hheadless
  case globalToggleAvatars | globalToggleProps | globalToggleWorlds | globalToggleServers
    | globalToggleThirdPerson | globalToggleAdditionalAvatarDataLock | setGlobalHeadlessAudio
    | setGlobalOpusPacketLoss | setGlobalOpusFrameDuration => exact drops_settings s.permissions _ s.config _ s
  case setUserGroup | setUserNode | setGroupNode | setGroupParent =>
    exact withRead_of hself fun _ _ => withRead_of hself fun _ _ => drops_updatePermissions peer _ s
  case createGroup | deleteGroup => exact withRead_of hself fun _ _ => drops_updatePermissions peer _ s
  case message | addDefaultLibraryItem | removeDefaultLibraryItem => exact hself.posted (posted_sendAdminText _ _ s)
  case unBan | unBanIP | addWhitelist | removeWhitelist =>
    exact withRead_of hself fun _ _ => ⟨.refl _, rfl, rfl⟩
  case setServerName | setServerMotd | setWhitelistMode => exact ⟨.refl _, rfl, rfl⟩
  case userOpusBitrateOverride => exact hself
  all_goals exact hself.posted ⟨_, rfl⟩

/-! ### The requests that disconnect -/

/-- The disconnect calls there, by the mode that is read here. -/
lemma disconnectCalls_of_ok {recorded : Bool} {payload rest : Bytes} {value : UInt8} {mode : AdminRequestMode}
    (hread : getU8 payload = .ok value rest) (hmode : AdminRequestMode.ofU8 value = mode) :
    (s.roster queue).disconnectCalls recorded payload =
      if mode = .kick then
        withRead getString rest [] fun uuid rest =>
          ((s.peerByUuid uuid).map fun target => (target, lastOr getString rest "Kicked")).toList
      else if mode = .ban ∨ mode = .ipAndBan then
        withRead getString rest [] fun uuid rest =>
          if !recorded then []
          else ((s.peerByUuid uuid).map fun target => (target, lastOr getString rest "Banned")).toList
      else if mode = .setGlobalHeadlessDisallow then
        if lastOr getBool rest false then
          s.headlessPeers.map fun peer => (peer, "Headless client disallowed by server.")
        else []
      else [] := by
  unfold Server.ServerState.disconnectCalls
  rw [withRead, hread]
  dsimp only
  rw [hmode]
  rfl

lemma handleAdminMessage_eq (env : Outside) (peer : PeerId) (payload : Bytes) (s : ServerState) :
    s.handleAdminMessage env peer payload =
      withRead getU8 payload s fun value rest =>
        s.handleAdminRequest env peer (AdminRequestMode.ofU8 value) rest := by
  unfold handleAdminMessage withRead AdminRequest.deserialize
  simp only [bind, EStateM.bind, pure, EStateM.pure]
  cases getU8 payload with
  | ok => rfl
  | error => rfl

lemma map_fst_toList (o : Option PeerId) (reason : String) :
    (o.map fun target => (target, reason)).toList.map Prod.fst = o.toList := by
  cases o with
  | none => rfl
  | some => rfl

lemma drops_kick (env : Outside) (peer : PeerId) (reader : NetReader) (s : ServerState) :
    Drops ((withRead getString reader [] fun uuid rest =>
        ((s.peerByUuid uuid).map fun target => (target, lastOr getString rest "Kicked")).toList).map
        Prod.fst) s (s.handleAdminRequest env peer .kick reader) := by
  unfold handleAdminRequest withRead
  cases getString reader with
  | error => exact .refl s
  | ok uuid rest =>
    dsimp only
    rw [map_fst_toList]
    exact .disconnectUuid env uuid _ s

/-- Both kinds of ban. -/
lemma drops_ban (env : Outside) (ip : String → Option String) (reader : NetReader) (s : ServerState) :
    ∃ recorded, Drops ((withRead getString reader [] fun uuid rest =>
        if !recorded then []
        else ((s.peerByUuid uuid).map fun target => (target, lastOr getString rest "Banned")).toList).map
        Prod.fst) s
      (withRead getString reader s fun uuid rest => s.ban env uuid (lastOr getString rest "Banned") (ip uuid)) := by
  unfold withRead
  cases getString reader with
  | error => exact ⟨true, .refl s⟩
  | ok uuid rest =>
    refine ⟨isBlank uuid || env.saved, ?_⟩
    have hban := Drops.ban env uuid (lastOr getString rest "Banned") (ip uuid) s
    dsimp only
    cases hrecorded : isBlank uuid || env.saved with
    | true =>
      rw [hrecorded, if_pos rfl] at hban
      rw [Bool.not_true, if_neg Bool.false_ne_true, map_fst_toList]
      exact hban
    | false =>
      rw [hrecorded, if_neg Bool.false_ne_true] at hban
      exact hban

lemma drops_headless (env : Outside) (peer : PeerId) (reader : NetReader) (s : ServerState) :
    Drops ((if lastOr getBool reader false then
        s.headlessPeers.map fun peer => (peer, "Headless client disallowed by server.") else []).map Prod.fst) s
      (s.handleAdminRequest env peer .setGlobalHeadlessDisallow reader) := by
  unfold handleAdminRequest
  dsimp only
  have hset (value : Bool) : Drops [] s
      ({ s with globalState.disallowHeadless := value, config.disallowHeadless := value }.broadcastBoolAdminState
        .globalGetHeadlessDisallowState value) := drops_settings s.permissions _ _ _ s
  split
  next =>
    rw [List.map_map]
    change Drops (s.headlessPeers.map id) s _
    rw [List.map_id]
    exact (hset _).trans (.foldl_disconnect env _ s.headlessPeers _)
  next => exact hset _

/-- The disconnect calls there are the disconnects here. -/
theorem drops_handleAdminMessage (env : Outside) (queue : List ServerEvent) (peer : PeerId) (payload : Bytes)
    (s : ServerState) :
    ∃ recorded, Drops (((s.roster queue).disconnectCalls recorded payload).map Prod.fst) s
      (s.handleAdminMessage env peer payload) := by
  rw [handleAdminMessage_eq]
  unfold withRead
  cases hread : getU8 payload with
  | error =>
    refine ⟨true, ?_⟩
    unfold Server.ServerState.disconnectCalls
    rw [withRead, hread]
    exact .refl s
  | ok value rest =>
    dsimp only
    generalize hmode : AdminRequestMode.ofU8 value = mode
    simp only [disconnectCalls_of_ok hread hmode]
    by_cases hkick : mode = .kick
    · subst hkick
      exact ⟨true, drops_kick env peer rest s⟩
    by_cases hban : mode = .ban
    · subst hban
      exact drops_ban env (fun _ => none) rest s
    by_cases hipAndBan : mode = .ipAndBan
    · subst hipAndBan
      exact drops_ban env s.ipOfUuid rest s
    by_cases hheadless : mode = .setGlobalHeadlessDisallow
    · subst hheadless
      exact ⟨true, drops_headless env peer rest s⟩
    · refine ⟨true, ?_⟩
      rw [if_neg hkick, if_neg (not_or.mpr ⟨hban, hipAndBan⟩), if_neg hheadless]
      exact drops_none hkick hban hipAndBan hheadless env peer rest s

lemma call_disconnect (peer : PeerId) (reason : String) (io : Io) (r : Server.ServerState) :
    r.call (.disconnect peer reason) io = { r with transport := r.transport.dropLive peer } := by
  have hhandle : (r.transport.outcome (.disconnect peer reason, io)).handle = r.transport.dropLive peer :=
    handle_disconnect peer reason _
  have hevents : (r.transport.outcome (.disconnect peer reason, io)).events = [] := events_disconnect peer reason _
  unfold Server.ServerState.call
  dsimp only
  rw [hhandle, hevents, List.append_nil]

lemma foldl_call_disconnect (h : Handling) (calls : List (PeerId × String)) (n : ℕ) (r : Server.ServerState) :
    (calls.zipIdx n).foldl (fun r (target, i) => r.call (.disconnect target.1 target.2) (h.io i)) r =
      { r with
        transport := (calls.map Prod.fst).foldl (fun handle peer => handle.dropLive peer) r.transport } := by
  induction calls generalizing n r with
  | nil => rfl
  | cons target calls ih =>
    rw [List.zipIdx_cons, List.foldl_cons, ih]
    dsimp only
    rw [call_disconnect]
    rfl

theorem agrees_handleAdminMessage (env : Outside) (peer : PeerId) (payload : Bytes) (s : ServerState) :
    ∃ recorded, Agrees ((s.roster queue).handleAdminMessage (s.handling env recorded) payload)
      ((s.handleAdminMessage env peer payload).roster queue) := by
  obtain ⟨recorded, hdrops⟩ := drops_handleAdminMessage env queue peer payload s
  refine ⟨recorded, ?_⟩
  rw [Server.ServerState.handleAdminMessage, foldl_call_disconnect]
  refine ⟨hdrops.tables, rfl, hdrops.pendingIdentity, ?_⟩
  change Dict.Rel _ s.authenticatedPeers (s.handleAdminMessage env peer payload).authenticatedPeers
  rw [hdrops.authenticatedPeers]
  exact .refl .refl _

/-! ### Messages -/

lemma agrees_handleAuthIdentity (env : Outside) (peer : PeerId) (s : ServerState) :
    Agrees (match s.pendingIdentity.lookup peer with
      | none => s.roster queue
      | some ready => { s.roster queue with pendingIdentity := s.pendingIdentity.erase peer }.finalizeAccept peer ready)
      ((s.handleAuthIdentity env peer).roster queue) := by
  unfold handleAuthIdentity
  cases s.pendingIdentity.lookup peer with
  | none => exact .refl _
  | some ready => exact (posted_finalizeAccept env peer ready _).agrees (.refl _)

lemma agrees_handleAvatarChangeMessage (peer : PeerId) (payload : Bytes) (s : ServerState) :
    Agrees (s.roster queue) ((s.handleAvatarChangeMessage peer payload).roster queue) := by
  refine onParsed_of (P := fun t => Agrees (s.roster queue) (t.roster queue)) (.refl _) fun avatar => ?_
  split
  next => exact .refl _
  next =>
    refine (posted_broadcast _ _ _ _ _).agrees ⟨.refl _, rfl, rfl, ?_⟩
    exact .modify .refl (fun _ => ⟨rfl, rfl⟩) s.authenticatedPeers peer

/-- Other stores are not the roster's. -/
lemma agrees_of_writes {store : Store} (h : Writes store s s') (hroster : store ≠ .roster) (hplayers : store ≠ .players)
    (hadministration : store ≠ .administration) : Agrees (s.roster queue) (s'.roster queue) := by
  cases store with
  | roster => exact absurd rfl hroster
  | players => exact absurd rfl hplayers
  | administration => exact absurd rfl hadministration
  | nothing => exact Posted.agrees h (.refl _)
  | _ =>
    obtain ⟨_, hposted⟩ := h
    exact hposted.agrees (.refl _)

theorem agrees_handleMessage (env : Outside) (peer : PeerId) (channel : UInt8) (delivery : DeliveryMethod)
    (payload : Bytes) (s : ServerState) :
    ∃ recorded, Agrees ((s.roster queue).handleMessage (s.handling env recorded) peer channel payload)
      ((s.handleMessage env peer channel delivery payload).roster queue) := by
  unfold handleMessage Server.ServerState.handleMessage
  by_cases hidentity : channel = channels.authIdentity
  · subst hidentity
    exact ⟨true, agrees_handleAuthIdentity env peer s⟩
  by_cases hadmin : channel = channels.admin
  · subst hadmin
    exact agrees_handleAdminMessage env peer payload s
  · refine ⟨true, ?_⟩
    rw [if_neg hidentity, if_neg hadmin]
    have hwrites := writes_handleArm env peer payload s channel delivery (armOf channel)
    generalize harm : armOf channel = arm at hwrites
    cases arm with
    | authIdentity => exact absurd (channel_of_armOf_authIdentity harm) hidentity
    | admin => exact absurd (channel_of_armOf_admin harm) hadmin
    | avatarChangeMessage => exact agrees_handleAvatarChangeMessage peer payload s
    | _ => exact agrees_of_writes hwrites nofun nofun nofun

/-! ### Events -/

/-- **The roster here is the roster there.**  Whatever an event does to the roster of the server, it does to
the roster that is kept alone. -/
theorem agrees_handleEvent (env : Outside) (event : ServerEvent) (queue : List ServerEvent) (s : ServerState) :
    ∃ recorded, Agrees ((s.roster queue).handleEvent (s.handling env recorded) event)
      ((s.handleEvent env event).roster queue) := by
  cases event with
  | connectionRequest request => exact ⟨true, agrees_handleConnectionRequest env true request s⟩
  | peerDisconnected peer => exact ⟨true, agrees_handleDisconnect env true peer s⟩
  | message peer channel delivery payload => exact agrees_handleMessage env peer channel delivery payload s
  | natIntroductionRequest remoteAddr localAddr token =>
    refine ⟨true, ?_⟩
    change Agrees (s.roster queue) ((s.handleNatIntroductionRequest remoteAddr localAddr token).roster queue)
    unfold handleNatIntroductionRequest
    split
    next => exact Posted.agrees (s := { s with p2pBroker := _ }) ⟨_, rfl⟩ (.refl _)
    next => exact .refl _
  | _ => exact ⟨true, .refl _⟩

/-! ### What is known of the roster -/

lemma rosterKnown_of_perm {queue queue' : List ServerEvent} (hperm : queue.Perm queue')
    (h : (s.roster queue).RosterKnown) : (s.roster queue').RosterKnown := by
  have hknown {id : PeerId} (hid : (s.roster queue).Known id) : (s.roster queue').Known id :=
    hid.imp_right (hperm.filterMap disconnectedPeer).mem_iff.mp
  exact ⟨fun id hid => hknown (h.pending id hid), fun id hid => hknown (h.authenticated id hid)⟩

lemma mem_peers_foldl_dropLive {handle : TransportHandle} {targets : List PeerId} {id : PeerId} :
    id ∈ (targets.foldl (fun handle peer => handle.dropLive peer) handle).peers ↔
      id ∉ targets ∧ id ∈ handle.peers := by
  induction targets generalizing handle with
  | nil => exact (and_iff_right List.not_mem_nil).symm
  | cons target targets ih =>
    rw [List.foldl_cons, ih, mem_peers_dropLive, List.mem_cons, not_or, and_left_comm, and_assoc]

/-- A live peer is gone once the event is handled. -/
def EndsConnection (env : Outside) (event : ServerEvent) (s : ServerState) : Prop :=
  ∃ id ∈ s.transport.peers, id ∉ (s.handleEvent env event).transport.peers

instance (env : Outside) (event : ServerEvent) (s : ServerState) : Decidable (s.EndsConnection env event) :=
  inferInstanceAs (Decidable (∃ id ∈ s.transport.peers.keys, id ∉ (s.handleEvent env event).transport.peers))

/-- **Handling an event keeps the roster known**, unless it ends a connection. -/
theorem rosterKnown_handleEvent {env : Outside} {event : ServerEvent} {rest : List ServerEvent}
    (hends : ¬ s.EndsConnection env event) (h : (s.roster (event :: rest)).RosterKnown) :
    ((s.handleEvent env event).roster rest).RosterKnown := by
  obtain ⟨recorded, hagrees⟩ := agrees_handleEvent env event rest s
  refine hagrees.rosterKnown (Server.ServerState.rosterKnown_next (s := s.roster (event :: rest))
    (l := .handle (s.handling env recorded)) (fun hlose => hends ?_) h)
  cases event with
  | message peer channel delivery payload =>
    obtain ⟨rfl, target, htarget, hlive⟩ := hlose
    refine ⟨target.1, hlive, fun hafter => ?_⟩
    replace hafter := (hagrees.tables.peers.mem_iff target.1).mp hafter
    change target.1 ∈ ((s.roster rest).handleAdminMessage (s.handling env recorded) payload).transport.peers at hafter
    rw [Server.ServerState.handleAdminMessage, foldl_call_disconnect] at hafter
    exact (mem_peers_foldl_dropLive.mp hafter).1 (List.mem_map_of_mem htarget)
  | _ => exact absurd hlose fun h => h

end ServerState

/-! ### Events in any order -/

/-- The server, and the events that are emitted and not handled yet. -/
structure EventLoop where
  server : ServerState
  events : List ServerEvent := []

namespace EventLoop

/-- What the transport emits waits to be handled, and any of the events that wait may be the next.  The calls that
handlers make emit nothing. -/
def next (e : EventLoop) : Label → EventLoop
  | .transport l =>
    { server := e.server.next (.transport l), events := e.events ++ (e.server.transport.outcome l).events }
  | .handle env event => { server := e.server.handleEvent env event, events := e.events.erase event }

def Enabled (e : EventLoop) : Label → Prop
  | .transport l => e.server.Enabled (.transport l)
  | .handle env event => event ∈ e.events ∧ e.server.Enabled (.handle env event)

instance (e : EventLoop) : ∀ l : Label, Decidable (e.Enabled l)
  | .transport l => inferInstanceAs (Decidable (e.server.Enabled (.transport l)))
  | .handle env event => inferInstanceAs (Decidable (event ∈ e.events ∧ e.server.Enabled (.handle env event)))

def Steps (e : EventLoop) (l : Label) (e' : EventLoop) : Prop := e.Enabled l ∧ e' = e.next l

/-- The step may remove a peer without reporting it. -/
def MayLose (e : EventLoop) : Label → Prop
  | .transport l => Transport.MayLose e.server.transport l
  | .handle env event => e.server.EndsConnection env event

/-- Who is on the roster is live, or the departure waits to be handled. -/
def RosterKnown (e : EventLoop) : Prop := (e.server.roster e.events).RosterKnown

theorem rosterKnown_next {e : EventLoop} {l : Label} (henabled : e.Enabled l) (hlose : ¬ e.MayLose l)
    (h : e.RosterKnown) : (e.next l).RosterKnown := by
  cases l with
  | transport l =>
    exact Server.ServerState.rosterKnown_next (s := e.server.roster e.events) (l := .transport l) hlose h
  | handle env event =>
    exact ServerState.rosterKnown_handleEvent hlose
      (ServerState.rosterKnown_of_perm (List.perm_cons_erase henabled.1) h)

/-- **The roster of the running server.**  As long as no step may lose a departure, everybody who waits for
authentication or is authenticated is live or has a departure among the events; with every event handled, the
authenticated peers are live. -/
theorem roster_live_or_leaving {config : ServerConfig} {ts : List (Transition EventLoop Label)} {e : EventLoop}
    (hrun : Run Steps { server := .start config } ts e) (hlose : ∀ tr ∈ ts, ¬ tr.src.MayLose tr.label) :
    (∀ id, id ∈ e.server.pendingIdentity ∨ id ∈ e.server.authenticatedPeers →
      id ∈ e.server.transport.peers ∨ id ∈ e.events.filterMap disconnectedPeer) ∧
    (e.events = [] → ∀ id ∈ e.server.authenticatedPeers, id ∈ e.server.transport.peers) := by
  have hknown : e.RosterKnown := by
    refine (Run.invariant_of (I := RosterKnown) (C := fun e l => ¬ e.MayLose l) ?_ ?_ hrun hlose).2
    · exact ⟨fun id hid => absurd hid (AList.notMem_empty id), fun id hid => absurd hid (AList.notMem_empty id)⟩
    · rintro e l e' ⟨henabled, rfl⟩ hl h
      exact rosterKnown_next henabled hl h
  refine ⟨fun id hid => hid.elim (hknown.pending id) (hknown.authenticated id), fun hempty id hid => ?_⟩
  rcases hknown.authenticated id hid with hlive | hqueued
  · exact hlive
  · replace hqueued : id ∈ e.events.filterMap disconnectedPeer := hqueued
    rw [hempty] at hqueued
    cases hqueued

/-- The datagram of a connection request. -/
def knocks (request : ConnectionRequest) : Label :=
  .transport (.packet request.remoteAddr (putU8 (headerByte .connectRequest 0) ++ putI32 litenetlibProtocolId ++
    putI64 0 ++ putI32 0 ++ putU8 16 ++ List.replicate 16 0 ++ request.payload), {})

/-- Two players knock and the second is let in first; then nothing is heard of it any more. -/
def silence : List Label :=
  [knocks (requestOf 1 "a"), knocks (requestOf 2 "b"), handles (.connectionRequest (requestOf 2 "b")),
    handles (.connectionRequest (requestOf 1 "a")), .transport (.timeout 0, {})]

def departure : List Label := [handles (.peerDisconnected 0 .timeout)]

def openLoop : EventLoop := { server := .start openConfig }

lemma not_mayLose_of_quiet (e : EventLoop) {op : Op} (hop : ∀ peer reason, op ≠ .disconnect peer reason) :
    ¬ e.MayLose (.transport (op, {})) := Server.not_mayLose_of_quiet _ hop

lemma run_of_enabled {ts : List (Transition EventLoop Label)} {e : EventLoop} (hrun : Run Steps openLoop ts e)
    (ls : List Label) (h : ∀ tr ∈ trace next e ls, tr.src.Enabled tr.label) :
    Run Steps openLoop (ts ++ trace next e ls) (ls.foldl next e) :=
  hrun.append_trace next ls fun tr htr => ⟨h tr htr, dst_of_mem_trace htr⟩

lemma silence_keeps : ∀ tr ∈ trace next openLoop silence, ¬ tr.src.MayLose tr.label := by
  intro tr htr
  simp only [silence, knocks, trace, List.mem_cons, List.not_mem_nil, or_false] at htr
  rcases htr with rfl | rfl | rfl | rfl | rfl
  · exact not_mayLose_of_quiet _ fun _ _ h => by cases h
  · exact not_mayLose_of_quiet _ fun _ _ h => by cases h
  · change ¬ ServerState.EndsConnection _ _ _
    decide +kernel
  · change ¬ ServerState.EndsConnection _ _ _
    decide +kernel
  · exact not_mayLose_of_quiet _ fun _ _ h => by cases h

lemma departure_keeps : ∀ tr ∈ trace next (silence.foldl next openLoop) departure, ¬ tr.src.MayLose tr.label := by
  refine List.forall_mem_singleton.mpr ?_
  change ¬ ServerState.EndsConnection _ _ _
  decide +kernel

/-- A player that is no more live is on the roster while its departure waits; afterwards the other one is left. -/
theorem roster_live_or_leaving_silence :
    0 ∈ (silence.foldl next openLoop).events.filterMap disconnectedPeer ∧
      1 ∈ (departure.foldl next (silence.foldl next openLoop)).server.transport.peers := by
  have hsilence := run_of_enabled .nil silence (by decide +kernel)
  have hdeparture := run_of_enabled hsilence departure (by decide +kernel)
  obtain ⟨hknown, -⟩ := roster_live_or_leaving hsilence silence_keeps
  obtain ⟨-, hlive⟩ := roster_live_or_leaving hdeparture (List.forall_mem_append.mpr ⟨silence_keeps, departure_keeps⟩)
  refine ⟨(hknown 0 (.inr (by decide +kernel))).resolve_left (by decide +kernel), ?_⟩
  exact hlive (by decide +kernel) 1 (by decide +kernel)

end EventLoop
end BasisRust.Core
