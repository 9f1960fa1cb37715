import BasisRust.Core.System

/-!
# Bans

A ban is entered in the lists, and one session of the UUID is ended: the first one `peer_by_uuid` comes
across.  The lists are asked when a connection is requested and not again.  So a banned UUID is kept out from
the ban on exactly when that session is the only live one, no waiting login of the UUID is completed, and no
id of a left-over session of the UUID is given away.
-/

namespace BasisRust.Core

open Lib Protocol Transport
open Admin
open Server (ConnectedPeer)

/-- A request to ban the UUID, with its address or without. -/
def BansUuid (uuid : String) (payload : Bytes) : Prop :=
  ∃ request rest rest', AdminRequest.deserialize payload = .ok request rest ∧
    (request.mode = .ban ∨ request.mode = .ipAndBan) ∧ getString rest = .ok uuid rest'

/-- A request to lift a ban is handled. -/
def Label.Unbans : Label → Prop
  | .handle _ (.message _ channel _ payload) =>
    channel = channels.admin ∧ ∃ request rest, AdminRequest.deserialize payload = .ok request rest ∧
      (request.mode = .unBan ∨ request.mode = .unBanIP)
  | _ => False

namespace ServerState

/-- The peer is authenticated under the UUID. -/
def Named (uuid : String) (s : ServerState) (peer : PeerId) : Prop :=
  ∃ entry, s.authenticatedPeers.lookup peer = some entry ∧ entry.metadata.playerUuid = uuid

/-- No live peer is authenticated under the UUID. -/
def KeptOut (uuid : String) (s : ServerState) : Prop := ∀ peer ∈ s.transport.peers, ¬ s.Named uuid peer

/-- The ban ends every live session of the UUID: there is at most the one it finds, and it gets that far. -/
def EndsAll (uuid : String) (env : Outside) (s : ServerState) : Prop :=
  ∀ peer ∈ s.transport.peers, s.Named uuid peer →
    (isBlank uuid ∨ env.saved) ∧ s.peerByUuid uuid = some peer

/-- The request is let in under an id that is still authenticated under the UUID, and that entry stays; or it
logs in under the UUID at once, which needs a blank one. -/
def ReadmitsRequest (uuid : String) (env : Outside) (request : ConnectionRequest) (s : ServerState) : Prop :=
  ∃ ready id, s.admission request = .ok ready ∧ s.allocatedPeer env request = some id ∧
    if s.acceptedPeer env request = some id ∧ s.config.useAuthIdentity = false then
      isBlank uuid ∧ ready.playerMetaDataMessage.playerUuid = uuid
    else s.Named uuid id

/-- The step makes a live session of the UUID: a waiting login is completed, or a request readmits it. -/
def Readmits (uuid : String) (s : ServerState) : Label → Prop
  | .handle _ (.message peer channel _ _) =>
    channel = channels.authIdentity ∧ peer ∈ s.transport.peers ∧
      ∃ ready, s.pendingIdentity.lookup peer = some ready ∧ ready.playerMetaDataMessage.playerUuid = uuid
  | .handle env (.connectionRequest request) => s.ReadmitsRequest uuid env request
  | _ => False

section KeptOut

variable {uuid : String} {s s' : ServerState}

/-- No peer and no name is new. -/
lemma KeptOut.mono (h : s.KeptOut uuid) (hpeers : ∀ peer ∈ s'.transport.peers, peer ∈ s.transport.peers)
    (hnamed : ∀ peer, s'.Named uuid peer → s.Named uuid peer) : s'.KeptOut uuid :=
  fun peer hpeer hname => h peer (hpeers peer hpeer) (hnamed peer hname)

lemma named_of_eq (h : s'.authenticatedPeers = s.authenticatedPeers) (peer : PeerId) :
    s'.Named uuid peer ↔ s.Named uuid peer := by
  unfold Named
  rw [h]

lemma KeptOut.of_posted (h : s.KeptOut uuid) (hp : Posted s s') : s'.KeptOut uuid := by
  obtain ⟨messages, rfl⟩ := hp
  exact h.mono (fun _ hpeer => mem_peers_post.mp hpeer) fun _ hname => hname

lemma keptOut_iff_of_posted (hp : Posted s s') : s'.KeptOut uuid ↔ s.KeptOut uuid := by
  obtain ⟨messages, rfl⟩ := hp
  exact ⟨fun h peer hpeer => h peer (mem_peers_post.mpr hpeer), fun h => h.of_posted ⟨messages, rfl⟩⟩

/-- An arm that touches neither the roster nor the connections. -/
lemma KeptOut.of_frame {store : Store} (hf : Frame store s s') (h : s.KeptOut uuid)
    (hstore : store ∉ [Store.roster, .players, .administration]) : s'.KeptOut uuid := by
  simp only [List.mem_cons, List.not_mem_nil, or_false, not_or] at hstore
  obtain ⟨hroster, hplayers, hadministration⟩ := hstore
  exact h.mono (fun peer hpeer => (hf.peers hadministration peer).mp hpeer)
    fun peer => (named_of_eq (hf.authenticatedPeers hroster hplayers) peer).mp

/-! ### Administration -/

lemma peers_of_administers {env : Outside} {mode : AdminRequestMode} (h : Administers env mode s s') :
    ∀ peer ∈ s'.transport.peers, peer ∈ s.transport.peers := by
  induction h with
  | refl => exact fun peer hpeer => hpeer
  | tail _ haction ih =>
    intro peer hpeer
    refine ih peer ?_
    cases haction with
    | post messages => exact mem_peers_post.mp hpeer
    | disconnect target reason s =>
      rw [disconnect, transport_call_disconnect] at hpeer
      exact (mem_peers_dropLive.mp hpeer).2
    | settings => exact hpeer
    | ban => exact hpeer
    | whitelist => exact hpeer
    | unban => exact hpeer

lemma bans_of_administers {env : Outside} {mode : AdminRequestMode} (hblank : isBlank uuid = false)
    (hmode : ¬ (mode = .unBan ∨ mode = .unBanIP)) (h : Administers env mode s s') (hbans : s.moderation.Bans uuid) :
    s'.moderation.Bans uuid := by
  induction h with
  | refl => exact hbans
  | tail _ haction ih =>
    cases haction with
    | post => exact ih
    | disconnect => exact ih
    | settings => exact ih
    | ban other reason ip =>
      dsimp only
      exact ModerationLists.bans_addBanWithDetails hblank (.inr ih)
    | whitelist => exact ih
    | unban _ _ hunbans => exact absurd hunbans hmode

lemma keptOut_handleAdminMessage (env : Outside) (peer : PeerId) (payload : Bytes) (h : s.KeptOut uuid) :
    (s.handleAdminMessage env peer payload).KeptOut uuid := by
  unfold handleAdminMessage withRead
  split
  next request reader _ =>
    have hadministers := administers_handleAdminRequest env peer request.mode reader s
    have hframe := (writes_of_administers hadministers).frame
    exact h.mono (peers_of_administers hadministers)
      fun peer => (named_of_eq (hframe.authenticatedPeers nofun nofun) peer).mp
  next => exact h

/-! ### Logins -/

lemma keptOut_handleAvatarChangeMessage (peer : PeerId) (payload : Bytes) (h : s.KeptOut uuid) :
    (s.handleAvatarChangeMessage peer payload).KeptOut uuid := by
  unfold handleAvatarChangeMessage onParsed
  split
  next avatar _ =>
    split
    next => exact h
    next =>
      refine (keptOut_iff_of_posted (posted_broadcast _ _ _ _ _)).mpr (h.mono (fun _ hpeer => hpeer) ?_)
      rintro other ⟨entry, hlookup, hname⟩
      replace hlookup : (Dict.modify peer _ s.authenticatedPeers).lookup other = some entry := hlookup
      rw [Dict.lookup_modify] at hlookup
      split at hlookup
      next heq =>
        obtain ⟨entry', hlookup', rfl⟩ := Option.map_eq_some_iff.mp hlookup
        exact ⟨entry', heq ▸ hlookup', hname⟩
      next => exact ⟨entry, hlookup, hname⟩
  next => exact h

lemma named_entered {peerId other : PeerId} {ready : ReadyMessage} :
    (s.entered peerId ready).Named uuid other ↔
      if other = peerId then ready.playerMetaDataMessage.playerUuid = uuid else s.Named uuid other := by
  have hlookup : (s.entered peerId ready).authenticatedPeers.lookup other = if other = peerId then
      some { id := peerId, metadata := ready.playerMetaDataMessage, ready } else s.authenticatedPeers.lookup other :=
    Dict.lookup_insert _ _ _ _
  unfold Named
  rw [hlookup]
  split
  next => simp
  next => rfl

/-- A login under another UUID may replace a session of this one. -/
lemma keptOut_entered_iff {peerId : PeerId} {ready : ReadyMessage}
    (h : ∀ peer ∈ s.transport.peers, peer ≠ peerId → ¬ s.Named uuid peer) :
    (s.entered peerId ready).KeptOut uuid ↔
      ¬ (peerId ∈ s.transport.peers ∧ ready.playerMetaDataMessage.playerUuid = uuid) := by
  constructor
  · rintro hkept ⟨hlive, hname⟩
    refine hkept peerId hlive (named_entered.mpr ?_)
    rw [if_pos rfl]
    exact hname
  · intro hnot peer hpeer hname
    rw [named_entered] at hname
    split at hname
    next heq => exact hnot ⟨heq ▸ hpeer, hname⟩
    next hne => exact h peer hpeer hne hname

lemma keptOut_handleAuthIdentity_iff (env : Outside) (peer : PeerId) (h : s.KeptOut uuid) :
    (s.handleAuthIdentity env peer).KeptOut uuid ↔ ¬ (peer ∈ s.transport.peers ∧
      ∃ ready, s.pendingIdentity.lookup peer = some ready ∧ ready.playerMetaDataMessage.playerUuid = uuid) := by
  unfold handleAuthIdentity
  cases hpending : s.pendingIdentity.lookup peer with
  | none => simpa using h
  | some ready =>
    refine (keptOut_iff_of_posted (posted_finalizeAccept env peer ready _)).trans
      ((keptOut_entered_iff fun other hother _ => h other hother).trans ?_)
    simp only [Option.some.injEq, exists_eq_left']

/-- The connections after a request is let in. -/
lemma keptOut_call_accept_iff {env : Outside} {request : ConnectionRequest} {id : PeerId}
    (hid : s.allocatedPeer env request = some id) (h : s.KeptOut uuid) :
    (s.call (.accept env.allocateFuel request) env).KeptOut uuid ↔ ¬ s.Named uuid id := by
  constructor
  · exact fun hkept => hkept id (mem_peers_call_accept.mpr (.inl hid))
  · intro hnot peer hpeer
    rcases mem_peers_call_accept.mp hpeer with hnew | hold
    · obtain rfl := Option.some.inj (hid.symm.trans hnew)
      exact hnot
    · exact h peer hold

lemma keptOut_handleConnectionRequest_iff {env : Outside} {request : ConnectionRequest}
    (henabled : (s.admission request).isOk → (s.allocatedPeer env request).isSome)
    (hbans : isBlank uuid ∨ s.moderation.Bans uuid) (h : s.KeptOut uuid) :
    (s.handleConnectionRequest env request).KeptOut uuid ↔ ¬ s.ReadmitsRequest uuid env request := by
  cases hadmission : s.admission request with
  | error reason =>
    rw [handleConnectionRequest_of_refused hadmission]
    refine iff_of_true (h.mono (fun peer hpeer => mem_peers_call_reject.mp hpeer) fun _ hname => hname) ?_
    rintro ⟨ready, id, hok, -⟩
    rw [hadmission] at hok
    cases hok
  | ok ready =>
    obtain ⟨id, hid⟩ := Option.isSome_iff_exists.mp (henabled (by rw [hadmission]; rfl))
    have hreadmits : s.ReadmitsRequest uuid env request ↔
        if s.acceptedPeer env request = some id ∧ s.config.useAuthIdentity = false then
          isBlank uuid ∧ ready.playerMetaDataMessage.playerUuid = uuid
        else s.Named uuid id := by
      constructor
      · rintro ⟨ready', id', hok, hid', h⟩
        obtain rfl := Except.ok.inj (hadmission.symm.trans hok)
        obtain rfl := Option.some.inj (hid.symm.trans hid')
        exact h
      · exact fun h => ⟨ready, id, hadmission, hid, h⟩
    rw [hreadmits]
    rcases s.acceptedPeer_eq env request with haccepted | haccepted
    · rw [hid] at haccepted
      rw [handleConnectionRequest_of_some hadmission haccepted]
      rcases greet_cases env id ready (s.call (.accept env.allocateFuel request) env) with ⟨hauth, hp⟩ | ⟨hauth, hp⟩
      · have hauth : s.config.useAuthIdentity = true := hauth
        have hnot : ¬ (s.acceptedPeer env request = some id ∧ s.config.useAuthIdentity = false) :=
          fun hand => by rw [hauth] at hand; cases hand.2
        rw [if_neg hnot, keptOut_iff_of_posted hp]
        exact keptOut_call_accept_iff hid h
      · have hauth : s.config.useAuthIdentity = false := hauth
        rw [if_pos ⟨haccepted, hauth⟩, keptOut_iff_of_posted hp, keptOut_entered_iff, not_iff_not]
        · rw [and_iff_right (mem_peers_call_accept.mpr (.inl hid))]
          refine ⟨fun hname => ⟨hbans.resolve_right fun hb => ?_, hname⟩, fun hand => hand.2⟩
          have hfree := (admitted_of_admission hadmission).uuid
          rw [hname, hb.1] at hfree
          cases hfree
        · intro peer hpeer hne
          rcases mem_peers_call_accept.mp hpeer with hnew | hold
          · exact absurd (Option.some.inj (hnew.symm.trans hid)) hne
          · exact h peer hold
    · have hnot : ¬ (s.acceptedPeer env request = some id ∧ s.config.useAuthIdentity = false) :=
        fun hand => by rw [haccepted] at hand; cases hand.1
      rw [if_neg hnot, handleConnectionRequest_of_none hadmission haccepted]
      exact keptOut_call_accept_iff hid h

/-! ### One step -/

/-- **One step.**  A UUID that is kept out comes back only by a step that readmits it. -/
theorem keptOut_next_iff {l : Label} (henabled : s.Enabled l) (hbans : isBlank uuid ∨ s.moderation.Bans uuid)
    (h : s.KeptOut uuid) : (s.next l).KeptOut uuid ↔ ¬ s.Readmits uuid l := by
  cases l with
  | transport l =>
    refine iff_of_true (h.mono (fun peer hpeer => ?_) fun _ hname => hname) id
    obtain ⟨op, io⟩ := l
    cases op with
    | packet remoteAddr bytes => exact noNewPeers_processPacket remoteAddr bytes (s.transport.world io) peer hpeer
    | timeout target =>
      have hdrop : (s.next (.transport (.timeout target, io))).transport = s.transport.dropLive target :=
        handle_timeoutPeer target (s.transport.world io)
      rw [hdrop] at hpeer
      exact (mem_peers_dropLive.mp hpeer).2
    | resendTo instant target =>
      exact ((stays_resendTo instant target (s.transport.world io)).tables.peers.mem_iff peer).mp hpeer
    | _ => cases henabled
  | handle env event =>
    cases event with
    | connectionRequest request =>
      have henabled : (s.admission request).isOk → (s.allocatedPeer env request).isSome := fun hok =>
        Option.isSome_map.trans (henabled hok)
      exact keptOut_handleConnectionRequest_iff henabled hbans h
    | peerDisconnected peer reason =>
      have hdeparted := departed_handleDisconnect env peer s
      refine iff_of_true (h.mono (fun other hother => (hdeparted.peers other).mp hother) ?_) id
      rintro other ⟨entry, hlookup, hname⟩
      replace hlookup : (s.handleDisconnect env peer).authenticatedPeers.lookup other = some entry := hlookup
      rw [hdeparted.authenticatedPeers, Dict.lookup_erase, Option.ite_none_left_eq_some] at hlookup
      exact ⟨entry, hlookup.2, hname⟩
    | message peer channel delivery payload =>
      have hframe := (writes_handleArm env peer payload s channel delivery (armOf channel)).frame
      change (s.handleArm env peer channel delivery payload (armOf channel)).KeptOut uuid ↔
        ¬ (channel = channels.authIdentity ∧ _)
      by_cases hauth : channel = channels.authIdentity
      · subst hauth
        rw [and_iff_right rfl]
        exact keptOut_handleAuthIdentity_iff env peer h
      · refine iff_of_true ?_ fun hand => hauth hand.1
        cases harm : armOf channel with
        | authIdentity => exact absurd (channel_of_armOf_authIdentity harm) hauth
        | avatarChangeMessage => exact keptOut_handleAvatarChangeMessage peer payload h
        | admin => exact keptOut_handleAdminMessage env peer payload h
        | _ =>
          rw [harm] at hframe
          exact h.of_frame hframe nofun
    | natIntroductionRequest remoteAddr localAddr token =>
      refine iff_of_true ?_ id
      rw [next, handleEvent, handleNatIntroductionRequest]
      split
      next => exact (keptOut_iff_of_posted ⟨_, rfl⟩).mpr h
      next => exact h
    | _ => exact iff_of_true h id

/-- A ban stays until one is lifted. -/
lemma bans_next {l : Label} (hblank : isBlank uuid = false) (hl : ¬ l.Unbans) (hbans : s.moderation.Bans uuid) :
    (s.next l).moderation.Bans uuid := by
  cases l with
  | transport => exact hbans
  | handle env event =>
    cases event with
    | connectionRequest request =>
      obtain ⟨_, _, _, _, _, _, h⟩ := exists_handleConnectionRequest env request s
      rw [next, handleEvent, h]
      exact hbans
    | peerDisconnected peer reason =>
      rw [next, handleEvent, (departed_handleDisconnect env peer s).moderation]
      exact hbans
    | message peer channel delivery payload =>
      have hframe := (writes_handleArm env peer payload s channel delivery (armOf channel)).frame
      change (s.handleArm env peer channel delivery payload (armOf channel)).moderation.Bans uuid
      cases harm : armOf channel with
      | admin =>
        change (s.handleAdminMessage env peer payload).moderation.Bans uuid
        unfold handleAdminMessage withRead
        split
        next request reader hread =>
          refine bans_of_administers hblank (fun hmode => hl ?_)
            (administers_handleAdminRequest env peer request.mode reader s) hbans
          exact ⟨channel_of_armOf_admin harm, request, reader, hread, hmode⟩
        next => exact hbans
      | _ =>
        rw [harm] at hframe
        rw [hframe.moderation nofun]
        exact hbans
    | natIntroductionRequest remoteAddr localAddr token =>
      rw [next, handleEvent, handleNatIntroductionRequest]
      split
      next => exact hbans
      next => exact hbans
    | _ => exact hbans

/-! ### The ban -/

lemma keptOut_disconnectUuid_iff (env : Outside) (reason : String) :
    (s.disconnectUuid env uuid reason).KeptOut uuid ↔
      ∀ peer ∈ s.transport.peers, s.Named uuid peer → s.peerByUuid uuid = some peer := by
  unfold disconnectUuid
  cases htarget : s.peerByUuid uuid with
  | none => exact forall₂_congr fun peer _ => (imp_congr_right fun _ => (iff_false_intro nofun).symm)
  | some target =>
    have hpeers (peer : PeerId) : peer ∈ (s.disconnect env reason target).transport.peers ↔
        peer ≠ target ∧ peer ∈ s.transport.peers := by
      rw [disconnect, transport_call_disconnect]
      exact mem_peers_dropLive
    constructor
    · intro hkept peer hpeer hname
      by_contra hne
      exact hkept peer ((hpeers peer).mpr ⟨fun heq => hne (congrArg some heq.symm), hpeer⟩) hname
    · intro hall peer hpeer hname
      obtain ⟨hne, hpeer⟩ := (hpeers peer).mp hpeer
      exact hne (Option.some.inj (hall peer hpeer hname)).symm

lemma keptOut_ban_iff (env : Outside) (reason : String) (ip : Option String) :
    (s.ban env uuid reason ip).KeptOut uuid ↔ s.EndsAll uuid env := by
  unfold ban EndsAll ModerationLists.addBanWithDetails
  by_cases hblank : isBlank uuid = true
  · simp only [hblank, true_or, true_and]
    exact keptOut_disconnectUuid_iff env reason
  · cases hsaved : env.saved with
    | true =>
      simp only [hblank, Bool.false_eq_true, or_true, true_and]
      exact keptOut_disconnectUuid_iff env reason
    | false =>
      simp only [hblank, Bool.false_eq_true, or_false, false_and, imp_false]
      rfl

lemma moderation_ban (env : Outside) (uuid reason : String) (ip : Option String) (s : ServerState) :
    (s.ban env uuid reason ip).moderation =
      (s.moderation.addBanWithDetails uuid reason ip env.timestamp env.saved).1 := by
  unfold ban
  dsimp only
  generalize (s.moderation.addBanWithDetails uuid reason ip env.timestamp env.saved).1 = moderation
  split
  next =>
    unfold disconnectUuid
    split <;> rfl
  next => rfl

lemma bans_ban (env : Outside) (reason : String) (ip : Option String) (hblank : isBlank uuid = false) :
    (s.ban env uuid reason ip).moderation.Bans uuid := by
  rw [moderation_ban]
  exact ModerationLists.bans_addBanWithDetails hblank (.inl rfl)

/-- The message that bans the UUID is a call of `ban`. -/
lemma exists_handleEvent_ban {payload : Bytes} (hban : BansUuid uuid payload) (env : Outside) (admin : PeerId)
    (delivery : DeliveryMethod) : ∃ reason ip,
      s.handleEvent env (.message admin channels.admin delivery payload) = s.ban env uuid reason ip := by
  obtain ⟨request, rest, rest', hread, hmode, huuid⟩ := hban
  have harm : armOf channels.admin = .admin := by decide
  have hevent : s.handleEvent env (.message admin channels.admin delivery payload) =
      s.handleAdminRequest env admin request.mode rest := by
    rw [handleEvent, handleMessage, harm, handleArm, handleAdminMessage, withRead, hread]
  rw [hevent]
  rcases hmode with hmode | hmode
  · rw [hmode, handleAdminRequest, withRead, huuid]
    exact ⟨_, _, rfl⟩
  · rw [hmode, handleAdminRequest, withRead, huuid]
    exact ⟨_, _, rfl⟩

end KeptOut

/-! ### Runs -/

/-- **When a ban is effective.**  From the ban on, as long as no ban is lifted, no live peer is authenticated
under the UUID if and only if the ban ends all its sessions and no later step readmits it. -/
theorem ban_effective_iff {uuid : String} {payload : Bytes} (hban : BansUuid uuid payload) {s : ServerState}
    {env : Outside} {admin : PeerId} {delivery : DeliveryMethod} {ts : List (Transition ServerState Label)}
    {t : ServerState}
    (hrun : Run Steps (s.handleEvent env (.message admin channels.admin delivery payload)) ts t)
    (hno : ∀ tr ∈ ts, ¬ tr.label.Unbans) :
    ((s.handleEvent env (.message admin channels.admin delivery payload)).KeptOut uuid ∧
      ∀ tr ∈ ts, tr.dst.KeptOut uuid) ↔
    (s.EndsAll uuid env ∧ ∀ tr ∈ ts, ¬ tr.src.Readmits uuid tr.label) := by
  obtain ⟨reason, ip, hevent⟩ := exists_handleEvent_ban (s := s) hban env admin delivery
  rw [hevent] at hrun ⊢
  rw [keptOut_ban_iff]
  refine and_congr_right fun hends => ?_
  have hrun := hrun.restrict (C := fun _ l => ¬ l.Unbans) hno
  have hbans : ∀ (s : ServerState) (l : Label) (t : ServerState), (s.Steps l t ∧ ¬ l.Unbans) →
      (isBlank uuid ∨ s.moderation.Bans uuid) → (isBlank uuid ∨ t.moderation.Bans uuid) := by
    rintro s l t ⟨⟨-, rfl⟩, hl⟩ h
    cases hblank : isBlank uuid with
    | true => exact .inl rfl
    | false => exact .inr (bans_next hblank hl (h.resolve_left fun hb => Bool.false_ne_true (hblank.symm.trans hb)))
  have hfirst : isBlank uuid ∨ (s.ban env uuid reason ip).moderation.Bans uuid := by
    cases hblank : isBlank uuid with
    | true => exact .inl rfl
    | false => exact .inr (bans_ban env reason ip hblank)
  refine hrun.forall_iff (J := fun s => isBlank uuid ∨ s.moderation.Bans uuid) (I := KeptOut uuid)
    (C := fun s l => ¬ s.Readmits uuid l) hfirst hbans ((keptOut_ban_iff env reason ip).mpr hends) ?_
  rintro s l t ⟨⟨henabled, rfl⟩, -⟩ h hkept
  exact keptOut_next_iff henabled h hkept

/-! ### Two sessions of one UUID -/

/-- Two clients come in under the same UUID. -/
def twoSessions : List Label :=
  [handles (.connectionRequest (requestOf 1 "a")), handles (.connectionRequest (requestOf 2 "a"))]

def banPayload : Bytes := AdminRequest.serialize ⟨.ban⟩ ++ putString "a"

lemma bansUuid_banPayload : BansUuid "a" banPayload :=
  ⟨⟨.ban⟩, putString "a", [], rfl, .inl rfl, rfl⟩

def bannedState : ServerState :=
  (twoSessions.foldl next (.start openConfig)).handleEvent plainOutside
    (.message 0 channels.admin .reliableOrdered banPayload)

lemma not_keptOut_bannedState : ¬ bannedState.KeptOut "a" := by
  intro h
  have hlive : 0 ∈ bannedState.transport.peers := by decide +kernel
  have hname : (bannedState.authenticatedPeers.lookup 0).map (·.metadata.playerUuid) = some "a" := by decide +kernel
  obtain ⟨entry, hlookup, hname⟩ := Option.map_eq_some_iff.mp hname
  exact h 0 hlive ⟨entry, hlookup, hname⟩

/-- One of the two sessions is left after the ban. -/
theorem ban_leaves_session : ∃ ts s, Run Steps (.start openConfig) ts s ∧ BansUuid "a" banPayload ∧
    ¬ (s.handleEvent plainOutside (.message 0 channels.admin .reliableOrdered banPayload)).KeptOut "a" :=
  ⟨_, _, run_of_enabled twoSessions (by decide +kernel), bansUuid_banPayload, not_keptOut_bannedState⟩

/-- The equivalence right after this ban: it does not end all sessions. -/
theorem ban_effective_iff_sessions : ¬ (twoSessions.foldl next (.start openConfig)).EndsAll "a" plainOutside := by
  intro hends
  have hiff := ban_effective_iff bansUuid_banPayload
    (.nil : Run Steps bannedState [] bannedState) (fun tr htr => absurd htr List.not_mem_nil)
  exact not_keptOut_bannedState (hiff.mpr ⟨hends, fun tr htr => absurd htr List.not_mem_nil⟩).1

end ServerState
end BasisRust.Core
