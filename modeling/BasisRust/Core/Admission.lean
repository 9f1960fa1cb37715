import BasisRust.Core.Roster

/-!
# Everybody on the roster was admitted

`handle_connection_request` asks eight things of a client, one after another; `admission_eq_ok_iff` says what they come
to.  Over a run, whoever waits for its identity or is on the roster came with a request that met them all when it was
handled, and has not left since; where the server wanted an identity, the peer has sent one.
-/

namespace BasisRust.Core

open Lib Protocol Transport
open Server (ConnectedPeer)

/-! ### The checks -/

lemma refuseIf_eq_ok_iff {condition : Bool} {reason : String} : refuseIf condition reason = .ok () ↔ condition = false := by
  cases condition <;> simp [refuseIf]

lemma readOr_eq_ok_iff {α : Type} {read : ReadResult α} {reader rest : NetReader} {reason : String} {a : α} :
    readOr read reader reason = .ok (a, rest) ↔ read reader = .ok a rest := by
  unfold readOr
  split
  next hread => simp [hread]
  next hread => simp [hread]

lemma bind_eq_ok_iff {α β : Type} {x : Except String α} {f : α → Except String β} {b : β} :
    (x >>= f) = .ok b ↔ ∃ a, x = .ok a ∧ f a = .ok b := by
  refine ⟨ServerState.ok_of_bind_eq_ok, ?_⟩
  rintro ⟨a, rfl, h⟩
  exact h

namespace ServerState

/-- The client is not too old, gives the password and can be read to the end. -/
def Legible (request : ConnectionRequest) (ready : ReadyMessage) (s : ServerState) : Prop :=
  ∃ clientVersion auth afterVersion afterAuth rest,
    getU16 request.payload = .ok clientVersion afterVersion ∧
    BytesMessage.deserialize afterVersion = .ok auth afterAuth ∧
    ReadyMessage.deserialize afterAuth = .ok ready rest ∧
    serverVersion ≤ clientVersion ∧ (s.config.useAuth = true → passwordMatches s.config.password auth.data = true)

/-- **What the server asks of a client.** -/
theorem admission_eq_ok_iff {request : ConnectionRequest} {ready : ReadyMessage} {s : ServerState} :
    s.admission request = .ok ready ↔ s.Admitted request ready ∧ s.Legible request ready := by
  constructor
  · intro h
    refine ⟨admitted_of_admission h, ?_⟩
    unfold admission at h
    obtain ⟨_, -, h⟩ := ok_of_bind_eq_ok h
    obtain ⟨_, -, h⟩ := ok_of_bind_eq_ok h
    obtain ⟨⟨clientVersion, afterVersion⟩, hversion, h⟩ := ok_of_bind_eq_ok h
    obtain ⟨_, hrecent, h⟩ := ok_of_bind_eq_ok h
    obtain ⟨⟨auth, afterAuth⟩, hauth, h⟩ := ok_of_bind_eq_ok h
    obtain ⟨_, hpassword, h⟩ := ok_of_bind_eq_ok h
    obtain ⟨⟨read, rest⟩, hready, h⟩ := ok_of_bind_eq_ok h
    obtain ⟨_, -, h⟩ := ok_of_bind_eq_ok h
    obtain ⟨_, -, h⟩ := ok_of_bind_eq_ok h
    obtain ⟨_, -, h⟩ := ok_of_bind_eq_ok h
    obtain ⟨_, -, h⟩ := ok_of_bind_eq_ok h
    cases h
    have hrecent := of_decide_eq_false (of_refuseIf hrecent)
    have hpassword := of_refuseIf hpassword
    refine ⟨clientVersion, auth, afterVersion, afterAuth, rest, readOr_eq_ok_iff.mp hversion,
      readOr_eq_ok_iff.mp hauth, readOr_eq_ok_iff.mp hready, UInt16.not_lt.mp hrecent, fun huse => ?_⟩
    rw [huse, Bool.true_and, Bool.not_eq_false'] at hpassword
    exact hpassword
  · rintro ⟨hadmitted, clientVersion, auth, afterVersion, afterAuth, rest, hversion, hauth, hready, hrecent, hpassword⟩
    have hroom : decide (s.playerCount ≥ asUsize s.config.peerLimit) = false :=
      decide_eq_false (not_le.mpr hadmitted.room)
    have hold : decide (clientVersion < serverVersion) = false := decide_eq_false (UInt16.not_lt.mpr hrecent)
    have hwrong : (s.config.useAuth && !passwordMatches s.config.password auth.data) = false := by
      cases huse : s.config.useAuth with
      | false => rfl
      | true => rw [hpassword huse]; rfl
    simp only [admission, bind_eq_ok_iff]
    refine ⟨(), refuseIf_eq_ok_iff.mpr hadmitted.ip, (), refuseIf_eq_ok_iff.mpr hroom, _, readOr_eq_ok_iff.mpr hversion,
      (), refuseIf_eq_ok_iff.mpr hold, _, readOr_eq_ok_iff.mpr hauth, (), refuseIf_eq_ok_iff.mpr hwrong, _,
      readOr_eq_ok_iff.mpr hready, (), refuseIf_eq_ok_iff.mpr hadmitted.headless, (),
      refuseIf_eq_ok_iff.mpr hadmitted.uuid, (), refuseIf_eq_ok_iff.mpr hadmitted.whitelist, (),
      refuseIf_eq_ok_iff.mpr hadmitted.blacklist, rfl⟩

/-! ### One step -/

end ServerState

/-- The peer's departure is handled. -/
def Label.Departs (peer : PeerId) : Label → Prop
  | .handle _ (.peerDisconnected other _) => other = peer
  | _ => False

/-- A message of the peer on the identity channel is handled. -/
def Label.Identifies (peer : PeerId) (l : Label) : Prop :=
  ∃ env delivery payload, l = .handle env (.message peer channels.authIdentity delivery payload)

namespace ServerState

/-- The step is a request that meets every check and becomes the peer. -/
def LetsIn (peer : PeerId) (ready : ReadyMessage) (tr : Transition ServerState Label) : Prop :=
  ∃ env request, tr.label = .handle env (.connectionRequest request) ∧
    tr.src.acceptedPeer env request = some peer ∧ tr.src.Admitted request ready ∧ tr.src.Legible request ready

/-- The player of a ready message. -/
def playerOf (peer : PeerId) (ready : ReadyMessage) : ConnectedPeer :=
  { id := peer, metadata := ready.playerMetaDataMessage, ready }

/-- **What a step does to those who wait and those who are on the roster.** -/
inductive RosterStep (s : ServerState) (l : Label) (s' : ServerState) : Prop
  | kept (hpending : s'.pendingIdentity = s.pendingIdentity)
      (hplayers : s.authenticatedPeers.Rel SamePlayer s'.authenticatedPeers) (hstays : ∀ peer, ¬ l.Departs peer)
  | waits {peer : PeerId} {ready : ReadyMessage} (hlets : LetsIn peer ready ⟨s, l, s'⟩)
      (hpending : s'.pendingIdentity = s.pendingIdentity.insert peer ready)
      (hplayers : s'.authenticatedPeers = s.authenticatedPeers)
  | enters {peer : PeerId} {ready : ReadyMessage} (hlets : LetsIn peer ready ⟨s, l, s'⟩)
      (hidentity : s.config.useAuthIdentity = false) (hpending : s'.pendingIdentity = s.pendingIdentity)
      (hplayers : s'.authenticatedPeers = s.authenticatedPeers.insert peer (playerOf peer ready))
  | identified {peer : PeerId} {ready : ReadyMessage} (hidentifies : l.Identifies peer)
      (hwaits : s.pendingIdentity.lookup peer = some ready)
      (hpending : s'.pendingIdentity = s.pendingIdentity.erase peer)
      (hplayers : s'.authenticatedPeers = s.authenticatedPeers.insert peer (playerOf peer ready))
  | departed {peer : PeerId} (hdeparts : ∀ other, l.Departs other ↔ peer = other)
      (hpending : s'.pendingIdentity = s.pendingIdentity.erase peer)
      (hplayers : s'.authenticatedPeers = s.authenticatedPeers.erase peer)

lemma rosterStep_handleConnectionRequest (env : Outside) (request : ConnectionRequest) (s : ServerState) :
    RosterStep s (.handle env (.connectionRequest request)) (s.handleConnectionRequest env request) := by
  have hcall (op : Op) : RosterStep s (.handle env (.connectionRequest request)) (s.call op env) :=
    .kept rfl (.refl .refl _) fun _ h => h
  cases hadmission : s.admission request with
  | error reason =>
    rw [handleConnectionRequest_of_refused hadmission]
    exact hcall _
  | ok ready =>
    cases haccepted : s.acceptedPeer env request with
    | none =>
      rw [handleConnectionRequest_of_none hadmission haccepted]
      exact hcall _
    | some peer =>
      obtain ⟨hadmitted, hlegible⟩ := admission_eq_ok_iff.mp hadmission
      have hlets (s' : ServerState) : LetsIn peer ready ⟨s, .handle env (.connectionRequest request), s'⟩ :=
        ⟨env, request, rfl, haccepted, hadmitted, hlegible⟩
      rw [handleConnectionRequest_of_some hadmission haccepted]
      rcases greet_cases env peer ready (s.call (.accept env.allocateFuel request) env) with ⟨-, m, h⟩ | ⟨hidentity, m, h⟩
      · rw [h]
        exact .waits (hlets _) rfl rfl
      · rw [h]
        exact .enters (hlets _) hidentity rfl rfl

lemma rosterStep_handleMessage (env : Outside) (peer : PeerId) (channel : UInt8) (delivery : DeliveryMethod)
    (payload : Bytes) (s : ServerState) : RosterStep s (.handle env (.message peer channel delivery payload))
      (s.handleMessage env peer channel delivery payload) := by
  unfold handleMessage
  have hframe := (writes_handleArm env peer payload s channel delivery (armOf channel)).frame
  cases harm : armOf channel with
  | authIdentity =>
    obtain rfl := channel_of_armOf_authIdentity harm
    change RosterStep s _ (s.handleAuthIdentity env peer)
    unfold handleAuthIdentity
    split
    next => exact .kept rfl (.refl .refl _) fun _ h => h
    next ready hwaits =>
      obtain ⟨m, h⟩ := posted_finalizeAccept env peer ready { s with pendingIdentity := s.pendingIdentity.erase peer }
      rw [h]
      exact .identified ⟨env, delivery, payload, rfl⟩ hwaits rfl rfl
  | avatarChangeMessage =>
    have hagrees := @agrees_handleAvatarChangeMessage [] peer payload s
    exact .kept hagrees.pendingIdentity hagrees.authenticatedPeers fun _ h => h
  | _ =>
    rw [harm] at hframe
    refine .kept (hframe.pendingIdentity nofun) ?_ fun _ h => h
    rw [hframe.authenticatedPeers nofun nofun]
    exact .refl .refl _

theorem rosterStep_next (s : ServerState) (l : Label) : RosterStep s l (s.next l) := by
  have hsame (hstays : ∀ peer, ¬ l.Departs peer) : RosterStep s l s := .kept rfl (.refl .refl _) hstays
  cases l with
  | transport l => exact .kept rfl (.refl .refl _) fun _ h => h
  | handle env event =>
    cases event with
    | connectionRequest request => exact rosterStep_handleConnectionRequest env request s
    | peerDisconnected peer reason =>
      have hleft := departed_handleDisconnect env peer s
      exact .departed (fun _ => Iff.rfl) hleft.pendingIdentity hleft.authenticatedPeers
    | message peer channel delivery payload => exact rosterStep_handleMessage env peer channel delivery payload s
    | natIntroductionRequest remoteAddr localAddr token =>
      rw [next, handleEvent, handleNatIntroductionRequest]
      split
      next => exact .kept rfl (.refl .refl _) fun _ h => h
      next => exact hsame fun _ h => h
    | unconnectedRequest => exact hsame fun _ h => h
    | networkError => exact hsame fun _ h => h
    | peerConnected => exact hsame fun _ h => h

/-! ### A run -/

section Run

variable {config : ServerConfig} {ts : List (Transition ServerState Label)} {s : ServerState} {peer : PeerId}

lemma not_departs_of_letsIn {other : PeerId} {ready : ReadyMessage} {tr : Transition ServerState Label}
    (h : LetsIn other ready tr) : ¬ tr.label.Departs peer := by
  obtain ⟨env, request, hlabel, -⟩ := h
  rw [hlabel]
  exact id

lemma not_departs_of_identifies {other : PeerId} {l : Label} (h : l.Identifies other) : ¬ l.Departs peer := by
  obtain ⟨env, delivery, payload, rfl⟩ := h
  exact id

/-- Whoever waits came with a request that was let in, and has not left since. -/
lemma letsIn_of_pending (hrun : Run Steps (.start config) ts s) {ready : ReadyMessage}
    (hwaits : s.pendingIdentity.lookup peer = some ready) :
    ∃ before tr after, ts = before ++ tr :: after ∧ LetsIn peer ready tr ∧ ∀ tr' ∈ after, ¬ tr'.label.Departs peer := by
  have hnone : ¬ (ServerState.start config).pendingIdentity.lookup peer = some ready := nofun
  refine Run.since (P := fun s => s.pendingIdentity.lookup peer = some ready) hnone ?_ hrun hwaits
  rintro s l s' ⟨-, rfl⟩ hwaits
  cases rosterStep_next s l with
  | kept hpending _ hstays => exact .inr ⟨hpending ▸ hwaits, hstays peer⟩
  | @waits other _ hlets hpending =>
    rw [hpending, Dict.lookup_insert] at hwaits
    split_ifs at hwaits with hother
    · obtain rfl := Option.some.inj hwaits
      exact .inl (hother ▸ hlets)
    · exact .inr ⟨hwaits, not_departs_of_letsIn hlets⟩
  | enters hlets _ hpending => exact .inr ⟨hpending ▸ hwaits, not_departs_of_letsIn hlets⟩
  | identified hidentifies _ hpending =>
    rw [hpending, Dict.lookup_erase] at hwaits
    split_ifs at hwaits
    exact .inr ⟨hwaits, not_departs_of_identifies hidentifies⟩
  | departed hdeparts hpending =>
    rw [hpending, Dict.lookup_erase] at hwaits
    split_ifs at hwaits with hother
    exact .inr ⟨hwaits, fun h => hother ((hdeparts peer).mp h).symm⟩

/-- The peer enters with the ready message: at once, or after it has waited and sent its identity. -/
def ComesIn (peer : PeerId) (ready : ReadyMessage) (tr : Transition ServerState Label) : Prop :=
  LetsIn peer ready tr ∧ tr.src.config.useAuthIdentity = false ∨
    tr.label.Identifies peer ∧ tr.src.pendingIdentity.lookup peer = some ready

lemma enters_of_roster (hrun : Run Steps (.start config) ts s) {player : ConnectedPeer}
    (hplayer : s.authenticatedPeers.lookup peer = some player) :
    ∃ before tr after, ts = before ++ tr :: after ∧
      (∃ ready, player.metadata = ready.playerMetaDataMessage ∧ ComesIn peer ready tr) ∧
      ∀ tr' ∈ after, ¬ tr'.label.Departs peer := by
  let Here (s : ServerState) : Prop :=
    ∃ here, s.authenticatedPeers.lookup peer = some here ∧ here.metadata = player.metadata
  have hnone : ¬ Here (.start config) := by
    rintro ⟨_, hhere, -⟩
    cases hhere
  refine Run.since (P := Here) hnone ?_ hrun ⟨player, hplayer, rfl⟩
  rintro s l s' ⟨-, rfl⟩ ⟨here, hhere, hmetadata⟩
  cases rosterStep_next s l with
  | kept _ hplayers hstays =>
    obtain ⟨before, hbefore, hsame⟩ := hplayers.lookup_eq_some' hhere
    exact .inr ⟨⟨before, hbefore, hsame.metadata.symm.trans hmetadata⟩, hstays peer⟩
  | waits hlets _ hplayers => exact .inr ⟨⟨here, hplayers ▸ hhere, hmetadata⟩, not_departs_of_letsIn hlets⟩
  | @enters other ready hlets hidentity _ hplayers =>
    rw [hplayers, Dict.lookup_insert] at hhere
    split_ifs at hhere with hother
    · obtain rfl := Option.some.inj hhere
      exact .inl ⟨ready, hmetadata.symm, .inl ⟨hother ▸ hlets, hidentity⟩⟩
    · exact .inr ⟨⟨here, hhere, hmetadata⟩, not_departs_of_letsIn hlets⟩
  | @identified other ready hidentifies hwaits _ hplayers =>
    rw [hplayers, Dict.lookup_insert] at hhere
    split_ifs at hhere with hother
    · obtain rfl := Option.some.inj hhere
      exact .inl ⟨ready, hmetadata.symm, .inr ⟨hother ▸ hidentifies, hother ▸ hwaits⟩⟩
    · exact .inr ⟨⟨here, hhere, hmetadata⟩, not_departs_of_identifies hidentifies⟩
  | departed hdeparts _ hplayers =>
    rw [hplayers, Dict.lookup_erase] at hhere
    split_ifs at hhere with hother
    exact .inr ⟨⟨here, hhere, hmetadata⟩, fun h => hother ((hdeparts peer).mp h).symm⟩

/-- **Everybody on the roster was admitted.**  In every state that is reached, a player on the roster came with a
request that met every check when it was handled, has its metadata of that request and has not left since; where the
server wanted an identity then, the peer has sent a message on the identity channel. -/
theorem everybody_was_admitted (hrun : Run Steps (.start config) ts s) {player : ConnectedPeer}
    (hplayer : s.authenticatedPeers.lookup peer = some player) :
    ∃ before tr after ready, ts = before ++ tr :: after ∧ LetsIn peer ready tr ∧
      player.metadata = ready.playerMetaDataMessage ∧ (∀ tr' ∈ after, ¬ tr'.label.Departs peer) ∧
      (tr.src.config.useAuthIdentity = true → ∃ tr' ∈ after, tr'.label.Identifies peer) := by
  obtain ⟨before, tr, after, rfl, ⟨ready, hmetadata, henters⟩, hstays⟩ := enters_of_roster hrun hplayer
  rcases henters with ⟨hlets, hidentity⟩ | ⟨hidentifies, hwaits⟩
  · refine ⟨before, tr, after, ready, rfl, hlets, hmetadata, hstays, fun hwanted => ?_⟩
    exact absurd hwanted (hidentity ▸ Bool.false_ne_true)
  · -- what led to the wait came before
    obtain ⟨earlier, tr₀, between, rfl, hlets, hwaited⟩ := letsIn_of_pending hrun.split hwaits
    refine ⟨earlier, tr₀, between ++ tr :: after, ready, by rw [List.append_assoc, List.cons_append], hlets, hmetadata,
      ?_, fun _ => ⟨tr, List.mem_append_right _ List.mem_cons_self, hidentifies⟩⟩
    exact List.forall_mem_append.mpr
      ⟨hwaited, List.forall_mem_cons.mpr ⟨not_departs_of_identifies hidentifies, hstays⟩⟩

end Run

/-- A client is let in and answers the challenge. -/
def identification : List Label :=
  [handles (.connectionRequest (requestOf 1 "a")), messageOf 0 channels.authIdentity []]

theorem everybody_was_admitted_identified : ∃ before tr after ready,
    trace next (.start { password := "" }) identification = before ++ tr :: after ∧ LetsIn 0 ready tr ∧
      (readyOf "a").playerMetaDataMessage = ready.playerMetaDataMessage ∧
      (∀ tr' ∈ after, ¬ tr'.label.Departs 0) ∧
      (tr.src.config.useAuthIdentity = true → ∃ tr' ∈ after, tr'.label.Identifies 0) := by
  have henabled : ∀ tr ∈ trace next (.start { password := "" }) identification, tr.src.Enabled tr.label := by
    decide +kernel
  have hplayer : (identification.foldl next (.start { password := "" })).authenticatedPeers.lookup 0 =
      some (playerOf 0 (readyOf "a")) := by decide +kernel
  exact everybody_was_admitted (run_of_enabled _ henabled) hplayer

end ServerState
end BasisRust.Core
