import BasisRust.Replica.Sessions
import BasisRust.Replica.Sound

/-!
# Following the server

A `Copy` is something the server keeps together with a reading of a player's messages.  `Copy.follows` is the rule by
which they agree all along a player's stay: it is brought up to date on entering, and every later change is told.
Only the handlers that write the stores or use the channels in question have to be looked at.
-/

namespace BasisRust.Replica

open Lib Protocol Transport
open BasisRust.Core P2p Resources

/-- Something the server keeps, and how a player reads it off its messages. -/
structure Copy (T V : Type) where
  reading : Reading UInt8 Bytes V
  /-- where it is kept -/
  stores : List Store
  truth : ServerState → T
  Agrees : PeerId → T → V → Prop
  truth_frame : ∀ {store s s'}, store ∉ stores → ServerState.Frame store s s' → truth s' = truth s
  truth_moved : ∀ s transport sent pendingIdentity, truth { s with transport, sent, pendingIdentity } = truth s
  p2pBroker : .p2pBroker ∉ stores
  authIdentity : channels.authIdentity ∉ reading.uses

/-- What a player does with a message, if it can read it. -/
def onRead {α V : Type} (read : ReadResult α) (learn : α → V → V) (payload : Bytes) (v : V) : V :=
  match parse read payload with
  | some a => learn a v
  | none => v

lemma onRead_of_decodes {α V : Type} {read : ReadResult α} {payload : Bytes} {a : α} (h : Decodes read payload a)
    (learn : α → V → V) (v : V) : onRead read learn payload v = learn a v := by
  unfold onRead
  rw [parse_of_decodes h]

/-- The player stays from some point on, where it is not there yet: from the start of the server to `ts` behind that
point, at whose end it is on the roster.  As long as it is, its connection lasts. -/
structure Stay (config : ServerConfig) (p : PeerId) (ts : List (Transition ServerState Label)) (s : ServerState) :
    Prop where
  run : ∃ before s₀, Run ServerState.Steps (.start config) before s₀ ∧ p ∉ s₀.authenticatedPeers ∧
    Run ServerState.Steps s₀ ts s
  live : ∀ tr ∈ ts, p ∈ tr.dst.authenticatedPeers → p ∈ tr.dst.transport.peers
  here : p ∈ s.authenticatedPeers

namespace Copy

variable {T V : Type} (C : Copy T V)

/-- What the player makes of what it has been told. -/
def view (p : PeerId) (s : ServerState) : V := C.reading.replay (told p s) C.reading.blank

def Holds (p : PeerId) (s : ServerState) : Prop := C.Agrees p (C.truth s) (C.view p s)

/-- An arm that may matter. -/
def Concerns (arm : Arm) : Prop := arm.store ∈ C.stores ∨ ∃ channel ∈ armChannels arm, channel ∈ C.reading.uses

instance (arm : Arm) : Decidable (C.Concerns arm) := inferInstanceAs (Decidable (_ ∨ _))

lemma voiceRecipients_of_concerns {C : Copy T V} {largeCount inverted : Bool}
    (h : C.Concerns (.audioRecipients largeCount inverted)) : Store.voiceRecipients ∈ C.stores :=
  h.resolve_right fun ⟨_, hchannel, _⟩ => absurd hchannel List.not_mem_nil

/-- What has to be shown; `I` is what is known of the states of the stay. -/
structure Follows (p : PeerId) (I : ServerState → Prop) : Prop where
  welcomed : ∀ (env : Outside) (ready : ReadyMessage) (s : ServerState), Sound s → Passable ready →
    p ∈ s.transport.peers → I (s.finalizeAccept env p ready) → C.Holds p (s.finalizeAccept env p ready)
  met : ∀ (env : Outside) (q : PeerId) (ready : ReadyMessage) (s : ServerState), Sound s → Passable ready → q ≠ p →
    Stays p s → C.Holds p s → C.Holds p (s.finalizeAccept env q ready)
  left : ∀ (env : Outside) (q : PeerId) (s : ServerState), Sound s → q ≠ p → Stays p s → C.Holds p s →
    C.Holds p (s.handleDisconnect env q)
  handled : ∀ (env : Outside) (q : PeerId) (channel : UInt8) (delivery : DeliveryMethod) (payload : Bytes) (arm : Arm)
    (s : ServerState), arm ≠ .authIdentity → C.Concerns arm → Sound s → Stays p s → C.Holds p s →
    C.Holds p (s.handleArm env q channel delivery payload arm)

variable {C} {p q : PeerId} {env : Outside} {ready : ReadyMessage} {s s' : ServerState} {I : ServerState → Prop}

/-- Nothing has changed that the player would have to be told, and it has been told nothing. -/
lemma Holds.of_tells {used : List UInt8} (h : C.Holds p s) (htruth : C.truth s' = C.truth s) (htells : Tells used s s')
    (hmetaData : channels.metaData ∉ used) (hused : ∀ channel ∈ used, channel ∉ C.reading.uses) : C.Holds p s' := by
  unfold Holds view
  rw [htruth, htells.replay hmetaData hused]
  exact h

lemma Holds.moved (h : C.Holds p s) (transport : TransportHandle) (pendingIdentity : Dict PeerId ReadyMessage) :
    C.Holds p { s with transport, pendingIdentity } := by
  refine h.of_tells (C.truth_moved s transport s.sent pendingIdentity) (.refl [] s) List.not_mem_nil ?_
  exact fun _ hchannel => absurd hchannel List.not_mem_nil

/-- The player's own entry. -/
lemma holds_welcome (hp : p ∈ s.transport.peers)
    (h : C.Agrees p (C.truth (s.entered p ready)) (C.reading.replay (welcome p (s.entered p ready)) C.reading.blank)) :
    C.Holds p (s.finalizeAccept env p ready) := by
  obtain ⟨messages, hposted⟩ := ServerState.posted_finalizeAccept env p ready s
  have htruth : C.truth (s.finalizeAccept env p ready) = C.truth (s.entered p ready) := by
    rw [hposted]
    exact C.truth_moved (s.entered p ready) _ _ _
  unfold Holds view
  rw [htruth, told_finalizeAccept env ready hp]
  exact h

/-- Somebody else's entry, which tells of nothing but the player. -/
lemma Holds.met (h : C.Holds p s) (hstays : Stays p s) (hq : q ≠ p) (htruth : C.truth (s.entered q ready) = C.truth s)
    (hused : channels.createRemotePlayer ∉ C.reading.uses) : C.Holds p (s.finalizeAccept env q ready) := by
  obtain ⟨messages, hposted⟩ := ServerState.posted_finalizeAccept env q ready s
  have htruth' : C.truth (s.finalizeAccept env q ready) = C.truth s := by
    rw [hposted, ← htruth]
    exact C.truth_moved (s.entered q ready) _ _ _
  unfold Holds view at h ⊢
  rw [htruth', told_finalizeAccept_of_ne env ready hstays.live hstays.auth hq, C.reading.replay_append,
    C.reading.replay_of_unused (List.forall_mem_singleton.mpr hused)]
  exact h

/-- What those who stay make of somebody's leaving. -/
lemma view_left (env : Outside) (hstays : Stays p s) (hq : q ≠ p) (hp2p : channels.p2p ∉ C.reading.uses) :
    Left q s (s.handleDisconnect env q) ∧ C.view p (s.handleDisconnect env q) =
      C.reading.replay (if q ∈ s.authenticatedPeers then rosterLeft q s else [])
        (C.reading.replay (cameraLeft q s) (C.reading.replay (spheresLeft q s)
          (C.reading.replay (ownersLeft q s) (C.view p s)))) := by
  obtain ⟨hleft, signals, htold, hsignals⟩ := told_handleDisconnect env hstays hq
  refine ⟨hleft, ?_⟩
  unfold view
  simp only [htold, Reading.replay_append]
  rw [C.reading.replay_of_kind hsignals hp2p]

lemma replay_rosterLeft (hspawn : channels.spawnPreloaded ∉ C.reading.uses)
    (hdisconnection : channels.disconnection ∉ C.reading.uses) (v : V) :
    C.reading.replay (if q ∈ s.authenticatedPeers then rosterLeft q s else []) v = v := by
  refine C.reading.replay_of_unused (fun r hr => ?_) v
  split at hr
  next =>
    rcases List.mem_append.mp hr with hr | hr
    · exact channel_of_map r hr ▸ hspawn
    · exact List.mem_singleton.mp hr ▸ hdisconnection
  next => exact absurd hr List.not_mem_nil

/-- The channels on which those who stay are told that somebody has gone. -/
def leavingChannels : List UInt8 :=
  [channels.p2p, channels.removeCurrentOwnerRequest, channels.contentShareCleanup, channels.cameraPipState,
    channels.spawnPreloaded, channels.disconnection]

/-- Somebody leaves who has nothing to do with it. -/
lemma Holds.left (h : C.Holds p s) (hstays : Stays p s) (hq : q ≠ p)
    (htruth : ∀ s', Left q s s' → C.truth s' = C.truth s)
    (hused : ∀ channel ∈ leavingChannels, channel ∉ C.reading.uses) : C.Holds p (s.handleDisconnect env q) := by
  obtain ⟨hleft, hview⟩ := C.view_left env hstays hq (hused _ (by decide))
  unfold Holds at h ⊢
  rw [htruth _ hleft, hview, C.reading.replay_of_kind channel_of_ownersLeft (hused _ (by decide)),
    C.reading.replay_of_kind channel_of_spheresLeft (hused _ (by decide)),
    C.reading.replay_of_kind channel_of_cameraLeft (hused _ (by decide)),
    replay_rosterLeft (hused _ (by decide)) (hused _ (by decide))]
  exact h

/-! ### Steps -/

/-- Somebody is let in, the player itself or another one. -/
lemma holds_finalizeAccept (hfollows : C.Follows p I) (hsound : Sound s) (hready : Passable ready)
    (hholds : p ∈ s.authenticatedPeers → C.Holds p s)
    (hhere : p ∈ (s.finalizeAccept env q ready).authenticatedPeers)
    (hlive : p ∈ (s.finalizeAccept env q ready).transport.peers) (hI : I (s.finalizeAccept env q ready)) :
    C.Holds p (s.finalizeAccept env q ready) := by
  obtain ⟨messages, hposted⟩ := ServerState.posted_finalizeAccept env q ready s
  have hp : p ∈ s.transport.peers := by
    rw [hposted] at hlive
    exact ServerState.mem_peers_post.mp hlive
  by_cases hq : q = p
  · subst hq
    exact hfollows.welcomed env ready s hsound hready hp hI
  · have hauth : p ∈ s.authenticatedPeers := by
      rw [hposted] at hhere
      exact ((AList.mem_insert _).mp hhere).resolve_left fun h => hq h.symm
    exact hfollows.met env q ready s hsound hready hq ⟨hp, hauth⟩ (hholds hauth)

/-- Apart from letting a player in, no arm changes who is there. -/
lemma mem_handleArm (env : Outside) (q : PeerId) (channel : UInt8) (delivery : DeliveryMethod) (payload : Bytes)
    {arm : Arm} (harm : arm ≠ .authIdentity) :
    p ∈ (s.handleArm env q channel delivery payload arm).authenticatedPeers ↔ p ∈ s.authenticatedPeers := by
  have hframe := (ServerState.writes_handleArm env q payload s channel delivery arm).frame
  cases arm with
  | authIdentity => exact absurd rfl harm
  | avatarChangeMessage =>
    refine ServerState.onParsed_of (P := fun s' => p ∈ s'.authenticatedPeers ↔ p ∈ s.authenticatedPeers) Iff.rfl
      fun avatar => ?_
    split
    next => exact Iff.rfl
    next => exact Dict.mem_modify
  | _ => rw [hframe.authenticatedPeers nofun nofun]

lemma holds_handleArm (hfollows : C.Follows p I) {channel : UInt8} {delivery : DeliveryMethod} {payload : Bytes}
    (hsound : Sound s) (hbefore : p ∈ s.authenticatedPeers → p ∈ s.transport.peers ∧ C.Holds p s)
    (hhere : p ∈ (s.handleMessage env q channel delivery payload).authenticatedPeers)
    (hlive : p ∈ (s.handleMessage env q channel delivery payload).transport.peers)
    (hI : I (s.handleMessage env q channel delivery payload)) :
    C.Holds p (s.handleMessage env q channel delivery payload) := by
  unfold ServerState.handleMessage at hhere hlive hI ⊢
  generalize harm : armOf channel = arm at hhere hlive hI ⊢
  by_cases hauth : arm = .authIdentity
  · subst hauth
    change p ∈ (s.handleAuthIdentity env q).authenticatedPeers at hhere
    change p ∈ (s.handleAuthIdentity env q).transport.peers at hlive
    change I (s.handleAuthIdentity env q) at hI
    change C.Holds p (s.handleAuthIdentity env q)
    unfold ServerState.handleAuthIdentity at hhere hlive hI ⊢
    cases hpending : s.pendingIdentity.lookup q with
    | none =>
      rw [hpending] at hhere
      exact (hbefore hhere).2
    | some ready =>
      rw [hpending] at hhere hlive hI
      refine holds_finalizeAccept hfollows ?_ (hsound.pending q ready hpending) ?_ hhere hlive hI
      · exact ⟨hsound.players, hsound.pending.erase, hsound.netIds, hsound.resources, hsound.owners, hsound.spheres,
          hsound.cameras⟩
      · exact fun hin => (hbefore hin).2.moved s.transport _
  · have hin := (mem_handleArm env q channel delivery payload hauth).mp hhere
    obtain ⟨hp, hholds⟩ := hbefore hin
    by_cases hconcerns : C.Concerns arm
    · exact hfollows.handled env q channel delivery payload arm s hauth hconcerns hsound ⟨hp, hin⟩ hholds
    · unfold Concerns at hconcerns
      push Not at hconcerns
      have hframe := (ServerState.writes_handleArm env q payload s channel delivery arm).frame
      exact hholds.of_tells (C.truth_frame hconcerns.1 hframe) (tells_handleArm env q payload s delivery harm hauth)
        (metaData_notMem_armChannels arm) hconcerns.2

lemma holds_handleConnectionRequest (hfollows : C.Follows p I) {request : ConnectionRequest} (hsound : Sound s)
    (hbefore : p ∈ s.authenticatedPeers → p ∈ s.transport.peers ∧ C.Holds p s)
    (hhere : p ∈ (s.handleConnectionRequest env request).authenticatedPeers)
    (hlive : p ∈ (s.handleConnectionRequest env request).transport.peers)
    (hI : I (s.handleConnectionRequest env request)) : C.Holds p (s.handleConnectionRequest env request) := by
  cases hadmission : s.admission request with
  | error reason =>
    rw [ServerState.handleConnectionRequest_of_refused hadmission] at hhere ⊢
    exact (hbefore hhere).2.moved _ s.pendingIdentity
  | ok ready =>
    cases haccepted : s.acceptedPeer env request with
    | none =>
      rw [ServerState.handleConnectionRequest_of_none hadmission haccepted] at hhere ⊢
      exact (hbefore hhere).2.moved _ s.pendingIdentity
    | some q =>
      rw [ServerState.handleConnectionRequest_of_some hadmission haccepted] at hhere hlive hI ⊢
      have hready := passable_of_admission hadmission
      unfold ServerState.greet at hhere hlive hI ⊢
      split
      next hidentity =>
        rw [if_pos hidentity] at hhere
        have hmoved := (hbefore hhere).2.moved (s.call (.accept env.allocateFuel request) env).transport
          (s.pendingIdentity.insert q ready)
        refine hmoved.of_tells (C.truth_moved _ _ _ _)
          (.send (List.mem_singleton_self channels.authIdentity) _ _ _) (by decide) ?_
        exact List.forall_mem_singleton.mpr C.authIdentity
      next hidentity =>
        rw [if_neg hidentity] at hhere hlive hI
        refine holds_finalizeAccept hfollows ?_ hready (fun hin => ?_) hhere hlive hI
        · exact ⟨hsound.players, hsound.pending, hsound.netIds, hsound.resources, hsound.owners, hsound.spheres,
            hsound.cameras⟩
        · exact (hbefore hin).2.moved _ s.pendingIdentity

/-- **One step.** -/
theorem holds_step (hfollows : C.Follows p I) {l : Label} (hsound : Sound s)
    (hbefore : p ∈ s.authenticatedPeers → p ∈ s.transport.peers ∧ C.Holds p s)
    (hhere : p ∈ (s.next l).authenticatedPeers) (hlive : p ∈ (s.next l).transport.peers) (hI : I (s.next l)) :
    C.Holds p (s.next l) := by
  cases l with
  | transport l => exact (hbefore hhere).2.moved _ s.pendingIdentity
  | handle env event =>
    cases event with
    | connectionRequest request => exact holds_handleConnectionRequest hfollows hsound hbefore hhere hlive hI
    | peerDisconnected q _ =>
      change p ∈ (s.handleDisconnect env q).authenticatedPeers at hhere
      have hleft := ServerState.departed_handleDisconnect env q s
      rw [hleft.authenticatedPeers] at hhere
      obtain ⟨hq, hin⟩ := AList.mem_erase.mp hhere
      obtain ⟨hp, hholds⟩ := hbefore hin
      exact hfollows.left env q s hsound hq.symm ⟨hp, hin⟩ hholds
    | message q channel delivery payload => exact holds_handleArm hfollows hsound hbefore hhere hlive hI
    | natIntroductionRequest remoteAddr localAddr token =>
      change p ∈ (s.handleNatIntroductionRequest remoteAddr localAddr token).authenticatedPeers at hhere
      change C.Holds p (s.handleNatIntroductionRequest remoteAddr localAddr token)
      unfold ServerState.handleNatIntroductionRequest at hhere ⊢
      split
      next hpunch =>
        rw [if_pos hpunch] at hhere
        have hwrites : ServerState.Writes .p2pBroker s
            ({ s with p2pBroker := (s.p2pBroker.handleNatIntroductionRequest localAddr remoteAddr token).1 }.post
              (s.p2pBroker.handleNatIntroductionRequest localAddr remoteAddr token).2) := ⟨_, _, rfl⟩
        refine (hbefore hhere).2.of_tells (C.truth_frame C.p2pBroker hwrites.frame) ?_ List.not_mem_nil
          fun _ hchannel => absurd hchannel List.not_mem_nil
        refine Tells.post (fun p r hr => ?_) _
        rw [heardBy_handleNatIntroductionRequest] at hr
        exact absurd hr List.not_mem_nil
      next hpunch =>
        rw [if_neg hpunch] at hhere
        exact (hbefore hhere).2
    | unconnectedRequest => exact (hbefore hhere).2
    | networkError => exact (hbefore hhere).2
    | peerConnected => exact (hbefore hhere).2

/-- **A player who stays knows what the server keeps.** -/
theorem follows (hfollows : C.Follows p I) {config : ServerConfig} {ts : List (Transition ServerState Label)}
    (hstay : Stay config p ts s) (hI : ∀ tr ∈ ts, I tr.dst) : C.Holds p s := by
  obtain ⟨before, s₀, hbefore, hout, hrun⟩ := hstay.run
  have hsound := (sound_of_run (hbefore.append hrun)).1
  have hall : p ∈ s.authenticatedPeers → p ∈ s.transport.peers ∧ C.Holds p s := by
    refine Run.invariant_from (I := fun s => p ∈ s.authenticatedPeers → p ∈ s.transport.peers ∧ C.Holds p s) .nil hrun
      (fun hin => absurd hin hout) fun tr htr hstep hsrc hhere => ?_
    have hlive := hstay.live tr htr hhere
    refine ⟨hlive, ?_⟩
    have hIdst := hI tr htr
    rw [hstep.2] at hhere hlive hIdst ⊢
    exact holds_step hfollows (hsound tr (List.mem_append_right _ htr)).1 hsrc hhere hlive hIdst
  exact (hall hstay.here).2

end Copy

/-! ### A stay -/

/-- A player comes and shares things with whoever comes; a second one comes, and the first goes on. -/
def visit : List Label :=
  [handles (.connectionRequest (requestOf 1 "a")),
    messageOf 0 channels.netIdAssign (NetIdMessage.serialize ⟨"door"⟩),
    messageOf 0 channels.contentShare (ContentShareMessage.serialize ⟨"sphere", "url", "", .prop, 1, 2, 3⟩),
    messageOf 0 channels.contentShare (ContentShareMessage.serialize ⟨"globe", "url", "", .prop, 4, 5, 6⟩),
    messageOf 0 channels.loadResource
      (LocalLoadResource.serialize ⟨1, "hall", "", "url", "", false, 0, 0, 0, 0, 0, 0, 0, 0, 0, 0, true, false, 2⟩),
    messageOf 0 channels.cameraPipState (putBool true ++ (List.replicate 7 F32.one).flatMap putF32),
    messageOf 0 channels.changeCurrentOwnerRequest (OwnershipTransferMessage.serialize ⟨0, "ball"⟩),
    handles (.connectionRequest (requestOf 2 "b")),
    messageOf 0 channels.netIdAssign (NetIdMessage.serialize ⟨"lamp"⟩),
    messageOf 0 channels.contentShareCleanup (ContentShareCleanupMessage.serialize ⟨"sphere"⟩),
    messageOf 0 channels.cameraPipPosition ((List.replicate 7 (0 : F32)).flatMap putF32),
    messageOf 0 channels.avatarChangeMessage (ClientAvatarChangeMessage.serialize ⟨1, [7, 8], 3⟩),
    messageOf 0 channels.admin (AdminRequest.serialize ⟨.globalToggleProps⟩)]

/-- The server at its end. -/
def visited : ServerState := visit.foldl ServerState.next (.start openConfig)

lemma stay_visit : Stay openConfig 1 (trace ServerState.next (.start openConfig) visit) visited where
  run := ⟨[], .start openConfig, .nil, by decide, run_of_enabled visit (by decide +kernel)⟩
  live := by decide +kernel
  here := by decide +kernel

end BasisRust.Replica
