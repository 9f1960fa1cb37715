import BasisRust.Core.System
import BasisRust.Lib.Replay

/-!
# What a player has been told

The messages for one player, in the order they were handed to the transport, since the player was welcomed: the
metadata message is the first one `finalize_accept` sends and is sent by nothing else, so it starts a session.
`Tells` names the channels a handler may use.
-/

namespace BasisRust.Replica

open Lib Protocol Transport
open BasisRust.Core P2p

/-- What the message is for the peer. -/
def heardBy (p : PeerId) : Outgoing → Option (UInt8 × Bytes)
  | .send target channel _ payload => if target = p then some (channel, payload) else none
  | .natIntroduce _ _ _ _ _ => none

/-- The messages of the player's session. -/
def told (p : PeerId) (s : ServerState) : List (UInt8 × Bytes) :=
  afterLast channels.metaData (s.sent.filterMap (heardBy p))

/-- Messages may have been sent on these channels. -/
def Tells (used : List UInt8) (s s' : ServerState) : Prop :=
  ∃ messages, s'.sent = s.sent ++ messages ∧ ∀ p, ∀ r ∈ messages.filterMap (heardBy p), r.1 ∈ used

variable {used : List UInt8} {p : PeerId} {s s' s'' : ServerState}

/-! ### The messages of a peer -/

lemma heardBy_send_self (channel : UInt8) (delivery : DeliveryMethod) (payload : Bytes) :
    heardBy p (.send p channel delivery payload) = some (channel, payload) := if_pos rfl

lemma heardBy_of_ne {target : PeerId} (h : target ≠ p) (channel : UInt8) (delivery : DeliveryMethod) (payload : Bytes) :
    heardBy p (.send target channel delivery payload) = none := if_neg h

lemma isLive_of_heardBy {handle : TransportHandle} (hp : p ∈ handle.peers) {message : Outgoing} {r : UInt8 × Bytes}
    (h : heardBy p message = some r) : ServerState.isLive handle message = true := by
  cases message with
  | send target channel delivery payload =>
    have htarget : target = p := by
      by_contra hne
      rw [heardBy_of_ne hne] at h
      cases h
    exact decide_eq_true (htarget ▸ hp)
  | natIntroduce => rfl

/-- A live peer hears everything that is posted for it. -/
lemma heard_post (hp : p ∈ s.transport.peers) (messages : List Outgoing) :
    (s.post messages).sent.filterMap (heardBy p) = s.sent.filterMap (heardBy p) ++ messages.filterMap (heardBy p) := by
  change (s.sent ++ messages.filter _).filterMap _ = _
  rw [List.filterMap_append, List.filterMap_filter]
  congr 1
  refine List.filterMap_congr fun message _ => ?_
  cases h : heardBy p message with
  | none => exact ite_self none
  | some r => exact if_pos (isLive_of_heardBy hp h)

/-- A message to the peer itself. -/
lemma filterMap_send_self {α : Type} (message : α → UInt8 × Bytes) (delivery : DeliveryMethod) (as : List α) :
    (as.map fun a => Outgoing.send p (message a).1 delivery (message a).2).filterMap (heardBy p) = as.map message := by
  rw [List.filterMap_map, ← List.filterMap_eq_map]
  exact List.filterMap_congr fun a _ => heardBy_send_self _ delivery _

/-- Messages to others. -/
lemma filterMap_eq_nil_of_ne {messages : List Outgoing}
    (h : ∀ message ∈ messages, heardBy p message = none) : messages.filterMap (heardBy p) = [] :=
  List.filterMap_eq_nil_iff.mpr h

/-- One message to each of the targets: the peer hears it once, if it is one of them. -/
lemma filterMap_targets {targets : List PeerId} (hnodup : targets.Nodup) (channel : UInt8) (delivery : DeliveryMethod)
    (payload : Bytes) : (targets.map fun target => Outgoing.send target channel delivery payload).filterMap (heardBy p) =
      if p ∈ targets then [(channel, payload)] else [] := by
  induction targets with
  | nil => rfl
  | cons target targets ih =>
    rw [List.nodup_cons] at hnodup
    rw [List.map_cons]
    by_cases htarget : target = p
    · subst htarget
      rw [List.filterMap_cons_some (heardBy_send_self channel delivery payload), ih hnodup.2, if_neg hnodup.1,
        if_pos List.mem_cons_self]
    · rw [List.filterMap_cons_none (heardBy_of_ne htarget channel delivery payload), ih hnodup.2]
      have hiff : p ∈ target :: targets ↔ p ∈ targets := by
        rw [List.mem_cons, or_iff_right fun h => htarget h.symm]
      simp only [hiff]

lemma nodup_audience (channel : UInt8) (except : Option PeerId) (s : ServerState) :
    (s.audience channel except).Nodup := s.authenticatedPeers.keys_nodup.filter _

/-- Off the offloaded channels a broadcast is for everybody but the excepted. -/
lemma mem_audience {channel : UInt8} (hchannel : isP2pOffloadChannel channel = false) {except : Option PeerId} :
    p ∈ s.audience channel except ↔ p ∈ s.authenticatedPeers ∧ some p ≠ except := by
  unfold ServerState.audience
  rw [List.mem_filter, hchannel]
  simp only [Bool.false_and, Bool.not_false, Bool.and_true, decide_eq_true_iff]
  rfl

/-! ### Sessions -/

/-- A live peer is told what is posted for it. -/
lemma told_post (hp : p ∈ s.transport.peers) {messages : List Outgoing}
    (h : ∀ r ∈ messages.filterMap (heardBy p), r.1 ≠ channels.metaData) :
    told p (s.post messages) = told p s ++ messages.filterMap (heardBy p) := by
  unfold told
  rw [heard_post hp, afterLast_append h]

lemma told_send (hp : p ∈ s.transport.peers) (channel : UInt8) (hchannel : channel ≠ channels.metaData)
    (payload : Bytes) : told p (s.send p channel payload) = told p s ++ [(channel, payload)] := by
  have hheard : [Outgoing.send p channel .reliableOrdered payload].filterMap (heardBy p) = [(channel, payload)] :=
    filterMap_send_self id .reliableOrdered [(channel, payload)]
  refine (told_post hp ?_).trans (congrArg _ hheard)
  rw [hheard]
  exact List.forall_mem_singleton.mpr hchannel

lemma told_send_of_ne (hp : p ∈ s.transport.peers) {target : PeerId} (htarget : target ≠ p) (channel : UInt8)
    (payload : Bytes) : told p (s.send target channel payload) = told p s := by
  have hheard : [Outgoing.send target channel .reliableOrdered payload].filterMap (heardBy p) = [] :=
    filterMap_eq_nil_of_ne (List.forall_mem_singleton.mpr (heardBy_of_ne htarget _ _ _))
  refine (told_post hp ?_).trans ?_
  · rw [hheard]
    exact fun r hr => absurd hr List.not_mem_nil
  · rw [hheard, List.append_nil]

/-- An authenticated peer that is not excepted hears a broadcast once. -/
lemma told_broadcast (hp : p ∈ s.transport.peers) (hauth : p ∈ s.authenticatedPeers) (channel : UInt8)
    (hchannel : channel ≠ channels.metaData) (hoffload : isP2pOffloadChannel channel = false)
    (except : Option PeerId) (hexcept : some p ≠ except) (delivery : DeliveryMethod) (payload : Bytes) :
    told p (s.broadcast channel delivery payload except) = told p s ++ [(channel, payload)] := by
  have hheard := filterMap_targets (p := p) (nodup_audience channel except s) channel delivery payload
  rw [if_pos ((mem_audience hoffload).mpr ⟨hauth, hexcept⟩)] at hheard
  refine (told_post hp ?_).trans (congrArg _ hheard)
  rw [hheard]
  exact List.forall_mem_singleton.mpr hchannel

/-- Nobody hears a broadcast it is excepted from. -/
lemma told_broadcast_except (hp : p ∈ s.transport.peers) (channel : UInt8)
    (hoffload : isP2pOffloadChannel channel = false) (delivery : DeliveryMethod) (payload : Bytes) :
    told p (s.broadcast channel delivery payload (some p)) = told p s := by
  have hheard := filterMap_targets (p := p) (nodup_audience channel (some p) s) channel delivery payload
  rw [if_neg fun h => ((mem_audience hoffload).mp h).2 rfl] at hheard
  refine (told_post hp ?_).trans ?_
  · rw [hheard]
    exact fun r hr => absurd hr List.not_mem_nil
  · rw [hheard, List.append_nil]

/-- Broadcasts one after the other. -/
lemma told_foldl_broadcast (hp : p ∈ s.transport.peers) (hauth : p ∈ s.authenticatedPeers) (channel : UInt8)
    (hchannel : channel ≠ channels.metaData) (hoffload : isP2pOffloadChannel channel = false)
    (except : Option PeerId) (hexcept : some p ≠ except) (delivery : DeliveryMethod) {α : Type} (payload : α → Bytes)
    (as : List α) :
    told p (as.foldl (fun s a => s.broadcast channel delivery (payload a) except) s) =
      told p s ++ as.map fun a => (channel, payload a) := by
  induction as generalizing s with
  | nil => exact (List.append_nil _).symm
  | cons a as ih =>
    have hp' : p ∈ (s.broadcast channel delivery (payload a) except).transport.peers :=
      ServerState.mem_peers_post.mpr hp
    rw [List.foldl_cons, ih hp' hauth, told_broadcast hp hauth channel hchannel hoffload except hexcept, List.append_assoc]
    rfl

/-! ### The channels of a handler -/

theorem Tells.refl (used : List UInt8) (s : ServerState) : Tells used s s :=
  ⟨[], (List.append_nil _).symm, fun _ _ h => absurd h List.not_mem_nil⟩

theorem Tells.trans (h : Tells used s s') (h' : Tells used s' s'') : Tells used s s'' := by
  obtain ⟨first, hfirst, husedFirst⟩ := h
  obtain ⟨second, hsecond, husedSecond⟩ := h'
  refine ⟨first ++ second, by rw [hsecond, hfirst, List.append_assoc], fun p => ?_⟩
  rw [List.filterMap_append]
  exact List.forall_mem_append.mpr ⟨husedFirst p, husedSecond p⟩

/-- The other stores do not matter. -/
theorem Tells.of_sent (h : Tells used s' s'') (hsent : s'.sent = s.sent) : Tells used s s'' := by
  obtain ⟨messages, hmessages, hused⟩ := h
  exact ⟨messages, by rw [hmessages, hsent], hused⟩

theorem Tells.mono {more : List UInt8} (h : Tells used s s') (hmore : used ⊆ more) : Tells more s s' := by
  obtain ⟨messages, hsent, hused⟩ := h
  exact ⟨messages, hsent, fun p r hr => hmore (hused p r hr)⟩

theorem Tells.post {messages : List Outgoing} (h : ∀ p, ∀ r ∈ messages.filterMap (heardBy p), r.1 ∈ used)
    (s : ServerState) : Tells used s (s.post messages) := by
  refine ⟨_, rfl, fun p r hr => h p r ?_⟩
  obtain ⟨message, hmessage, heard⟩ := List.mem_filterMap.mp hr
  exact List.mem_filterMap.mpr ⟨message, (List.mem_filter.mp hmessage).1, heard⟩

lemma channel_of_isOn {message : Outgoing} (h : ServerState.IsOn used message) {r : UInt8 × Bytes}
    (heard : heardBy p message = some r) : r.1 ∈ used := by
  cases message with
  | send target channel delivery payload =>
    rw [heardBy] at heard
    obtain ⟨-, hr⟩ := Option.ite_none_right_eq_some.mp heard
    cases hr
    exact h
  | natIntroduce => cases heard

theorem Tells.postOn {messages : List Outgoing} (h : ∀ message ∈ messages, ServerState.IsOn used message)
    (s : ServerState) : Tells used s (s.post messages) := by
  refine .post (fun p r hr => ?_) s
  obtain ⟨message, hmessage, heard⟩ := List.mem_filterMap.mp hr
  exact channel_of_isOn (h message hmessage) heard

theorem Tells.postedOn (h : ServerState.PostedOn used s s') : Tells used s s' := by
  obtain ⟨messages, hon, rfl⟩ := h
  exact .postOn hon s

theorem Tells.broadcast {channel : UInt8} (h : channel ∈ used) (delivery : DeliveryMethod) (payload : Bytes)
    (except : Option PeerId) (s : ServerState) : Tells used s (s.broadcast channel delivery payload except) :=
  .postOn (fun message hmessage => by
    obtain ⟨target, -, rfl⟩ := List.mem_map.mp hmessage
    exact h) s

theorem Tells.send {channel : UInt8} (h : channel ∈ used) (target : PeerId) (payload : Bytes) (s : ServerState) :
    Tells used s (s.send target channel payload) :=
  .postOn (fun message hmessage => by
    obtain rfl := List.mem_singleton.mp hmessage
    exact h) s

theorem Tells.foldl_broadcast {α : Type} {channel : UInt8} (h : channel ∈ used) (delivery : DeliveryMethod)
    (payload : α → Bytes) (except : Option PeerId) (as : List α) (s : ServerState) :
    Tells used s (as.foldl (fun s a => s.broadcast channel delivery (payload a) except) s) :=
  .postedOn (ServerState.postedOn_foldl_broadcast h delivery payload except as s)

theorem Tells.onParsed {α : Type} {read : ReadResult α} {payload : Bytes} {handle : α → ServerState}
    (h : ∀ message, Tells used s (handle message)) : Tells used s (s.onParsed read payload handle) :=
  ServerState.onParsed_of (P := Tells used s) (.refl used s) h

theorem Tells.withRead {α : Type} {read : ReadResult α} {reader : NetReader} {next : α → NetReader → ServerState}
    (h : ∀ a rest, Tells used s (next a rest)) : Tells used s (Protocol.withRead read reader s next) :=
  withRead_of (P := Tells used s) (.refl used s) h

/-- A peer's session goes on by what was sent on the channels. -/
theorem Tells.told (h : Tells used s s') (hmetaData : channels.metaData ∉ used) (p : PeerId) :
    ∃ news, told p s' = told p s ++ news ∧ ∀ r ∈ news, r.1 ∈ used := by
  obtain ⟨messages, hsent, hused⟩ := h
  refine ⟨_, ?_, hused p⟩
  unfold Replica.told
  rw [hsent, List.filterMap_append, afterLast_append]
  exact fun r hr hchannel => hmetaData (hchannel ▸ hused p r hr)

/-- Messages on channels it does not look at tell a reader nothing. -/
theorem Tells.replay {V : Type} (h : Tells used s s') (hmetaData : channels.metaData ∉ used)
    {R : Reading UInt8 Bytes V} (hused : ∀ channel ∈ used, channel ∉ R.uses) (p : PeerId) (v : V) :
    R.replay (Replica.told p s') v = R.replay (Replica.told p s) v := by
  obtain ⟨news, htold, hnews⟩ := h.told hmetaData p
  rw [htold, R.replay_append, R.replay_of_unused fun r hr => hused r.1 (hnews r hr)]

end BasisRust.Replica
