import BasisRust.Transport.Tables
import Mathlib.Tactic.IntervalCases

/-!
# Delivery on a reliable-ordered channel

What `process_packet` makes of the packets of one channel of one peer.  It acknowledges each of them and
emits its message at once, without a look at the sequence number: the messages come out as the packets
come in, a packet that comes twice is a message emitted twice.
-/

namespace BasisRust.Transport

open Lib Protocol

/-! ### Messages and packets of a channel -/

/-- The payload, if the event is a message of the peer on the channel. -/
def messageOn (id : PeerId) (channelId : UInt8) : ServerEvent → Option Bytes
  | .message peer channel delivery payload =>
    if peer = id ∧ channel = channelId / 4 ∧ delivery = .fromChannelId channelId then some payload else none
  | _ => none

/-- The payload, if `process_packet` takes the bytes for a packet of the channel. -/
def payloadOn (channelId : UInt8) (bytes : Bytes) : Option Bytes :=
  match dispatch bytes with
  | .packet .channeled _ => if 4 ≤ bytes.length ∧ u8At bytes 3 = channelId then some (bytes.drop 4) else none
  | _ => none

/-- The messages of the peer on the channel among the events. -/
def World.delivered (id : PeerId) (channelId : UInt8) (w : World) : List Bytes :=
  w.events.filterMap (messageOn id channelId)

/-- A channel and a delivery method name one channel id. -/
lemma channelId_eq_of_fromChannelId {a b : UInt8} (hchannel : a / 4 = b / 4)
    (hdelivery : DeliveryMethod.fromChannelId a = .fromChannelId b) : a = b := by
  have hlow (c : UInt8) : (c % 4).toNat = c.toNat % 4 := UInt8.toNat_mod c 4
  have hhigh : a.toNat / 4 = b.toNat / 4 := by
    rw [← UInt8.toNat_inj, UInt8.toNat_div, UInt8.toNat_div] at hchannel
    exact hchannel
  unfold DeliveryMethod.fromChannelId at hdelivery
  rw [hlow, hlow] at hdelivery
  have ha := Nat.mod_lt a.toNat (by decide : 0 < 4)
  have hb := Nat.mod_lt b.toNat (by decide : 0 < 4)
  have hmod : a.toNat % 4 = b.toNat % 4 := by
    generalize a.toNat % 4 = m at ha hdelivery
    generalize b.toNat % 4 = n at hb hdelivery
    interval_cases m <;> interval_cases n <;> first | rfl | cases hdelivery
  apply UInt8.toNat_inj.mp
  omega

/-! ### Computations that succeed, and silent ones -/

def Succeeds (x : TransportM Unit) : Prop := ∀ w, w.NoFaults → ∃ w', x w = .ok () w' ∧ w'.NoFaults

lemma succeeds_enqueueEvent (event : ServerEvent) : Succeeds (enqueueEvent event) := by
  intro w hno
  have hno' := (consumes_enqueueEvent event w).noFaults hno
  rcases enqueueEvent_cases event w with ⟨w', h, -⟩ | ⟨w', h, -, -, -, -, hclosed⟩
  · rw [final_of_ok h] at hno'
    exact ⟨w', h, hno'⟩
  · exact absurd hclosed hno.queue

lemma succeeds_enqueueLossyEvent (event : ServerEvent) : Succeeds (enqueueLossyEvent event) := by
  intro w hno
  have hno' := (consumes_enqueueLossyEvent event w).noFaults hno
  rcases enqueueLossyEvent_cases event w with ⟨w', h, -⟩ | ⟨w', h, -, -, -, -, hclosed⟩
  · rw [final_of_ok h] at hno'
    exact ⟨w', h, hno'⟩
  · exact absurd hclosed hno.queue

theorem succeeds_stepwise : Stepwise Succeeds where
  pure w hno := ⟨w, rfl, hno⟩
  bind {x f} hx hf w hno := by
    obtain ⟨w', h, hno'⟩ := hx w hno
    obtain ⟨w'', h', hno''⟩ := hf w' hno'
    refine ⟨w'', ?_, hno''⟩
    change EStateM.bind x f w = _
    rw [EStateM.bind, h]
    exact h'
  get_bind hf w hno := hf w w hno
  modifyHandle f w hno := ⟨{ w with handle := f w.handle }, rfl, hno.sends, hno.queue⟩
  sendRawTo bytes addr w hno := by
    have hno' := (consumes_stepwise.sendRawTo bytes addr w).noFaults hno
    rcases sendRawTo_cases bytes addr w with ⟨w', h, -⟩ | ⟨w', h, -, -, -, -, hfail⟩
    · rw [final_of_ok h] at hno'
      exact ⟨w', h, hno'⟩
    · exact absurd hfail hno.sends
  enqueueEvent event _ := succeeds_enqueueEvent event

/-- Without faults `process_packet` returns from every packet. -/
theorem succeeds_processLeaf (remoteAddr : SocketAddr) (bytes : Bytes) :
    Succeeds (processLeaf remoteAddr bytes) :=
  succeeds_stepwise.processLeaf remoteAddr fun property _ _ _ =>
    succeeds_stepwise.processMessage remoteAddr succeeds_enqueueEvent succeeds_enqueueLossyEvent property bytes

section Channel

variable (id : PeerId) (channelId : UInt8)

/-- No message of the channel is emitted. -/
def Silent (w w' : World) : Prop := w'.delivered id channelId = w.delivered id channelId

lemma silent_of_events {w w' : World} (h : w'.events = w.events) : Silent id channelId w w' := by
  rw [Silent, World.delivered, h]
  rfl

lemma delivered_of_event {w w' : World} {event : ServerEvent} (h : w'.events = w.events ++ [event]) :
    w'.delivered id channelId = w.delivered id channelId ++ (messageOn id channelId event).toList := by
  rw [World.delivered, h, List.filterMap_append]
  cases hmessage : messageOn id channelId event with
  | none =>
    rw [List.filterMap_cons_none hmessage]
    rfl
  | some payload =>
    rw [List.filterMap_cons_some hmessage]
    rfl

lemma delivered_of_none {w w' : World} {event : ServerEvent} (hevents : w'.events = w.events ++ [event])
    (hmessage : messageOn id channelId event = none) : Silent id channelId w w' := by
  rw [Silent, delivered_of_event id channelId hevents, hmessage]
  exact List.append_nil _

lemma messageOn_of_not_isMessage {event : ServerEvent} (h : event.isMessage = false) :
    messageOn id channelId event = none := by
  cases event with
  | message peer channel delivery payload => cases h
  | _ => rfl

lemma silent_enqueueEvent {event : ServerEvent} (hmessage : messageOn id channelId event = none) :
    Relates (Silent id channelId) (enqueueEvent event) := by
  intro w
  rcases enqueueEvent_cases event w with ⟨w', h, -, he, -⟩ | ⟨w', h, -, he, -⟩
  · rw [final_of_ok h]
    exact delivered_of_none id channelId he hmessage
  · rw [final_of_error h]
    exact silent_of_events id channelId he

lemma silent_enqueueLossyEvent {event : ServerEvent} (hmessage : messageOn id channelId event = none) :
    Relates (Silent id channelId) (enqueueLossyEvent event) := by
  intro w
  rcases enqueueLossyEvent_cases event w with ⟨w', h, -, -, -, he | he⟩ | ⟨w', h, -, -, -, he, -⟩
  · rw [final_of_ok h]
    exact silent_of_events id channelId he
  · rw [final_of_ok h]
    exact delivered_of_none id channelId he hmessage
  · rw [final_of_error h]
    exact silent_of_events id channelId he

theorem silent_stepwise : Stepwise (Relates (Silent id channelId)) := by
  refine stepwise_of_relates (fun w => rfl) (fun w w' w'' h h' => h'.trans h) (fun f w => rfl) ?_ ?_
  · intro bytes addr w
    rcases sendRawTo_cases bytes addr w with ⟨w', h, -, he, -⟩ | ⟨w', h, -, he, -⟩
    · rw [final_of_ok h]
      exact silent_of_events id channelId he
    · rw [final_of_error h]
      exact silent_of_events id channelId he
  · exact fun event hevent =>
      silent_enqueueEvent id channelId (messageOn_of_not_isMessage id channelId hevent)

/-! ### One packet -/

variable {id channelId} {remoteAddr : SocketAddr}

lemma touchPeer_ok (remoteAddr : SocketAddr) (w : World) : ∃ handle, touchPeer remoteAddr w =
    .ok () { w with handle } ∧ handle.byAddr = w.handle.byAddr := by
  cases hbound : w.handle.byAddr.lookup remoteAddr with
  | none =>
    refine ⟨w.handle, ?_, rfl⟩
    rw [touchPeer, get_bind_apply, hbound]
    rfl
  | some peerId =>
    refine ⟨w.handle.modifyPeer peerId fun peer => { peer with lastSeen := w.now }, ?_, rfl⟩
    rw [touchPeer, get_bind_apply, hbound]
    rfl

/-- A message packet whose event is not one of the channel. -/
lemma silent_processMessage {property : PacketProperty} {bytes : Bytes} {w : World}
    (h : ∀ peer channel delivery payload, w.handle.byAddr.lookup remoteAddr = some peer →
      parseMessagePacket property bytes = some (channel, delivery, payload) →
      messageOn id channelId (.message peer channel delivery payload) = none) :
    Silent id channelId w (final (processMessage remoteAddr property bytes) w) := by
  obtain ⟨handle, htouch, hbyAddr⟩ := touchPeer_ok remoteAddr w
  rw [processMessage, final_bind_ok htouch, final_get_bind]
  rw [← hbyAddr] at h
  split
  next => rfl
  next peer hbound =>
    split
    next => rfl
    next channel delivery payload hparse =>
      have hmessage := h peer channel delivery payload hbound hparse
      have hevent : Relates (Silent id channelId) (if delivery = .unreliable ∨ delivery = .sequenced then
          enqueueLossyEvent (.message peer channel delivery payload)
          else enqueueEvent (.message peer channel delivery payload)) := by
        split
        next => exact silent_enqueueLossyEvent id channelId hmessage
        next => exact silent_enqueueEvent id channelId hmessage
      dsimp only
      split
      next => exact hevent _
      next => exact hevent _

lemma messageOn_eq_none {peer : PeerId} {channel : UInt8} {delivery : DeliveryMethod} {payload : Bytes}
    (h : ¬ (peer = id ∧ channel = channelId / 4 ∧ delivery = .fromChannelId channelId)) :
    messageOn id channelId (.message peer channel delivery payload) = none := if_neg h

/-- A packet on a channel id: its message is emitted, if the channel id is the one looked at. -/
lemma delivered_processMessage {bytes : Bytes} {w : World} {connectionNumber : UInt8} (hno : w.NoFaults)
    (hbound : w.handle.byAddr.lookup remoteAddr = some id)
    (hordered : DeliveryMethod.fromChannelId channelId = .reliableOrdered)
    (hdispatch : dispatch bytes = .packet .channeled connectionNumber) :
    (final (processMessage remoteAddr .channeled bytes) w).delivered id channelId =
      w.delivered id channelId ++ (payloadOn channelId bytes).toList := by
  rw [payloadOn, hdispatch]
  dsimp only
  by_cases hon : 4 ≤ bytes.length ∧ u8At bytes 3 = channelId
  · obtain ⟨hlength, hchannel⟩ := hon
    obtain ⟨handle, htouch, hbyAddr⟩ := touchPeer_ok remoteAddr w
    have hparse : parseMessagePacket .channeled bytes =
        some (channelId / 4, .reliableOrdered, bytes.drop 4) := by
      rw [parseMessagePacket, if_neg (by omega), hchannel, ← hordered]
    rw [if_pos ⟨hlength, hchannel⟩, processMessage, final_bind_ok htouch, final_get_bind]
    dsimp only
    rw [hbyAddr, hbound]
    dsimp only
    rw [hparse]
    dsimp only
    rw [if_pos (.inl rfl), if_neg (by decide), final_modifyHandle_bind]
    generalize hw' : ({ w with handle := _ } : World) = w'
    have hevents : w'.events = w.events := by rw [← hw']
    rcases enqueueEvent_cases (.message id (channelId / 4) .reliableOrdered (bytes.drop 4)) w' with
      ⟨w'', h, -, he, -⟩ | ⟨w'', -, -, -, -, -, hclosed⟩
    · rw [final_of_ok h]
      rw [hevents] at he
      rw [delivered_of_event id channelId he, messageOn, if_pos ⟨rfl, rfl, hordered.symm⟩]
    · rw [← hw'] at hclosed
      exact absurd hclosed hno.queue
  · rw [if_neg hon]
    refine (silent_processMessage fun peer channel delivery payload _ hparse => ?_).trans (List.append_nil _).symm
    rw [parseMessagePacket] at hparse
    split at hparse
    next => cases hparse
    next hlength =>
      cases hparse
      refine messageOn_eq_none fun heq => hon ⟨by omega, ?_⟩
      exact channelId_eq_of_fromChannelId heq.2.1 heq.2.2

/-- A packet whose event, if it has a message, is not one of the channel. -/
lemma silent_processLeaf {bytes : Bytes} {w : World}
    (h : ∀ property connectionNumber, dispatch bytes = .packet property connectionNumber →
      property = .channeled ∨ property = .unreliable →
      Silent id channelId w (final (processMessage remoteAddr property bytes) w)) :
    Silent id channelId w (final (processLeaf remoteAddr bytes) w) := by
  by_cases hmessage : ∃ property connectionNumber, dispatch bytes = .packet property connectionNumber ∧
      (property = .channeled ∨ property = .unreliable)
  · obtain ⟨property, connectionNumber, hdispatch, hproperty⟩ := hmessage
    have hsilent := h property connectionNumber hdispatch hproperty
    rw [processLeaf, hdispatch]
    rcases hproperty with rfl | rfl
    · exact hsilent
    · exact hsilent
  · refine (silent_stepwise id channelId).processLeaf remoteAddr (fun property connectionNumber hd hp => ?_) w
    exact absurd ⟨property, connectionNumber, hd, hp⟩ hmessage

/-- **One packet.**  Without faults a packet from the peer's address emits its own message on the channel
and no other. -/
theorem delivered_processLeaf {bytes : Bytes} {w : World} (hno : w.NoFaults)
    (hbound : w.handle.byAddr.lookup remoteAddr = some id)
    (hordered : DeliveryMethod.fromChannelId channelId = .reliableOrdered) :
    (final (processLeaf remoteAddr bytes) w).delivered id channelId =
      w.delivered id channelId ++ (payloadOn channelId bytes).toList := by
  by_cases hchanneled : ∃ connectionNumber, dispatch bytes = .packet .channeled connectionNumber
  · obtain ⟨connectionNumber, hdispatch⟩ := hchanneled
    have h := delivered_processMessage hno hbound hordered hdispatch
    rw [processLeaf, hdispatch]
    exact h
  · have hpayload : payloadOn channelId bytes = none := by
      rw [payloadOn]
      split
      next connectionNumber hdispatch => exact absurd ⟨connectionNumber, hdispatch⟩ hchanneled
      next => rfl
    rw [hpayload]
    refine (silent_processLeaf fun property connectionNumber hdispatch hproperty => ?_).trans
      (List.append_nil _).symm
    rcases hproperty with rfl | rfl
    · exact absurd ⟨connectionNumber, hdispatch⟩ hchanneled
    · refine silent_processMessage fun peer channel delivery payload _ hparse => ?_
      rw [parseMessagePacket] at hparse
      split at hparse
      next => cases hparse
      next =>
        cases hparse
        refine messageOn_eq_none fun heq => ?_
        rw [hordered] at heq
        cases heq.2.2

/-- A packet from an address that is not the peer's emits no message of the peer. -/
theorem silent_processLeaf_of_ne {bytes : Bytes} {w : World}
    (hbound : w.handle.byAddr.lookup remoteAddr ≠ some id) :
    Silent id channelId w (final (processLeaf remoteAddr bytes) w) := by
  refine silent_processLeaf fun property _ _ _ => silent_processMessage fun peer _ _ _ hpeer _ => ?_
  refine messageOn_eq_none fun heq => hbound ?_
  rw [hpeer, heq.1]

/-! ### One datagram -/

/-- The peer is bound to the address, and nothing is about to fail. -/
structure Ready (remoteAddr : SocketAddr) (id : PeerId) (w : World) : Prop where
  live : BindsLive w.handle
  bound : w.handle.byAddr.lookup remoteAddr = some id
  noFaults : w.NoFaults

/-- The computation returns, leaves the tables as they are and emits these messages on the channel. -/
structure Delivers (id : PeerId) (channelId : UInt8) (x : TransportM Unit) (w : World)
    (payloads : List Bytes) : Prop where
  returns : x w = .ok () (final x w)
  stays : Stays w (final x w)
  noFaults : (final x w).NoFaults
  delivered : (final x w).delivered id channelId = w.delivered id channelId ++ payloads

theorem Delivers.ready {x : TransportM Unit} {w : World} {payloads : List Bytes}
    (h : Delivers id channelId x w payloads) (hready : Ready remoteAddr id w) :
    Ready remoteAddr id (final x w) where
  live := hready.live.sameTables h.stays.tables
  bound := (h.stays.tables.byAddr remoteAddr).trans hready.bound
  noFaults := h.noFaults

theorem Delivers.bind {x : TransportM Unit} {f : Unit → TransportM Unit} {w : World}
    {payloads payloads' : List Bytes} (h : Delivers id channelId x w payloads)
    (h' : Delivers id channelId (f ()) (final x w) payloads') :
    Delivers id channelId (x >>= f) w (payloads ++ payloads') := by
  have hfinal : final (x >>= f) w = final (f ()) (final x w) := final_bind_ok h.returns
  constructor
  · rw [hfinal, ← h'.returns]
    change EStateM.bind x f w = _
    rw [EStateM.bind, h.returns]
  · rw [hfinal]
    exact h.stays.trans _ _ _ h'.stays
  · rw [hfinal]
    exact h'.noFaults
  · rw [hfinal, h'.delivered, h.delivered, List.append_assoc]

theorem delivers_touchPeer {w : World} (hready : Ready remoteAddr id w) :
    Delivers id channelId (touchPeer remoteAddr) w [] := by
  obtain ⟨w', h, hno⟩ := succeeds_stepwise.touchPeer remoteAddr w hready.noFaults
  have hfinal := final_of_ok h
  refine ⟨hfinal.symm ▸ h, stays_touchPeer remoteAddr w, hfinal.symm ▸ hno, ?_⟩
  exact ((silent_stepwise id channelId).touchPeer remoteAddr w).trans (List.append_nil _).symm

/-- A packet that leaves the peer bound emits its own message on the channel. -/
theorem delivers_processLeaf {bytes : Bytes} {w : World}
    (hordered : DeliveryMethod.fromChannelId channelId = .reliableOrdered) (hready : Ready remoteAddr id w)
    (hbound : (final (processLeaf remoteAddr bytes) w).handle.byAddr.lookup remoteAddr = some id) :
    Delivers id channelId (processLeaf remoteAddr bytes) w (payloadOn channelId bytes).toList := by
  obtain ⟨w', h, hno⟩ := succeeds_processLeaf remoteAddr bytes w hready.noFaults
  have hfinal := final_of_ok h
  refine ⟨hfinal.symm ▸ h, ?_, hfinal.symm ▸ hno, delivered_processLeaf hready.noFaults hready.bound hordered⟩
  cases effect_processLeaf remoteAddr bytes w with
  | stays hs => exact hs
  | unbinds hwas hgone htables hdep =>
    obtain ⟨peer, hpeer, -⟩ := hready.live _ _ hwas
    rw [hgone] at hpeer
    cases hpeer
  | @removes peerId peer addr hwas hlive hends haddr htables hdep =>
    obtain ⟨peer', hpeer', hpeeraddr⟩ := hready.live _ _ hwas
    rw [hlive] at hpeer'
    cases hpeer'
    rw [hpeeraddr, or_self] at haddr
    have hgone : (w.handle.byAddr.erase addr).lookup remoteAddr = some id :=
      (htables.byAddr remoteAddr).symm.trans hbound
    rw [haddr, AList.lookup_erase] at hgone
    cases hgone

theorem delivers_forM {β : Type} {f : β → TransportM Unit} {g : β → List Bytes} {l : List β}
    (hf : ∀ b ∈ l, ∀ w, Ready remoteAddr id w →
      (final (f b) w).handle.byAddr.lookup remoteAddr = some id → Delivers id channelId (f b) w (g b))
    (hbindings : ∀ b ∈ l, Relates NoNewBindings (f b)) {w : World} (hready : Ready remoteAddr id w)
    (hbound : (final (l.forM f) w).handle.byAddr.lookup remoteAddr = some id) :
    Delivers id channelId (l.forM f) w (l.flatMap g) := by
  induction l generalizing w with
  | nil => exact ⟨rfl, .refl w, hready.noFaults, (List.append_nil _).symm⟩
  | cons b l ih =>
    rw [List.forall_mem_cons] at hf hbindings
    have hrest : Relates NoNewBindings (l.forM f) :=
      Relates.forM (fun _ _ _ h => h) (fun _ _ _ h h' a id hid => h a id (h' a id hid)) hbindings.2
    rw [List.flatMap_cons]
    cases hb : f b w with
    | ok a w' =>
      have hfirst := final_of_ok hb
      have hsplit : final ((b :: l).forM f) w = final (l.forM f) w' := final_bind_ok hb
      rw [hsplit] at hbound
      have hdelivers := hf.1 w hready (hfirst.symm ▸ hrest w' remoteAddr id hbound)
      refine hdelivers.bind ?_
      rw [hfirst]
      exact ih hf.2 hbindings.2 (hfirst ▸ hdelivers.ready hready) hbound
    | error e w' =>
      have hsplit : final ((b :: l).forM f) w = w' := final_bind_error hb
      rw [hsplit] at hbound
      have hdelivers := hf.1 w hready ((final_of_error hb).symm ▸ hbound)
      rw [hdelivers.returns] at hb
      cases hb

/-- **One datagram.**  As long as the peer stays bound, a datagram from its address emits on the channel the
messages of the packets in it, in their order. -/
theorem delivers_processPacket (hordered : DeliveryMethod.fromChannelId channelId = .reliableOrdered)
    (bytes : Bytes) {w : World} (hready : Ready remoteAddr id w)
    (hbound : (final (processPacket remoteAddr bytes) w).handle.byAddr.lookup remoteAddr = some id) :
    Delivers id channelId (processPacket remoteAddr bytes) w ((leaves bytes).filterMap (payloadOn channelId)) := by
  fun_induction leaves bytes generalizing w with
  | case1 bytes c hmerged ih =>
    rw [processPacket, hmerged] at hbound ⊢
    dsimp only at hbound ⊢
    have htouch : Delivers id channelId _ w [] := delivers_touchPeer hready
    rw [final_bind_ok htouch.returns] at hbound
    rw [List.filterMap_flatMap]
    refine htouch.bind (delivers_forM ?_ ?_ (htouch.ready hready) hbound)
    · exact fun packet _ w hready hbound => ih packet hready hbound
    · exact fun packet _ => noNewBindings_processPacket remoteAddr packet.1
  | case2 bytes hsingle =>
    rw [processPacket_of_not_merged remoteAddr hsingle] at hbound ⊢
    have h := delivers_processLeaf hordered hready hbound
    cases hpayload : payloadOn channelId bytes with
    | none =>
      rw [hpayload] at h
      rwa [List.filterMap_cons_none hpayload]
    | some payload =>
      rw [hpayload] at h
      rwa [List.filterMap_cons_some hpayload]

end Channel

end BasisRust.Transport
