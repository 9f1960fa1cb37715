import BasisRust.Transport.Process

/-!
# What a datagram can do to the tables

Most of `process_packet` leaves the tables as they are (`Stays`).  `Effect` lists the rest once: a datagram
removes the peer its source address is bound to, if it ends that peer's connection, or drops a binding
whose peer is gone.  Frame conditions, the invariant of the tables and the reports of departures are all
derived from it.
-/

namespace BasisRust.Transport

open Lib Protocol

/-! ### Frames -/

/-- The parts of a peer that never change. -/
structure SamePeer (p q : PeerState) : Prop where
  id : q.id = p.id
  addr : q.addr = p.addr
  connectionNumber : q.connectionNumber = p.connectionNumber
  connectTime : q.connectTime = p.connectTime

theorem SamePeer.refl (p : PeerState) : SamePeer p p := ⟨rfl, rfl, rfl, rfl⟩

theorem SamePeer.trans {p q r : PeerState} (h : SamePeer p q) (h' : SamePeer q r) : SamePeer p r :=
  ⟨h'.id.trans h.id, h'.addr.trans h.addr, h'.connectionNumber.trans h.connectionNumber,
    h'.connectTime.trans h.connectTime⟩

/-- The same peers under the same ids and addresses, and the same ids free; a map may have been rebuilt. -/
structure SameTables (h h' : TransportHandle) : Prop where
  peers : h.peers.Rel SamePeer h'.peers
  byAddr : ∀ a, h'.byAddr.lookup a = h.byAddr.lookup a
  nextPeerId : h'.nextPeerId = h.nextPeerId
  reusablePeerIds : h'.reusablePeerIds = h.reusablePeerIds
  retiredPeerIds : h'.retiredPeerIds = h.retiredPeerIds

namespace SameTables

variable {h h' h'' : TransportHandle}

theorem refl (h : TransportHandle) : SameTables h h :=
  ⟨Dict.Rel.refl .refl _, fun _ => rfl, rfl, rfl, rfl⟩

theorem trans (hs : SameTables h h') (hs' : SameTables h' h'') : SameTables h h'' where
  peers := hs.peers.trans (fun _ _ _ => .trans) hs'.peers
  byAddr a := (hs'.byAddr a).trans (hs.byAddr a)
  nextPeerId := hs'.nextPeerId.trans hs.nextPeerId
  reusablePeerIds := hs'.reusablePeerIds.trans hs.reusablePeerIds
  retiredPeerIds := hs'.retiredPeerIds.trans hs.retiredPeerIds

theorem modifyPeer (peerId : PeerId) {f : PeerState → PeerState} (hf : ∀ p, SamePeer p (f p)) :
    SameTables h (h.modifyPeer peerId f) where
  peers := .modify .refl hf h.peers peerId
  byAddr _ := rfl
  nextPeerId := rfl
  reusablePeerIds := rfl
  retiredPeerIds := rfl

end SameTables

/-! ### Departures and faults -/

def disconnectedPeer : ServerEvent → Option PeerId
  | .peerDisconnected peer _ => some peer
  | _ => none

/-- The peers reported as gone, in order. -/
def World.departures (w : World) : List PeerId := w.events.filterMap disconnectedPeer

/-- Every send still to come succeeds and the queue stays open. -/
structure World.NoFaults (w : World) : Prop where
  sends : false ∉ w.sendResults
  queue : QueueResult.closed ∉ w.queueResults

instance (w : World) : Decidable w.NoFaults :=
  decidable_of_iff (false ∉ w.sendResults ∧ QueueResult.closed ∉ w.queueResults)
    ⟨fun h => ⟨h.1, h.2⟩, fun h => ⟨h.sends, h.queue⟩⟩

/-- The tables stay, and nobody is reported as gone. -/
structure Stays (w w' : World) : Prop where
  tables : SameTables w.handle w'.handle
  departures : w'.departures = w.departures

theorem Stays.refl (w : World) : Stays w w := ⟨.refl _, rfl⟩

theorem Stays.trans (w w' w'' : World) (h : Stays w w') (h' : Stays w' w'') : Stays w w'' :=
  ⟨h.tables.trans h'.tables, h'.departures.trans h.departures⟩

/-- What is in store for the socket and the queue is used up from the front. -/
structure Consumes (w w' : World) : Prop where
  sends : w'.sendResults <:+ w.sendResults
  queue : w'.queueResults <:+ w.queueResults

theorem Consumes.refl (w : World) : Consumes w w := ⟨List.suffix_refl _, List.suffix_refl _⟩

theorem Consumes.trans (w w' w'' : World) (h : Consumes w w') (h' : Consumes w' w'') : Consumes w w'' :=
  ⟨h'.sends.trans h.sends, h'.queue.trans h.queue⟩

theorem Consumes.noFaults {w w' : World} (h : Consumes w w') (hw : w.NoFaults) : w'.NoFaults :=
  ⟨fun hmem => hw.sends (h.sends.mem hmem), fun hmem => hw.queue (h.queue.mem hmem)⟩

/-! ### Sends and events -/

lemma sendRawTo_cases (bytes : Bytes) (addr : SocketAddr) (w : World) :
    (∃ w', sendRawTo bytes addr w = .ok () w' ∧ w'.handle = w.handle ∧ w'.events = w.events ∧
      w'.queueResults = w.queueResults ∧ w'.sendResults <:+ w.sendResults) ∨
    (∃ w', sendRawTo bytes addr w = .error .io w' ∧ w'.handle = w.handle ∧ w'.events = w.events ∧
      w'.queueResults = w.queueResults ∧ w'.sendResults <:+ w.sendResults ∧ false ∈ w.sendResults) := by
  unfold sendRawTo
  split
  next rest heq =>
    exact .inr ⟨_, rfl, rfl, rfl, rfl, heq ▸ List.suffix_cons _ _, heq ▸ List.mem_cons_self⟩
  next => exact .inl ⟨_, rfl, rfl, rfl, rfl, List.tail_suffix _⟩

lemma enqueueEvent_cases (event : ServerEvent) (w : World) :
    (∃ w', enqueueEvent event w = .ok () w' ∧ w'.handle = w.handle ∧ w'.events = w.events ++ [event] ∧
      w'.sendResults = w.sendResults ∧ w'.queueResults <:+ w.queueResults) ∨
    (∃ w', enqueueEvent event w = .error .eventChannelClosed w' ∧ w'.handle = w.handle ∧
      w'.events = w.events ∧ w'.sendResults = w.sendResults ∧ w'.queueResults <:+ w.queueResults ∧
      QueueResult.closed ∈ w.queueResults) := by
  unfold enqueueEvent
  split
  next rest heq =>
    exact .inr ⟨_, rfl, rfl, rfl, rfl, heq ▸ List.suffix_cons _ _, heq ▸ List.mem_cons_self⟩
  next => exact .inl ⟨_, rfl, rfl, rfl, rfl, List.tail_suffix _⟩

lemma enqueueLossyEvent_cases (event : ServerEvent) (w : World) :
    (∃ w', enqueueLossyEvent event w = .ok () w' ∧ w'.handle = w.handle ∧ w'.sendResults = w.sendResults ∧
      w'.queueResults <:+ w.queueResults ∧ (w'.events = w.events ∨ w'.events = w.events ++ [event])) ∨
    (∃ w', enqueueLossyEvent event w = .error .eventChannelClosed w' ∧ w'.handle = w.handle ∧
      w'.sendResults = w.sendResults ∧ w'.queueResults <:+ w.queueResults ∧ w'.events = w.events ∧
      QueueResult.closed ∈ w.queueResults) := by
  unfold enqueueLossyEvent
  split
  next rest heq =>
    exact .inr ⟨_, rfl, rfl, rfl, heq ▸ List.suffix_cons _ _, rfl, heq ▸ List.mem_cons_self⟩
  next rest heq => exact .inl ⟨_, rfl, rfl, rfl, heq ▸ List.suffix_cons _ _, .inl rfl⟩
  next => exact .inl ⟨_, rfl, rfl, rfl, List.tail_suffix _, .inr rfl⟩

lemma final_modifyHandle_bind {α : Type} (f : TransportHandle → TransportHandle) (k : Unit → TransportM α)
    (w : World) : final (modifyHandle f >>= k) w = final (k ()) { w with handle := f w.handle } := rfl

lemma stays_of_eq {w w' : World} (hhandle : w'.handle = w.handle) (hevents : w'.events = w.events) :
    Stays w w' := by
  refine ⟨hhandle ▸ .refl _, ?_⟩
  rw [World.departures, hevents]
  rfl

lemma stays_of_event {w w' : World} {event : ServerEvent} (hhandle : w'.handle = w.handle)
    (hevents : w'.events = w.events ++ [event]) (hevent : disconnectedPeer event = none) : Stays w w' := by
  refine ⟨hhandle ▸ .refl _, ?_⟩
  rw [World.departures, hevents, List.filterMap_append, List.filterMap_cons_none hevent]
  exact List.append_nil _

section Quiet

variable (remoteAddr : SocketAddr)

lemma stays_modifyHandle {f : TransportHandle → TransportHandle} (hf : ∀ h, SameTables h (f h)) :
    Relates Stays (modifyHandle f) := fun w => ⟨hf w.handle, rfl⟩

lemma stays_sendRawTo (bytes : Bytes) : Relates Stays (sendRawTo bytes remoteAddr) := by
  intro w
  rcases sendRawTo_cases bytes remoteAddr w with ⟨w', h, hh, he, -⟩ | ⟨w', h, hh, he, -⟩
  · rw [final_of_ok h]
    exact stays_of_eq hh he
  · rw [final_of_error h]
    exact stays_of_eq hh he

lemma stays_enqueueEvent {event : ServerEvent} (hevent : disconnectedPeer event = none) :
    Relates Stays (enqueueEvent event) := by
  intro w
  rcases enqueueEvent_cases event w with ⟨w', h, hh, he, -⟩ | ⟨w', h, hh, he, -⟩
  · rw [final_of_ok h]
    exact stays_of_event hh he hevent
  · rw [final_of_error h]
    exact stays_of_eq hh he

lemma stays_enqueueLossyEvent {event : ServerEvent} (hevent : disconnectedPeer event = none) :
    Relates Stays (enqueueLossyEvent event) := by
  intro w
  rcases enqueueLossyEvent_cases event w with ⟨w', h, hh, -, -, he | he⟩ | ⟨w', h, hh, -, -, he, -⟩
  · rw [final_of_ok h]
    exact stays_of_eq hh he
  · rw [final_of_ok h]
    exact stays_of_event hh he hevent
  · rw [final_of_error h]
    exact stays_of_eq hh he

lemma stays_touchPeer : Relates Stays (touchPeer remoteAddr) := by
  intro w
  rw [touchPeer, final_get_bind]
  split
  next => exact .refl w
  next peerId _ =>
    refine stays_modifyHandle (fun h => ?_) w
    apply SameTables.modifyPeer
    exact fun p => ⟨rfl, rfl, rfl, rfl⟩

lemma stays_enterRequest (connectionNumber : UInt8) (parsed : ParsedConnectRequest) :
    Relates Stays (enterRequest remoteAddr connectionNumber parsed) := by
  refine Relates.bind Stays.trans (Relates.get Stays.refl) fun w => ?_
  split
  next => exact Relates.pure Stays.refl _
  next =>
    refine Relates.bind Stays.trans (stays_modifyHandle fun h => ?_) fun _ => ?_
    · exact ⟨.refl .refl _, fun _ => rfl, rfl, rfl, rfl⟩
    · exact stays_enqueueEvent rfl

lemma stays_processMessage (property : PacketProperty) (bytes : Bytes) :
    Relates Stays (processMessage remoteAddr property bytes) := by
  refine Relates.bind Stays.trans (stays_touchPeer remoteAddr) fun _ => ?_
  refine Relates.bind Stays.trans (Relates.get Stays.refl) fun w => ?_
  split
  next => exact Relates.pure Stays.refl _
  next peerId _ =>
    split
    next => exact Relates.pure Stays.refl _
    next channel delivery payload _ =>
      have hevent : Relates Stays (if delivery = .unreliable ∨ delivery = .sequenced then
          enqueueLossyEvent (.message peerId channel delivery payload)
          else enqueueEvent (.message peerId channel delivery payload)) := by
        split
        next => exact stays_enqueueLossyEvent rfl
        next => exact stays_enqueueEvent rfl
      dsimp only
      split
      next =>
        refine Relates.bind Stays.trans (stays_modifyHandle fun h => ?_) fun _ => hevent
        apply SameTables.modifyPeer
        exact fun p => ⟨rfl, rfl, rfl, rfl⟩
      next => exact hevent

lemma samePeer_processAck (p : PeerState) (now : ℕ) (bytes : Bytes) :
    SamePeer p (processAck { p with lastSeen := now } bytes) := by
  unfold processAck
  split
  next => exact ⟨rfl, rfl, rfl, rfl⟩
  next => exact ⟨rfl, rfl, rfl, rfl⟩

/-- All arms but two leave the tables as they are. -/
theorem stays_processSingle {property : PacketProperty} (hrequest : property ≠ .connectRequest)
    (hdisconnect : property ≠ .disconnect) (connectionNumber : UInt8) (bytes : Bytes) :
    Relates Stays (processSingle remoteAddr property connectionNumber bytes) := by
  have htouch := stays_touchPeer remoteAddr
  cases property with
  | connectRequest => exact absurd rfl hrequest
  | disconnect => exact absurd rfl hdisconnect
  | ping =>
    refine Relates.bind Stays.trans htouch fun _ => ?_
    split
    next => exact Relates.bind Stays.trans (Relates.get Stays.refl) fun w => stays_sendRawTo _ _
    next => exact Relates.pure Stays.refl _
  | mtuCheck =>
    refine Relates.bind Stays.trans htouch fun _ => ?_
    unfold sendMtuOk
    split
    next => exact Relates.pure Stays.refl _
    next => exact stays_sendRawTo _ _
  | mtuOk => exact htouch
  | natMessage =>
    unfold processSingle
    dsimp only
    split
    next => exact Relates.pure Stays.refl _
    next => exact stays_enqueueEvent rfl
  | ack =>
    refine Relates.bind Stays.trans (Relates.get Stays.refl) fun w => ?_
    split
    next => exact Relates.pure Stays.refl _
    next peerId _ =>
      refine stays_modifyHandle fun h => ?_
      apply SameTables.modifyPeer
      exact fun p => samePeer_processAck p w.now bytes
  | channeled => exact stays_processMessage remoteAddr _ bytes
  | unreliable => exact stays_processMessage remoteAddr _ bytes
  | pong => exact Relates.pure Stays.refl _
  | connectAccept => exact Relates.pure Stays.refl _
  | unconnectedMessage => exact Relates.pure Stays.refl _
  | broadcast => exact Relates.pure Stays.refl _
  | merged => exact Relates.pure Stays.refl _
  | shutdownOk => exact Relates.pure Stays.refl _
  | peerNotFound => exact Relates.pure Stays.refl _
  | invalidProtocol => exact Relates.pure Stays.refl _
  | empty => exact Relates.pure Stays.refl _

end Quiet

/-! ### Removals -/

/-- The packet ends the connection of the peer: a disconnect that matches it, or a request for a newer
connection. -/
inductive Ends (peer : PeerState) (bytes : Bytes) : Prop
  | disconnect {connectionNumber : UInt8} (packet : dispatch bytes = .packet .disconnect connectionNumber)
      (matched : disconnectMatches peer bytes connectionNumber = true)
  | newer {connectionNumber : UInt8} {parsed : ParsedConnectRequest}
      (packet : dispatch bytes = .packet .connectRequest connectionNumber)
      (parse : parseConnectRequest bytes = .ok parsed) (newer : peer.connectTime < parsed.connectTime)

/-- What one packet does to the tables and to the list of departures. -/
inductive Effect (remoteAddr : SocketAddr) (bytes : Bytes) (w w' : World) : Prop
  | stays (stays : Stays w w')
  | unbinds {peerId : PeerId} (bound : w.handle.byAddr.lookup remoteAddr = some peerId)
      (gone : w.handle.peers.lookup peerId = none)
      (tables : SameTables (w.handle.unbind remoteAddr) w'.handle)
      (departures : w'.departures = w.departures)
  | removes {peerId : PeerId} {peer : PeerState} {addr : SocketAddr}
      (bound : w.handle.byAddr.lookup remoteAddr = some peerId)
      (live : w.handle.peers.lookup peerId = some peer) (ends : Ends peer bytes)
      (addr_eq : addr = remoteAddr ∨ addr = peer.addr)
      (tables : SameTables (w.handle.dropPeer peerId addr) w'.handle)
      (departures : w'.departures = w.departures ++ [peerId] ∨
        (w'.departures = w.departures ∧ ¬ w.NoFaults))

lemma departures_of_disconnected {w w' : World} {peerId : PeerId} {reason : DisconnectReason}
    (h : w'.events = w.events ++ [.peerDisconnected peerId reason]) :
    w'.departures = w.departures ++ [peerId] := by
  rw [World.departures, h, List.filterMap_append]
  rfl

/-- The peer is reported, unless a fault comes first. -/
lemma departures_enqueueEvent (peerId : PeerId) (reason : DisconnectReason) (w : World) :
    let w' := final (enqueueEvent (.peerDisconnected peerId reason)) w
    w'.handle = w.handle ∧
      (w'.departures = w.departures ++ [peerId] ∨ (w'.departures = w.departures ∧ ¬ w.NoFaults)) := by
  rcases enqueueEvent_cases (.peerDisconnected peerId reason) w with
    ⟨w', h, hh, he, -⟩ | ⟨w', h, hh, he, -, -, hclosed⟩
  · rw [final_of_ok h]
    exact ⟨hh, .inl (departures_of_disconnected he)⟩
  · rw [final_of_error h]
    refine ⟨hh, .inr ⟨?_, fun hno => hno.queue hclosed⟩⟩
    rw [World.departures, he]
    rfl

theorem effect_processDisconnect (remoteAddr : SocketAddr) {connectionNumber : UInt8} {bytes : Bytes}
    (hdispatch : dispatch bytes = .packet .disconnect connectionNumber) (w : World) :
    Effect remoteAddr bytes w (final (processDisconnect remoteAddr connectionNumber bytes) w) := by
  rw [processDisconnect, final_get_bind]
  cases hbound : w.handle.byAddr.lookup remoteAddr with
  | none => exact .stays (.refl w)
  | some peerId =>
    dsimp only
    rw [final_modifyHandle_bind]
    cases hlive : w.handle.peers.lookup peerId with
    | none => exact .unbinds hbound hlive (.refl _) rfl
    | some peer =>
      dsimp only
      rw [final_modifyHandle_bind]
      cases hmatch : disconnectMatches peer bytes connectionNumber with
      | false =>
        -- both entries are put back
        refine .stays ⟨⟨fun id => ?_, fun a => ?_, rfl, rfl, rfl⟩, rfl⟩
        · change Option.Rel SamePeer _ (((w.handle.peers.erase peerId).insert peerId peer).lookup id)
          rw [Dict.lookup_insert, Dict.lookup_erase]
          split
          next h =>
            rw [h, hlive]
            exact .some (.refl peer)
          next => exact Dict.Rel.refl SamePeer.refl _ id
        · change ((w.handle.byAddr.erase remoteAddr).insert remoteAddr peerId).lookup a = _
          rw [Dict.lookup_insert, Dict.lookup_erase]
          split
          next h => rw [h, hbound]
          next => rfl
      | true =>
        rw [Bool.not_true, if_neg Bool.false_ne_true, final_modifyHandle_bind]
        generalize hw₁ : ({ w with handle := _ } : World) = w₁
        have htables : SameTables (w.handle.dropPeer peerId remoteAddr) w₁.handle := by
          rw [← hw₁]
          exact .refl _
        have hdepartures : w₁.departures = w.departures := by rw [← hw₁]; rfl
        have hfaults : w₁.sendResults = w.sendResults ∧ w₁.queueResults = w.queueResults := by
          rw [← hw₁]
          exact ⟨rfl, rfl⟩
        rcases sendRawTo_cases [PacketProperty.shutdownOk.toU8] remoteAddr w₁ with
          ⟨w₂, h, hh, he, hq, hs⟩ | ⟨w₂, h, hh, he, -, -, hfail⟩
        · rw [sendSimpleProperty, final_bind_ok h]
          obtain ⟨hh', hdep⟩ := departures_enqueueEvent peerId .remote w₂
          have he : w₂.departures = w.departures := by rw [← hdepartures, World.departures, he]; rfl
          refine .removes hbound hlive (.disconnect hdispatch hmatch) (.inl rfl) (hh'.symm ▸ hh.symm ▸ htables) ?_
          rw [he] at hdep
          refine hdep.imp id fun hfault => ⟨hfault.1, fun hno => hfault.2 ⟨?_, ?_⟩⟩
          · exact fun hmem => hno.sends (hfaults.1 ▸ hs.mem hmem)
          · exact fun hmem => hno.queue (hfaults.2 ▸ hq ▸ hmem)
        · rw [sendSimpleProperty, final_bind_error h]
          refine .removes hbound hlive (.disconnect hdispatch hmatch) (.inl rfl) (hh.symm ▸ htables) ?_
          refine .inr ⟨?_, fun hno => hno.sends (hfaults.1 ▸ hfail)⟩
          rw [← hdepartures, World.departures, he]
          rfl

/-- What stays as it is afterwards adds nothing. -/
theorem Effect.trans_stays {remoteAddr : SocketAddr} {bytes : Bytes} {w w' w'' : World}
    (h : Effect remoteAddr bytes w w') (h' : Stays w' w'') : Effect remoteAddr bytes w w'' := by
  cases h with
  | stays hs => exact .stays (hs.trans _ _ _ h')
  | unbinds hbound hgone htables hdep =>
    exact .unbinds hbound hgone (htables.trans h'.tables) (h'.departures.trans hdep)
  | removes hbound hlive hends haddr htables hdep =>
    refine .removes hbound hlive hends haddr (htables.trans h'.tables) ?_
    rw [h'.departures]
    exact hdep

theorem effect_processConnectRequest (remoteAddr : SocketAddr) {connectionNumber : UInt8} {bytes : Bytes}
    (hdispatch : dispatch bytes = .packet .connectRequest connectionNumber) (w : World) :
    Effect remoteAddr bytes w (final (processConnectRequest remoteAddr connectionNumber bytes) w) := by
  unfold processConnectRequest
  cases hparse : parseConnectRequest bytes with
  | malformed => exact .stays (.refl w)
  | invalidProtocol => exact .stays (stays_sendRawTo remoteAddr _ w)
  | ok parsed =>
    dsimp only
    rw [final_get_bind]
    cases hbound : w.handle.byAddr.lookup remoteAddr with
    | none => exact .stays (stays_enterRequest remoteAddr _ _ w)
    | some peerId =>
      dsimp only
      cases hlive : w.handle.peers.lookup peerId with
      | none => exact .stays (stays_enterRequest remoteAddr _ _ w)
      | some peer =>
        dsimp only
        by_cases heq : parsed.connectTime = peer.connectTime
        · rw [if_pos heq]
          exact .stays (stays_sendRawTo remoteAddr _ w)
        · rw [if_neg heq]
          by_cases hlt : parsed.connectTime < peer.connectTime
          · rw [if_pos hlt]
            exact .stays (.refl w)
          · have hnewer : peer.connectTime < parsed.connectTime := by
              rw [Int64.lt_iff_toInt_lt] at hlt ⊢
              have hne : parsed.connectTime.toInt ≠ peer.connectTime.toInt := fun h => heq (Int64.toInt_inj.mp h)
              omega
            rw [if_neg hlt, final_modifyHandle_bind]
            generalize hw₁ : ({ w with handle := _ } : World) = w₁
            have htables : SameTables (w.handle.dropPeer peerId peer.addr) w₁.handle := by
              rw [← hw₁]
              exact .refl _
            have hdepartures : w₁.departures = w.departures := by rw [← hw₁]; rfl
            have hfaults : w₁.queueResults = w.queueResults := by rw [← hw₁]
            have hends : Ends peer bytes := .newer hdispatch hparse hnewer
            rcases enqueueEvent_cases (.peerDisconnected peerId .remote) w₁ with
              ⟨w₂, h, hh, he, -⟩ | ⟨w₂, h, hh, he, -, -, hclosed⟩
            · rw [final_bind_ok h]
              refine .trans_stays ?_ (stays_enterRequest remoteAddr _ _ w₂)
              refine .removes hbound hlive hends (.inr rfl) (hh.symm ▸ htables) (.inl ?_)
              rw [departures_of_disconnected he, hdepartures]
            · rw [final_bind_error h]
              refine .removes hbound hlive hends (.inr rfl) (hh.symm ▸ htables) (.inr ⟨?_, ?_⟩)
              · rw [← hdepartures, World.departures, he]
                rfl
              · exact fun hno => hno.queue (hfaults ▸ hclosed)

/-- **What one packet does to the tables.** -/
theorem effect_processLeaf (remoteAddr : SocketAddr) (bytes : Bytes) (w : World) :
    Effect remoteAddr bytes w (final (processLeaf remoteAddr bytes) w) := by
  unfold processLeaf
  cases hdispatch : dispatch bytes with
  | serverInfo payload => exact .stays (stays_enqueueEvent rfl w)
  | ignored => exact .stays (.refl w)
  | packet property connectionNumber =>
    by_cases hrequest : property = .connectRequest
    · subst hrequest
      exact effect_processConnectRequest remoteAddr hdispatch w
    · by_cases hdisconnect : property = .disconnect
      · subst hdisconnect
        exact effect_processDisconnect remoteAddr hdispatch w
      · exact .stays (stays_processSingle remoteAddr hrequest hdisconnect _ bytes w)

/-- No address is bound anew. -/
def NoNewBindings (w w' : World) : Prop :=
  ∀ a id, w'.handle.byAddr.lookup a = some id → w.handle.byAddr.lookup a = some id

lemma noNewBindings_of_stays {w w' : World} (h : Stays w w') : NoNewBindings w w' :=
  fun a _ hid => (h.tables.byAddr a).symm.trans hid

lemma noNewBindings_of_effect {remoteAddr : SocketAddr} {bytes : Bytes} {w w' : World}
    (h : Effect remoteAddr bytes w w') : NoNewBindings w w' := by
  intro a id hid
  cases h with
  | stays hs => exact noNewBindings_of_stays hs a id hid
  | unbinds hbound hgone htables hdep =>
    have hid := (htables.byAddr a).symm.trans hid
    rw [TransportHandle.unbind, Dict.lookup_erase, Option.ite_none_left_eq_some] at hid
    exact hid.2
  | @removes peerId peer addr hbound hlive hends haddr htables hdep =>
    have hid : (w.handle.byAddr.erase addr).lookup a = some id := (htables.byAddr a).symm.trans hid
    rw [Dict.lookup_erase, Option.ite_none_left_eq_some] at hid
    exact hid.2

/-- A datagram never binds an address. -/
theorem noNewBindings_processPacket (remoteAddr : SocketAddr) (bytes : Bytes) :
    Relates NoNewBindings (processPacket remoteAddr bytes) := by
  refine relates_processPacket (fun _ _ _ h => h) (fun _ _ _ h h' a id hid => h a id (h' a id hid)) ?_ bytes ?_
  · exact fun w => noNewBindings_of_stays (stays_touchPeer remoteAddr w)
  · exact fun leaf _ w => noNewBindings_of_effect (effect_processLeaf remoteAddr leaf w)

/-- No peer is new. -/
def NoNewPeers (w w' : World) : Prop := ∀ id ∈ w'.handle.peers, id ∈ w.handle.peers

lemma noNewPeers_of_effect {remoteAddr : SocketAddr} {bytes : Bytes} {w w' : World}
    (h : Effect remoteAddr bytes w w') : NoNewPeers w w' := by
  intro id hid
  cases h with
  | stays hs => exact (hs.tables.peers.mem_iff id).mp hid
  | unbinds hbound hgone htables hdep => exact (htables.peers.mem_iff id).mp hid
  | removes hbound hlive hends haddr htables hdep => exact (AList.mem_erase.mp ((htables.peers.mem_iff id).mp hid)).2

/-- A datagram never makes a peer. -/
theorem noNewPeers_processPacket (remoteAddr : SocketAddr) (bytes : Bytes) :
    Relates NoNewPeers (processPacket remoteAddr bytes) := by
  refine relates_processPacket (fun _ _ h => h) (fun _ _ _ h h' id hid => h id (h' id hid)) ?_ bytes ?_
  · exact fun w id hid => ((stays_touchPeer remoteAddr w).tables.peers.mem_iff id).mp hid
  · exact fun leaf _ w => noNewPeers_of_effect (effect_processLeaf remoteAddr leaf w)

/-! ### Properties shared by all arms -/

/-- Everything emitted but messages. -/
def ServerEvent.isMessage : ServerEvent → Bool
  | .message .. => true
  | _ => false

/-- A property of computations that sequencing respects and the moves of `process_packet` have; messages
are left out, as they depend on the address table. -/
structure Stepwise (Q : TransportM Unit → Prop) : Prop where
  pure : Q (Pure.pure ())
  bind : ∀ {x : TransportM Unit} {f : Unit → TransportM Unit}, Q x → Q (f ()) → Q (x >>= f)
  get_bind : ∀ {f : World → TransportM Unit}, (∀ w, Q (f w)) → Q (get >>= f)
  modifyHandle : ∀ f, Q (modifyHandle f)
  sendRawTo : ∀ bytes addr, Q (sendRawTo bytes addr)
  enqueueEvent : ∀ event, event.isMessage = false → Q (enqueueEvent event)

namespace Stepwise

variable {Q : TransportM Unit → Prop} (hQ : Stepwise Q) (remoteAddr : SocketAddr)
include hQ

lemma touchPeer : Q (touchPeer remoteAddr) := by
  refine hQ.get_bind fun w => ?_
  split
  next => exact hQ.pure
  next => exact hQ.modifyHandle _

lemma enterRequest (connectionNumber : UInt8) (parsed : ParsedConnectRequest) :
    Q (enterRequest remoteAddr connectionNumber parsed) := by
  refine hQ.get_bind fun w => ?_
  split
  next => exact hQ.pure
  next => exact hQ.bind (hQ.modifyHandle _) (hQ.enqueueEvent _ rfl)

lemma processConnectRequest (connectionNumber : UInt8) (bytes : Bytes) :
    Q (processConnectRequest remoteAddr connectionNumber bytes) := by
  unfold Transport.processConnectRequest
  split
  next => exact hQ.pure
  next => exact hQ.sendRawTo _ _
  next =>
    refine hQ.get_bind fun w => ?_
    split
    next => exact hQ.enterRequest _ _ _
    next =>
      split
      next => exact hQ.enterRequest _ _ _
      next =>
        split
        next => exact hQ.sendRawTo _ _
        next =>
          split
          next => exact hQ.pure
          next =>
            refine hQ.bind (hQ.modifyHandle _) ?_
            exact hQ.bind (hQ.enqueueEvent _ rfl) (hQ.enterRequest _ _ _)

lemma processDisconnect (connectionNumber : UInt8) (bytes : Bytes) :
    Q (processDisconnect remoteAddr connectionNumber bytes) := by
  refine hQ.get_bind fun w => ?_
  split
  next => exact hQ.pure
  next =>
    refine hQ.bind (hQ.modifyHandle _) ?_
    split
    next => exact hQ.pure
    next =>
      refine hQ.bind (hQ.modifyHandle _) ?_
      split
      next => exact hQ.modifyHandle _
      next =>
        refine hQ.bind (hQ.modifyHandle _) ?_
        exact hQ.bind (hQ.sendRawTo _ _) (hQ.enqueueEvent _ rfl)

lemma processMessage (hmessage : ∀ event, Q (Transport.enqueueEvent event))
    (hlossy : ∀ event, Q (enqueueLossyEvent event)) (property : PacketProperty) (bytes : Bytes) :
    Q (processMessage remoteAddr property bytes) := by
  refine hQ.bind (hQ.touchPeer remoteAddr) (hQ.get_bind fun w => ?_)
  split
  next => exact hQ.pure
  next =>
    split
    next => exact hQ.pure
    next =>
      dsimp only
      split
      next =>
        refine hQ.bind (hQ.modifyHandle _) ?_
        split
        next => exact hlossy _
        next => exact hmessage _
      next =>
        split
        next => exact hlossy _
        next => exact hmessage _

theorem processLeaf {bytes : Bytes}
    (hmessage : ∀ property connectionNumber, dispatch bytes = .packet property connectionNumber →
      property = .channeled ∨ property = .unreliable →
      Q (Transport.processMessage remoteAddr property bytes)) :
    Q (processLeaf remoteAddr bytes) := by
  have htouch := hQ.touchPeer remoteAddr
  unfold Transport.processLeaf
  split
  next => exact hQ.enqueueEvent _ rfl
  next => exact hQ.pure
  next property connectionNumber hdispatch =>
    unfold processSingle
    split
    next => exact hQ.processConnectRequest _ _ _
    next => exact hQ.processDisconnect _ _ _
    next =>
      refine hQ.bind htouch ?_
      split
      next => exact hQ.get_bind fun w => hQ.sendRawTo _ _
      next => exact hQ.pure
    next =>
      refine hQ.bind htouch ?_
      unfold sendMtuOk
      split
      next => exact hQ.pure
      next => exact hQ.sendRawTo _ _
    next => exact htouch
    next =>
      split
      next => exact hQ.pure
      next => exact hQ.enqueueEvent _ rfl
    next =>
      refine hQ.get_bind fun w => ?_
      split
      next => exact hQ.pure
      next => exact hQ.modifyHandle _
    next => exact hmessage _ _ hdispatch (.inl rfl)
    next => exact hmessage _ _ hdispatch (.inr rfl)
    next => exact hQ.pure

end Stepwise

theorem stepwise_of_relates {R : World → World → Prop} (hrefl : ∀ w, R w w)
    (htrans : ∀ w w' w'', R w w' → R w' w'' → R w w'') (hmodify : ∀ f, Relates R (modifyHandle f))
    (hsend : ∀ bytes addr, Relates R (sendRawTo bytes addr))
    (henqueue : ∀ event, event.isMessage = false → Relates R (enqueueEvent event)) :
    Stepwise (Relates R) where
  pure := Relates.pure hrefl _
  bind hx hf := Relates.bind htrans hx fun _ => hf
  get_bind hf := Relates.bind htrans (Relates.get hrefl) hf
  modifyHandle := hmodify
  sendRawTo := hsend
  enqueueEvent := henqueue

lemma consumes_enqueueEvent (event : ServerEvent) : Relates Consumes (enqueueEvent event) := by
  intro w
  rcases enqueueEvent_cases event w with ⟨w', h, -, -, hs, hq⟩ | ⟨w', h, -, -, hs, hq, -⟩
  · rw [final_of_ok h]
    exact ⟨hs ▸ List.suffix_refl _, hq⟩
  · rw [final_of_error h]
    exact ⟨hs ▸ List.suffix_refl _, hq⟩

lemma consumes_enqueueLossyEvent (event : ServerEvent) : Relates Consumes (enqueueLossyEvent event) := by
  intro w
  rcases enqueueLossyEvent_cases event w with ⟨w', h, -, hs, hq, -⟩ | ⟨w', h, -, hs, hq, -⟩
  · rw [final_of_ok h]
    exact ⟨hs ▸ List.suffix_refl _, hq⟩
  · rw [final_of_error h]
    exact ⟨hs ▸ List.suffix_refl _, hq⟩

theorem consumes_stepwise : Stepwise (Relates Consumes) := by
  refine stepwise_of_relates .refl .trans (fun f w => ⟨List.suffix_refl _, List.suffix_refl _⟩) ?_
    fun event _ => consumes_enqueueEvent event
  intro bytes addr w
  rcases sendRawTo_cases bytes addr w with ⟨w', h, -, -, hq, hs⟩ | ⟨w', h, -, -, hq, hs, -⟩
  · rw [final_of_ok h]
    exact ⟨hs, hq ▸ List.suffix_refl _⟩
  · rw [final_of_error h]
    exact ⟨hs, hq ▸ List.suffix_refl _⟩

theorem consumes_processLeaf (remoteAddr : SocketAddr) (bytes : Bytes) :
    Relates Consumes (processLeaf remoteAddr bytes) :=
  consumes_stepwise.processLeaf remoteAddr fun property _ _ _ =>
    consumes_stepwise.processMessage remoteAddr consumes_enqueueEvent consumes_enqueueLossyEvent property bytes

end BasisRust.Transport
