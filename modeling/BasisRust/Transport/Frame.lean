import BasisRust.Transport.Departures
import BasisRust.Transport.Tables

/-!
# What a datagram leaves alone

A datagram from one address works on the entries of that address only.  The peers bound to other
addresses keep all of their state, sequence numbers, queues and acknowledgements included, and so do the
bindings and the pending requests of other addresses.  `Foreign` is that frame; it rests on the invariant
`BindsLive`, by which the peer an address leads to has that address.
-/

namespace BasisRust.Transport

open Lib Protocol

/-- Nothing that belongs to another address differs. -/
structure Foreign (addr : SocketAddr) (handle handle' : TransportHandle) : Prop where
  peers : ∀ id peer, peer.addr ≠ addr →
    (handle'.peers.lookup id = some peer ↔ handle.peers.lookup id = some peer)
  byAddr : ∀ a, a ≠ addr → handle'.byAddr.lookup a = handle.byAddr.lookup a
  pendingRequests : ∀ a, a ≠ addr → handle'.pendingRequests.lookup a = handle.pendingRequests.lookup a

namespace Foreign

variable {addr : SocketAddr} {handle handle' handle'' : TransportHandle}

theorem refl (handle : TransportHandle) : Foreign addr handle handle :=
  ⟨fun _ _ _ => Iff.rfl, fun _ _ => rfl, fun _ _ => rfl⟩

theorem trans (h : Foreign addr handle handle') (h' : Foreign addr handle' handle'') :
    Foreign addr handle handle'' where
  peers id peer hne := (h'.peers id peer hne).trans (h.peers id peer hne)
  byAddr a hne := (h'.byAddr a hne).trans (h.byAddr a hne)
  pendingRequests a hne := (h'.pendingRequests a hne).trans (h.pendingRequests a hne)

/-- An update of the peer the address is bound to. -/
theorem modifyPeer (hlive : BindsLive handle) {peerId : PeerId}
    (hbound : handle.byAddr.lookup addr = some peerId) {f : PeerState → PeerState}
    (hf : ∀ p, (f p).addr = p.addr) : Foreign addr handle (handle.modifyPeer peerId f) := by
  refine ⟨fun id peer hne => ?_, fun _ _ => rfl, fun _ _ => rfl⟩
  change (handle.peers.modify peerId f).lookup id = some peer ↔ _
  rw [Dict.lookup_modify]
  split
  next hid =>
    subst hid
    obtain ⟨p, hp, haddr⟩ := hlive _ _ hbound
    rw [hp, Option.map_some, Option.some.injEq, Option.some.injEq]
    constructor
    · rintro rfl
      exact absurd ((hf p).trans haddr) hne
    · rintro rfl
      exact absurd haddr hne
  next => exact Iff.rfl

/-- The bound peer leaves the tables. -/
theorem dropPeer (hlive : BindsLive handle) {peerId : PeerId}
    (hbound : handle.byAddr.lookup addr = some peerId) :
    Foreign addr handle (handle.dropPeer peerId addr) := by
  obtain ⟨p, hp, haddr⟩ := hlive _ _ hbound
  refine ⟨fun id peer hne => ?_, fun a hne => ?_, fun _ _ => rfl⟩
  · change (handle.peers.erase peerId).lookup id = some peer ↔ _
    rw [Dict.lookup_erase]
    split
    next hid =>
      subst hid
      rw [hp]
      constructor
      · intro h
        cases h
      · rintro ⟨⟩
        exact absurd haddr hne
    next => exact Iff.rfl
  · change (handle.byAddr.erase addr).lookup a = _
    rw [Dict.lookup_erase, if_neg hne]

theorem insertPending (info : PendingRequestInfo) :
    Foreign addr handle { handle with pendingRequests := handle.pendingRequests.insert addr info } := by
  refine ⟨fun _ _ _ => Iff.rfl, fun _ _ => rfl, fun a hne => ?_⟩
  change (handle.pendingRequests.insert addr info).lookup a = _
  rw [Dict.lookup_insert, if_neg hne]

/-- What has the same entries. -/
theorem of_lookup_eq (hpeers : ∀ id, handle'.peers.lookup id = handle.peers.lookup id)
    (hbyAddr : ∀ a, handle'.byAddr.lookup a = handle.byAddr.lookup a)
    (hpending : handle'.pendingRequests = handle.pendingRequests) : Foreign addr handle handle' :=
  ⟨fun id peer _ => by rw [hpeers], fun a _ => hbyAddr a, fun a _ => by rw [hpending]⟩

end Foreign

/-! ### The arms -/

/-- From a state with live bindings on, nothing of another address changes. -/
def Own (addr : SocketAddr) (w w' : World) : Prop :=
  BindsLive w.handle → BindsLive w'.handle ∧ Foreign addr w.handle w'.handle

namespace Own

variable {addr : SocketAddr}

theorem refl (w : World) : Own addr w w := fun h => ⟨h, .refl _⟩

theorem trans (w w' w'' : World) (h : Own addr w w') (h' : Own addr w' w'') : Own addr w w'' := by
  intro hlive
  obtain ⟨hlive', hforeign⟩ := h hlive
  obtain ⟨hlive'', hforeign'⟩ := h' hlive'
  exact ⟨hlive'', hforeign.trans hforeign'⟩

theorem of_handle_eq {w w' : World} (h : w'.handle = w.handle) : Own addr w w' := by
  intro hlive
  rw [h]
  exact ⟨hlive, .refl _⟩

lemma sendRawTo (bytes : Bytes) (dest : SocketAddr) : Relates (Own addr) (sendRawTo bytes dest) :=
  fun w => of_handle_eq (handle_sendRawTo bytes dest w)

lemma enqueueEvent (event : ServerEvent) : Relates (Own addr) (enqueueEvent event) :=
  fun w => of_handle_eq (handle_enqueueEvent event w)

lemma enqueueLossyEvent (event : ServerEvent) : Relates (Own addr) (enqueueLossyEvent event) := by
  intro w
  rcases enqueueLossyEvent_cases event w with ⟨w', h, hh, -⟩ | ⟨w', h, hh, -⟩
  · rw [final_of_ok h]
    exact of_handle_eq hh
  · rw [final_of_error h]
    exact of_handle_eq hh

/-- A computation that looks at the state first. -/
lemma get_bind {f : World → TransportM Unit} (h : ∀ w, Own addr w (final (f w) w)) :
    Relates (Own addr) (get >>= f) := h

lemma modifyHandle_bind {f : TransportHandle → TransportHandle} {k : TransportM Unit} {w : World}
    (hf : BindsLive w.handle → BindsLive (f w.handle) ∧ Foreign addr w.handle (f w.handle))
    (hk : Relates (Own addr) k) : Own addr w (final (modifyHandle f >>= fun _ => k) w) := by
  rw [final_modifyHandle_bind]
  exact trans w { w with handle := f w.handle } _ hf (hk _)

lemma modifyPeer {w : World} {peerId : PeerId} (hbound : w.handle.byAddr.lookup addr = some peerId)
    {f : PeerState → PeerState} (hf : ∀ p, SamePeer p (f p)) :
    BindsLive w.handle →
      BindsLive (w.handle.modifyPeer peerId f) ∧ Foreign addr w.handle (w.handle.modifyPeer peerId f) :=
  fun hlive => ⟨hlive.sameTables (.modifyPeer peerId hf), .modifyPeer hlive hbound fun p => (hf p).addr⟩

variable (addr)

lemma touchPeer : Relates (Own addr) (touchPeer addr) := by
  refine get_bind fun w => ?_
  cases hbound : w.handle.byAddr.lookup addr with
  | none => exact refl w
  | some peerId => exact modifyPeer hbound fun p => ⟨rfl, rfl, rfl, rfl⟩

lemma enterRequest (connectionNumber : UInt8) (parsed : ParsedConnectRequest) :
    Relates (Own addr) (enterRequest addr connectionNumber parsed) := by
  refine get_bind fun w => ?_
  split
  next => exact refl w
  next =>
    refine modifyHandle_bind (fun hlive => ?_) (enqueueEvent _)
    exact ⟨hlive.of_eq rfl rfl, .insertPending _⟩

lemma processConnectRequest (connectionNumber : UInt8) (bytes : Bytes) :
    Relates (Own addr) (processConnectRequest addr connectionNumber bytes) := by
  unfold Transport.processConnectRequest
  split
  next => exact Relates.pure refl _
  next => exact sendRawTo _ _
  next parsed _ =>
    refine get_bind fun w => ?_
    cases hbound : w.handle.byAddr.lookup addr with
    | none => exact enterRequest addr connectionNumber parsed w
    | some peerId =>
      dsimp only
      cases hpeer : w.handle.peers.lookup peerId with
      | none => exact enterRequest addr connectionNumber parsed w
      | some peer =>
        dsimp only
        split
        next => exact sendRawTo _ _ w
        next =>
          split
          next => exact refl w
          next =>
            refine modifyHandle_bind (fun hlive => ?_) ?_
            · -- the peer the address leads to has that address
              obtain ⟨p, hp, haddr⟩ := hlive _ _ hbound
              obtain rfl := Option.some.inj (hpeer.symm.trans hp)
              refine ⟨hlive.dropPeer hpeer, ?_⟩
              rw [haddr]
              exact .dropPeer hlive hbound
            · exact Relates.bind trans (enqueueEvent _) fun _ => enterRequest addr connectionNumber parsed

/-- A disconnect that does not match puts back what it has removed. -/
lemma lookup_restored {handle : TransportHandle} {peerId : PeerId} {peer : PeerState}
    (hbound : handle.byAddr.lookup addr = some peerId) (hpeer : handle.peers.lookup peerId = some peer) :
    (∀ id, ((handle.peers.erase peerId).insert peerId peer).lookup id = handle.peers.lookup id) ∧
      ∀ a, ((handle.byAddr.erase addr).insert addr peerId).lookup a = handle.byAddr.lookup a := by
  constructor
  · intro id
    rw [Dict.lookup_insert, Dict.lookup_erase]
    split
    next h => rw [h, hpeer]
    next => rfl
  · intro a
    rw [Dict.lookup_insert, Dict.lookup_erase]
    split
    next h => rw [h, hbound]
    next => rfl

lemma processDisconnect (connectionNumber : UInt8) (bytes : Bytes) :
    Relates (Own addr) (processDisconnect addr connectionNumber bytes) := by
  refine get_bind fun w hlive => ?_
  cases hbound : w.handle.byAddr.lookup addr with
  | none => exact refl w hlive
  | some peerId =>
    obtain ⟨peer, hpeer, haddr⟩ := hlive _ _ hbound
    dsimp only
    rw [final_modifyHandle_bind, hpeer]
    dsimp only
    rw [final_modifyHandle_bind]
    split
    next =>
      obtain ⟨hpeers, hbyAddr⟩ := lookup_restored addr hbound hpeer
      refine ⟨?_, .of_lookup_eq hpeers hbyAddr rfl⟩
      refine hlive.sameTables ⟨fun id => ?_, hbyAddr, rfl, rfl, rfl⟩
      change Option.Rel SamePeer _ (((w.handle.peers.erase peerId).insert peerId peer).lookup id)
      rw [hpeers]
      exact Dict.Rel.refl SamePeer.refl _ id
    next =>
      rw [final_modifyHandle_bind]
      have hrest : Relates (Own addr) (sendSimpleProperty addr .shutdownOk >>= fun _ =>
          Transport.enqueueEvent (.peerDisconnected peerId .remote)) :=
        Relates.bind trans (sendRawTo _ _) fun _ => enqueueEvent _
      have hdrop := hlive.dropPeer hpeer
      rw [haddr] at hdrop
      obtain ⟨hlive', hforeign⟩ := hrest { w with handle := w.handle.dropPeer peerId addr } hdrop
      exact ⟨hlive', (Foreign.dropPeer hlive hbound).trans hforeign⟩

lemma processAckPacket (bytes : Bytes) : Relates (Own addr) (processAckPacket addr bytes) := by
  refine get_bind fun w => ?_
  cases hbound : w.handle.byAddr.lookup addr with
  | none => exact refl w
  | some peerId => exact modifyPeer hbound fun p => samePeer_processAck p w.now bytes

lemma processMessage (property : PacketProperty) (bytes : Bytes) :
    Relates (Own addr) (processMessage addr property bytes) := by
  refine Relates.bind trans (touchPeer addr) fun _ => get_bind fun w => ?_
  cases hbound : w.handle.byAddr.lookup addr with
  | none => exact refl w
  | some peerId =>
    dsimp only
    split
    next => exact refl w
    next channel delivery payload _ =>
      have hevent : Relates (Own addr) (if delivery = .unreliable ∨ delivery = .sequenced then
          Transport.enqueueLossyEvent (.message peerId channel delivery payload)
          else Transport.enqueueEvent (.message peerId channel delivery payload)) := by
        split
        next => exact enqueueLossyEvent _
        next => exact enqueueEvent _
      split
      next => exact modifyHandle_bind (modifyPeer hbound fun p => ⟨rfl, rfl, rfl, rfl⟩) hevent
      next => exact hevent w

/-- **One packet** touches only what belongs to the address it comes from. -/
theorem processLeaf (bytes : Bytes) : Relates (Own addr) (processLeaf addr bytes) := by
  have htouch := touchPeer addr
  unfold Transport.processLeaf
  split
  next => exact enqueueEvent _
  next => exact Relates.pure refl _
  next property connectionNumber _ =>
    unfold processSingle
    split
    next => exact processConnectRequest addr _ _
    next => exact processDisconnect addr _ _
    next =>
      refine Relates.bind trans htouch fun _ => ?_
      split
      next => exact get_bind fun w => sendRawTo _ _ w
      next => exact Relates.pure refl _
    next =>
      refine Relates.bind trans htouch fun _ => ?_
      unfold sendMtuOk
      split
      next => exact Relates.pure refl _
      next => exact sendRawTo _ _
    next => exact htouch
    next =>
      split
      next => exact Relates.pure refl _
      next => exact enqueueEvent _
    next => exact processAckPacket addr _
    next => exact processMessage addr _ _
    next => exact processMessage addr _ _
    next => exact Relates.pure refl _

theorem processPacket (bytes : Bytes) : Relates (Own addr) (processPacket addr bytes) :=
  relates_processPacket refl trans (touchPeer addr) bytes fun leaf _ => processLeaf addr leaf

end Own

/-! ### Removals -/

/-- Whoever is removed is the peer the address led to, and one of the packets ends its connection. -/
structure Removes (addr : SocketAddr) (packets : List Bytes) (w w' : World) : Prop where
  byAddr : NoNewBindings w w'
  peers : ∀ id peer', w'.handle.peers.lookup id = some peer' →
    ∃ peer, w.handle.peers.lookup id = some peer ∧ SamePeer peer peer'
  removed : ∀ id peer, w.handle.peers.lookup id = some peer → id ∉ w'.handle.peers →
    w.handle.byAddr.lookup addr = some id ∧ ∃ packet ∈ packets, Ends peer packet

namespace Removes

variable {addr : SocketAddr} {packets : List Bytes}

theorem of_rel {w w' : World} (hbyAddr : NoNewBindings w w')
    (hpeers : w.handle.peers.Rel SamePeer w'.handle.peers) : Removes addr packets w w' := by
  refine ⟨hbyAddr, fun id peer' h => hpeers.lookup_eq_some' h, fun id peer hpeer hgone => ?_⟩
  exact absurd ((hpeers.mem_iff id).mpr (Dict.mem_iff_lookup.mpr ⟨peer, hpeer⟩)) hgone

theorem refl (w : World) : Removes addr packets w w := of_rel (fun _ _ h => h) (.refl .refl _)

theorem trans (w w' w'' : World) (h : Removes addr packets w w') (h' : Removes addr packets w' w'') :
    Removes addr packets w w'' := by
  refine ⟨fun a id hid => h.byAddr a id (h'.byAddr a id hid), fun id peer'' hpeer'' => ?_, ?_⟩
  · obtain ⟨peer', hpeer', hsame'⟩ := h'.peers id peer'' hpeer''
    obtain ⟨peer, hpeer, hsame⟩ := h.peers id peer' hpeer'
    exact ⟨peer, hpeer, hsame.trans hsame'⟩
  · intro id peer hpeer hgone
    by_cases hmem : id ∈ w'.handle.peers
    · -- still there halfway: the second half removes it, as the same peer
      obtain ⟨peer', hpeer'⟩ := Dict.mem_iff_lookup.mp hmem
      obtain ⟨hbound, packet, hpacket, hends⟩ := h'.removed id peer' hpeer' hgone
      obtain ⟨p, hp, hsame⟩ := h.peers id peer' hpeer'
      obtain rfl := Option.some.inj (hpeer.symm.trans hp)
      exact ⟨h.byAddr _ _ hbound, packet, hpacket, hends.samePeer hsame⟩
    · exact h.removed id peer hpeer hmem

theorem of_effect {packet : Bytes} {w w' : World} (h : Effect addr packet w w') (hpacket : packet ∈ packets) :
    Removes addr packets w w' := by
  have hbyAddr := noNewBindings_of_effect h
  cases h with
  | stays hs => exact of_rel hbyAddr hs.tables.peers
  | unbinds hbound hgone htables hdep => exact of_rel hbyAddr htables.peers
  | @removes peerId peer a hbound hlive hends haddr htables hdep =>
    have hdrop (id : PeerId) : (w.handle.dropPeer peerId a).peers.lookup id =
        if id = peerId then none else w.handle.peers.lookup id := Dict.lookup_erase _ _ _
    refine ⟨hbyAddr, fun id peer' hpeer' => ?_, fun id p hp hgone => ?_⟩
    · obtain ⟨p, hp, hsame⟩ := htables.peers.lookup_eq_some' hpeer'
      rw [hdrop, Option.ite_none_left_eq_some] at hp
      exact ⟨p, hp.2, hsame⟩
    · have hid : id = peerId := by
        by_contra hne
        refine hgone ((htables.peers.mem_iff id).mpr (Dict.mem_iff_lookup.mpr ⟨p, ?_⟩))
        rw [hdrop, if_neg hne, hp]
      subst hid
      obtain rfl := Option.some.inj (hlive.symm.trans hp)
      exact ⟨hbound, packet, hpacket, hends⟩

theorem processPacket (bytes : Bytes) :
    Relates (Removes addr (leaves bytes)) (processPacket addr bytes) := by
  refine relates_processPacket refl trans (fun w => ?_) bytes fun leaf hleaf w => ?_
  · have hs := stays_touchPeer addr w
    exact of_rel (noNewBindings_of_stays hs) hs.tables.peers
  · exact of_effect (effect_processLeaf addr leaf w) hleaf

end Removes

/-- A disconnect that matches no peer of its address leaves every entry of both tables. -/
theorem lookup_processDisconnect {addr : SocketAddr} {bytes : Bytes} {connectionNumber : UInt8} {w : World}
    (hlive : BindsLive w.handle)
    (hmatch : ∀ id peer, w.handle.byAddr.lookup addr = some id → w.handle.peers.lookup id = some peer →
      disconnectMatches peer bytes connectionNumber = false) :
    let w' := final (processDisconnect addr connectionNumber bytes) w
    (∀ id, w'.handle.peers.lookup id = w.handle.peers.lookup id) ∧
      ∀ a, w'.handle.byAddr.lookup a = w.handle.byAddr.lookup a := by
  rw [processDisconnect, final_get_bind]
  cases hbound : w.handle.byAddr.lookup addr with
  | none => exact ⟨fun _ => rfl, fun _ => rfl⟩
  | some peerId =>
    obtain ⟨peer, hpeer, -⟩ := hlive _ _ hbound
    dsimp only
    rw [final_modifyHandle_bind, hpeer]
    dsimp only
    rw [final_modifyHandle_bind, hmatch peerId peer hbound hpeer]
    exact Own.lookup_restored addr hbound hpeer

/-! ### Reachable states -/

theorem bindsLive_of_run {ts : List (Transition Net NetLabel)} {n : Net} (hrun : Run Net.Steps {} ts n) :
    BindsLive n.handle := by
  refine (hrun.invariant (I := fun n => BindsLive n.handle) BindsLive.empty ?_).2
  rintro s l t ⟨-, rfl⟩ h
  exact h.outcome l

/-- **A datagram affects its own address only.**  In every reachable state and for every datagram: no entry
of another address changes; a peer is removed only if the source address led to it and the datagram is or
contains a disconnect that matches it or a request for a newer connection; a disconnect that does not match
leaves both tables with the entries they had. -/
theorem packet_affects_own_address {ts : List (Transition Net NetLabel)} {n : Net}
    (hrun : Run Net.Steps {} ts n) (addr : SocketAddr) (bytes : Bytes) (io : Io) :
    let after := (n.handle.outcome (.packet addr bytes, io)).handle
    Foreign addr n.handle after ∧
    (∀ id peer, n.handle.peers.lookup id = some peer → id ∉ after.peers →
      n.handle.byAddr.lookup addr = some id ∧ ∃ packet ∈ leaves bytes, Ends peer packet) ∧
    ∀ connectionNumber, dispatch bytes = .packet .disconnect connectionNumber →
      (∀ id peer, n.handle.byAddr.lookup addr = some id → n.handle.peers.lookup id = some peer →
        disconnectMatches peer bytes connectionNumber = false) →
      (∀ id, after.peers.lookup id = n.handle.peers.lookup id) ∧
        ∀ a, after.byAddr.lookup a = n.handle.byAddr.lookup a := by
  have hlive : BindsLive (n.handle.world io).handle := bindsLive_of_run hrun
  refine ⟨(Own.processPacket addr bytes _ hlive).2, (Removes.processPacket bytes (n.handle.world io)).removed, ?_⟩
  intro connectionNumber hdispatch hmatch
  have hrun : Op.run (.packet addr bytes) = processDisconnect addr connectionNumber bytes := by
    rw [Op.run, processPacket, hdispatch]
    rfl
  rw [TransportHandle.outcome, hrun]
  exact lookup_processDisconnect hlive hmatch

/-- A visitor is accepted, a message for it is sent, and a second one waits in the queue. -/
def sentAndQueued : List NetLabel :=
  [(connectRequestFrom 1, {}), (.accept 1 (requestAt 1), {}),
    (.sendManySlices 0 [(channels.scene, .reliableOrdered, [1])], {}), (.resendTo (fun _ => 0) 0, {}),
    (.sendManySlices 0 [(channels.scene, .reliableOrdered, [2])], {})]

lemma sentAndQueued_run :
    Run Net.Steps {} (trace Net.after {} sentAndQueued) (sentAndQueued.foldl Net.after {}) := by
  refine Run.of_trace _ _ fun tr htr => ⟨?_, dst_of_mem_trace htr⟩
  have hall : ∀ tr ∈ trace Net.after {} sentAndQueued, tr.src.Enabled tr.label.1 := by decide +kernel
  exact hall tr htr

lemma sentAndQueued_peer :
    ((sentAndQueued.foldl Net.after {}).handle.peers.lookup 0).map
      (fun peer => (peer.addr, peer.pendingReliable.entries.length,
        peer.outgoingReliable.entries.map fun e => e.2)) = some (localAddr, 1, [[[2]]]) := by decide +kernel

def strangerAddr : SocketAddr := .v4 (.ofFn fun _ => 1) 4296

/-- A merged datagram with the disconnect of the connection made at time 1. -/
def mergedDisconnect : Bytes :=
  headerByte .merged 0 :: frame (putU8 (headerByte .disconnect 0) ++ putI64 1)

/-- From another address the datagram leaves the peer with all it has pending and queued; from its own it removes the
peer, as one of its packets ends the connection. -/
theorem packet_affects_own_address_disconnect :
    let handle := (sentAndQueued.foldl Net.after {}).handle
    ∃ peer, handle.peers.lookup 0 = some peer ∧ peer.pendingReliable.entries.length = 1 ∧
      peer.outgoingReliable.entries.map (fun e => e.2) = [[[2]]] ∧
      (handle.outcome (.packet strangerAddr mergedDisconnect, {})).handle.peers.lookup 0 = some peer ∧
      ∃ packet ∈ leaves mergedDisconnect, Ends peer packet := by
  obtain ⟨peer, hpeer, hparts⟩ := Option.map_eq_some_iff.mp sentAndQueued_peer
  obtain ⟨haddr, hparts⟩ := Prod.mk.inj hparts
  obtain ⟨hpending, hqueued⟩ := Prod.mk.inj hparts
  have hgone : 0 ∉ ((sentAndQueued.foldl Net.after {}).handle.outcome
      (.packet localAddr mergedDisconnect, {})).handle.peers := by decide +kernel
  obtain ⟨hforeign, -, -⟩ := packet_affects_own_address sentAndQueued_run strangerAddr mergedDisconnect {}
  obtain ⟨-, hremoved, -⟩ := packet_affects_own_address sentAndQueued_run localAddr mergedDisconnect {}
  have hne : peer.addr ≠ strangerAddr := by
    rw [haddr]
    decide
  exact ⟨peer, hpeer, hpending, hqueued, (hforeign.peers 0 peer hne).mpr hpeer, (hremoved 0 peer hpeer hgone).2⟩

end BasisRust.Transport
