import BasisRust.Transport.System

/-!
# Departures

Which steps report a peer that leaves `peers`.  `process_packet` and `timeout_loop` emit one
`PeerDisconnected` for each id they remove, unless the socket or the queue fails in between; `disconnect`
emits none.
-/

namespace BasisRust.Transport

open Lib Protocol

/-! ### Exact reports -/

/-- No peer appears, and the peers that leave are reported once each. -/
structure Reported (w w' : World) : Prop where
  shrinks : ∀ id, id ∈ w'.handle.peers → id ∈ w.handle.peers
  exact : ∃ gone, w'.departures = w.departures ++ gone ∧ ∀ id,
    gone.count id = if id ∈ w.handle.peers ∧ id ∉ w'.handle.peers then 1 else 0

namespace Reported

theorem of_mem_iff {w w' : World} (hmem : ∀ id, id ∈ w'.handle.peers ↔ id ∈ w.handle.peers)
    (hdepartures : w'.departures = w.departures) : Reported w w' := by
  refine ⟨fun id h => (hmem id).mp h, [], by rw [hdepartures, List.append_nil], fun id => ?_⟩
  rw [if_neg, List.count_nil]
  rintro ⟨h, h'⟩
  exact h' ((hmem id).mpr h)

theorem refl (w : World) : Reported w w := of_mem_iff (fun _ => Iff.rfl) rfl

theorem trans {w w' w'' : World} (h : Reported w w') (h' : Reported w' w'') : Reported w w'' := by
  obtain ⟨gone, hgone, hcount⟩ := h.exact
  obtain ⟨gone', hgone', hcount'⟩ := h'.exact
  refine ⟨fun id hid => h.shrinks id (h'.shrinks id hid), gone ++ gone', ?_, fun id => ?_⟩
  · rw [hgone', hgone, List.append_assoc]
  · rw [List.count_append, hcount, hcount']
    have h₁ := h.shrinks id
    have h₂ := h'.shrinks id
    by_cases hw : id ∈ w.handle.peers <;> by_cases hw' : id ∈ w'.handle.peers <;>
      by_cases hw'' : id ∈ w''.handle.peers <;> simp_all

/-- One peer dropped and reported. -/
theorem of_drop {w w' : World} {peerId : PeerId} {addr : SocketAddr} (hlive : peerId ∈ w.handle.peers)
    (hmem : ∀ id, id ∈ w'.handle.peers ↔ id ∈ (w.handle.dropPeer peerId addr).peers)
    (hdepartures : w'.departures = w.departures ++ [peerId]) : Reported w w' := by
  have hdrop (id : PeerId) : id ∈ w'.handle.peers ↔ id ≠ peerId ∧ id ∈ w.handle.peers := by
    rw [hmem]
    exact AList.mem_erase
  refine ⟨fun id h => ((hdrop id).mp h).2, [peerId], hdepartures, fun id => ?_⟩
  simp only [hdrop]
  by_cases hid : id = peerId
  · subst hid
    simp [hlive]
  · rw [List.count_eq_zero.mpr (by simpa using hid), if_neg]
    rintro ⟨hmem, hgone⟩
    exact hgone ⟨hid, hmem⟩

end Reported

/-- A packet reports the peer it removes, unless a fault comes in between. -/
theorem reported_of_effect {remoteAddr : SocketAddr} {bytes : Bytes} {w w' : World}
    (h : Effect remoteAddr bytes w w') (hno : w.NoFaults) : Reported w w' := by
  cases h with
  | stays hs => exact .of_mem_iff hs.tables.peers.mem_iff hs.departures
  | unbinds hbound hgone htables hdep => exact .of_mem_iff htables.peers.mem_iff hdep
  | removes hbound hlive hends haddr htables hdep =>
    have hdep := hdep.resolve_right fun hfault => hfault.2 hno
    exact .of_drop (Dict.mem_iff_lookup.mpr ⟨_, hlive⟩) htables.peers.mem_iff hdep

theorem reported_processPacket (remoteAddr : SocketAddr) (bytes : Bytes) {w : World} (hno : w.NoFaults) :
    Reported w (final (processPacket remoteAddr bytes) w) := by
  have h : Relates (fun w w' => w.NoFaults → w'.NoFaults ∧ Reported w w')
      (processPacket remoteAddr bytes) := by
    refine relates_processPacket (fun w hw => ⟨hw, .refl w⟩) ?_ ?_ bytes fun leaf _ w hw => ?_
    · intro w w' w'' h h' hw
      obtain ⟨hw', hr⟩ := h hw
      obtain ⟨hw'', hr'⟩ := h' hw'
      exact ⟨hw'', hr.trans hr'⟩
    · intro w hw
      refine ⟨(consumes_stepwise.touchPeer remoteAddr w).noFaults hw, ?_⟩
      have hs := stays_touchPeer remoteAddr w
      exact .of_mem_iff hs.tables.peers.mem_iff hs.departures
    · exact ⟨(consumes_processLeaf remoteAddr leaf w).noFaults hw,
        reported_of_effect (effect_processLeaf remoteAddr leaf w) hw⟩
  exact (h w hno).2

/-! ### Datagrams that end no connection -/

/-- None of the packets ends the connection of the peer the address is bound to. -/
def EndsNone (handle : TransportHandle) (remoteAddr : SocketAddr) (packets : List Bytes) : Prop :=
  ∀ id peer, handle.byAddr.lookup remoteAddr = some id → handle.peers.lookup id = some peer →
    ∀ packet ∈ packets, ¬ Ends peer packet

lemma Ends.samePeer {p q : PeerState} (hs : SamePeer p q) {bytes : Bytes} (h : Ends q bytes) :
    Ends p bytes := by
  cases h with
  | disconnect hpacket hmatched =>
    refine .disconnect hpacket ?_
    unfold disconnectMatches at hmatched ⊢
    rwa [hs.connectionNumber, hs.connectTime] at hmatched
  | newer hpacket hparse hnewer =>
    rw [hs.connectTime] at hnewer
    exact .newer hpacket hparse hnewer

/-- The peers stay, no address is bound anew, and nobody is reported as gone. -/
structure Keeps (w w' : World) : Prop where
  peers : w.handle.peers.Rel SamePeer w'.handle.peers
  byAddr : NoNewBindings w w'
  departures : w'.departures = w.departures

namespace Keeps

theorem refl (w : World) : Keeps w w := ⟨.refl .refl _, fun _ _ h => h, rfl⟩

theorem trans {w w' w'' : World} (h : Keeps w w') (h' : Keeps w' w'') : Keeps w w'' where
  peers := h.peers.trans (fun _ _ _ => .trans) h'.peers
  byAddr a id hid := h.byAddr a id (h'.byAddr a id hid)
  departures := h'.departures.trans h.departures

theorem of_stays {w w' : World} (h : Stays w w') : Keeps w w' :=
  ⟨h.tables.peers, noNewBindings_of_stays h, h.departures⟩

theorem endsNone {w w' : World} (h : Keeps w w') {remoteAddr : SocketAddr} {packets : List Bytes}
    (hnone : EndsNone w.handle remoteAddr packets) : EndsNone w'.handle remoteAddr packets := by
  intro id peer' hbound hlive packet hpacket hends
  obtain ⟨peer, hpeer, hsame⟩ := h.peers.lookup_eq_some' hlive
  exact hnone id peer (h.byAddr _ _ hbound) hpeer packet hpacket (hends.samePeer hsame)

end Keeps

/-- A packet that does not end the connection of the bound peer removes nobody, faults or not. -/
theorem keeps_of_effect {remoteAddr : SocketAddr} {packets : List Bytes} {packet : Bytes} {w w' : World}
    (h : Effect remoteAddr packet w w') (hpacket : packet ∈ packets)
    (hnone : EndsNone w.handle remoteAddr packets) : Keeps w w' := by
  have hbyAddr := noNewBindings_of_effect h
  cases h with
  | stays hs => exact .of_stays hs
  | unbinds hbound hgone htables hdep => exact ⟨htables.peers, hbyAddr, hdep⟩
  | removes hbound hlive hends haddr htables hdep =>
    exact absurd hends (hnone _ _ hbound hlive packet hpacket)

theorem keeps_processPacket (remoteAddr : SocketAddr) (bytes : Bytes) {w : World}
    (hnone : EndsNone w.handle remoteAddr (leaves bytes)) :
    Keeps w (final (processPacket remoteAddr bytes) w) := by
  have h : Relates (fun w w' => EndsNone w.handle remoteAddr (leaves bytes) → Keeps w w')
      (processPacket remoteAddr bytes) := by
    refine relates_processPacket (fun w _ => .refl w) ?_ ?_ bytes fun leaf hleaf w hw => ?_
    · intro w w' w'' h h' hw
      exact (h hw).trans (h' ((h hw).endsNone hw))
    · exact fun w _ => .of_stays (stays_touchPeer remoteAddr w)
    · exact keeps_of_effect (effect_processLeaf remoteAddr leaf w) hleaf hw
  exact h w hnone

/-! ### Steps -/

/-- The step may remove a peer without reporting it: a disconnect call for a live peer, or a failure of the
socket or the queue while a peer is removed. -/
def MayLose (handle : TransportHandle) (l : NetLabel) : Prop :=
  match l.1 with
  | .packet remoteAddr bytes =>
    ¬ (handle.world l.2).NoFaults ∧ ¬ EndsNone handle remoteAddr (leaves bytes)
  | .disconnect peer _ => peer ∈ handle.peers
  | .timeout peer => peer ∈ handle.peers ∧ l.2.queueResults.head? = some .closed
  | _ => False

/-- The ids a step reports as gone. -/
def TransportHandle.reported (handle : TransportHandle) (l : NetLabel) : List PeerId :=
  (handle.outcome l).departures

lemma departures_eq_nil {w : World} (h : w.events = []) : w.departures = [] := by
  rw [World.departures, h]
  rfl

lemma reported_timeoutPeer (peerId : PeerId) {w : World}
    (h : ¬ (peerId ∈ w.handle.peers ∧ w.queueResults.head? = some .closed)) :
    Reported w (final (timeoutPeer peerId) w) := by
  have hhandle := handle_timeoutPeer peerId w
  cases hlive : w.handle.peers.lookup peerId with
  | none =>
    rw [timeoutPeer, final_get_bind, hlive]
    exact .refl w
  | some peer =>
    have hmem : peerId ∈ w.handle.peers := Dict.mem_iff_lookup.mpr ⟨peer, hlive⟩
    rw [dropLive_of_some hlive] at hhandle
    refine .of_drop hmem (fun id => by rw [hhandle]) ?_
    rw [timeoutPeer, final_get_bind, hlive]
    dsimp only
    rw [final_modifyHandle_bind, final_tryCatch_pure]
    have hqueue : w.queueResults.head? ≠ some .closed := fun hclosed => h ⟨hmem, hclosed⟩
    unfold final enqueueEvent
    dsimp only
    cases hresults : w.queueResults with
    | nil => exact departures_of_disconnected rfl
    | cons r rest =>
      rw [hresults] at hqueue
      cases r with
      | accepted => exact departures_of_disconnected rfl
      | full => exact departures_of_disconnected rfl
      | closed => exact absurd rfl hqueue

lemma mem_peers_accept (fuel : ℕ) (request : ConnectionRequest) {w : World} {id : PeerId}
    (h : id ∈ w.handle.peers) : id ∈ (final (accept fuel request) w).handle.peers := by
  cases hallocate : (w.handle.removePending request.remoteAddr).allocatePeerId fuel with
  | none =>
    rw [handle_accept_of_none hallocate]
    exact h
  | some result =>
    obtain ⟨id', handle'⟩ := result
    obtain ⟨-, hpeers, -⟩ := allocatePeerId_spec hallocate
    rw [handle_accept hallocate]
    refine (AList.mem_insert _).mpr (.inr ?_)
    rwa [hpeers]

/-- A step from which only exact reports follow. -/
lemma Reported.count {handle : TransportHandle} {l : NetLabel}
    (h : Reported (handle.world l.2) (handle.outcome l)) (id : PeerId) :
    (handle.reported l).count id =
      if id ∈ handle.peers ∧ id ∉ (handle.outcome l).handle.peers then 1 else 0 := by
  obtain ⟨gone, hgone, hcount⟩ := h.exact
  rw [TransportHandle.reported, hgone]
  exact hcount id

/-- **One step reports exactly.**  A step that may not lose a departure reports each peer it removes once
and nobody else. -/
theorem reported_count {handle : TransportHandle} {l : NetLabel} (h : ¬ MayLose handle l) (id : PeerId) :
    (handle.reported l).count id =
      if id ∈ handle.peers ∧ id ∉ (handle.outcome l).handle.peers then 1 else 0 := by
  obtain ⟨op, io⟩ := l
  have hquiet (hdepartures : handle.reported (op, io) = [])
      (hmem : id ∈ handle.peers → id ∈ (handle.outcome (op, io)).handle.peers) :
      (handle.reported (op, io)).count id =
        if id ∈ handle.peers ∧ id ∉ (handle.outcome (op, io)).handle.peers then 1 else 0 := by
    rw [hdepartures, List.count_nil, if_neg]
    exact fun hand => hand.2 (hmem hand.1)
  cases op with
  | packet remoteAddr bytes =>
    by_cases hno : (handle.world io).NoFaults
    · exact (reported_processPacket remoteAddr bytes hno).count id
    · by_cases hends : EndsNone handle remoteAddr (leaves bytes)
      · have hkeeps := keeps_processPacket (w := handle.world io) remoteAddr bytes hends
        exact (Reported.of_mem_iff hkeeps.peers.mem_iff hkeeps.departures).count id
      · exact absurd ⟨hno, hends⟩ h
  | accept fuel request =>
    have hrun : Op.run (.accept fuel request) = (accept fuel request >>= fun _ => pure ()) := rfl
    apply hquiet
    · rw [TransportHandle.reported, TransportHandle.outcome, hrun, final_bind_pure]
      exact departures_eq_nil (events_accept fuel request (handle.world io))
    · intro hid
      rw [TransportHandle.outcome, hrun, final_bind_pure]
      exact mem_peers_accept (w := handle.world io) fuel request hid
  | reject request reason =>
    apply hquiet
    · exact departures_eq_nil (events_reject request reason (handle.world io))
    · intro hid
      rw [TransportHandle.outcome, Op.run, handle_reject]
      exact hid
  | disconnect peer reason =>
    apply hquiet
    · exact departures_eq_nil (events_disconnect peer reason (handle.world io))
    · intro hid
      rw [TransportHandle.outcome, Op.run, handle_disconnect]
      have hnone : (handle.world io).handle.peers.lookup peer = none := Dict.notMem_iff_lookup.mp h
      rw [dropLive_of_none hnone]
      exact hid
  | timeout peer => exact (reported_timeoutPeer (w := handle.world io) peer h).count id
  | recyclePeerId peer =>
    apply hquiet
    · rfl
    · intro hid
      have hpeers := (recyclePeerId_spec peer handle).1
      change id ∈ (handle.recyclePeerId peer).peers
      rwa [hpeers]
  | sendManySlices peer packets =>
    have hs := stays_sendManySlices peer packets (handle.world io)
    exact (Reported.of_mem_iff hs.tables.peers.mem_iff hs.departures).count id
  | resendTo instant peer =>
    have hs := stays_resendTo instant peer (handle.world io)
    exact (Reported.of_mem_iff hs.tables.peers.mem_iff hs.departures).count id

/-- What is reported is gone, and what is gone is reported. -/
theorem mem_reported_iff {handle : TransportHandle} {l : NetLabel} (h : ¬ MayLose handle l) (id : PeerId) :
    id ∈ handle.reported l ↔ id ∈ handle.peers ∧ id ∉ (handle.outcome l).handle.peers := by
  rw [← List.count_pos_iff, reported_count h]
  split <;> simp_all

end BasisRust.Transport
