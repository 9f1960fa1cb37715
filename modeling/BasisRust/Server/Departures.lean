import BasisRust.Server.Roster
import BasisRust.Transport.Tables

/-!
# Departures on the roster

While nobody is lost, everybody on the server's roster is live or has a departure in the queue that will
take them off it.  With an empty queue the authenticated peers are therefore live.  An admin's kick loses
the peer it is for: `disconnect` reports nothing, so the peer stays authenticated.
-/

namespace BasisRust.Server

open Lib Protocol Transport

namespace ServerState

/-! ### Single moves -/

/-- An event taken from the queue that reports no departure of the peer. -/
lemma Known.pop {s : ServerState} {event : ServerEvent} {rest : List ServerEvent} {id : PeerId}
    (hqueue : s.queue = event :: rest) (hevent : disconnectedPeer event ≠ some id) (h : s.Known id) :
    Known { s with queue := rest } id := by
  rcases h with hlive | hqueued
  · exact .inl hlive
  · rw [hqueue, List.mem_filterMap] at hqueued
    obtain ⟨e, hmem, hid⟩ := hqueued
    rcases List.mem_cons.mp hmem with rfl | hmem
    · exact absurd hid hevent
    · exact .inr (List.mem_filterMap.mpr ⟨e, hmem, hid⟩)

namespace RosterKnown

variable {s : ServerState}

lemma pop {event : ServerEvent} {rest : List ServerEvent} (hqueue : s.queue = event :: rest)
    (hevent : disconnectedPeer event = none) (h : s.RosterKnown) : RosterKnown { s with queue := rest } := by
  have hnot (id : PeerId) : disconnectedPeer event ≠ some id := by
    rw [hevent]
    exact Option.some_ne_none id |>.symm
  exact ⟨fun id hid => (h.pending id hid).pop hqueue (hnot id),
    fun id hid => (h.authenticated id hid).pop hqueue (hnot id)⟩

lemma insertPending {id : PeerId} (hid : s.Known id) (ready : ReadyMessage) (h : s.RosterKnown) :
    RosterKnown { s with pendingIdentity := s.pendingIdentity.insert id ready } := by
  refine ⟨fun id' hid' => ?_, h.authenticated⟩
  rcases (AList.mem_insert _).mp hid' with rfl | hid'
  · exact hid
  · exact h.pending id' hid'

lemma erasePending (id : PeerId) (h : s.RosterKnown) :
    RosterKnown { s with pendingIdentity := s.pendingIdentity.erase id } :=
  ⟨fun id' hid' => h.pending id' (AList.mem_erase.mp hid').2, h.authenticated⟩

lemma finalizeAccept {id : PeerId} (hid : s.Known id) (ready : ReadyMessage) (h : s.RosterKnown) :
    (s.finalizeAccept id ready).RosterKnown := by
  refine ⟨h.pending, fun id' hid' => ?_⟩
  rcases (AList.mem_insert _).mp hid' with rfl | hid'
  · exact hid
  · exact h.authenticated id' hid'

end RosterKnown

/-! ### Handlers -/

lemma rosterKnown_handleConnectionRequest (h : Handling) (request : ConnectionRequest) {s : ServerState}
    (hroster : s.RosterKnown) : (s.handleConnectionRequest h request).RosterKnown := by
  rw [handleConnectionRequest]
  split
  next reason _ => exact rosterKnown_call (fun hlose => hlose) hroster
  next ready _ =>
    have hcalled : (s.call (.accept h.allocateFuel request) (h.io 0)).RosterKnown :=
      rosterKnown_call (fun hlose => hlose) hroster
    dsimp only
    split
    next peerId w hok =>
      have hlive : (s.call (.accept h.allocateFuel request) (h.io 0)).Known peerId := by
        left
        have hmem := mem_peers_of_accept hok
        rwa [← final_of_ok hok, ← final_bind_pure _ ()] at hmem
      split
      next => exact hcalled.insertPending hlive ready
      next => exact hcalled.finalizeAccept hlive ready
    next => exact hcalled

lemma rosterKnown_handleDisconnect (h : Handling) {s : ServerState} {peer : PeerId}
    {reason : DisconnectReason} {rest : List ServerEvent} (hqueue : s.queue = .peerDisconnected peer reason :: rest)
    (hroster : s.RosterKnown) : (handleDisconnect h peer { s with queue := rest }).RosterKnown := by
  refine rosterKnown_call (fun hlose => hlose) ⟨fun id hid => ?_, fun id hid => ?_⟩
  · obtain ⟨hne, hid⟩ := AList.mem_erase.mp hid
    exact Known.pop (s := s) hqueue (fun heq => hne (Option.some.inj heq).symm) (hroster.pending id hid)
  · obtain ⟨hne, hid⟩ := AList.mem_erase.mp hid
    exact Known.pop (s := s) hqueue (fun heq => hne (Option.some.inj heq).symm) (hroster.authenticated id hid)

/-- A disconnect call for a peer that is not live does nothing. -/
lemma call_disconnect_of_notMem {s : ServerState} {peer : PeerId} (h : peer ∉ s.transport.peers)
    (reason : String) (io : Io) : s.call (.disconnect peer reason) io = s := by
  have houtcome : s.transport.outcome (.disconnect peer reason, io) = s.transport.world io := by
    have hnone : (s.transport.world io).handle.peers.lookup peer = none := Dict.notMem_iff_lookup.mp h
    rw [TransportHandle.outcome, Op.run, disconnect, final_get_bind, hnone]
    rfl
  rw [call, houtcome]
  change { s with transport := _, queue := s.queue ++ [] } = s
  rw [List.append_nil]
  rfl

lemma foldl_eq_self {σ α : Type} {f : σ → α → σ} {s : σ} {l : List α} (h : ∀ a ∈ l, f s a = s) :
    l.foldl f s = s := by
  induction l with
  | nil => rfl
  | cons a l ih =>
    obtain ⟨ha, hl⟩ := List.forall_mem_cons.mp h
    rw [List.foldl_cons, ha]
    exact ih hl

lemma handleAdminMessage_of_notMem {h : Handling} {payload : Bytes} {s : ServerState}
    (hnone : ∀ target ∈ s.disconnectCalls h.banRecorded payload, target.1 ∉ s.transport.peers) :
    s.handleAdminMessage h payload = s := by
  rw [handleAdminMessage]
  refine foldl_eq_self fun t ht => ?_
  exact call_disconnect_of_notMem (hnone t.1 (List.fst_mem_of_mem_zipIdx ht)) _ _

lemma rosterKnown_handleMessage {h : Handling} {peer : PeerId} {channel : UInt8} {payload : Bytes}
    {s : ServerState}
    (hnone : ¬ (channel = channels.admin ∧
      ∃ target ∈ s.disconnectCalls h.banRecorded payload, target.1 ∈ s.transport.peers))
    (hroster : s.RosterKnown) : (s.handleMessage h peer channel payload).RosterKnown := by
  rw [handleMessage]
  split
  next =>
    split
    next => exact hroster
    next ready hlookup =>
      have hknown := hroster.pending peer (Dict.mem_iff_lookup.mpr ⟨ready, hlookup⟩)
      exact RosterKnown.finalizeAccept (s := { s with pendingIdentity := s.pendingIdentity.erase peer })
        hknown ready (hroster.erasePending peer)
  next =>
    split
    next hadmin =>
      rw [handleAdminMessage_of_notMem]
      · exact hroster
      · exact fun target htarget hlive => hnone ⟨hadmin, target, htarget, hlive⟩
    next => exact hroster

/-! ### Runs -/

/-- A step that may not lose a departure keeps the roster known. -/
theorem rosterKnown_next {s : ServerState} {l : ServerLabel} (hlose : ¬ s.MayLose l)
    (hroster : s.RosterKnown) : (s.next l).RosterKnown := by
  cases l with
  | transport l => exact rosterKnown_call hlose hroster
  | handle h =>
    rw [next]
    split
    next => exact hroster
    next event rest hqueue =>
      cases event with
      | connectionRequest request =>
        exact rosterKnown_handleConnectionRequest h request (hroster.pop hqueue rfl)
      | peerDisconnected peer reason => exact rosterKnown_handleDisconnect h hqueue hroster
      | message peer channel delivery payload =>
        refine rosterKnown_handleMessage ?_ (hroster.pop hqueue rfl)
        rwa [MayLose, hqueue] at hlose
      | _ => exact hroster.pop hqueue rfl

theorem rosterKnown_run {ts : List (Transition ServerState ServerLabel)} {s : ServerState}
    (hrun : Run Steps {} ts s) (hlose : ∀ tr ∈ ts, ¬ tr.src.MayLose tr.label) : s.RosterKnown := by
  refine (Run.invariant_of (I := RosterKnown) (C := fun s l => ¬ s.MayLose l) ?_ ?_ hrun hlose).2
  · exact ⟨fun id hid => absurd hid (AList.notMem_empty id), fun id hid => absurd hid (AList.notMem_empty id)⟩
  · rintro s l t ⟨-, rfl⟩ hl hroster
    exact rosterKnown_next hl hroster

end ServerState

/-- **Departures are reported.**  In a run of the transport without a step that may lose a departure, every
removal of an id is reported once and nothing else is; and after such a run of the server, with every event
handled, the authenticated peers are live. -/
theorem departures_reported {ts : List (Transition Net NetLabel)} {n : Net} (hrun : Run Net.Steps {} ts n)
    (hlose : ∀ tr ∈ ts, ¬ Transport.MayLose tr.src.handle tr.label)
    {ts' : List (Transition ServerState ServerLabel)} {s : ServerState}
    (hrun' : Run ServerState.Steps {} ts' s) (hlose' : ∀ tr ∈ ts', ¬ tr.src.MayLose tr.label) :
    (∀ tr ∈ ts, ∀ id, (tr.src.handle.reported tr.label).count id =
      if id ∈ tr.src.handle.peers ∧ id ∉ tr.dst.handle.peers then 1 else 0) ∧
    (s.queue = [] → ∀ id ∈ s.authenticatedPeers, id ∈ s.transport.peers) := by
  constructor
  · intro tr htr id
    obtain ⟨-, hdst⟩ := hrun.step_of_mem tr htr
    rw [hdst]
    exact reported_count (hlose tr htr) id
  · intro hempty id hid
    rcases (ServerState.rosterKnown_run hrun' hlose').authenticated id hid with hlive | hqueued
    · exact hlive
    · rw [hempty] at hqueued
      cases hqueued

/-! ### A visitor who leaves, and one who is kicked -/

def visitor : ReadyMessage where
  playerMetaDataMessage := ⟨"v", "Visitor", "Windows"⟩
  clientAvatarChangeMessage := ⟨0, [], 0⟩
  localAvatarSyncMessage := ⟨0, [], [], 0⟩

def admitting : Handling where
  admission _ := .ok visitor
  useAuthIdentity := false
  allocateFuel := 1
  banRecorded := true
  io _ := {}

def leaving : Op := .packet localAddr (putU8 (headerByte .disconnect 0) ++ putI64 1)

/-- An admin request to kick the visitor, sent over the visitor's own connection. -/
def kicking : Op :=
  .packet localAddr (putU8 (headerByte .channeled 0) ++ putU16 0 ++ putU8 (channels.admin * 4 + 2) ++
    putU8 AdminRequestMode.kick.toU8 ++ putString "v")

def acceptedThen (op : Op) : List NetLabel :=
  [(connectRequestFrom 1, {}), (.accept 1 (requestAt 1), {}), (op, {})]

def admitted : List ServerLabel := [.transport (connectRequestFrom 1, {}), .handle admitting]

def admittedThenKicked : List ServerLabel := admitted ++ [.transport (kicking, {}), .handle admitting]

lemma acceptedThen_run (op : Op) (hop : op.answers = none) :
    Run Net.Steps {} (trace Net.after {} (acceptedThen op)) ((acceptedThen op).foldl Net.after {}) := by
  refine Run.of_trace _ _ fun tr htr => ⟨?_, dst_of_mem_trace htr⟩
  simp only [acceptedThen, trace, List.mem_cons, List.not_mem_nil, or_false] at htr
  rcases htr with rfl | rfl | rfl
  · exact trivial
  · have henabled : (Net.after {} (connectRequestFrom 1, {})).Enabled (.accept 1 (requestAt 1)) := by
      decide +kernel
    exact henabled
  · cases op with
    | accept fuel request => cases hop
    | reject request reason => cases hop
    | _ => exact trivial

lemma run_of_enabled (ls : List ServerLabel)
    (h : ∀ tr ∈ trace ServerState.next {} ls, tr.src.Enabled tr.label) :
    Run ServerState.Steps {} (trace ServerState.next {} ls) (ls.foldl ServerState.next {}) :=
  Run.of_trace _ _ fun tr htr => ⟨h tr htr, dst_of_mem_trace htr⟩

/-- A step without faults that is no disconnect call. -/
lemma not_mayLose_of_quiet (handle : TransportHandle) {op : Op}
    (hop : ∀ peer reason, op ≠ .disconnect peer reason) : ¬ Transport.MayLose handle (op, {}) := by
  intro h
  cases op with
  | packet remoteAddr bytes => exact h.1 ⟨List.not_mem_nil, List.not_mem_nil⟩
  | disconnect peer reason => exact hop peer reason rfl
  | timeout peer => cases h.2
  | _ => exact h

lemma acceptedThen_leaving_keeps :
    ∀ tr ∈ trace Net.after {} (acceptedThen leaving), ¬ Transport.MayLose tr.src.handle tr.label := by
  intro tr htr
  simp only [acceptedThen, trace, List.mem_cons, List.not_mem_nil, or_false] at htr
  rcases htr with rfl | rfl | rfl
  all_goals exact not_mayLose_of_quiet _ fun _ _ h => by cases h

lemma admitted_keeps : ∀ tr ∈ trace ServerState.next {} admitted, ¬ tr.src.MayLose tr.label := by
  intro tr htr
  simp only [admitted, trace, List.mem_cons, List.not_mem_nil, or_false] at htr
  rcases htr with rfl | rfl
  · have hquiet : ¬ Transport.MayLose {} (connectRequestFrom 1, {}) :=
      not_mayLose_of_quiet _ fun _ _ h => by cases h
    exact hquiet
  · have hqueue : (ServerState.next {} (.transport (connectRequestFrom 1, {}))).queue =
        [.connectionRequest (requestAt 1)] := by decide +kernel
    rw [ServerState.MayLose, hqueue]
    exact fun h => h

/-- Both runs without a loss: the visitor's departure is reported, and the admitted visitor is live. -/
theorem departures_reported_leaving :
    (∃ tr ∈ trace Net.after {} (acceptedThen leaving), (tr.src.handle.reported tr.label).count 0 = 1) ∧
      0 ∈ (admitted.foldl ServerState.next {}).transport.peers := by
  obtain ⟨hcount, hlive⟩ := departures_reported (acceptedThen_run leaving rfl) acceptedThen_leaving_keeps
    (run_of_enabled admitted (by decide +kernel)) admitted_keeps
  have hlast := List.mem_of_getLast? (rfl : (trace Net.after {} (acceptedThen leaving)).getLast? = _)
  refine ⟨⟨_, hlast, ?_⟩, hlive (by decide +kernel) 0 (by decide +kernel)⟩
  rw [hcount _ hlast]
  exact if_pos (by decide +kernel)

/-- A disconnect call removes a peer without a report; after an admin's kick, with every event handled, the
visitor is still authenticated. -/
theorem kicked_peer_not_reported :
    (∃ ts n, Run Net.Steps {} ts n ∧ ∃ tr ∈ ts, 0 ∈ tr.src.handle.peers ∧ 0 ∉ tr.dst.handle.peers ∧
      tr.src.handle.reported tr.label = []) ∧
    ∃ ts s, Run ServerState.Steps {} ts s ∧ s.queue = [] ∧ 0 ∈ s.authenticatedPeers ∧
      0 ∉ s.transport.peers := by
  constructor
  · refine ⟨_, _, acceptedThen_run (.disconnect 0 "Kicked") rfl, ?_⟩
    exact ⟨_, List.mem_of_getLast? rfl, by decide +kernel, by decide +kernel, by decide +kernel⟩
  · refine ⟨_, _, run_of_enabled admittedThenKicked (by decide +kernel), ?_⟩
    exact ⟨by decide +kernel, by decide +kernel, by decide +kernel⟩

end BasisRust.Server
