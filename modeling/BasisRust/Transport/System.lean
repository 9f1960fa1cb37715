import BasisRust.Transport.Unreliable

/-!
# The transport as a system

The steps of the transport and its callers, each taken as one atomic step: a datagram from anywhere, the
answer to a connection request, a disconnect call, a timeout, the release of an id, a call that sends to a
peer, and a peer's turn in the resend loop.  A connection request is answered once, by `accept` or `reject`,
some time after its event was emitted; `Net.outstanding` holds the requests that still are to be answered.
What other calls do to a peer in the middle of its turn is in `PeerRun`.
-/

namespace BasisRust.Transport

open Lib Protocol

/-- What is outside the transport during a step. -/
structure Io where
  now : ℕ := 0
  utcTicks : Int64 := 0
  sendResults : List Bool := []
  queueResults : List QueueResult := []

/-! ### Calls that send -/

/-- `send_many_slices` and `try_send_many_bytes`; `send` is the case of one packet. -/
def sendManySlices (peer : PeerId) (packets : List (UInt8 × DeliveryMethod × Bytes)) : TransportM Unit := do
  let w ← get
  match w.handle.peers.lookup peer with
  | none => return
  | some state =>
    modifyHandle (.sendManySlices w.now peer packets)
    (trySendManyBytes w.now state packets).2.forM fun bytes => sendRawTo bytes state.addr

/-- One peer's turn in `reliable_resend_loop`; a datagram that cannot be sent is passed over. -/
def resendTo (instant : ℕ → ℕ) (peer : PeerId) : TransportM Unit := do
  let w ← get
  match w.handle.peers.lookup peer with
  | none => return
  | some state =>
    modifyHandle (.modifyPeer peer fun state => (resendTick w.now instant state).1)
    (buildMergedDatagrams state.connectionNumber (resendTick w.now instant state).2).forM fun bytes =>
      tryCatch (sendRawTo bytes state.addr) fun _ => return

/-! ### Steps -/

inductive Op where
  | packet (remoteAddr : SocketAddr) (bytes : Bytes)
  | accept (fuel : ℕ) (request : ConnectionRequest)
  | reject (request : ConnectionRequest) (reason : String)
  | disconnect (peer : PeerId) (reason : String)
  | timeout (peer : PeerId)
  | recyclePeerId (peer : PeerId)
  | sendManySlices (peer : PeerId) (packets : List (UInt8 × DeliveryMethod × Bytes))
  | resendTo (instant : ℕ → ℕ) (peer : PeerId)

namespace Op

def run : Op → TransportM Unit
  | packet remoteAddr bytes => processPacket remoteAddr bytes
  | accept fuel request => do
    let _ ← Transport.accept fuel request
  | reject request reason => Transport.reject request reason
  | disconnect peer reason => Transport.disconnect peer reason
  | timeout peer => timeoutPeer peer
  | recyclePeerId peer => Transport.recyclePeerId peer
  | sendManySlices peer packets => Transport.sendManySlices peer packets
  | resendTo instant peer => Transport.resendTo instant peer

/-- The request the step answers. -/
def answers : Op → Option ConnectionRequest
  | accept _ request => some request
  | reject request _ => some request
  | _ => none

end Op

structure Net where
  handle : TransportHandle := {}
  outstanding : List ConnectionRequest := []

/-- A step of the system: the operation and what the outside does meanwhile. -/
abbrev NetLabel := Op × Io

/-- The world a step starts in. -/
def TransportHandle.world (handle : TransportHandle) (io : Io) : World where
  handle := handle
  now := io.now
  utcTicks := io.utcTicks
  sendResults := io.sendResults
  queueResults := io.queueResults

/-- The world a step ends in, with the datagrams it sent and the events it emitted. -/
def TransportHandle.outcome (handle : TransportHandle) (l : NetLabel) : World :=
  final l.1.run (handle.world l.2)

def emittedRequest : ServerEvent → Option ConnectionRequest
  | .connectionRequest request => some request
  | _ => none

namespace Net

/-- Only outstanding requests are answered, and `accept` returns only when an id is found. -/
def Enabled (n : Net) : Op → Prop
  | .accept fuel request =>
    request ∈ n.outstanding ∧
      ((n.handle.removePending request.remoteAddr).allocatePeerId fuel).isSome
  | .reject request _ => request ∈ n.outstanding
  | _ => True

instance (n : Net) (op : Op) : Decidable (n.Enabled op) := by
  cases op <;> unfold Enabled <;> infer_instance

def after (n : Net) (l : NetLabel) : Net where
  handle := (n.handle.outcome l).handle
  outstanding :=
    (match l.1.answers with
      | some request => n.outstanding.erase request
      | none => n.outstanding) ++ (n.handle.outcome l).events.filterMap emittedRequest

def Steps (n : Net) (l : NetLabel) (n' : Net) : Prop := n.Enabled l.1 ∧ n' = n.after l

end Net

/-! ### What the calls do to the tables -/

lemma allocatePeerId_spec {fuel : ℕ} {handle handle' : TransportHandle} {id : PeerId}
    (h : handle.allocatePeerId fuel = some (id, handle')) :
    id ∉ handle.peers ∧ handle'.peers = handle.peers ∧ handle'.byAddr = handle.byAddr ∧
      handle'.pendingRequests = handle.pendingRequests ∧ handle'.retiredPeerIds = handle.retiredPeerIds := by
  induction fuel generalizing handle with
  | zero => cases h
  | succ fuel ih =>
    rw [TransportHandle.allocatePeerId] at h
    split at h
    next first rest hreusable =>
      dsimp only at h
      split at h
      next => exact (ih h :)
      next hfree =>
        cases h
        exact ⟨hfree, rfl, rfl, rfl, rfl⟩
    next hreusable =>
      dsimp only at h
      split at h
      next => exact (ih h :)
      next hfree =>
        cases h
        exact ⟨hfree, rfl, rfl, rfl, rfl⟩

lemma recyclePeerId_spec (peer : PeerId) (handle : TransportHandle) :
    (handle.recyclePeerId peer).peers = handle.peers ∧ (handle.recyclePeerId peer).byAddr = handle.byAddr ∧
      (handle.recyclePeerId peer).pendingRequests = handle.pendingRequests := by
  unfold TransportHandle.recyclePeerId
  split
  next => exact ⟨rfl, rfl, rfl⟩
  next =>
    split
    next => exact ⟨rfl, rfl, rfl⟩
    next =>
      dsimp only
      split
      next => exact ⟨rfl, rfl, rfl⟩
      next => exact ⟨rfl, rfl, rfl⟩

lemma handle_sendRawTo (bytes : Bytes) (addr : SocketAddr) (w : World) :
    (final (sendRawTo bytes addr) w).handle = w.handle := by
  rcases sendRawTo_cases bytes addr w with ⟨w', h, hh, -⟩ | ⟨w', h, hh, -⟩
  · rw [final_of_ok h, hh]
  · rw [final_of_error h, hh]

lemma handle_enqueueEvent (event : ServerEvent) (w : World) :
    (final (enqueueEvent event) w).handle = w.handle := by
  rcases enqueueEvent_cases event w with ⟨w', h, hh, -⟩ | ⟨w', h, hh, -⟩
  · rw [final_of_ok h, hh]
  · rw [final_of_error h, hh]

/-- What `accept` does to the handle, whether or not its answer can be sent. -/
theorem handle_accept {fuel : ℕ} {request : ConnectionRequest} {w : World} {id : PeerId}
    {handle' : TransportHandle}
    (h : (w.handle.removePending request.remoteAddr).allocatePeerId fuel = some (id, handle')) :
    (final (accept fuel request) w).handle = handle'.insertPeer
      (PeerState.new id request.remoteAddr request.connectionNumber request.connectTime w.now) := by
  rw [accept, final_modifyHandle_bind, final_get_bind, h]
  dsimp only
  rw [final_modifyHandle_bind, final_bind_pure, sendConnectAccept, handle_sendRawTo]

lemma handle_accept_of_none {fuel : ℕ} {request : ConnectionRequest} {w : World}
    (h : (w.handle.removePending request.remoteAddr).allocatePeerId fuel = none) :
    (final (accept fuel request) w).handle = w.handle.removePending request.remoteAddr := by
  rw [accept, final_modifyHandle_bind, final_get_bind, h]
  rfl

/-- The peer `accept` returns is live. -/
theorem mem_peers_of_accept {fuel : ℕ} {request : ConnectionRequest} {w w' : World} {id : PeerId}
    (h : accept fuel request w = .ok (some id) w') : id ∈ w'.handle.peers := by
  have hfinal := final_of_ok h
  rw [accept] at h
  obtain ⟨_, _, hremoved, h⟩ := ok_of_bind_ok h
  cases hremoved
  obtain ⟨_, _, hget, h⟩ := ok_of_bind_ok h
  cases hget
  cases hallocate : (w.handle.removePending request.remoteAddr).allocatePeerId fuel with
  | none =>
    dsimp only at h
    rw [hallocate] at h
    cases h
  | some result =>
    obtain ⟨id', handle'⟩ := result
    dsimp only at h
    rw [hallocate] at h
    obtain ⟨_, _, -, h⟩ := ok_of_bind_ok h
    obtain ⟨_, _, -, h⟩ := ok_of_bind_ok h
    cases h
    rw [← hfinal, handle_accept hallocate]
    exact (AList.mem_insert _).mpr (.inl rfl)

theorem handle_reject (request : ConnectionRequest) (reason : String) (w : World) :
    (final (reject request reason) w).handle = w.handle.removePending request.remoteAddr := by
  rw [reject, final_modifyHandle_bind, handle_sendRawTo]

/-- A live peer dropped under its own address. -/
def TransportHandle.dropLive (peer : PeerId) (handle : TransportHandle) : TransportHandle :=
  match handle.peers.lookup peer with
  | none => handle
  | some state => handle.dropPeer peer state.addr

lemma dropLive_of_none {handle : TransportHandle} {peer : PeerId} (h : handle.peers.lookup peer = none) :
    handle.dropLive peer = handle := by rw [TransportHandle.dropLive, h]

lemma dropLive_of_some {handle : TransportHandle} {peer : PeerId} {state : PeerState}
    (h : handle.peers.lookup peer = some state) : handle.dropLive peer = handle.dropPeer peer state.addr := by
  rw [TransportHandle.dropLive, h]

theorem handle_disconnect (peer : PeerId) (reason : String) (w : World) :
    (final (disconnect peer reason) w).handle = w.handle.dropLive peer := by
  rw [disconnect, final_get_bind]
  cases h : w.handle.peers.lookup peer with
  | none =>
    rw [dropLive_of_none h]
    rfl
  | some state =>
    dsimp only
    rw [final_modifyHandle_bind, handle_sendRawTo, dropLive_of_some h]

theorem handle_timeoutPeer (peer : PeerId) (w : World) :
    (final (timeoutPeer peer) w).handle = w.handle.dropLive peer := by
  rw [timeoutPeer, final_get_bind]
  cases h : w.handle.peers.lookup peer with
  | none =>
    rw [dropLive_of_none h]
    rfl
  | some state =>
    dsimp only
    rw [final_modifyHandle_bind, final_tryCatch_pure, handle_enqueueEvent, dropLive_of_some h]

lemma handle_modifyPeer_of_none {handle : TransportHandle} {peer : PeerId} (h : handle.peers.lookup peer = none)
    (f : PeerState → PeerState) : handle.modifyPeer peer f = handle := by
  rw [TransportHandle.modifyPeer, Dict.modify_of_notMem f (Dict.notMem_iff_lookup.mpr h)]

theorem handle_sendManySlices (peer : PeerId) (packets : List (UInt8 × DeliveryMethod × Bytes)) (w : World) :
    (final (sendManySlices peer packets) w).handle = w.handle.sendManySlices w.now peer packets := by
  rw [sendManySlices, final_get_bind]
  cases h : w.handle.peers.lookup peer with
  | none => exact (handle_modifyPeer_of_none h _).symm
  | some state =>
    dsimp only
    rw [final_modifyHandle_bind]
    exact view_forM World.handle (fun bytes w => handle_sendRawTo bytes state.addr w) _ _

theorem handle_resendTo (instant : ℕ → ℕ) (peer : PeerId) (w : World) :
    (final (resendTo instant peer) w).handle =
      w.handle.modifyPeer peer fun state => (resendTick w.now instant state).1 := by
  rw [resendTo, final_get_bind]
  cases h : w.handle.peers.lookup peer with
  | none => exact (handle_modifyPeer_of_none h _).symm
  | some state =>
    dsimp only
    rw [final_modifyHandle_bind]
    refine view_forM World.handle (fun bytes w => ?_) _ _
    rw [final_tryCatch_pure, handle_sendRawTo]

/-! ### What the calls emit -/

lemma events_sendRawTo (bytes : Bytes) (addr : SocketAddr) (w : World) :
    (final (sendRawTo bytes addr) w).events = w.events := by
  rcases sendRawTo_cases bytes addr w with ⟨w', h, -, he, -⟩ | ⟨w', h, -, he, -⟩
  · rw [final_of_ok h, he]
  · rw [final_of_error h, he]

lemma events_accept (fuel : ℕ) (request : ConnectionRequest) (w : World) :
    (final (accept fuel request) w).events = w.events := by
  rw [accept, final_modifyHandle_bind, final_get_bind]
  split
  next => rfl
  next id handle' _ => rw [final_modifyHandle_bind, final_bind_pure, sendConnectAccept, events_sendRawTo]

lemma events_reject (request : ConnectionRequest) (reason : String) (w : World) :
    (final (reject request reason) w).events = w.events := by
  rw [reject, final_modifyHandle_bind, events_sendRawTo]

/-- A disconnect call emits nothing. -/
theorem events_disconnect (peer : PeerId) (reason : String) (w : World) :
    (final (disconnect peer reason) w).events = w.events := by
  rw [disconnect, final_get_bind]
  split
  next => rfl
  next state _ => rw [final_modifyHandle_bind, events_sendRawTo]

lemma events_timeoutPeer (peer : PeerId) (w : World) :
    (final (timeoutPeer peer) w).events = w.events ∨
      (final (timeoutPeer peer) w).events = w.events ++ [.peerDisconnected peer .timeout] := by
  rw [timeoutPeer, final_get_bind]
  split
  next => exact .inl rfl
  next state _ =>
    rw [final_modifyHandle_bind, final_tryCatch_pure]
    generalize hw' : ({ w with handle := _ } : World) = w'
    have hevents : w'.events = w.events := by rw [← hw']
    rw [← hevents]
    rcases enqueueEvent_cases (.peerDisconnected peer .timeout) w' with ⟨w'', h, -, he, -⟩ | ⟨w'', h, -, he, -⟩
    · rw [final_of_ok h]
      exact .inr he
    · rw [final_of_error h]
      exact .inl he

lemma events_sendManySlices (peer : PeerId) (packets : List (UInt8 × DeliveryMethod × Bytes)) (w : World) :
    (final (sendManySlices peer packets) w).events = w.events := by
  rw [sendManySlices, final_get_bind]
  split
  next => rfl
  next state _ =>
    rw [final_modifyHandle_bind]
    exact view_forM World.events (fun bytes w => events_sendRawTo bytes state.addr w) _ _

lemma events_resendTo (instant : ℕ → ℕ) (peer : PeerId) (w : World) :
    (final (resendTo instant peer) w).events = w.events := by
  rw [resendTo, final_get_bind]
  split
  next => rfl
  next state _ =>
    rw [final_modifyHandle_bind]
    refine view_forM World.events (fun bytes w => ?_) _ _
    rw [final_tryCatch_pure, events_sendRawTo]

/-! ### Sending keeps the tables -/

/-- Whatever is sent to a peer, the tables stay and nobody is reported as gone. -/
theorem stays_sendManySlices (peer : PeerId) (packets : List (UInt8 × DeliveryMethod × Bytes)) :
    Relates Stays (sendManySlices peer packets) := by
  intro w
  refine ⟨?_, by rw [World.departures, events_sendManySlices]; rfl⟩
  rw [handle_sendManySlices]
  exact .modifyPeer peer (samePeer_sendSlices w.now packets)

theorem stays_resendTo (instant : ℕ → ℕ) (peer : PeerId) : Relates Stays (resendTo instant peer) := by
  intro w
  refine ⟨?_, by rw [World.departures, events_resendTo]; rfl⟩
  rw [handle_resendTo]
  exact .modifyPeer peer (samePeer_resendTick w.now instant)

end BasisRust.Transport
