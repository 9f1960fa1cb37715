import BasisRust.Transport.Delivery

/-!
# A peer sends on a reliable-ordered channel

The peer numbers its messages from zero, sends at most a window of them before the first is acknowledged,
and sends a message again until it is.  The network keeps every packet it was given and hands any of them
over any number of times, or never.  The transport emits one message for each packet that arrives, in the
order of arrival: neither repeats nor gaps are noticed.
-/

namespace BasisRust.Transport

open Lib Protocol

/-! ### The system -/

/-- Who sends, and on which channel. -/
structure Sender where
  addr : SocketAddr
  /-- the id the peer has at the server -/
  id : PeerId
  connectionNumber : UInt8
  channelId : UInt8

/-- The packet of a message. -/
def Sender.packet (p : Sender) (number : ℕ) (message : Bytes) : Bytes :=
  putU8 (headerByte .channeled p.connectionNumber) ++ putU16 (UInt16.ofNat (number % maxSequence)) ++
    putU8 p.channelId ++ message

structure Exchange where
  handle : TransportHandle
  /-- the messages sent so far; a message's number is its place -/
  messages : List Bytes := []
  unacked : List ℕ := []
  /-- the numbers of the packets given to the network -/
  network : List ℕ := []
  /-- the numbers of the packets that arrived, in their order -/
  arrived : List ℕ := []
  /-- the payloads of the `Message` events of the peer and the channel, in their order -/
  delivered : List Bytes := []

inductive ExchangeLabel where
  | send (message : Bytes)
  | retransmit (number : ℕ)
  | acknowledge (number : ℕ)
  /-- a datagram of the peer, which may carry packets of the channel and others -/
  | arrive (bytes : Bytes) (carried : List ℕ) (io : Io)
  | other (op : Op) (io : Io)

/-- Where a datagram comes from. -/
def Op.source : Op → Option SocketAddr
  | packet remoteAddr _ => some remoteAddr
  | _ => none

namespace Exchange

variable (p : Sender)

/-- The message of a number. -/
def message (s : Exchange) (number : ℕ) : Bytes := s.messages.getD number []

def Enabled (s : Exchange) : ExchangeLabel → Prop
  | .send _ => s.unacked.length < defaultWindowSize
  | .retransmit number => number ∈ s.unacked
  | .acknowledge number => number ∈ s.unacked ∧ number ∈ s.arrived
  | .arrive bytes carried io =>
    (∀ number ∈ carried, number ∈ s.network) ∧
      (leaves bytes).filter (fun leaf => (payloadOn p.channelId leaf).isSome) =
        carried.map (fun number => p.packet number (s.message number)) ∧
      (s.handle.world io).NoFaults
  | .other op _ => op.source ≠ some p.addr

instance (s : Exchange) (l : ExchangeLabel) : Decidable (s.Enabled p l) := by
  cases l <;> unfold Enabled <;> infer_instance

/-- What a step of the transport adds. -/
def transport (s : Exchange) (l : NetLabel) : Exchange :=
  let w := s.handle.outcome l
  { s with handle := w.handle, delivered := s.delivered ++ w.delivered p.id p.channelId }

def after (s : Exchange) : ExchangeLabel → Exchange
  | .send message =>
    { s with
      messages := s.messages ++ [message]
      unacked := s.unacked ++ [s.messages.length]
      network := s.network ++ [s.messages.length] }
  | .retransmit number => { s with network := s.network ++ [number] }
  | .acknowledge number => { s with unacked := s.unacked.erase number }
  | .arrive bytes carried io =>
    { s.transport p (.packet p.addr bytes, io) with arrived := s.arrived ++ carried }
  | .other op io => s.transport p (op, io)

/-- The steps taken while the peer is connected. -/
def Steps (s : Exchange) (l : ExchangeLabel) (s' : Exchange) : Prop :=
  s.Enabled p l ∧ s' = s.after p l ∧ s'.handle.byAddr.lookup p.addr = some p.id

/-! ### Orders of arrival -/

/-- Places of a list, read in order, give a prefix of it. -/
lemma prefix_of_eq_range {messages : List Bytes} {numbers : List ℕ}
    (hlt : ∀ number ∈ numbers, number < messages.length)
    (hrange : numbers = List.range numbers.length) : numbers.map (messages.getD · []) <+: messages := by
  have hlength : numbers.length ≤ messages.length := by
    by_contra hlong
    have hmem : messages.length ∈ numbers := by
      rw [hrange, List.mem_range]
      omega
    exact absurd (hlt _ hmem) (lt_irrefl _)
  rw [List.prefix_iff_eq_take, List.length_map]
  apply List.ext_getElem
  · rw [List.length_map, List.length_take, min_eq_left hlength]
  · intro i hi hi'
    have hi₀ : i < numbers.length := by rwa [List.length_map] at hi
    have hnumber : numbers[i] = i := by rw [List.getElem_of_eq hrange, List.getElem_range]
    rw [List.getElem_map, hnumber, List.getElem_take, List.getD_eq_getElem]

/-- Among different messages only reading the places in order gives a prefix. -/
lemma eq_range_of_prefix_map {messages : List Bytes} {numbers : List ℕ} (hnodup : messages.Nodup)
    (hlt : ∀ number ∈ numbers, number < messages.length)
    (hstart : numbers.map (messages.getD · []) <+: messages) : numbers = List.range numbers.length := by
  apply List.ext_getElem
  · rw [List.length_range]
  · intro i hi hi'
    have hi₁ : i < (numbers.map (messages.getD · [])).length := by rwa [List.length_map]
    have hi₂ : i < messages.length := lt_of_lt_of_le hi₁ hstart.length_le
    have hsame := hstart.getElem hi₁
    have hnumber := hlt numbers[i] (List.getElem_mem hi)
    rw [List.getElem_map, List.getD_eq_getElem _ _ hnumber] at hsame
    rw [List.getElem_range]
    exact (hnodup.getElem_inj_iff).mp hsame

/-! ### Steps of the transport -/

variable {p}

/-- A packet that is taken for one of the channel yields its message. -/
lemma payloadOn_packet {number : ℕ} {message : Bytes}
    (h : (payloadOn p.channelId (p.packet number message)).isSome) :
    payloadOn p.channelId (p.packet number message) = some message := by
  unfold payloadOn at h ⊢
  split at h
  next connectionNumber hdispatch =>
    split at h
    next hon =>
      rw [if_pos hon]
      rfl
    next => cases h
  next => cases h

/-- The messages of the packets a datagram carries. -/
lemma filterMap_payloadOn {bytes : Bytes} {carried : List ℕ} {message : ℕ → Bytes}
    (h : (leaves bytes).filter (fun leaf => (payloadOn p.channelId leaf).isSome) =
      carried.map (fun number => p.packet number (message number))) :
    (leaves bytes).filterMap (payloadOn p.channelId) = carried.map message := by
  have hfilter : (leaves bytes).filterMap (payloadOn p.channelId) =
      ((leaves bytes).filter fun leaf => (payloadOn p.channelId leaf).isSome).filterMap
        (payloadOn p.channelId) := by
    rw [List.filterMap_filter]
    refine List.filterMap_congr fun leaf _ => ?_
    cases payloadOn p.channelId leaf with
    | none => rfl
    | some payload => rfl
  have hmem (number : ℕ) (hnumber : number ∈ carried) :
      payloadOn p.channelId (p.packet number (message number)) = some (message number) := by
    have hpacket : p.packet number (message number) ∈
        (leaves bytes).filter fun leaf => (payloadOn p.channelId leaf).isSome := by
      rw [h]
      exact List.mem_map_of_mem hnumber
    exact payloadOn_packet (List.mem_filter.mp hpacket).2
  rw [hfilter, h, List.filterMap_map]
  calc carried.filterMap (payloadOn p.channelId ∘ fun number => p.packet number (message number))
      = carried.filterMap (fun number => some (message number)) := List.filterMap_congr hmem
    _ = carried.map message := by rw [List.filterMap_eq_map']

/-- A datagram from another address emits nothing on the channel. -/
lemma silent_processPacket_of_ne {remoteAddr : SocketAddr} {id : PeerId} (channelId : UInt8) (bytes : Bytes)
    {w : World} (hbound : w.handle.byAddr.lookup remoteAddr ≠ some id) :
    Silent id channelId w (final (processPacket remoteAddr bytes) w) := by
  have h : Relates (fun w w' => w.handle.byAddr.lookup remoteAddr ≠ some id →
      w'.handle.byAddr.lookup remoteAddr ≠ some id ∧ Silent id channelId w w')
      (processPacket remoteAddr bytes) := by
    refine relates_processPacket (fun w hw => ⟨hw, rfl⟩) ?_ ?_ bytes fun leaf _ w hw => ⟨?_, ?_⟩
    · intro w w' w'' h h' hw
      obtain ⟨hw', hsilent⟩ := h hw
      obtain ⟨hw'', hsilent'⟩ := h' hw'
      exact ⟨hw'', hsilent'.trans hsilent⟩
    · intro w hw
      have hbindings := noNewBindings_of_stays (stays_touchPeer remoteAddr w)
      exact ⟨fun hid => hw (hbindings _ _ hid), (silent_stepwise id channelId).touchPeer remoteAddr w⟩
    · have hbindings := noNewBindings_of_effect (effect_processLeaf remoteAddr leaf w)
      exact fun hid => hw (hbindings _ _ hid)
    · exact silent_processLeaf_of_ne hw
  exact (h w hbound).2

/-- Nothing but a datagram from the peer's address emits a message of the peer. -/
theorem delivered_other {handle : TransportHandle} {op : Op} (io : Io) (hop : op.source ≠ some p.addr)
    (hlive : BindsLive handle) (hbound : handle.byAddr.lookup p.addr = some p.id) :
    (handle.outcome (op, io)).delivered p.id p.channelId = [] := by
  have hnil {w : World} (h : w.events = []) : w.delivered p.id p.channelId = [] := by
    rw [World.delivered, h]
    rfl
  cases op with
  | packet remoteAddr bytes =>
    have hne : handle.byAddr.lookup remoteAddr ≠ some p.id := by
      intro hremote
      obtain ⟨peer, hpeer, haddr⟩ := hlive _ _ hbound
      obtain ⟨peer', hpeer', hremoteAddr⟩ := hlive _ _ hremote
      rw [hpeer] at hpeer'
      cases hpeer'
      exact hop (by rw [Op.source, ← haddr, ← hremoteAddr])
    exact silent_processPacket_of_ne (w := handle.world io) p.channelId bytes hne
  | accept fuel request =>
    have hrun : Op.run (.accept fuel request) = (accept fuel request >>= fun _ => pure ()) := rfl
    rw [TransportHandle.outcome, hrun, final_bind_pure]
    exact hnil (events_accept fuel request (handle.world io))
  | reject request reason => exact hnil (events_reject request reason (handle.world io))
  | disconnect peer reason => exact hnil (events_disconnect peer reason (handle.world io))
  | timeout peer =>
    rcases events_timeoutPeer peer (handle.world io) with h | h
    · exact hnil h
    · exact delivered_of_event p.id p.channelId h
  | recyclePeerId peer => rfl
  | sendManySlices peer packets => exact hnil (events_sendManySlices peer packets (handle.world io))
  | resendTo instant peer => exact hnil (events_resendTo instant peer (handle.world io))

/-! ### Runs -/

/-- What has arrived was sent, and what was emitted is what arrived. -/
structure Faithful (p : Sender) (s : Exchange) : Prop where
  live : BindsLive s.handle
  bound : s.handle.byAddr.lookup p.addr = some p.id
  unacked : ∀ number ∈ s.unacked, number < s.messages.length
  network : ∀ number ∈ s.network, number < s.messages.length
  arrived : ∀ number ∈ s.arrived, number < s.messages.length
  delivered : s.delivered = s.arrived.map s.message

theorem faithful_step {s s' : Exchange} {l : ExchangeLabel}
    (hordered : DeliveryMethod.fromChannelId p.channelId = .reliableOrdered) (hstep : s.Steps p l s')
    (h : Faithful p s) : Faithful p s' := by
  obtain ⟨henabled, rfl, hbound⟩ := hstep
  cases l with
  | send message =>
    have hlt {numbers : List ℕ} (hnumbers : ∀ number ∈ numbers, number < s.messages.length) :
        ∀ number ∈ numbers, number < (s.messages ++ [message]).length := by
      intro number hnumber
      rw [List.length_append]
      have := hnumbers number hnumber
      omega
    have hlast : s.messages.length < (s.messages ++ [message]).length := by simp
    refine ⟨h.live, hbound, ?_, ?_, hlt h.arrived, ?_⟩
    · exact List.forall_mem_append.mpr ⟨hlt h.unacked, List.forall_mem_singleton.mpr hlast⟩
    · exact List.forall_mem_append.mpr ⟨hlt h.network, List.forall_mem_singleton.mpr hlast⟩
    · change s.delivered = s.arrived.map ((s.messages ++ [message]).getD · [])
      rw [h.delivered]
      refine List.map_congr_left fun number hnumber => ?_
      exact (List.getD_append _ _ _ _ (h.arrived number hnumber)).symm
  | retransmit number =>
    refine ⟨h.live, hbound, h.unacked, ?_, h.arrived, h.delivered⟩
    exact List.forall_mem_append.mpr ⟨h.network, List.forall_mem_singleton.mpr (h.unacked number henabled)⟩
  | acknowledge number =>
    exact ⟨h.live, hbound, fun n hn => h.unacked n (List.mem_of_mem_erase hn), h.network, h.arrived, h.delivered⟩
  | arrive bytes carried io =>
    obtain ⟨hnetwork, hcarried, hno⟩ := henabled
    refine ⟨h.live.outcome _, hbound, h.unacked, h.network, ?_, ?_⟩
    · exact List.forall_mem_append.mpr ⟨h.arrived, fun n hn => h.network n (hnetwork n hn)⟩
    · have hready : Ready p.addr p.id (s.handle.world io) := ⟨h.live, h.bound, hno⟩
      have hdelivers := (delivers_processPacket hordered bytes hready hbound).delivered
      rw [filterMap_payloadOn hcarried] at hdelivers
      change s.delivered ++ (final (processPacket p.addr bytes) (s.handle.world io)).delivered p.id p.channelId =
        (s.arrived ++ carried).map s.message
      rw [hdelivers, h.delivered, List.map_append]
      rfl
  | other op io =>
    refine ⟨h.live.outcome _, hbound, h.unacked, h.network, h.arrived, ?_⟩
    change s.delivered ++ _ = s.arrived.map s.message
    rw [delivered_other io henabled h.live h.bound, List.append_nil, h.delivered]

end Exchange

/-- **Delivery in the order of arrival.**  In every run of the exchange, from any reachable state in which
the peer is connected, the messages emitted are those of the packets that arrived, in their order.  They are
a prefix of the messages sent when the packets arrived in order, each once; if the messages are pairwise
different, only then. -/
theorem delivered_eq_arrived {p : Sender} {ts : List (Transition Net NetLabel)} {n : Net}
    {ts' : List (Transition Exchange ExchangeLabel)} {s : Exchange}
    (hordered : DeliveryMethod.fromChannelId p.channelId = .reliableOrdered) (hnet : Run Net.Steps {} ts n)
    (hbound : n.handle.byAddr.lookup p.addr = some p.id)
    (hrun : Run (Exchange.Steps p) { handle := n.handle } ts' s) :
    (∀ number ∈ s.arrived, number < s.messages.length) ∧
      s.delivered = s.arrived.map (fun number => s.messages.getD number []) ∧
      (s.arrived = List.range s.arrived.length → s.delivered <+: s.messages) ∧
      (s.messages.Nodup → s.delivered <+: s.messages → s.arrived = List.range s.arrived.length) := by
  have hlive : BindsLive n.handle := by
    refine (Run.invariant (I := fun n => BindsLive n.handle) BindsLive.empty ?_ hnet).2
    rintro n l n' ⟨-, rfl⟩ h
    exact h.outcome l
  have hfaithful : Exchange.Faithful p s := by
    refine (Run.invariant (I := Exchange.Faithful p) ?_ ?_ hrun).2
    · exact ⟨hlive, hbound, List.forall_mem_nil _, List.forall_mem_nil _, List.forall_mem_nil _, rfl⟩
    · exact fun s l s' hstep h => Exchange.faithful_step hordered hstep h
  have hdelivered := hfaithful.delivered
  refine ⟨hfaithful.arrived, hdelivered, fun hrange => ?_, fun hnodup hstart => ?_⟩
  · rw [hdelivered]
    exact Exchange.prefix_of_eq_range hfaithful.arrived hrange
  · rw [hdelivered] at hstart
    exact Exchange.eq_range_of_prefix_map hnodup hfaithful.arrived hstart

/-! ### A packet overtaken and repeated -/

/-- The first peer, sending on the admin channel. -/
def firstPeer : Sender where
  addr := localAddr
  id := 0
  connectionNumber := 0
  channelId := channels.admin * 4 + 2

def accepted : List NetLabel := [(connectRequestFrom 1, {}), (.accept 1 (requestAt 1), {})]

lemma accepted_run : Run Net.Steps {} (trace Net.after {} accepted) (accepted.foldl Net.after {}) := by
  refine Run.of_trace _ _ fun tr htr => ⟨?_, dst_of_mem_trace htr⟩
  have hall : ∀ tr ∈ trace Net.after {} accepted, tr.src.Enabled tr.label.1 := by decide +kernel
  exact hall tr htr

/-- The second message overtakes the first, whose acknowledgement gets lost. -/
def overtaken : List ExchangeLabel :=
  [.send [5], .send [6], .arrive (firstPeer.packet 1 [6]) [1] {}, .arrive (firstPeer.packet 0 [5]) [0] {},
    .retransmit 0, .arrive (firstPeer.packet 0 [5]) [0] {}]

def overtakenFrom : Exchange := { handle := (accepted.foldl Net.after {}).handle }

lemma overtaken_run : Run (Exchange.Steps firstPeer) overtakenFrom
    (trace (Exchange.after firstPeer) overtakenFrom overtaken)
    (overtaken.foldl (Exchange.after firstPeer) overtakenFrom) := by
  have hall : ∀ tr ∈ trace (Exchange.after firstPeer) overtakenFrom overtaken,
      tr.src.Enabled firstPeer tr.label ∧ tr.dst.handle.byAddr.lookup localAddr = some 0 := by decide +kernel
  exact Run.of_trace _ _ fun tr htr => ⟨(hall tr htr).1, dst_of_mem_trace htr, (hall tr htr).2⟩

/-- The run in which a message is overtaken and repeated: what arrived is what is emitted. -/
theorem delivered_eq_arrived_overtaken :
    (overtaken.foldl (Exchange.after firstPeer) overtakenFrom).delivered = [[6], [5], [5]] := by
  obtain ⟨-, hdelivered, -⟩ :=
    delivered_eq_arrived (by decide +kernel) accepted_run (by decide +kernel) overtaken_run
  rw [hdelivered]
  decide +kernel

/-- The second message is emitted before the first, and the first twice. -/
theorem delivered_out_of_order : ∃ p ts n ts' s, DeliveryMethod.fromChannelId p.channelId = .reliableOrdered ∧
    Run Net.Steps {} ts n ∧ n.handle.byAddr.lookup p.addr = some p.id ∧
      Run (Exchange.Steps p) { handle := n.handle } ts' s ∧ s.messages = [[5], [6]] ∧
        s.delivered = [[6], [5], [5]] ∧ ¬ s.delivered <+: s.messages :=
  ⟨firstPeer, _, _, _, _, by decide +kernel, accepted_run, by decide +kernel, overtaken_run, by decide +kernel,
    by decide +kernel, by decide +kernel⟩

end BasisRust.Transport
