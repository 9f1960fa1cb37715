import BasisRust.Core.State
import BasisRust.Transport.Process
import BasisRust.Transport.ServerInfo
import Mathlib.Algebra.BigOperators.Ring.List
import Mathlib.Algebra.Order.BigOperators.Group.List

/-!
# What a stranger gets back

A datagram from an address that is bound to no peer is answered with pongs, MTU replies, protocol errors
and, by way of the event queue, the server's info.  Every answer but the pong is at most as long as the
packet that asks for it; a pong has 11 bytes and a ping may have 3.
-/

namespace BasisRust.Core

open Lib Protocol Transport

/-! ### The answer to an unconnected request -/

namespace ServerState

def serverInfoResponse (nonce : UInt16) (s : ServerState) : ServerInfoResponse where
  name := s.config.serverName
  motd := s.config.serverMotd
  online := UInt16.ofNat s.playerCount
  max := UInt16.ofNat (min (max s.config.peerLimit.toInt 0) 65535).toNat
  nonce := nonce

/-- The arm of `handle_event` for an unconnected request. -/
def answer (s : ServerState) : ServerEvent → TransportM Unit
  | .unconnectedRequest remoteAddr nonce _ => sendServerInfo remoteAddr (s.serverInfoResponse nonce)
  | _ => return

end ServerState

/-- The event loop over events and the states they are handled in; an error is logged. -/
def answerEach : List (ServerState × ServerEvent) → TransportM Unit
  | [] => return
  | (s, event) :: handled => do
    tryCatch (s.answer event) fun _ => return
    answerEach handled

/-- The bytes sent to an address. -/
def bytesTo (addr : SocketAddr) (sent : List (SocketAddr × Bytes)) : ℕ :=
  ((sent.filter fun datagram => datagram.1 = addr).map fun datagram => datagram.2.length).sum

@[simp] lemma bytesTo_append (addr : SocketAddr) (a b : List (SocketAddr × Bytes)) :
    bytesTo addr (a ++ b) = bytesTo addr a + bytesTo addr b := by
  simp [bytesTo]

lemma bytesTo_singleton_le (addr : SocketAddr) (datagram : SocketAddr × Bytes) :
    bytesTo addr [datagram] ≤ datagram.2.length := by
  rw [bytesTo, List.filter_cons]
  split <;> simp

/-! ### What a packet asks for -/

/-- The bytes a pong has over a ping. -/
def pongExcess (leaf : Bytes) : ℕ :=
  match dispatch leaf with
  | .packet .ping _ => if leaf.length ≥ 3 then 11 - leaf.length else 0
  | _ => 0

/-- The bytes the pongs have over the pings of a datagram, merged datagrams taken apart. -/
def pongExcesses (bytes : Bytes) : ℕ := ((leaves bytes).map pongExcess).sum

/-- The bytes a packet of a stranger is answered with at most. -/
def replyBytes (leaf : Bytes) : ℕ :=
  match dispatch leaf with
  | .serverInfo _ => serverInfoMaxPacketBytes
  | .packet .ping _ => if leaf.length ≥ 3 then 11 else 0
  | .packet .mtuCheck _ => leaf.length
  | .packet .connectRequest _ => if parseConnectRequest leaf = .invalidProtocol then 1 else 0
  | _ => 0

lemma length_of_dispatch_serverInfo {leaf payload : Bytes} (h : dispatch leaf = .serverInfo payload) :
    serverInfoMinRequestBytes ≤ leaf.length := by
  rw [dispatch.eq_def] at h
  cases hfound : (serverInfoPayload leaf).filter fun payload => payload.length ≥ serverInfoMinRequestBytes with
  | none =>
    rw [hfound] at h
    cases leaf with
    | nil => cases h
    | cons header rest =>
      dsimp only at h
      split at h <;> cases h
  | some found =>
    obtain ⟨hpayload, hlong⟩ := Option.filter_eq_some_iff.mp hfound
    have hlong : serverInfoMinRequestBytes ≤ found.length := of_decide_eq_true hlong
    rw [serverInfoPayload.eq_def] at hpayload
    split at hpayload
    · cases hpayload
      exact hlong
    · cases leaf with
      | nil => cases hpayload
      | cons header rest =>
        dsimp only at hpayload
        split at hpayload
        · cases hpayload
          rw [List.length_cons]
          omega
        · cases hpayload

lemma ne_nil_of_dispatch_packet {leaf : Bytes} {property : PacketProperty} {connectionNumber : UInt8}
    (h : dispatch leaf = .packet property connectionNumber) : 1 ≤ leaf.length := by
  cases leaf with
  | nil => cases h
  | cons header rest => exact Nat.succ_le_succ (Nat.zero_le _)

/-- **One packet.**  The answer is as long as the packet at most, up to what a pong has over its ping; and
no answer is longer than eleven thirds of what asks for it. -/
lemma replyBytes_le (leaf : Bytes) :
    replyBytes leaf ≤ leaf.length + pongExcess leaf ∧ 3 * replyBytes leaf ≤ 11 * leaf.length := by
  cases hdispatch : dispatch leaf with
  | serverInfo payload =>
    have hlong := length_of_dispatch_serverInfo hdispatch
    rw [serverInfoMinRequestBytes] at hlong
    simp only [replyBytes, pongExcess, hdispatch, serverInfoMaxPacketBytes]
    omega
  | ignored =>
    simp only [replyBytes, pongExcess, hdispatch]
    omega
  | packet property connectionNumber =>
    have hpos := ne_nil_of_dispatch_packet hdispatch
    cases property with
    | ping =>
      simp only [replyBytes, pongExcess, hdispatch]
      split <;> omega
    | connectRequest =>
      simp only [replyBytes, pongExcess, hdispatch]
      split <;> omega
    | _ =>
      simp only [replyBytes, pongExcess, hdispatch]
      omega

lemma sum_map_flatMap {α β : Type} (l : List α) (f : α → List β) (g : β → ℕ) :
    ((l.flatMap f).map g).sum = (l.map fun a => ((f a).map g).sum).sum := by
  induction l with
  | nil => rfl
  | cons a l ih => rw [List.flatMap_cons, List.map_append, List.sum_append, List.map_cons, List.sum_cons, ih]

lemma sum_length_mergedPackets_le (bytes : Bytes) : ((mergedPackets bytes).map List.length).sum ≤ bytes.length := by
  have hsub : (((cutFrames (bytes.drop 1)).filter isValidMergedPacket).map List.length).Sublist
      ((cutFrames (bytes.drop 1)).map List.length) := List.filter_sublist.map _
  have hcut := sum_length_cutFrames_le (bytes.drop 1)
  rw [mergedPackets, mergedPacketsFrom_eq]
  calc (((cutFrames (bytes.drop 1)).filter isValidMergedPacket).map List.length).sum
      ≤ ((cutFrames (bytes.drop 1)).map List.length).sum := hsub.sum_le_sum fun _ _ => Nat.zero_le _
    _ ≤ (bytes.drop 1).length := hcut
    _ ≤ bytes.length := by rw [List.length_drop]; omega

/-- The packets of a datagram are no longer together than it. -/
lemma sum_length_leaves_le (bytes : Bytes) : ((leaves bytes).map List.length).sum ≤ bytes.length := by
  fun_induction leaves bytes with
  | case1 bytes c hmerged ih =>
    have hattach : (mergedPackets bytes).attach.map (fun packet => packet.1.length) =
        (mergedPackets bytes).map List.length := List.attach_map_val
    calc (((mergedPackets bytes).attach.flatMap fun packet => leaves packet.1).map List.length).sum
        = ((mergedPackets bytes).attach.map fun packet => ((leaves packet.1).map List.length).sum).sum := by
          rw [sum_map_flatMap]
      _ ≤ ((mergedPackets bytes).attach.map fun packet => packet.1.length).sum :=
          List.sum_le_sum fun packet _ => ih packet
      _ ≤ bytes.length := by
          rw [hattach]
          exact sum_length_mergedPackets_le bytes
  | case2 bytes hsingle => simp

/-! ### What is owed -/

/-- The event will be answered to the address. -/
def isQueryOf (addr : SocketAddr) : ServerEvent → Bool
  | .unconnectedRequest remoteAddr _ _ => remoteAddr = addr
  | _ => false

/-- The bytes sent to the address, and those the queued requests will be answered with at most. -/
def owed (addr : SocketAddr) (w : World) : ℕ :=
  bytesTo addr w.sent + serverInfoMaxPacketBytes * w.events.countP (isQueryOf addr)

def Unbound (addr : SocketAddr) (w : World) : Prop := addr ∉ w.handle.byAddr

/-- For an address that is bound to no peer, at most `n` more bytes are owed. -/
def Owes {α : Type} (addr : SocketAddr) (n : ℕ) (x : TransportM α) : Prop := Grows (Unbound addr) (owed addr) n x

namespace Owes

variable {addr : SocketAddr} {n : ℕ}

lemma pure {α : Type} (a : α) : Owes addr 0 (Pure.pure a : TransportM α) := Grows.pure a

lemma sendRawTo (bytes : Bytes) (remoteAddr : SocketAddr) :
    Owes addr bytes.length (sendRawTo bytes remoteAddr) := by
  intro w hw
  have hone : bytesTo addr [(remoteAddr, bytes)] ≤ bytes.length := bytesTo_singleton_le addr _
  rcases hresults : w.sendResults with _ | ⟨ok, rest⟩
  · rw [final, Transport.sendRawTo, hresults]
    refine ⟨hw, ?_⟩
    dsimp only [owed]
    rw [bytesTo_append]
    omega
  · cases ok with
    | false =>
      rw [final, Transport.sendRawTo, hresults]
      exact ⟨hw, Nat.le_add_right _ _⟩
    | true =>
      rw [final, Transport.sendRawTo, hresults]
      refine ⟨hw, ?_⟩
      dsimp only [owed]
      rw [bytesTo_append]
      omega

lemma enqueueEvent (event : ServerEvent) :
    Owes addr (if isQueryOf addr event then serverInfoMaxPacketBytes else 0) (enqueueEvent event) := by
  intro w hw
  have hcount : serverInfoMaxPacketBytes * (w.events ++ [event]).countP (isQueryOf addr) =
      serverInfoMaxPacketBytes * w.events.countP (isQueryOf addr) +
        if isQueryOf addr event then serverInfoMaxPacketBytes else 0 := by
    rw [List.countP_append, List.countP_singleton, Nat.mul_add]
    split <;> rfl
  have hqueued (results : List QueueResult) :
      owed addr { w with queueResults := results, events := w.events ++ [event] } =
        owed addr w + if isQueryOf addr event then serverInfoMaxPacketBytes else 0 := by
    dsimp only [owed]
    rw [hcount, Nat.add_assoc]
  rcases hresults : w.queueResults with _ | ⟨result, rest⟩
  · rw [final, Transport.enqueueEvent, hresults]
    exact ⟨hw, (hqueued _).le⟩
  · cases result with
    | closed =>
      rw [final, Transport.enqueueEvent, hresults]
      exact ⟨hw, Nat.le_add_right _ _⟩
    | accepted =>
      rw [final, Transport.enqueueEvent, hresults]
      exact ⟨hw, (hqueued _).le⟩
    | full =>
      rw [final, Transport.enqueueEvent, hresults]
      exact ⟨hw, (hqueued _).le⟩

/-- An event that is no query. -/
lemma enqueueEvent_other {event : ServerEvent} (h : isQueryOf addr event = false) :
    Owes addr 0 (Transport.enqueueEvent event) := by
  have hevent := @enqueueEvent addr event
  rwa [h] at hevent

lemma modifyHandle {f : TransportHandle → TransportHandle} (h : ∀ handle, (f handle).byAddr = handle.byAddr) :
    Owes addr 0 (modifyHandle f) := by
  refine Grows.modify (fun w hw => ?_) fun w => le_rfl
  rwa [Unbound, h]

/-- Nothing is done for an address without a peer. -/
lemma of_lookup {α : Type} {f : World → TransportM α}
    (h : ∀ w, w.handle.byAddr.lookup addr = none → Owes addr n (f w)) : Owes addr n (get >>= f) :=
  Grows.get_bind fun w hw => h w (AList.lookup_eq_none.mpr hw) w hw

lemma touchPeer : Owes addr 0 (touchPeer addr) := by
  refine of_lookup fun w hw => ?_
  rw [hw]
  exact pure ()

/-- The time of the last packet is nothing to a stranger. -/
lemma touchPeer_bind {α : Type} {f : Unit → TransportM α} (h : Owes addr n (f ())) :
    Owes addr n (Transport.touchPeer addr >>= f) :=
  (Grows.bind touchPeer fun _ => h).mono (Nat.zero_add n).le

lemma enterRequest (connectionNumber : UInt8) (parsed : ParsedConnectRequest) :
    Owes addr 0 (enterRequest addr connectionNumber parsed) := by
  refine of_lookup fun w _ => ?_
  split
  · exact pure ()
  · refine Grows.bind (modifyHandle ?_) fun _ => enqueueEvent_other ?_
    · exact fun _ => rfl
    · rfl

lemma processConnectRequest (connectionNumber : UInt8) (bytes : Bytes) :
    Owes addr (if parseConnectRequest bytes = .invalidProtocol then 1 else 0)
      (processConnectRequest addr connectionNumber bytes) := by
  rw [Transport.processConnectRequest]
  cases hparse : parseConnectRequest bytes with
  | malformed => exact pure ()
  | invalidProtocol => exact sendRawTo _ _
  | ok parsed =>
    refine of_lookup fun w hw => ?_
    rw [hw]
    exact enterRequest connectionNumber parsed

lemma processMessage (property : PacketProperty) (bytes : Bytes) : Owes addr 0 (processMessage addr property bytes) := by
  refine touchPeer_bind (of_lookup fun w hw => ?_)
  rw [hw]
  exact pure ()

/-- **One packet.** -/
theorem processLeaf (leaf : Bytes) : Owes addr (replyBytes leaf) (processLeaf addr leaf) := by
  rw [Transport.processLeaf, replyBytes]
  cases hdispatch : dispatch leaf with
  | serverInfo payload =>
    have hevent := @enqueueEvent addr (.unconnectedRequest addr ((parseServerInfoQueryNonce payload).getD 0) payload)
    rwa [isQueryOf, decide_eq_true rfl, if_pos rfl] at hevent
  | ignored => exact pure ()
  | packet property connectionNumber =>
    cases property with
    | connectRequest => exact processConnectRequest connectionNumber leaf
    | disconnect =>
      refine of_lookup fun w hw => ?_
      rw [hw]
      exact pure ()
    | ping =>
      dsimp only [processSingle]
      refine touchPeer_bind ?_
      split
      · refine of_lookup fun w _ => ?_
        exact sendRawTo _ _
      · exact pure ()
    | mtuCheck =>
      dsimp only [processSingle]
      refine touchPeer_bind ?_
      cases leaf with
      | nil => exact pure ()
      | cons header rest => exact sendRawTo _ _
    | mtuOk => exact touchPeer
    | natMessage =>
      dsimp only [processSingle]
      split
      · exact pure ()
      · exact enqueueEvent_other rfl
    | ack =>
      refine of_lookup fun w hw => ?_
      rw [hw]
      exact pure ()
    | channeled => exact processMessage _ leaf
    | unreliable => exact processMessage _ leaf
    | _ => exact pure ()

/-- **A datagram** owes what its packets ask for. -/
theorem processPacket (bytes : Bytes) : Owes addr ((leaves bytes).map replyBytes).sum (processPacket addr bytes) := by
  fun_induction leaves bytes with
  | case1 bytes c hmerged ih =>
    rw [Transport.processPacket, hmerged, sum_map_flatMap]
    refine touchPeer_bind ?_
    exact Grows.forM fun packet _ => ih packet
  | case2 bytes hsingle =>
    rw [processPacket_of_not_merged addr hsingle, List.map_singleton, List.sum_singleton]
    exact processLeaf bytes

end Owes

/-! ### The answers of the server -/

lemma bytesTo_final_answer (addr : SocketAddr) (s : ServerState) (event : ServerEvent) (w : World) :
    bytesTo addr (final (s.answer event) w).sent ≤
      bytesTo addr w.sent + if isQueryOf addr event then serverInfoMaxPacketBytes else 0 := by
  cases event with
  | unconnectedRequest remoteAddr nonce payload =>
    have hsize := length_serverInfoPacket_le (s.serverInfoResponse nonce)
    have hsent : bytesTo addr [(remoteAddr, serverInfoPacket (s.serverInfoResponse nonce))] ≤
        if isQueryOf addr (.unconnectedRequest remoteAddr nonce payload) then serverInfoMaxPacketBytes else 0 := by
      by_cases haddr : remoteAddr = addr
      · rw [isQueryOf, decide_eq_true haddr, if_pos rfl]
        exact (bytesTo_singleton_le addr _).trans hsize
      · simp [bytesTo, haddr]
    rcases hresults : w.sendResults with _ | ⟨ok, rest⟩
    · rw [final, ServerState.answer, sendServerInfo, sendRawTo, hresults]
      dsimp only
      rw [bytesTo_append]
      omega
    · cases ok with
      | false =>
        rw [final, ServerState.answer, sendServerInfo, sendRawTo, hresults]
        exact Nat.le_add_right _ _
      | true =>
        rw [final, ServerState.answer, sendServerInfo, sendRawTo, hresults]
        dsimp only
        rw [bytesTo_append]
        omega
  | _ => exact Nat.le_add_right _ _

lemma bytesTo_final_answerEach (addr : SocketAddr) (handled : List (ServerState × ServerEvent)) (w : World) :
    bytesTo addr (final (answerEach handled) w).sent ≤
      bytesTo addr w.sent + serverInfoMaxPacketBytes * (handled.map Prod.snd).countP (isQueryOf addr) := by
  induction handled generalizing w with
  | nil => exact Nat.le_add_right _ _
  | cons x handled ih =>
    obtain ⟨s, event⟩ := x
    have hfinal : final (answerEach ((s, event) :: handled)) w =
        final (answerEach handled) (final (s.answer event) w) := final_tryCatch_pure_bind _ _ w
    have hone := bytesTo_final_answer addr s event w
    have hrest := ih (final (s.answer event) w)
    rw [hfinal, List.map_cons, List.countP_cons, Nat.mul_add]
    split at hone
    next h => rw [if_pos h]; omega
    next h => rw [if_neg h]; omega

/-- **What a stranger gets back.**  The pongs, MTU replies, protocol errors and infos a datagram of an address
without a peer leads to are together no longer than it, up to what pongs have over pings of less than 11
bytes in it; and they are never longer than eleven thirds of it. -/
theorem replied_bytes_bounded {w : World} {remoteAddr : SocketAddr} {bytes : Bytes}
    (hunknown : remoteAddr ∉ w.handle.byAddr) {handled : List (ServerState × ServerEvent)}
    (hcaused : (final (processPacket remoteAddr bytes) w).events = w.events ++ handled.map Prod.snd) :
    bytesTo remoteAddr (final (answerEach handled) (final (processPacket remoteAddr bytes) w)).sent ≤
        bytesTo remoteAddr w.sent + (bytes.length + pongExcesses bytes) ∧
      3 * bytesTo remoteAddr (final (answerEach handled) (final (processPacket remoteAddr bytes) w)).sent ≤
        3 * bytesTo remoteAddr w.sent + 11 * bytes.length := by
  have howed := (@Owes.processPacket remoteAddr bytes w hunknown).2
  have hanswers := bytesTo_final_answerEach remoteAddr handled (final (processPacket remoteAddr bytes) w)
  rw [owed, owed, hcaused, List.countP_append, Nat.mul_add] at howed
  have hleaves := sum_length_leaves_le bytes
  have hexcess : ((leaves bytes).map replyBytes).sum ≤
      ((leaves bytes).map List.length).sum + pongExcesses bytes := by
    rw [pongExcesses, ← List.sum_map_add]
    exact List.sum_le_sum fun leaf _ => (replyBytes_le leaf).1
  have hratio : 3 * ((leaves bytes).map replyBytes).sum ≤ 11 * ((leaves bytes).map List.length).sum := by
    rw [← List.sum_map_mul_left, ← List.sum_map_mul_left]
    exact List.sum_le_sum fun leaf _ => (replyBytes_le leaf).2
  constructor
  · omega
  · omega

/-! ### A ping of three bytes -/

def stranger : SocketAddr := .v4 #v[192, 0, 2, 1] 4000

/-- A ping with sequence `0`. -/
def shortPing : Bytes := [headerByte .ping 0, 0, 0]

/-- Two pings in one datagram, the second as long as a pong. -/
def mergedPings : Bytes := headerByte .merged 0 :: (frame shortPing ++ frame (shortPing ++ List.replicate 8 0))

/-- The pong is longer than the ping. -/
theorem replied_bytes_not_bounded :
    ¬ ∀ (w : World) (remoteAddr : SocketAddr) (bytes : Bytes) (handled : List (ServerState × ServerEvent)),
        remoteAddr ∉ w.handle.byAddr →
        (final (processPacket remoteAddr bytes) w).events = w.events ++ handled.map Prod.snd →
        bytesTo remoteAddr (final (answerEach handled) (final (processPacket remoteAddr bytes) w)).sent ≤
          bytesTo remoteAddr w.sent + bytes.length := by
  intro h
  have hbound := h {} stranger shortPing [] (AList.notMem_empty _) (by decide +kernel)
  exact absurd hbound (by decide +kernel)

/-- Two pongs of 11 bytes for 19 bytes; the first has 8 more than its ping. -/
theorem replied_bytes_bounded_mergedPings :
    bytesTo stranger (final (processPacket stranger mergedPings) {}).sent = 22 ∧ mergedPings.length = 19 ∧
      pongExcesses mergedPings = 8 ∧
      bytesTo stranger (final (answerEach []) (final (processPacket stranger mergedPings) {})).sent ≤
        bytesTo stranger ({} : World).sent + (mergedPings.length + pongExcesses mergedPings) := by
  refine ⟨by decide +kernel, by decide +kernel, by decide +kernel, ?_⟩
  exact (replied_bytes_bounded (AList.notMem_empty _) (by decide +kernel)).1

end BasisRust.Core
