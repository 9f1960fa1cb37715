import BasisRust.Client.Connect
import BasisRust.Transport.Ack
import BasisRust.Transport.Retained

/-!
# Reliable packets of the client

The client acknowledges each reliable packet in an ack packet of its own, with the window starting at the
number received.  It numbers what it sends with one counter, where the server keeps one for each channel id.
-/

namespace BasisRust.Client

open Lib Protocol Transport

/-! ### What the client acknowledges -/

/-- `send_ack` -/
def sendAck (connectionNumber channelId : UInt8) (sequence : UInt16) : Bytes :=
  [headerByte .ack connectionNumber] ++ leBytes 2 sequence.toNat ++ [channelId] ++
    setBit (List.replicate ((defaultWindowSize - 1) / 8 + 2) 0) (sequence.toNat % defaultWindowSize)

section Ack

variable (connectionNumber channelId : UInt8) {sequence : UInt16}

/-- It is the ack packet of a window that starts at the number. -/
lemma sendAck_eq (sequence : UInt16) : sendAck connectionNumber channelId sequence =
    buildAckPacket connectionNumber channelId
      ⟨sequence, setBit (AckState.fresh sequence).bits (sequence.toNat % defaultWindowSize)⟩ := rfl

lemma getBit_sendAck (sequence : UInt16) (pos : ℕ) :
    getBit (setBit (AckState.fresh sequence).bits (sequence.toNat % defaultWindowSize)) pos =
      decide (pos = sequence.toNat % defaultWindowSize) := by
  have hlt : sequence.toNat % defaultWindowSize < 128 := Nat.mod_lt _ (by decide)
  have hbyte : sequence.toNat % defaultWindowSize / 8 < (AckState.fresh sequence).bits.length := by
    simp only [AckState.fresh, List.length_replicate, defaultWindowSize] at hlt ⊢
    omega
  rw [getBit_setBit hbyte, AckState.fresh, getBit_replicate, Bool.or_false]

/-- Numbers that share a bit are a multiple of 128 apart, and the window holds one of them: the circle of the
numbers is a multiple of 128 long. -/
lemma relativeSequence_alias {s : UInt16} (hs : InRange s) (hsequence : InRange sequence) :
    (0 ≤ relativeSequence s sequence ∧ (relativeSequence s sequence).toNat < defaultWindowSize ∧
      s.toNat % defaultWindowSize = sequence.toNat % defaultWindowSize) ↔ s = sequence := by
  rw [← UInt16.toNat_inj]
  unfold InRange maxSequence at hs hsequence
  unfold relativeSequence defaultWindowSize
  dsimp only
  split_ifs <;> omega

/-- **Of the numbers a peer can have pending, it acknowledges its own.** -/
theorem ackBitSet_sendAck {s : UInt16} (hs : InRange s) (hsequence : InRange sequence) :
    ackBitSet (sendAck connectionNumber channelId sequence) s = decide (s = sequence) := by
  have halias := relativeSequence_alias hs hsequence
  rw [sendAck_eq, ackBitSet_buildAckPacket, getBit_sendAck]
  by_cases hout : relativeSequence s sequence < 0 ∨ (relativeSequence s sequence).toNat ≥ defaultWindowSize
  · rw [if_pos hout]
    refine (decide_eq_false fun heq => ?_).symm
    have hin := halias.mpr heq
    omega
  · rw [if_neg hout, decide_eq_decide, ← halias]
    omega

/-- **An ack clears exactly its packet.** -/
theorem processAck_sendAck {peer : PeerState} (hpending : ∀ key ∈ peer.pendingReliable, InRange key.sequence)
    (hsequence : InRange sequence) :
    (∃ pending, processAck peer (sendAck connectionNumber channelId sequence) =
      { peer with pendingReliable := pending }) ∧
    ∀ key, (processAck peer (sendAck connectionNumber channelId sequence)).pendingReliable.lookup key =
      if key = ⟨channelId, sequence⟩ then none else peer.pendingReliable.lookup key := by
  have hlength : ¬ (sendAck connectionNumber channelId sequence).length < 4 := by
    rw [sendAck_eq]
    exact not_lt.mpr (length_buildAckPacket ..)
  have hchannel : u8At (sendAck connectionNumber channelId sequence) 3 = channelId := rfl
  rw [processAck, if_neg hlength, hchannel]
  refine ⟨⟨_, rfl⟩, fun key => ?_⟩
  dsimp only
  rw [Dict.lookup_retain]
  cases hlookup : peer.pendingReliable.lookup key with
  | none => rw [ite_self]; rfl
  | some item =>
    have hrange : InRange key.sequence := hpending key (Dict.mem_iff_lookup.mpr ⟨item, hlookup⟩)
    obtain ⟨c, s⟩ := key
    rw [ackBitSet_sendAck _ _ hrange hsequence]
    by_cases hc : c = channelId <;> by_cases hs : s = sequence <;> simp [hc, hs]

end Ack

/-- Pending are two numbers that share a bit, one across the wrap of the numbers, and one of another channel id. -/
theorem processAck_sendAck_alias :
    let peer : PeerState := { visitorPeer with
      pendingReliable := (((∅ : Dict PendingReliableKey PendingReliable).insert ⟨6, 0⟩ ⟨[], 0⟩).insert ⟨6, 32640⟩
        ⟨[], 0⟩).insert ⟨2, 0⟩ ⟨[], 0⟩ }
    (∃ pending, processAck peer (sendAck 0 6 0) = { peer with pendingReliable := pending }) ∧
    ∀ key, (processAck peer (sendAck 0 6 0)).pendingReliable.lookup key =
      if key = ⟨6, 0⟩ then none else peer.pendingReliable.lookup key := by
  intro peer
  refine processAck_sendAck 0 6 (fun key hkey => ?_) (show (0 : UInt16).toNat < maxSequence by decide)
  rcases AList.mem_insert _ |>.mp hkey with rfl | hkey
  · exact (by decide : (0 : UInt16).toNat < maxSequence)
  rcases AList.mem_insert _ |>.mp hkey with rfl | hkey
  · exact (by decide : (32640 : UInt16).toNat < maxSequence)
  rcases AList.mem_insert _ |>.mp hkey with rfl | hkey
  · exact (by decide : (0 : UInt16).toNat < maxSequence)
  · exact absurd hkey (AList.notMem_empty _)

/-! ### What the client sends -/

structure ReliableSend where
  channelId : UInt8
  sequence : UInt16
  bytes : Bytes
  lastSent : Option ℕ
  deriving DecidableEq

/-- The client with its reliable side. -/
structure ReliableClient extends BasisClient where
  connected : Bool
  reliableSequence : UInt16 := 0
  pendingReliable : List ReliableSend := []

structure ReliableCall where
  channel : UInt8
  payload : Bytes
  /-- the clock behind `last_sent` -/
  now : ℕ
  /-- the socket takes the packet -/
  taken : Bool

def ReliableCall.channelId (call : ReliableCall) : UInt8 := DeliveryMethod.channelId call.channel .reliableOrdered

namespace ReliableClient

/-- The client after the call, and the packet it gives to the socket; `fetch_add` wraps. -/
def sendReliableOrdered (client : ReliableClient) (call : ReliableCall) : ReliableClient × Option Bytes :=
  if !client.connected then (client, none)
  else
    let sequence := client.reliableSequence % 32768
    let client := { client with reliableSequence := client.reliableSequence + 1 }
    let channelId := DeliveryMethod.channelId call.channel .reliableOrdered
    let packet := [headerByte .channeled client.connectionNumber] ++ leBytes 2 sequence.toNat ++ [channelId] ++
      call.payload
    if call.taken then
      ({ client with
          pendingReliable := client.pendingReliable ++ [⟨channelId, sequence, packet, some call.now⟩] }, some packet)
    else (client, some packet)

/-- One call after the other, with all packets so far. -/
def sendAll (client : ReliableClient) (calls : List ReliableCall) : ReliableClient × List Bytes :=
  calls.foldl (fun sent call =>
    let (client, packet) := sent.1.sendReliableOrdered call
    (client, sent.2 ++ packet.toList)) (client, [])

end ReliableClient

/-- The server's packets for the same calls. -/
def serverSendAll (peer : PeerState) (calls : List ReliableCall) : PeerState × List Bytes :=
  calls.foldl (fun sent call =>
    let (built, peer) := buildOutboundPacket sent.1 call.channel .reliableOrdered call.payload
    (peer, sent.2 ++ [built.bytes])) (peer, [])

/-- The numbers of the packets of one channel id. -/
def numbersOn (channelId : UInt8) (packets : List Bytes) : List UInt16 :=
  (packets.filter fun packet => u8At packet 3 = channelId).map fun packet => u16At packet 1

/-- How many of the calls are on other channel ids. -/
def othersOf (channelId : UInt8) (calls : List ReliableCall) : ℕ := calls.countP fun call => call.channelId ≠ channelId

/-- What the claim of one numbering for both ends asks: on every channel id the numbers count up from zero, and the
packets are those of the server. -/
def NumberedAlike (client : ReliableClient) (peer : PeerState) (calls : List ReliableCall) : Prop :=
  (∀ channelId, numbersOn channelId (client.sendAll calls).2 =
      (List.range (calls.countP fun call => call.channelId = channelId)).map sequenceOf) ∧
    (client.sendAll calls).2 = (serverSendAll peer calls).2

section Numbers

variable {client : ReliableClient} {peer : PeerState}

/-- The packet with the number for the call. -/
def channeledPacket (connectionNumber : UInt8) (sequence : UInt16) (call : ReliableCall) : Bytes :=
  [headerByte .channeled connectionNumber] ++ leBytes 2 sequence.toNat ++ [call.channelId] ++ call.payload

@[simp] lemma u8At_channeledPacket (connectionNumber : UInt8) (sequence : UInt16) (call : ReliableCall) :
    u8At (channeledPacket connectionNumber sequence call) 3 = call.channelId := rfl

@[simp] lemma u16At_channeledPacket (connectionNumber : UInt8) (sequence : UInt16) (call : ReliableCall) :
    u16At (channeledPacket connectionNumber sequence call) 1 = sequence := u16At_of_slice rfl

lemma numbersOn_concat (channelId : UInt8) (packets : List Bytes) (connectionNumber : UInt8) (sequence : UInt16)
    (call : ReliableCall) : numbersOn channelId (packets ++ [channeledPacket connectionNumber sequence call]) =
      numbersOn channelId packets ++ if call.channelId = channelId then [sequence] else [] := by
  by_cases hchannel : call.channelId = channelId <;> simp [numbersOn, List.filter_append, hchannel]

/-- Calls on a connected client count on from the number before. -/
lemma sendReliableOrdered_of_connected (h : client.connected = true) (call : ReliableCall) :
    ((client.sendReliableOrdered call).1.connected = true ∧
      (client.sendReliableOrdered call).1.connectionNumber = client.connectionNumber ∧
      (client.sendReliableOrdered call).1.reliableSequence = client.reliableSequence + 1) ∧
    (client.sendReliableOrdered call).2 =
      some (channeledPacket client.connectionNumber (client.reliableSequence % 32768) call) := by
  unfold ReliableClient.sendReliableOrdered
  rw [h, Bool.not_true, if_neg Bool.false_ne_true]
  dsimp only
  split
  · exact ⟨⟨rfl, rfl, rfl⟩, rfl⟩
  · exact ⟨⟨rfl, rfl, rfl⟩, rfl⟩

lemma ofNat_mod (n : ℕ) : UInt16.ofNat n % 32768 = sequenceOf n := by
  rw [← UInt16.toNat_inj, UInt16.toNat_mod, UInt16.toNat_ofNat', toNat_sequenceOf]
  change n % 65536 % 32768 = n % 32768
  omega

/-- The counter is the number of all calls. -/
lemma sendAll_client (hconnected : client.connected = true) (hcounter : client.reliableSequence = 0)
    (calls : List ReliableCall) : (client.sendAll calls).1.connected = true ∧
      (client.sendAll calls).1.connectionNumber = client.connectionNumber ∧
      (client.sendAll calls).1.reliableSequence = UInt16.ofNat calls.length := by
  induction calls using List.reverseRecOn with
  | nil => exact ⟨hconnected, rfl, hcounter⟩
  | append_singleton calls call ih =>
    obtain ⟨hconnected', hnumber, hsequence⟩ := ih
    obtain ⟨⟨h₁, h₂, h₃⟩, -⟩ := sendReliableOrdered_of_connected hconnected' call
    unfold ReliableClient.sendAll at *
    rw [List.foldl_append, List.foldl_cons, List.foldl_nil]
    refine ⟨h₁, h₂.trans hnumber, ?_⟩
    rw [h₃, hsequence, List.length_append, List.length_singleton, UInt16.ofNat_add]
    rfl

lemma sendAll_concat (hconnected : client.connected = true) (hcounter : client.reliableSequence = 0)
    (calls : List ReliableCall) (call : ReliableCall) : (client.sendAll (calls ++ [call])).2 =
      (client.sendAll calls).2 ++ [channeledPacket client.connectionNumber (sequenceOf calls.length) call] := by
  obtain ⟨hconnected', hnumber, hsequence⟩ := sendAll_client hconnected hcounter calls
  obtain ⟨-, hpacket⟩ := sendReliableOrdered_of_connected hconnected' call
  rw [hnumber, hsequence, ofNat_mod] at hpacket
  unfold ReliableClient.sendAll at *
  rw [List.foldl_append, List.foldl_cons, List.foldl_nil]
  dsimp only
  rw [hpacket, Option.toList_some]

/-- The server's counter of a channel id is the number of the calls on it. -/
lemma serverSendAll_peer (hfresh : peer.nextReliableSequence = ∅) (calls : List ReliableCall) :
    (serverSendAll peer calls).1.connectionNumber = peer.connectionNumber ∧
      ∀ channelId, nextOn channelId (serverSendAll peer calls).1 =
        sequenceOf (calls.countP fun call => call.channelId = channelId) := by
  induction calls using List.reverseRecOn with
  | nil =>
    refine ⟨rfl, fun channelId => ?_⟩
    change (peer.nextReliableSequence.lookup channelId).getD 0 = _
    rw [hfresh, AList.lookup_empty]
    rfl
  | append_singleton calls call ih =>
    obtain ⟨hnumber, hnext⟩ := ih
    unfold serverSendAll at *
    rw [List.foldl_append, List.foldl_cons, List.foldl_nil]
    refine ⟨hnumber, fun channelId => ?_⟩
    rw [List.countP_append, List.countP_singleton]
    refine (nextOn_sendQueued channelId 0 _ (call.channelId, call.payload)).trans ?_
    rw [hnext]
    by_cases hchannel : call.channelId = channelId
    · simp [hchannel, sequenceOf_succ]
    · simp [hchannel]

lemma serverSendAll_concat (hfresh : peer.nextReliableSequence = ∅) (calls : List ReliableCall) (call : ReliableCall) :
    (serverSendAll peer (calls ++ [call])).2 = (serverSendAll peer calls).2 ++
      [channeledPacket peer.connectionNumber
        (sequenceOf (calls.countP fun c => c.channelId = call.channelId)) call] := by
  obtain ⟨hnumber, hnext⟩ := serverSendAll_peer hfresh calls
  rw [← hnumber, ← hnext]
  unfold serverSendAll
  rw [List.foldl_append, List.foldl_cons, List.foldl_nil]
  rfl

/-- The server counts up from zero on every channel id. -/
lemma numbersOn_serverSendAll (hfresh : peer.nextReliableSequence = ∅) (channelId : UInt8)
    (calls : List ReliableCall) : numbersOn channelId (serverSendAll peer calls).2 =
      (List.range (calls.countP fun call => call.channelId = channelId)).map sequenceOf := by
  induction calls using List.reverseRecOn with
  | nil => rfl
  | append_singleton calls call ih =>
    rw [serverSendAll_concat hfresh, numbersOn_concat, ih, List.countP_append, List.countP_singleton]
    by_cases hchannel : call.channelId = channelId
    · simp [hchannel, List.range_succ]
    · simp [hchannel]

/-- Every place of the longer list is one of the shorter or the last. -/
lemma forall_split_concat {P : List ReliableCall → ReliableCall → Prop} (calls : List ReliableCall)
    (last : ReliableCall) :
    (∀ before call after, calls ++ [last] = before ++ call :: after → P before call) ↔
      (∀ before call after, calls = before ++ call :: after → P before call) ∧ P calls last := by
  constructor
  · intro h
    refine ⟨fun before call after hcalls => h before call (after ++ [last]) ?_, h calls last [] rfl⟩
    rw [hcalls, List.append_assoc, List.cons_append]
  · rintro ⟨h, hlast⟩ before call after hcalls
    rcases List.eq_nil_or_concat after with rfl | ⟨after, last', rfl⟩
    · obtain ⟨rfl, heq⟩ := List.append_inj' hcalls rfl
      exact List.singleton_inj.mp heq ▸ hlast
    · rw [List.concat_eq_append, ← List.cons_append, ← List.append_assoc] at hcalls
      exact h before call after (List.append_inj' hcalls rfl).1

/-- The two numbers of a call agree when the calls before it on other channel ids add up to whole rounds. -/
lemma sequenceOf_length_iff (channelId : UInt8) (calls : List ReliableCall) :
    sequenceOf calls.length = sequenceOf (calls.countP fun call => call.channelId = channelId) ↔
      maxSequence ∣ othersOf channelId calls := by
  have hsplit := List.length_eq_countP_add_countP (fun call : ReliableCall => decide (call.channelId = channelId))
    (l := calls)
  have hothers : othersOf channelId calls =
      calls.countP fun call => ¬ decide (call.channelId = channelId) = true := by
    unfold othersOf
    simp
  rw [← hothers] at hsplit
  rw [← UInt16.toNat_inj, toNat_sequenceOf, toNat_sequenceOf, hsplit]
  unfold maxSequence
  omega

end Numbers

/-- **One counter against one for each channel id.**  The client numbers a list of calls like the server exactly
when before every call the calls on other channel ids add up to a multiple of 32768. -/
theorem numberedAlike_iff {client : ReliableClient} {peer : PeerState} (hconnected : client.connected = true)
    (hcounter : client.reliableSequence = 0) (hfresh : peer.nextReliableSequence = ∅)
    (hnumber : client.connectionNumber = peer.connectionNumber) (calls : List ReliableCall) :
    NumberedAlike client peer calls ↔
      ∀ before call after, calls = before ++ call :: after → maxSequence ∣ othersOf call.channelId before := by
  have hpackets : (client.sendAll calls).2 = (serverSendAll peer calls).2 ↔
      ∀ before call after, calls = before ++ call :: after → maxSequence ∣ othersOf call.channelId before := by
    induction calls using List.reverseRecOn with
    | nil => simp [ReliableClient.sendAll, serverSendAll]
    | append_singleton calls last ih =>
      rw [sendAll_concat hconnected hcounter, serverSendAll_concat hfresh, hnumber, List.append_singleton_inj, ih]
      rw [forall_split_concat, ← sequenceOf_length_iff]
      refine and_congr_right fun _ => ⟨fun h => ?_, fun h => by rw [h]⟩
      simpa using congrArg (u16At · 1) h
  refine ⟨fun h => hpackets.mp h.2, fun h => ⟨fun channelId => ?_, hpackets.mpr h⟩⟩
  rw [hpackets.mpr h, numbersOn_serverSendAll hfresh]

/-- Up to 32768 calls this asks for a single channel id. -/
theorem othersOf_dvd_iff_of_short {calls : List ReliableCall} (hshort : calls.length ≤ maxSequence) :
    (∀ before call after, calls = before ++ call :: after → maxSequence ∣ othersOf call.channelId before) ↔
      calls.Pairwise fun earlier later => earlier.channelId = later.channelId := by
  induction calls using List.reverseRecOn with
  | nil => simp
  | append_singleton calls last ih =>
    rw [List.length_append, List.length_singleton] at hshort
    rw [forall_split_concat, ih (by omega), List.pairwise_append]
    have hle : othersOf last.channelId calls ≤ calls.length := List.countP_le_length
    have hzero : maxSequence ∣ othersOf last.channelId calls ↔ othersOf last.channelId calls = 0 :=
      ⟨fun h => Nat.eq_zero_of_dvd_of_lt h (by omega), fun h => h ▸ dvd_zero _⟩
    rw [hzero, othersOf, List.countP_eq_zero]
    simp

/-- A client as it is once the server has accepted it. -/
def connectedClient : ReliableClient where
  serverAddr := localAddr
  connectTime := 1
  connectionNumber := 0
  localPeerId := 0
  connected := true

/-- Two messages on two channels: the second one has number 1 where the server's has 0. -/
theorem not_numberedAlike : ¬ ∀ (client : ReliableClient) (peer : PeerState) (calls : List ReliableCall),
    client.connected = true → client.reliableSequence = 0 → peer.nextReliableSequence = ∅ →
    client.connectionNumber = peer.connectionNumber → NumberedAlike client peer calls := by
  intro h
  have hnumbers := (h connectedClient visitorPeer [⟨0, [], 0, true⟩, ⟨1, [], 0, true⟩] rfl rfl rfl rfl).1 6
  exact absurd hnumbers (by decide)

/-- Two messages on one channel. -/
theorem numberedAlike_iff_oneChannel :
    let calls : List ReliableCall := [⟨1, [], 0, true⟩, ⟨1, [7], 0, false⟩]
    NumberedAlike connectedClient visitorPeer calls ↔
      ∀ before call after, calls = before ++ call :: after → maxSequence ∣ othersOf call.channelId before := by
  intro calls
  exact numberedAlike_iff rfl rfl rfl rfl calls

end BasisRust.Client
