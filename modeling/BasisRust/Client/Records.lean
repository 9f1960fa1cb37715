import BasisRust.Client.Link

/-!
# The client's records

Every reliable packet of the client has a number of its own until the numbers have gone round once.  It stays pending
until it has come in at the server: an ack packet says it of the packet that was sent under the number, and only once
the server has that.
-/

namespace BasisRust.Client

open Lib Protocol Transport

/-! ### Numbers -/

/-- A channeled packet with its channel id and its number. -/
structure Numbered (packet : Bytes) (channelId : UInt8) (sequence : UInt16) : Prop where
  property : propertyOf packet = some .channeled
  length : 4 ≤ packet.length
  channelId : u8At packet 3 = channelId
  sequence : u16At packet 1 = sequence

/-- Some packet of these has the number on the channel id. -/
def Got (packets : List Bytes) (channelId : UInt8) (sequence : UInt16) : Prop :=
  ∃ packet ∈ packets, Numbered packet channelId sequence

lemma Got.mono {packets more : List Bytes} {channelId : UInt8} {sequence : UInt16} (h : Got packets channelId sequence)
    (hmore : packets ⊆ more) : Got more channelId sequence := by
  obtain ⟨packet, hpacket, hnumbered⟩ := h
  exact ⟨packet, hmore hpacket, hnumbered⟩

lemma propertyOf_headerByte (property : PacketProperty) (connectionNumber : UInt8) (rest : Bytes) :
    propertyOf (headerByte property connectionNumber :: rest) = some property :=
  fromByte_headerByte property connectionNumber

lemma numbered_channeledPacket (connectionNumber : UInt8) (sequence : UInt16) (call : ReliableCall) :
    Numbered (channeledPacket connectionNumber sequence call) call.channelId sequence where
  property := propertyOf_headerByte .channeled connectionNumber _
  length := by
    simp only [channeledPacket, List.length_append, List.length_singleton, length_leBytes]
    omega
  channelId := rfl
  sequence := u16At_channeledPacket connectionNumber sequence call

/-- The client sends reliable packets in order. -/
lemma acknowledged_channelId (call : ReliableCall) : Acknowledged call.channelId := by
  have hall : ∀ channel : UInt8, Acknowledged (DeliveryMethod.channelId channel .reliableOrdered) := by decide +kernel
  exact hall call.channel

lemma sequenceOf_inj {m n : ℕ} (hm : m < 32768) (hn : n < 32768) (h : sequenceOf m = sequenceOf n) : m = n := by
  have heq := congrArg UInt16.toNat h
  rw [toNat_sequenceOf, toNat_sequenceOf] at heq
  unfold maxSequence at heq
  omega

lemma inRange_sequenceOf (n : ℕ) : InRange (sequenceOf n) := by
  rw [InRange, toNat_sequenceOf]
  exact Nat.mod_lt _ (by decide)

/-! ### The client -/

/-- The ack packet answers a packet the client has got. -/
def Answers (got : List Bytes) (packet : Bytes) : Prop :=
  ∃ connectionNumber channelId sequence,
    Acknowledged channelId ∧ packet = sendAck connectionNumber channelId sequence ∧ Got got channelId sequence

/-- An ack packet covers only what has come in. -/
def Tells (arrived : List Bytes) (packet : Bytes) : Prop :=
  ∀ sequence, InRange sequence → ackBitSet packet sequence → Got arrived (u8At packet 3) sequence

/-- **The client's records.**  Every number has one packet; what is sent of the reliable ones has one, and it is
pending as long as it has not come in. -/
structure ClientSound (arrived got : List Bytes) (w : ClientWorld) : Prop where
  counter : w.session.reliableSequence = UInt16.ofNat w.numbered.length
  numbered : ∀ n packet, w.numbered[n]? = some packet →
    ∃ channelId, Acknowledged channelId ∧ Numbered packet channelId (sequenceOf n)
  sent : ∀ packet ∈ w.sent, propertyOf packet = some .channeled → packet ∈ w.numbered
  acks : ∀ packet ∈ w.sent, propertyOf packet = some .ack → Answers got packet
  pending : ∀ item ∈ w.session.pendingReliable, item.bytes ∈ w.numbered ∧ item.bytes ∈ w.sent ∧
    Numbered item.bytes item.channelId item.sequence
  arrivals : ∀ packet ∈ arrived, packet ∈ w.sent
  kept : w.numbered.length ≤ 32768 → ∀ packet ∈ w.numbered, packet ∈ w.sent →
    (∃ item ∈ w.session.pendingReliable, item.bytes = packet) ∨ packet ∈ arrived

section Client

variable {arrived got : List Bytes} {w : ClientWorld}

/-- A computation keeps the records. -/
def KeepsSound (arrived got : List Bytes) {α : Type} (x : ClientM α) : Prop :=
  Relates (fun w w' => ClientSound arrived got w → ClientSound arrived got w') x

lemma KeepsSound.pure {α : Type} (a : α) : KeepsSound arrived got (Pure.pure a : ClientM α) := Relates.pure (fun _ => id) a

lemma KeepsSound.bind {α β : Type} {x : ClientM α} {f : α → ClientM β} (hx : KeepsSound arrived got x)
    (hf : ∀ a, KeepsSound arrived got (f a)) : KeepsSound arrived got (x >>= f) :=
  Relates.bind (fun _ _ _ h h' hw => h' (h hw)) hx hf

/-- Something may come first. -/
lemma KeepsSound.ifThen {α : Type} {c : Prop} [Decidable c] {first : ClientM Unit} {rest : ClientM α}
    (hfirst : c → KeepsSound arrived got first) (hrest : KeepsSound arrived got rest) :
    KeepsSound arrived got (if c then first >>= fun _ => rest else rest) := by
  split
  next h => exact (hfirst h).bind fun _ => hrest
  next => exact hrest

lemma KeepsSound.forM {α : Type} {f : α → ClientM PUnit} {as : List α} (h : ∀ a ∈ as, KeepsSound arrived got (f a)) :
    KeepsSound arrived got (as.forM f) :=
  Relates.forM (fun _ => id) (fun _ _ _ h h' hw => h' (h hw)) h

/-- Numbers are told apart as long as none is given out twice. -/
lemma ClientSound.eq_of_numbered (h : ClientSound arrived got w) (hshort : w.numbered.length ≤ 32768)
    {packet packet' : Bytes} (hpacket : packet ∈ w.numbered) (hpacket' : packet' ∈ w.numbered)
    {channelId channelId' : UInt8} {sequence : UInt16} (hnumbered : Numbered packet channelId sequence)
    (hnumbered' : Numbered packet' channelId' sequence) : packet = packet' := by
  obtain ⟨n, hn⟩ := List.mem_iff_getElem?.mp hpacket
  obtain ⟨n', hn'⟩ := List.mem_iff_getElem?.mp hpacket'
  obtain ⟨c, -, hc⟩ := h.numbered n packet hn
  obtain ⟨c', -, hc'⟩ := h.numbered n' packet' hn'
  obtain ⟨hlt, -⟩ := List.getElem?_eq_some_iff.mp hn
  obtain ⟨hlt', -⟩ := List.getElem?_eq_some_iff.mp hn'
  have hsequence : sequenceOf n = sequenceOf n' := by
    rw [← hc.sequence, ← hc'.sequence, hnumbered.sequence, hnumbered'.sequence]
  obtain rfl := sequenceOf_inj (by omega) (by omega) hsequence
  rw [hn] at hn'
  exact Option.some.inj hn'

/-! One send. -/

lemma sendToServer_cases (bytes : Bytes) (w : ClientWorld) :
    (w.sendResults.headD true = false ∧ ∃ sendResults, sendToServer bytes w = .error .io { w with sendResults }) ∨
      w.sendResults.headD true = true ∧
        ∃ sendResults, sendToServer bytes w = .ok () { w with sendResults, sent := w.sent ++ [bytes] } := by
  obtain ⟨session, now, utcTicks, sendResults, sent, numbered⟩ := w
  rcases sendResults with - | ⟨- | -, results⟩
  · exact .inr ⟨rfl, [], rfl⟩
  · exact .inl ⟨rfl, results, rfl⟩
  · exact .inr ⟨rfl, results, rfl⟩

lemma ClientSound.unsent (h : ClientSound arrived got w) (sendResults : List Bool) :
    ClientSound arrived got { w with sendResults } := ⟨h.1, h.2, h.3, h.4, h.5, h.6, h.7⟩

lemma ClientSound.send (h : ClientSound arrived got w) {bytes : Bytes}
    (hchanneled : propertyOf bytes = some .channeled →
      bytes ∈ w.numbered ∧ ∃ item ∈ w.session.pendingReliable, item.bytes = bytes)
    (hack : propertyOf bytes = some .ack → Answers got bytes) (sendResults : List Bool) :
    ClientSound arrived got { w with sendResults, sent := w.sent ++ [bytes] } where
  counter := h.counter
  numbered := h.numbered
  sent := List.forall_mem_append.mpr ⟨h.sent, List.forall_mem_singleton.mpr fun hproperty => (hchanneled hproperty).1⟩
  acks := List.forall_mem_append.mpr ⟨h.acks, List.forall_mem_singleton.mpr hack⟩
  pending item hitem := by
    obtain ⟨hnumbered, hsent, hof⟩ := h.pending item hitem
    exact ⟨hnumbered, List.mem_append_left _ hsent, hof⟩
  arrivals packet hpacket := List.mem_append_left _ (h.arrivals packet hpacket)
  kept hshort packet hnumbered hsent := by
    rcases List.mem_append.mp hsent with hsent | hsent
    · exact h.kept hshort packet hnumbered hsent
    · obtain rfl := List.mem_singleton.mp hsent
      obtain ⟨n, hn⟩ := List.mem_iff_getElem?.mp hnumbered
      obtain ⟨channelId, -, hpacket⟩ := h.numbered n packet hn
      exact .inl (hchanneled hpacket.property).2

lemma keepsSound_send {bytes : Bytes} (hchanneled : propertyOf bytes ≠ some .channeled)
    (hack : propertyOf bytes = some .ack → Answers got bytes) : KeepsSound arrived got (sendToServer bytes) := by
  intro w h
  rcases sendToServer_cases bytes w with ⟨-, results, heq⟩ | ⟨-, results, heq⟩
  · rw [final_of_error heq]
    exact h.unsent results
  · rw [final_of_ok heq]
    exact h.send (fun hproperty => absurd hproperty hchanneled) hack results

/-- What is no reliable packet is sent without further ado. -/
lemma keepsSound_send_header {property : PacketProperty} (hchanneled : property ≠ .channeled) (hack : property ≠ .ack)
    (connectionNumber : UInt8) (rest : Bytes) :
    KeepsSound arrived got (sendToServer (headerByte property connectionNumber :: rest)) := by
  have hproperty := propertyOf_headerByte property connectionNumber rest
  refine keepsSound_send (fun h => ?_) fun h => ?_
  · rw [hproperty] at h
    exact absurd (Option.some.inj h) hchanneled
  · rw [hproperty] at h
    exact absurd (Option.some.inj h) hack

/-- Nothing that is recorded changes. -/
lemma keepsSound_modifySession {f : Session → Session} (hsequence : ∀ s, (f s).reliableSequence = s.reliableSequence)
    (hpending : ∀ s, (f s).pendingReliable = s.pendingReliable) : KeepsSound arrived got (modifySession f) := by
  intro w h
  change ClientSound arrived got { w with session := f w.session }
  exact ⟨(hsequence _).trans h.counter, h.numbered, h.sent, h.acks, (hpending _).symm ▸ h.pending, h.arrivals,
    (hpending _).symm ▸ h.kept⟩

lemma propertyOf_sendAck (connectionNumber channelId : UInt8) (sequence : UInt16) :
    propertyOf (sendAck connectionNumber channelId sequence) = some .ack :=
  propertyOf_headerByte .ack connectionNumber _

lemma keepsSound_sendAckPacket {channelId : UInt8} {sequence : UInt16} (hreliable : Acknowledged channelId)
    (hgot : Got got channelId sequence) : KeepsSound arrived got (sendAckPacket channelId sequence) := by
  intro w
  refine keepsSound_send ?_ (fun _ => ⟨w.session.connectionNumber, channelId, sequence, hreliable, rfl, hgot⟩) w
  rw [propertyOf_sendAck]
  exact fun h => absurd (Option.some.inj h) (by decide)

lemma keepsSound_sendPong (sequence : UInt16) : KeepsSound arrived got (sendPong sequence) :=
  fun w => keepsSound_send_header (by decide) (by decide) w.session.connectionNumber _ w

lemma keepsSound_sendUnreliable (channel : UInt8) (payload : Bytes) :
    KeepsSound arrived got (sendUnreliable channel payload) := by
  intro w
  unfold sendUnreliable
  rw [final_get_bind]
  split
  next => exact id
  next => exact keepsSound_send_header (by decide) (by decide) w.session.connectionNumber _ w

lemma keepsSound_sendPing : KeepsSound arrived got sendPing := by
  intro w
  unfold sendPing
  rw [final_get_bind]
  split
  next => exact id
  next =>
    have hcounted : KeepsSound arrived got
        (modifySession fun session => { session with pingSequence := session.pingSequence + 1 }) :=
      keepsSound_modifySession (fun _ => rfl) fun _ => rfl
    exact hcounted.bind (fun _ => keepsSound_send_header (by decide) (by decide) w.session.connectionNumber _) w

lemma keepsSound_disconnect : KeepsSound arrived got disconnect := by
  refine .bind (keepsSound_modifySession (fun _ => rfl) fun _ => rfl) fun _ w => ?_
  rw [final_get_bind, final_tryCatch_pure]
  exact keepsSound_send_header (by decide) (by decide) w.session.connectionNumber _ w

/-! A new reliable packet. -/

/-- A packet gets the next number. -/
lemma ClientSound.number (h : ClientSound arrived got w) {packet : Bytes} {channelId : UInt8}
    (hreliable : Acknowledged channelId) (hpacket : Numbered packet channelId (sequenceOf w.numbered.length)) :
    ClientSound arrived got { w with
      session := { w.session with reliableSequence := w.session.reliableSequence + 1 }
      numbered := w.numbered ++ [packet] } where
  counter := by
    rw [List.length_append, List.length_singleton, UInt16.ofNat_add, ← h.counter]
    rfl
  numbered n packet' hn := by
    rw [List.getElem?_append] at hn
    split at hn
    next => exact h.numbered n packet' hn
    next hlast =>
      obtain ⟨hlt, rfl⟩ := List.getElem?_eq_some_iff.mp hn
      have hsame : n = w.numbered.length := by
        rw [List.length_singleton] at hlt
        omega
      subst hsame
      simp only [Nat.sub_self, List.getElem_cons_zero]
      exact ⟨channelId, hreliable, hpacket⟩
  sent packet' hsent hproperty := List.mem_append_left _ (h.sent packet' hsent hproperty)
  acks := h.acks
  pending item hitem := by
    obtain ⟨hnumbered, hsent, hof⟩ := h.pending item hitem
    exact ⟨List.mem_append_left _ hnumbered, hsent, hof⟩
  arrivals := h.arrivals
  kept hshort packet' hnumbered hsent := by
    rw [List.length_append, List.length_singleton] at hshort
    rcases List.mem_append.mp hnumbered with hnumbered | hnumbered
    · exact h.kept (by omega) packet' hnumbered hsent
    · -- no packet before had the number
      obtain rfl := List.mem_singleton.mp hnumbered
      obtain ⟨n, hn⟩ := List.mem_iff_getElem?.mp (h.sent packet' hsent hpacket.property)
      obtain ⟨hlt, -⟩ := List.getElem?_eq_some_iff.mp hn
      obtain ⟨channelId', -, hbefore⟩ := h.numbered n packet' hn
      have hsame := sequenceOf_inj (by omega) (by omega) (hbefore.sequence.symm.trans hpacket.sequence)
      omega

/-- What the socket has taken is pending. -/
lemma ClientSound.pend (h : ClientSound arrived got w) {item : ReliableSend} (hnumbered : item.bytes ∈ w.numbered)
    (hof : Numbered item.bytes item.channelId item.sequence) (sendResults : List Bool) :
    ClientSound arrived got { w with
      session := { w.session with pendingReliable := w.session.pendingReliable ++ [item] }
      sendResults, sent := w.sent ++ [item.bytes] } where
  counter := h.counter
  numbered := h.numbered
  sent := List.forall_mem_append.mpr ⟨h.sent, List.forall_mem_singleton.mpr fun _ => hnumbered⟩
  acks := List.forall_mem_append.mpr ⟨h.acks, List.forall_mem_singleton.mpr fun hack =>
    absurd (Option.some.inj (hof.property.symm.trans hack)) (by decide)⟩
  pending := by
    refine List.forall_mem_append.mpr ⟨fun item' hitem' => ?_, List.forall_mem_singleton.mpr ?_⟩
    · obtain ⟨hnumbered', hsent', hof'⟩ := h.pending item' hitem'
      exact ⟨hnumbered', List.mem_append_left _ hsent', hof'⟩
    · exact ⟨hnumbered, List.mem_append_right _ (List.mem_singleton_self _), hof⟩
  arrivals packet hpacket := List.mem_append_left _ (h.arrivals packet hpacket)
  kept hshort packet hpacket hsent := by
    rcases List.mem_append.mp hsent with hsent | hsent
    · rcases h.kept hshort packet hpacket hsent with ⟨item', hitem', hbytes⟩ | harrived
      · exact .inl ⟨item', List.mem_append_left _ hitem', hbytes⟩
      · exact .inr harrived
    · exact .inl ⟨item, List.mem_append_right _ (List.mem_singleton_self _), (List.mem_singleton.mp hsent).symm⟩

/-- What is pending of the call: the packet, if the socket takes it. -/
def pendingOf (connectionNumber : UInt8) (sequence : UInt16) (call : ReliableCall) : Option ReliableSend :=
  if call.taken then
    some ⟨call.channelId, sequence, channeledPacket connectionNumber sequence call, some call.now⟩
  else none

/-- A connected client numbers the packet; what the socket takes is pending. -/
lemma sendReliableOrdered_eq {client : ReliableClient} (hconnected : client.connected = true) (call : ReliableCall) :
    client.sendReliableOrdered call =
      ({ client with
          reliableSequence := client.reliableSequence + 1
          pendingReliable := client.pendingReliable ++
            (pendingOf client.connectionNumber (client.reliableSequence % 32768) call).toList },
        some (channeledPacket client.connectionNumber (client.reliableSequence % 32768) call)) := by
  unfold ReliableClient.sendReliableOrdered pendingOf
  rw [hconnected, Bool.not_true, if_neg Bool.false_ne_true]
  dsimp only
  split
  next => rfl
  next =>
    rw [Option.toList_none, List.append_nil]
    rfl

lemma final_sendReliable (channel : UInt8) (payload : Bytes) (w : ClientWorld) (hconnected : w.session.connected = true) :
    let call : ReliableCall := ⟨channel, payload, w.now, w.sendResults.headD true⟩
    let sequence := w.session.reliableSequence % 32768
    final (sendReliable channel payload) w =
      final (sendToServer (channeledPacket w.session.connectionNumber sequence call))
        { w with
          session := { w.session with
            reliableSequence := w.session.reliableSequence + 1
            pendingReliable := w.session.pendingReliable ++
              (pendingOf w.session.connectionNumber sequence call).toList }
          numbered := w.numbered ++ [channeledPacket w.session.connectionNumber sequence call] } := by
  intro call sequence
  have heq := @sendReliableOrdered_eq w.session.toReliableClient hconnected call
  have hsend (w' : ClientWorld) (packet : Bytes) (h : sendReliable channel payload w = sendToServer packet w') :
      final (sendReliable channel payload) w = final (sendToServer packet) w' := by
    rw [final, final, h]
  refine hsend _ _ ?_
  unfold sendReliable
  dsimp only
  rw [heq]

lemma keepsSound_sendReliable (channel : UInt8) (payload : Bytes) :
    KeepsSound arrived got (sendReliable channel payload) := by
  intro w h
  cases hconnected : w.session.connected with
  | false =>
    have hsame : sendReliable channel payload w = .ok () w := by
      unfold sendReliable ReliableClient.sendReliableOrdered
      dsimp only
      rw [hconnected]
      rfl
    rw [final_of_ok hsame]
    exact h
  | true =>
    rw [final_sendReliable channel payload w hconnected, h.counter, ofNat_mod, ← h.counter]
    -- the packet has the next number
    generalize hcall : (⟨channel, payload, w.now, w.sendResults.headD true⟩ : ReliableCall) = call
    have htaken : call.taken = w.sendResults.headD true := hcall ▸ rfl
    have hreliable : Acknowledged call.channelId := acknowledged_channelId call
    generalize hpacket : channeledPacket w.session.connectionNumber (sequenceOf w.numbered.length) call = packet
    have hnumbered : Numbered packet call.channelId (sequenceOf w.numbered.length) :=
      hpacket ▸ numbered_channeledPacket _ _ _
    have hsound := h.number hreliable hnumbered
    rcases sendToServer_cases packet _ with ⟨hrefused, results, heq⟩ | ⟨hsent, results, heq⟩
    · rw [final_of_error heq]
      have hpending : pendingOf w.session.connectionNumber (sequenceOf w.numbered.length) call = none := by
        rw [pendingOf, if_neg (by rw [htaken.trans hrefused]; exact Bool.false_ne_true)]
      rw [hpending, Option.toList_none, List.append_nil]
      exact hsound.unsent results
    · rw [final_of_ok heq]
      have hpending : pendingOf w.session.connectionNumber (sequenceOf w.numbered.length) call =
          some ⟨call.channelId, sequenceOf w.numbered.length, packet, some call.now⟩ := by
        rw [pendingOf, if_pos (htaken.trans hsent), hpacket]
      rw [hpending]
      exact @ClientSound.pend _ _ _ hsound ⟨call.channelId, sequenceOf w.numbered.length, packet, some call.now⟩
        (List.mem_append_right _ (List.mem_singleton_self _)) hnumbered results

/-! Sending again. -/

lemma ClientSound.renew (h : ClientSound arrived got w) {index : ℕ} {item : ReliableSend}
    (hitem : w.session.pendingReliable[index]? = some item) (lastSent : Option ℕ) :
    ClientSound arrived got { w with
      session := { w.session with pendingReliable := w.session.pendingReliable.set index { item with lastSent } } } where
  counter := h.counter
  numbered := h.numbered
  sent := h.sent
  acks := h.acks
  pending i hi := by
    rcases List.mem_or_eq_of_mem_set hi with hi | rfl
    · exact h.pending i hi
    · exact h.pending item (List.mem_of_getElem? hitem)
  arrivals := h.arrivals
  kept hshort packet hnumbered hsent := by
    have hbytes : (w.session.pendingReliable.set index { item with lastSent }).map (·.bytes) =
        w.session.pendingReliable.map (·.bytes) := by
      obtain ⟨hlt, rfl⟩ := List.getElem?_eq_some_iff.mp hitem
      rw [List.map_set]
      refine List.ext_getElem (List.length_set ..) fun n hn hn' => ?_
      rw [List.getElem_set]
      split
      next heq =>
        subst heq
        rw [List.getElem_map]
      next => rfl
    have hkept := h.kept hshort packet hnumbered hsent
    rw [← List.mem_map] at hkept ⊢
    rwa [hbytes]

lemma keepsSound_resendItem (index : ℕ) : KeepsSound arrived got (resendItem index) := by
  intro w h
  unfold resendItem
  rw [final_get_bind]
  cases hitem : w.session.pendingReliable[index]? with
  | none => exact h
  | some item =>
    dsimp only
    split
    next =>
      have hmem := List.mem_of_getElem? hitem
      obtain ⟨hnumbered, -, hof⟩ := h.pending item hmem
      rcases sendToServer_cases item.bytes w with ⟨-, results, heq⟩ | ⟨-, results, heq⟩
      · rw [final_bind_error heq]
        exact h.unsent results
      · rw [final_bind_ok heq]
        have hsent := h.send (fun _ => ⟨hnumbered, item, hmem, rfl⟩) (fun hack => by
          rw [hof.property] at hack
          exact absurd (Option.some.inj hack) (by decide)) results
        exact hsent.renew hitem (some w.now)
    next => exact h

lemma keepsSound_resendReliable : KeepsSound arrived got resendReliable := by
  intro w
  unfold resendReliable
  rw [final_get_bind]
  split
  next => exact id
  next => exact KeepsSound.forM (fun index _ => keepsSound_resendItem index) w

/-! What an ack packet covers. -/

lemma stillPending_eq (channelId : UInt8) (item : ReliableSend) (packet : Bytes) :
    stillPending channelId (u16At packet 1) (packet.drop 4) item =
      if item.channelId ≠ channelId then true else !ackBitSet packet item.sequence := by
  unfold stillPending ackBitSet
  dsimp only
  split_ifs <;> rfl

lemma keepsSound_processAck {packet : Bytes} (htells : Tells arrived packet) :
    KeepsSound arrived got (Client.processAck (u8At packet 3) (u16At packet 1) (packet.drop 4)) := by
  intro w h
  change ClientSound arrived got { w with
    session := { w.session with pendingReliable := w.session.pendingReliable.filter _ } }
  refine ⟨h.counter, h.numbered, h.sent, h.acks, fun item hitem => h.pending item (List.mem_of_mem_filter hitem),
    h.arrivals, fun hshort sentPacket hnumbered hsent => ?_⟩
  rcases h.kept hshort sentPacket hnumbered hsent with ⟨item, hitem, rfl⟩ | harrived
  · cases hstill : stillPending (u8At packet 3) (u16At packet 1) (packet.drop 4) item with
    | true => exact .inl ⟨item, List.mem_filter.mpr ⟨hitem, hstill⟩, rfl⟩
    | false =>
      -- the packet that came in under the number is this one
      obtain ⟨hitemNumbered, -, hof⟩ := h.pending item hitem
      obtain ⟨n, hn⟩ := List.mem_iff_getElem?.mp hitemNumbered
      obtain ⟨channelId, -, hat⟩ := h.numbered n item.bytes hn
      have hrange : InRange item.sequence := by
        rw [← hof.sequence, hat.sequence]
        exact inRange_sequenceOf n
      rw [stillPending_eq] at hstill
      split at hstill
      next => cases hstill
      next =>
        obtain ⟨cameIn, hcameIn, hsame⟩ := htells item.sequence hrange (by simpa using hstill)
        have hcameInNumbered := h.sent cameIn (h.arrivals cameIn hcameIn) hsame.property
        rw [h.eq_of_numbered hshort hitemNumbered hcameInNumbered hof hsame]
        exact .inr hcameIn
  · exact .inr harrived

/-! What comes in. -/

variable (responsePayload : Bytes → Option Bytes)

lemma keepsSound_handleChanneled {channelId : UInt8} {sequence : UInt16} (hgot : Got got channelId sequence)
    (payload : Bytes) : KeepsSound arrived got (handleChanneled responsePayload channelId sequence payload) := by
  unfold handleChanneled
  dsimp only
  refine .ifThen (fun hreliable => keepsSound_sendAckPacket hreliable hgot) ?_
  split
  next =>
    cases readBytesMessage payload with
    | none => exact .pure ()
    | some challenge =>
      dsimp only
      cases responsePayload challenge with
      | none => exact fun _ => id
      | some response => exact keepsSound_sendReliable _ _
  next => exact .pure ()

/-- A packet is handled: it is there, and what it says as an ack packet is so. -/
lemma keepsSound_handleLeaf {packet : Bytes} (hgot : packet ∈ got)
    (htells : propertyOf packet = some .ack → Tells arrived packet) :
    KeepsSound arrived got (handleLeaf responsePayload packet) := by
  unfold handleLeaf
  cases hparse : parsePacket packet with
  | none => exact .pure ()
  | some parsed =>
    have hproperty := property_of_parsePacket hparse
    dsimp only
    unfold handleSingle
    cases hkind : parsed.property with
    | connectAccept =>
      refine keepsSound_modifySession (fun session => ?_) fun session => ?_
      · cases acceptedAs session.connectTime packet <;> rfl
      · cases acceptedAs session.connectTime packet <;> rfl
    | disconnect => exact keepsSound_modifySession (fun _ => rfl) fun _ => rfl
    | peerNotFound => exact keepsSound_modifySession (fun _ => rfl) fun _ => rfl
    | invalidProtocol => exact keepsSound_modifySession (fun _ => rfl) fun _ => rfl
    | ping =>
      dsimp only
      cases parsed.sequence with
      | none => exact .pure ()
      | some sequence => exact keepsSound_sendPong sequence
    | ack =>
      obtain ⟨-, hsequence, hchannel, hpayload⟩ := header_of_parsePacket hparse (.inr hkind)
      rw [hsequence, hchannel, hpayload]
      exact keepsSound_processAck (htells (hkind ▸ hproperty))
    | channeled =>
      obtain ⟨hlength, hsequence, hchannel, -⟩ := header_of_parsePacket hparse (.inl hkind)
      rw [hsequence, hchannel]
      exact keepsSound_handleChanneled responsePayload
        ⟨packet, hgot, hkind ▸ hproperty, hlength, rfl, rfl⟩ parsed.payload
    | _ => exact .pure ()

/-- **Whatever the client does keeps its records.** -/
theorem keepsSound_run {act : ClientAct} (hgot : ∀ packet ∈ act.gets, packet ∈ got)
    (htells : ∀ packet ∈ got, propertyOf packet = some .ack → Tells arrived packet) :
    KeepsSound arrived got (act.run responsePayload) := by
  cases act with
  | receive datagram =>
    rw [ClientAct.run, handlePacket_eq]
    exact .forM fun packet hpacket =>
      keepsSound_handleLeaf responsePayload (hgot packet hpacket) (htells packet (hgot packet hpacket))
  | sendReliable channel payload => exact keepsSound_sendReliable channel payload
  | sendUnreliable channel payload => exact keepsSound_sendUnreliable channel payload
  | ping => exact keepsSound_sendPing
  | resend => exact keepsSound_resendReliable
  | disconnect => exact keepsSound_disconnect

/-! The network moves on. -/

lemma ClientSound.get (h : ClientSound arrived got w) (packets : List Bytes) :
    ClientSound arrived (got ++ packets) w where
  counter := h.counter
  numbered := h.numbered
  sent := h.sent
  acks packet hpacket hproperty := by
    obtain ⟨connectionNumber, channelId, sequence, hreliable, heq, hanswered⟩ := h.acks packet hpacket hproperty
    exact ⟨connectionNumber, channelId, sequence, hreliable, heq, hanswered.mono (List.subset_append_left _ _)⟩
  pending := h.pending
  arrivals := h.arrivals
  kept := h.kept

lemma ClientSound.arrive (h : ClientSound arrived got w) {packet : Bytes} (hsent : packet ∈ w.sent) :
    ClientSound (arrived ++ [packet]) got w where
  counter := h.counter
  numbered := h.numbered
  sent := h.sent
  acks := h.acks
  pending := h.pending
  arrivals := List.forall_mem_append.mpr ⟨h.arrivals, List.forall_mem_singleton.mpr hsent⟩
  kept hshort sentPacket hnumbered hsent := (h.kept hshort sentPacket hnumbered hsent).imp_right (List.mem_append_left _)

lemma ClientSound.enter (h : ClientSound arrived got w) (io : ClientIo) : ClientSound arrived got (w.enter io) :=
  ⟨h.1, h.2, h.3, h.4, h.5, h.6, h.7⟩

end Client

end BasisRust.Client
