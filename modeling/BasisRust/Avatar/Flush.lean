import BasisRust.Avatar.Pacing
import BasisRust.Lib.Interleave
import BasisRust.Transport.AckComplete
import BasisRust.Transport.Unreliable
import Mathlib.Data.List.Flatten

/-!
# `avatar_sync.rs`: the end of a tick

`flush_tick` builds what its receivers are sent side by side, and `flush_receiver_groups_parallel` deals it out to
workers that write to the one socket in any order.  Neither is to be seen by a receiver.
-/

namespace BasisRust.Avatar

open Lib Protocol Transport P2p

/-! ### The receivers side by side -/

section

variable (codec : BlockCodec) (floats : SendFloats)

/-- `par_iter` over the receivers: each call has nothing but the receiver's own entries to work on. -/
def buildReceiverGroups (input : TickInput) (peerStates : List (PeerId × PlayerAvatarState))
    (spatialGrid : Option SpatialGrid) (system : AvatarSyncSystem) (receivers : List (PeerId × PlayerAvatarState)) :
    Option (List ReceiverSends) :=
  receivers.mapM fun receiver => buildSendsForReceiver codec floats (input.call receiver) peerStates spatialGrid system

/-- The groups that `flush_tick` hands over to the transport. -/
def tickGroups (input : TickInput) (s : TickState) : Option (List OutboundAvatarBatch) := do
  let (_, s) ← s.processPendingUpdates input.keys
  let peerStates := peerStatesOf s.system.states input.peers
  let spatialGrid :=
    if input.config.spatialCullEnabled then
      SpatialGrid.build floats.toGridFloats peerStates input.config.lowDistanceSq
    else none
  let sends ← buildReceiverGroups codec floats input peerStates spatialGrid s.system
    (peerStatesOf s.system.states input.receivers)
  return sends.filterMap ReceiverSends.batch

end

section Build

variable {codec : BlockCodec} {floats : SendFloats} {call : SendCall} {peerStates : List (PeerId × PlayerAvatarState)}
  {spatialGrid : Option SpatialGrid} {system system' : AvatarSyncSystem}

/-- The entries of a receiver are alike. -/
structure SameEntries (receiver : PeerId) (system system' : AvatarSyncSystem) : Prop where
  tracking : system'.tracking.lookup receiver = system.tracking.lookup receiver
  bundleRatios : system'.bundleRatios.lookup receiver = system.bundleRatios.lookup receiver

/-- What a call finds and returns depends on the receiver's own entries. -/
lemma buildSendsForReceiver_congr (h : SameEntries call.receiverId system system') :
    (buildSendsForReceiver codec floats call peerStates spatialGrid system').map (fun r => (r.due, r.batch)) =
      (buildSendsForReceiver codec floats call peerStates spatialGrid system).map fun r => (r.due, r.batch) := by
  unfold buildSendsForReceiver
  dsimp only
  rw [h.tracking, h.bundleRatios]
  cases dueSends floats call peerStates spatialGrid ((system.tracking.lookup call.receiverId).getD ∅) with
  | none => rfl
  | some found =>
    simp only [Option.bind_eq_bind, Option.bind_some]
    split
    · split <;> rfl
    · rfl

/-- A call touches the entries of its own receiver. -/
lemma sameEntries_buildSendsForReceiver {r : ReceiverSends}
    (h : buildSendsForReceiver codec floats call peerStates spatialGrid system = some r) {other : PeerId}
    (hother : other ≠ call.receiverId) : SameEntries other system r.system := by
  unfold buildSendsForReceiver at h
  obtain ⟨⟨due, tracking⟩, -, h⟩ := Option.bind_eq_some_iff.mp h
  dsimp only at h
  split at h
  · split at h
    · cases h
    · obtain rfl := Option.some.inj h
      exact ⟨AList.lookup_insert_ne hother, AList.lookup_insert_ne hother⟩
  · obtain rfl := Option.some.inj h
    exact ⟨AList.lookup_insert_ne hother, rfl⟩

variable {input : TickInput} {receivers : List (PeerId × PlayerAvatarState)}

variable (input) in
/-- The sends of the receivers one after the other. -/
def sentOf (receivers : List (PeerId × PlayerAvatarState)) (built : List ReceiverSends) : List SentUpdate :=
  (List.zipWith (fun receiver r => r.due.map (input.sent receiver.1)) receivers built).flatten

lemma exists_buildReceiverGroups (hnodup : (receivers.map Prod.fst).Nodup)
    (hsame : ∀ receiver ∈ receivers, SameEntries receiver.1 system system') {r : List SentUpdate × AvatarSyncSystem}
    (h : serveReceivers codec floats input peerStates spatialGrid receivers system' = some r) :
    ∃ built, buildReceiverGroups codec floats input peerStates spatialGrid system receivers = some built ∧
      r.1 = sentOf input receivers built := by
  induction receivers generalizing system' r with
  | nil =>
    obtain rfl := Option.some.inj h
    exact ⟨[], rfl, rfl⟩
  | cons receiver receivers ih =>
    rw [List.map_cons, List.nodup_cons] at hnodup
    rw [List.forall_mem_cons] at hsame
    obtain ⟨first, hfirst, h⟩ := Option.bind_eq_some_iff.mp h
    obtain ⟨rest, hrest, h⟩ := Option.bind_eq_some_iff.mp h
    obtain rfl := Option.some.inj h
    -- the call finds what it would find at first
    have hcongr := @buildSendsForReceiver_congr codec floats (input.call receiver) peerStates spatialGrid _ _ hsame.1
    rw [hfirst] at hcongr
    obtain ⟨first', hfirst', heq⟩ := Option.map_eq_some_iff.mp hcongr.symm
    obtain ⟨hdue, -⟩ := Prod.mk.inj heq
    -- and leaves the others' entries alone
    have hothers : ∀ other ∈ receivers, SameEntries other.1 system first.system := fun other hother => by
      have hne : other.1 ≠ receiver.1 := fun heq => hnodup.1 (heq ▸ List.mem_map_of_mem hother)
      obtain ⟨htracking, hratios⟩ := sameEntries_buildSendsForReceiver hfirst hne
      exact ⟨htracking.trans (hsame.2 other hother).tracking, hratios.trans (hsame.2 other hother).bundleRatios⟩
    obtain ⟨built, hbuilt, hsent⟩ := ih hnodup.2 hothers hrest
    refine ⟨first' :: built, ?_, ?_⟩
    · rw [buildReceiverGroups, List.mapM_cons, hfirst']
      change (buildReceiverGroups codec floats input peerStates spatialGrid system receivers >>= _) = _
      rw [hbuilt]
      rfl
    · rw [sentOf, List.zipWith_cons_cons, List.flatten_cons, hdue, hsent]
      rfl

end Build

lemma map_fst_peerStatesOf_sublist (states : Dict PeerId PlayerAvatarState) (peers : List PeerId) :
    ((peerStatesOf states peers).map Prod.fst).Sublist peers := by
  induction peers with
  | nil => exact .slnil
  | cons peer peers ih =>
    unfold peerStatesOf at ih ⊢
    rw [List.filterMap_cons]
    cases states.lookup peer with
    | none => exact ih.cons peer
    | some state => exact ih.cons_cons peer

/-- **The order of the receivers is not to be seen.**  What a tick sends is what its calls find side by side. -/
theorem exists_tickGroups {codec : BlockCodec} {floats : SendFloats} {input : TickInput} {s t : TickState}
    (hnodup : input.receivers.Nodup) (hstep : SyncSteps codec floats s (.tick input) t) :
    ∃ mid grid built, s.Steps (.tick input.keys) mid ∧ t.system.states = mid.system.states ∧
      buildReceiverGroups codec floats input (peerStatesOf mid.system.states input.peers) grid mid.system
        (peerStatesOf mid.system.states input.receivers) = some built ∧
      tickGroups codec floats input s = some (built.filterMap ReceiverSends.batch) ∧
      sentBy codec floats ⟨s, .tick input, t⟩ = sentOf input (peerStatesOf mid.system.states input.receivers) built := by
  obtain ⟨hready, hafter⟩ := hstep
  obtain ⟨⟨sent, t'⟩, hflush, rfl⟩ := Option.map_eq_some_iff.mp hafter
  have hsent : sentBy codec floats ⟨s, .tick input, t'⟩ = sent := by
    rw [sentBy]
    dsimp only
    rw [hflush]
    rfl
  obtain ⟨⟨n, mid⟩, hmid, hrest⟩ := Option.bind_eq_some_iff.mp hflush
  obtain ⟨⟨sent', system⟩, hserve, hrest⟩ := Option.bind_eq_some_iff.mp hrest
  obtain ⟨rfl, rfl⟩ := Prod.mk.inj (Option.some.inj hrest)
  have hkeys : ((peerStatesOf mid.system.states input.receivers).map Prod.fst).Nodup :=
    (map_fst_peerStatesOf_sublist _ _).nodup hnodup
  obtain ⟨built, hbuilt, hall⟩ := exists_buildReceiverGroups hkeys (fun _ _ => ⟨rfl, rfl⟩) hserve
  refine ⟨mid, _, built, ⟨hready, ?_⟩, (serveReceivers_frame hserve).1, hbuilt, ?_, hsent.trans hall⟩
  · rw [TickState.after, hmid]
    rfl
  · rw [tickGroups, hmid]
    change (buildReceiverGroups codec floats input _ _ mid.system _ >>= _) = _
    rw [hbuilt]
    rfl

/-! ### The workers -/

/-- `worker_count`; how many threads there can be may be unknown. -/
def workerCount (availableParallelism : Option ℕ) (groups : ℕ) : ℕ :=
  min ((availableParallelism.map fun n => max (n - 1) 1).getD 4) groups

/-- The locals of the loop that deals out the groups. -/
structure ChunkLoop where
  chunks : List (List OutboundAvatarBatch)
  current : List OutboundAvatarBatch

def chunkStep (chunkSize : ℕ) (s : ChunkLoop) (batch : OutboundAvatarBatch) : ChunkLoop :=
  let current := s.current ++ [batch]
  if current.length ≥ chunkSize then ⟨s.chunks ++ [current], []⟩ else ⟨s.chunks, current⟩

/-- What each worker is to send. -/
def receiverChunks (availableParallelism : Option ℕ) (groups : List OutboundAvatarBatch) :
    List (List OutboundAvatarBatch) :=
  if groups = [] then []
  else
    let chunkSize := groups.length ⌈/⌉ workerCount availableParallelism groups.length
    let s := groups.foldl (chunkStep chunkSize) ⟨[], []⟩
    if s.current = [] then s.chunks else s.chunks ++ [s.current]

/-- A datagram that a worker offers to the socket. -/
structure AvatarDatagram where
  receiver : PeerId
  addr : SocketAddr
  bytes : Bytes
  deriving DecidableEq

/-- What `try_send_to` makes of a datagram. -/
inductive SendOutcome where
  | sent
  | wouldBlock
  | failed
  deriving DecidableEq

section

-- the peer of a receiver when its batch is sent
variable (peers : PeerId → Option PeerState)

def batchDatagrams (batch : OutboundAvatarBatch) : List AvatarDatagram :=
  match peers batch.receiver with
  | none => []
  | some peer =>
    (trySendManyUnreliableBytes peer (batch.sends.map fun send => (send.channel, send.payload))).map fun bytes =>
      ⟨batch.receiver, peer.addr, bytes⟩

def workerDatagrams (chunk : List OutboundAvatarBatch) : List AvatarDatagram := chunk.flatMap (batchDatagrams peers)

end

/-- Of what a worker offers the part that goes out: it gives up at a failure, and may be dropped anywhere. -/
def goesOut : List AvatarDatagram → List SendOutcome → List AvatarDatagram
  | datagram :: rest, .sent :: outcomes => datagram :: goesOut rest outcomes
  | _ :: rest, .wouldBlock :: outcomes => goesOut rest outcomes
  | _, _ => []

/-- A worker: its chunk, and what the socket has made of its datagrams. -/
abbrev Worker := List OutboundAvatarBatch × List SendOutcome

/-- **`flush_receiver_groups_parallel`**: the workers share the groups, and the log is what they have sent, in any order
that keeps the order of each. -/
structure Flushes (availableParallelism : Option ℕ) (peers : PeerId → Option PeerState)
    (groups : List OutboundAvatarBatch) (workers : List Worker) (log : List AvatarDatagram) : Prop where
  chunks : workers.map Prod.fst = receiverChunks availableParallelism groups
  log : Interleaves (workers.map fun worker => goesOut (workerDatagrams peers worker.1) worker.2) log

/-- The socket takes everything. -/
def AllSent (peers : PeerId → Option PeerState) (workers : List Worker) : Prop :=
  ∀ worker ∈ workers, worker.2 = List.replicate (workerDatagrams peers worker.1).length .sent

/-! ### The chunks -/

/-- The groups so far are in full chunks, and fewer than would fill one more. -/
structure ChunkLoop.Holds (chunkSize : ℕ) (groups : List OutboundAvatarBatch) (s : ChunkLoop) : Prop where
  groups : s.chunks.flatten ++ s.current = groups
  full : ∀ chunk ∈ s.chunks, chunk.length = chunkSize
  room : s.current.length < chunkSize

lemma ChunkLoop.Holds.step {chunkSize : ℕ} {groups : List OutboundAvatarBatch} {s : ChunkLoop}
    (h : s.Holds chunkSize groups) (batch : OutboundAvatarBatch) :
    (chunkStep chunkSize s batch).Holds chunkSize (groups ++ [batch]) := by
  have hroom := h.room
  have hlength : (s.current ++ [batch]).length = s.current.length + 1 := List.length_append
  unfold chunkStep
  dsimp only
  split
  next hfull =>
    refine ⟨?_, List.forall_mem_append.mpr ⟨h.full, List.forall_mem_singleton.mpr (by omega)⟩, ?_⟩
    · simp [← h.groups]
    · change 0 < chunkSize
      omega
  next hmore =>
    refine ⟨?_, h.full, not_le.mp hmore⟩
    rw [← h.groups, List.append_assoc]

lemma holds_chunkSteps {chunkSize : ℕ} (hsize : 0 < chunkSize) (groups : List OutboundAvatarBatch) :
    (groups.foldl (chunkStep chunkSize) ⟨[], []⟩).Holds chunkSize groups := by
  induction groups using List.reverseRecOn with
  | nil => exact ⟨rfl, fun _ h => absurd h List.not_mem_nil, hsize⟩
  | append_singleton groups batch ih =>
    rw [List.foldl_append]
    exact ih.step batch

lemma workerCount_pos (availableParallelism : Option ℕ) {groups : ℕ} (hgroups : 0 < groups) :
    0 < workerCount availableParallelism groups := by
  unfold workerCount
  cases availableParallelism with
  | none => exact lt_min (by decide) hgroups
  | some n => exact lt_min (lt_max_of_lt_right Nat.one_pos) hgroups

/-- **The chunks share the groups in their order**, one chunk a worker at most. -/
theorem receiverChunks_spec (availableParallelism : Option ℕ) (groups : List OutboundAvatarBatch) :
    (receiverChunks availableParallelism groups).flatten = groups ∧
      (receiverChunks availableParallelism groups).length ≤ workerCount availableParallelism groups.length := by
  unfold receiverChunks
  split
  next hnone =>
    subst hnone
    exact ⟨rfl, Nat.zero_le _⟩
  next hsome =>
    have hlength : 0 < groups.length := List.length_pos_iff.mpr hsome
    have hworkers := workerCount_pos availableParallelism hlength
    generalize workerCount availableParallelism groups.length = workers at hworkers ⊢
    have hle : groups.length ≤ workers * (groups.length ⌈/⌉ workers) := le_mul_ceilDiv hworkers
    generalize groups.length ⌈/⌉ workers = chunkSize at hle ⊢
    have hsize : 0 < chunkSize := Nat.pos_of_ne_zero fun h => by
      rw [h, Nat.mul_zero] at hle
      omega
    have h := holds_chunkSteps hsize groups
    dsimp only
    generalize groups.foldl (chunkStep chunkSize) ⟨[], []⟩ = s at h ⊢
    have hcount : s.chunks.flatten.length = s.chunks.length * chunkSize := by
      rw [List.length_flatten, List.map_congr_left h.full, List.map_const', List.sum_replicate, smul_eq_mul]
    have htotal := congrArg List.length h.groups
    rw [List.length_append, hcount] at htotal
    split
    next hempty =>
      rw [hempty, List.length_nil] at htotal
      refine ⟨?_, Nat.le_of_mul_le_mul_right (by omega) hsize⟩
      rw [← h.groups, hempty, List.append_nil]
    next hrest =>
      have hpos := List.length_pos_iff.mpr hrest
      refine ⟨?_, ?_⟩
      · rw [← h.groups, List.flatten_append, List.flatten_singleton]
      · rw [List.length_append, List.length_singleton]
        exact Nat.lt_of_mul_lt_mul_right (a := chunkSize) (by omega)

/-! ### One receiver -/

section Receiver

variable {peers : PeerId → Option PeerState}

/-- The datagrams to the receiver. -/
def datagramsTo (receiver : PeerId) (datagrams : List AvatarDatagram) : List AvatarDatagram :=
  datagrams.filter fun datagram => datagram.receiver = receiver

lemma goesOut_sublist (datagrams : List AvatarDatagram) (outcomes : List SendOutcome) :
    (goesOut datagrams outcomes).Sublist datagrams := by
  induction datagrams generalizing outcomes with
  | nil => cases outcomes <;> exact .slnil
  | cons datagram rest ih =>
    cases outcomes with
    | nil => exact List.nil_sublist _
    | cons outcome outcomes =>
      cases outcome with
      | sent => exact (ih outcomes).cons_cons datagram
      | wouldBlock => exact (ih outcomes).cons datagram
      | failed => exact List.nil_sublist _

lemma goesOut_replicate (datagrams : List AvatarDatagram) :
    goesOut datagrams (List.replicate datagrams.length .sent) = datagrams := by
  induction datagrams with
  | nil => rfl
  | cons datagram rest ih =>
    rw [List.length_cons, List.replicate_succ, goesOut, ih]

lemma receiver_of_mem_batchDatagrams {batch : OutboundAvatarBatch} {datagram : AvatarDatagram}
    (h : datagram ∈ batchDatagrams peers batch) : datagram.receiver = batch.receiver := by
  unfold batchDatagrams at h
  split at h
  next => exact absurd h List.not_mem_nil
  next =>
    obtain ⟨bytes, -, rfl⟩ := List.mem_map.mp h
    rfl

/-- A receiver's datagrams are those of its batches. -/
lemma datagramsTo_workerDatagrams (receiver : PeerId) (chunk : List OutboundAvatarBatch) :
    datagramsTo receiver (workerDatagrams peers chunk) =
      (chunk.filter fun batch => batch.receiver = receiver).flatMap (batchDatagrams peers) := by
  induction chunk with
  | nil => rfl
  | cons batch chunk ih =>
    unfold datagramsTo workerDatagrams at ih ⊢
    rw [List.flatMap_cons, List.filter_append, ih]
    by_cases hreceiver : batch.receiver = receiver
    · rw [List.filter_cons, if_pos (decide_eq_true hreceiver), List.flatMap_cons, List.filter_eq_self.mpr]
      exact fun datagram hdatagram => decide_eq_true ((receiver_of_mem_batchDatagrams hdatagram).trans hreceiver)
    · rw [List.filter_cons_of_neg (by simpa using hreceiver), List.filter_eq_nil_iff.mpr, List.nil_append]
      intro datagram hdatagram heq
      exact hreceiver ((receiver_of_mem_batchDatagrams hdatagram).symm.trans (of_decide_eq_true heq))

lemma datagramsTo_goesOut_eq_nil {receiver : PeerId} {chunk : List OutboundAvatarBatch}
    (h : receiver ∉ chunk.map OutboundAvatarBatch.receiver) (outcomes : List SendOutcome) :
    datagramsTo receiver (goesOut (workerDatagrams peers chunk) outcomes) = [] := by
  refine List.filter_eq_nil_iff.mpr fun datagram hdatagram heq => h ?_
  obtain ⟨batch, hbatch, hmem⟩ := List.mem_flatMap.mp ((goesOut_sublist _ outcomes).subset hdatagram)
  exact List.mem_map.mpr ⟨batch, hbatch, (receiver_of_mem_batchDatagrams hmem).symm.trans (of_decide_eq_true heq)⟩

/-- **The workers are not to be seen.**  A receiver gets its datagrams in their order, or some of them if the socket
refuses, as if one worker had sent everything. -/
theorem Flushes.reaches {availableParallelism : Option ℕ} {groups : List OutboundAvatarBatch} {workers : List Worker}
    {log : List AvatarDatagram} (h : Flushes availableParallelism peers groups workers log)
    (hnodup : (groups.map OutboundAvatarBatch.receiver).Nodup) (receiver : PeerId) :
    (datagramsTo receiver log).Sublist (datagramsTo receiver (workerDatagrams peers groups)) ∧
      (AllSent peers workers → datagramsTo receiver log = datagramsTo receiver (workerDatagrams peers groups)) := by
  have hgroups : (workers.map Prod.fst).flatten = groups := by
    rw [h.chunks]
    exact (receiverChunks_spec availableParallelism groups).1
  have hall : workerDatagrams peers groups = workers.flatMap fun worker => workerDatagrams peers worker.1 := by
    rw [← hgroups, workerDatagrams, ← List.flatMap_def, List.flatMap_assoc]
    rfl
  have hone : (workers.map fun worker => goesOut (workerDatagrams peers worker.1) worker.2).Pairwise fun xs ys =>
      datagramsTo receiver xs = [] ∨ datagramsTo receiver ys = [] := by
    rw [← hgroups, List.map_flatten, List.nodup_flatten, List.map_map, List.pairwise_map] at hnodup
    rw [List.pairwise_map]
    refine hnodup.2.imp fun {worker other} hdisjoint => ?_
    by_cases hreceiver : receiver ∈ worker.1.map OutboundAvatarBatch.receiver
    · exact .inr (datagramsTo_goesOut_eq_nil (fun hother => hdisjoint hreceiver hother) _)
    · exact .inl (datagramsTo_goesOut_eq_nil hreceiver _)
  have hlog : datagramsTo receiver log = datagramsTo receiver
      (workers.flatMap fun worker => goesOut (workerDatagrams peers worker.1) worker.2) :=
    h.log.filter_eq_flatten hone
  rw [hlog, hall]
  refine ⟨(List.Sublist.flatMap_right workers fun worker _ => goesOut_sublist _ _).filter _, fun hsent => ?_⟩
  refine congrArg _ (List.flatMap_congr fun worker hworker => ?_)
  rw [hsent worker hworker]
  exact goesOut_replicate _

end Receiver

/-! ### What is read -/

section Read

variable {codec : BlockCodec} {loop : Bytes → List Bytes}

variable (loop) in
/-- The messages that a receiver finds in its datagrams, with their channels. -/
def readSends (datagrams : List Bytes) : List OutboundAvatarSend :=
  (datagrams.flatMap (cutDatagram loop)).filterMap fun packet =>
    (parseMessagePacket .unreliable packet).map fun (channel, _, payload) => ⟨channel, payload⟩

lemma readSends_trySendManyUnreliableBytes (hloop : SplitsMerged loop) (peer : PeerState)
    (sends : List OutboundAvatarSend) :
    readSends loop (trySendManyUnreliableBytes peer (sends.map fun send => (send.channel, send.payload))) = sends := by
  have hmergeable : ∀ p ∈ (sends.map fun send => (send.channel, send.payload)).map
      (unreliablePacket peer.connectionNumber), Mergeable p := by
    intro p hp
    obtain ⟨packet, -, rfl⟩ := List.mem_map.mp hp
    exact (isUnreliable_unreliablePacket _ packet).mergeable
  rw [readSends, flatMap_eq_of_forall₂ (forall₂_sameDatagram peer _) fun _ _ h => h.cutDatagram_eq hloop,
    flatMap_cutDatagram_buildMergedDatagrams hloop _ hmergeable, List.map_map, List.filterMap_map]
  refine (List.filterMap_congr fun send _ => ?_).trans List.filterMap_some
  have hlong : ¬ (unreliablePacket peer.connectionNumber (send.channel, send.payload)).length < 2 :=
    not_lt.mpr (isUnreliable_unreliablePacket _ _).length
  dsimp only [Function.comp_apply]
  rw [parseMessagePacket, if_neg hlong]
  rfl

/-- What the datagrams of a receiver's batch are read as. -/
lemma readSends_outboundBatch (hloop : SplitsMerged loop) (peers : PeerId → Option PeerState) (receiver : PeerId)
    (sends : List OutboundAvatarSend) :
    readSends loop (((outboundBatch receiver sends).toList.flatMap (batchDatagrams peers)).map (·.bytes)) =
      if (peers receiver).isSome then sends else [] := by
  have hempty : readSends loop [] = [] := rfl
  unfold outboundBatch
  split
  next hnone =>
    rw [hnone, ite_self]
    exact hempty
  next =>
    rw [Option.toList_some, List.flatMap_singleton, batchDatagrams]
    dsimp only
    cases peers receiver with
    | none => exact hempty
    | some peer =>
      dsimp only
      rw [List.map_map]
      exact (congrArg (readSends loop) (List.map_id _)).trans (readSends_trySendManyUnreliableBytes hloop peer sends)

lemma receivedMessages_cons_ok {send : OutboundAvatarSend} {sends : List OutboundAvatarSend}
    {messages : List AvatarBundleItem} (h : receivedMessages codec (send :: sends) = .ok messages) :
    ∃ first rest, send.messages codec = .ok first ∧ receivedMessages codec sends = .ok rest ∧
      messages = first ++ rest := by
  rw [receivedMessages] at h
  cases hfirst : send.messages codec with
  | error e =>
    rw [hfirst] at h
    cases h
  | ok first =>
    cases hrest : receivedMessages codec sends with
    | error e =>
      rw [hfirst, hrest] at h
      cases h
    | ok rest =>
      rw [hfirst, hrest] at h
      exact ⟨first, rest, rfl, rfl, (Except.ok.inj h).symm⟩

/-- Of some of the sends some of the messages are received. -/
lemma receivedMessages_of_sublist {sends' sends : List OutboundAvatarSend} (h : sends'.Sublist sends) :
    ∀ {messages : List AvatarBundleItem}, receivedMessages codec sends = .ok messages →
      ∃ messages', receivedMessages codec sends' = .ok messages' ∧ messages'.Sublist messages := by
  induction h with
  | slnil => exact fun h => ⟨_, h, List.Sublist.refl _⟩
  | @cons sends' sends send _ ih =>
    intro messages hmessages
    obtain ⟨first, rest, -, hreceived, rfl⟩ := receivedMessages_cons_ok hmessages
    obtain ⟨messages', hreceived', hsublist⟩ := ih hreceived
    exact ⟨messages', hreceived', hsublist.trans (List.sublist_append_right _ _)⟩
  | @cons_cons sends' sends send _ ih =>
    intro messages hmessages
    obtain ⟨first, rest, hfirst, hreceived, rfl⟩ := receivedMessages_cons_ok hmessages
    obtain ⟨messages', hreceived', hsublist⟩ := ih hreceived
    refine ⟨first ++ messages', ?_, List.Sublist.append_left hsublist first⟩
    rw [receivedMessages, hfirst, hreceived']
    rfl

end Read

/-! ### What is built -/

section Messages

variable {codec : BlockCodec} {floats : SendFloats}

/-- The item is a packet of the player, with some interval. -/
def PlayerAvatarState.Offers (player : PlayerAvatarState) (item : BundleAvatarSend) : Prop :=
  ∃ quality packet interval, player.packet quality = some packet ∧ item = packet.send player.peerId interval

/-- The message has the player's id, an interval, the number of its state and its pose in one quality. -/
def PlayerAvatarState.Says (player : PlayerAvatarState) (message : AvatarBundleItem) : Prop :=
  ∃ quality packet payload interval, player.packet quality = some packet ∧
    PacketAgrees player.peerId player.outboundSequence quality payload packet ∧
    message =
      if player.peerId ≤ 255 then
        ⟨(avatarChannels quality).1,
          [UInt8.ofNat (player.peerId.toNat % 256), interval, player.outboundSequence] ++ payload⟩
      else
        ⟨(avatarChannels quality).2,
          [UInt8.ofNat (player.peerId.toNat % 256), UInt8.ofNat (player.peerId.toNat / 256), interval,
            player.outboundSequence] ++ payload⟩

lemma StoredWell.packetAgrees {peerId : PeerId} {player : PlayerAvatarState} (h : StoredWell peerId player)
    {quality : BitQuality} {packet : PreSerializedQuality} (hpacket : player.packet quality = some packet) :
    ∃ payload, PacketAgrees player.peerId player.outboundSequence quality payload packet := by
  rcases h.2 with ⟨payload, -, hall⟩ | ⟨source, payload, packet', hagrees, hone⟩
  · obtain ⟨packet', hpacket', hagrees⟩ := hall quality
    obtain rfl := Option.some.inj (hpacket.symm.trans hpacket')
    exact ⟨_, hagrees⟩
  · rw [hone quality] at hpacket
    split_ifs at hpacket with hsource
    obtain rfl := Option.some.inj hpacket
    exact ⟨payload, hsource ▸ hagrees⟩

lemma StoredWell.says {peerId : PeerId} {player : PlayerAvatarState} (h : StoredWell peerId player)
    {item : BundleAvatarSend} (hitem : player.Offers item) : player.Says item.message := by
  obtain ⟨quality, packet, interval, hpacket, rfl⟩ := hitem
  obtain ⟨payload, hagrees⟩ := h.packetAgrees hpacket
  refine ⟨quality, packet, payload, interval, hpacket, hagrees, ?_⟩
  rw [← hagrees.channels, PreSerializedQuality.send, BundleAvatarSend.message]
  split
  · rw [hagrees.small]
    rfl
  · rw [hagrees.large]
    rfl

/-- It is on a channel of its own. -/
lemma StoredWell.channel_ne {peerId : PeerId} {player : PlayerAvatarState} (h : StoredWell peerId player)
    {item : BundleAvatarSend} (hitem : player.Offers item) :
    item.originalChannel ≠ channels.compressedAvatarBundle := by
  obtain ⟨quality, packet, interval, hpacket, rfl⟩ := hitem
  obtain ⟨payload, hagrees⟩ := h.packetAgrees hpacket
  obtain ⟨hsmall, hlarge⟩ := Prod.mk.inj hagrees.channels
  rw [PreSerializedQuality.send]
  split
  · dsimp only
    rw [hsmall]
    cases quality <;> decide
  · dsimp only
    rw [hlarge]
    cases quality <;> decide

lemma PlayerAvatarState.exists_packet {player : PlayerAvatarState} {index : ℕ} {packet : PreSerializedQuality}
    (h : player.qualities[index]? = some (some packet)) : ∃ quality, player.packet quality = some packet := by
  rcases index with _ | _ | _ | _ | n
  · exact ⟨.veryLow, Option.some.inj h⟩
  · exact ⟨.low, Option.some.inj h⟩
  · exact ⟨.medium, Option.some.inj h⟩
  · exact ⟨.high, Option.some.inj h⟩
  · rw [Vector.getElem?_eq_none (by omega)] at h
    cases h

/-- What a round finds due is the sender's. -/
lemma offers_of_visitSender {call : SendCall} {senderId : PeerId} {senderState : PlayerAvatarState}
    {entry : Option ReceiverTracking} {r : List DueSend × Option ReceiverTracking}
    (h : visitSender floats call senderId senderState entry = some r) :
    ∀ due ∈ r.1, due.senderId = senderId ∧ senderState.Offers due.item := by
  have hnone {tracking : Option ReceiverTracking} (heq : some (([] : List DueSend), tracking) = some r) :
      ∀ due ∈ r.1, due.senderId = senderId ∧ senderState.Offers due.item := by
    obtain rfl := Option.some.inj heq
    exact fun due hdue => absurd hdue List.not_mem_nil
  rw [visitSender] at h
  split at h
  · exact hnone h
  split at h
  · exact hnone h
  obtain ⟨before, -, h⟩ := Option.bind_eq_some_iff.mp h
  dsimp only at h
  generalize (if call.updateDistances then before.measure floats call senderState else before) = tracking at h
  obtain ⟨quality, hquality, h⟩ := Option.bind_eq_some_iff.mp h
  cases quality with
  | none => exact hnone h
  | some packet =>
    dsimp only at h
    split at h
    · exact hnone h
    split at h
    · exact hnone h
    obtain rfl := Option.some.inj h
    obtain ⟨quality, hpacket⟩ := PlayerAvatarState.exists_packet hquality
    exact List.forall_mem_singleton.mpr ⟨rfl, quality, packet, _, hpacket, rfl⟩

variable {call : SendCall} {peerStates : List (PeerId × PlayerAvatarState)} {spatialGrid : Option SpatialGrid}
  {system : AvatarSyncSystem} {r : ReceiverSends}

lemma offers_of_buildSendsForReceiver
    (h : buildSendsForReceiver codec floats call peerStates spatialGrid system = some r) :
    ∀ due ∈ r.due, ∃ sender ∈ peerStates, sender.1 = due.senderId ∧ sender.2.Offers due.item := by
  obtain ⟨-, -, tracking, hdue, -⟩ := buildSendsForReceiver_spec h
  obtain ⟨senders, hsenders, hvisits⟩ := dueSends_spec hdue
  let FromPeers (dues : List DueSend) (_ : Dict PeerId ReceiverTracking) : Prop :=
    ∀ due ∈ dues, ∃ sender ∈ peerStates, sender.1 = due.senderId ∧ sender.2.Offers due.item
  refine visitAll_invariant (I := FromPeers) (fun sender hsender dues d v hv hI => ?_) hvisits []
    fun due hdue => absurd hdue List.not_mem_nil
  refine List.forall_mem_append.mpr ⟨hI, fun due hdue => ?_⟩
  obtain ⟨hid, hoffers⟩ := offers_of_visitSender hv due hdue
  exact ⟨sender, hsenders sender hsender, hid.symm, hoffers⟩

/-- Whatever is bundled, the messages are those that were to be sent. -/
lemma delivers_emitGreedyAvatarBundles (hcodec : codec.Lossless) {floats : BundleFloats} {minMessages minBytes : ℕ}
    {s t : BundleState} (hdirect : s.direct = [])
    (hitems : ∀ item ∈ s.bundle, item.originalChannel ≠ channels.compressedAvatarBundle)
    (h : emitGreedyAvatarBundles codec floats minMessages minBytes s = .ok t) :
    Delivers codec t.direct (s.bundle.map BundleAvatarSend.message) := by
  rw [emitGreedyAvatarBundles] at h
  split at h
  next hempty =>
    obtain rfl := Except.ok.inj h
    rw [hdirect, hempty]
    exact .nil
  next =>
    obtain ⟨u, hloop, hle, sends, hsends, hdelivers⟩ := emitLoop_spec floats minMessages minBytes hcodec
      ⟨s.direct, 0, s.bundleRatio, floats.validBundleRatio s.bundleRatio⟩
      ⟨Nat.zero_le _, [], (List.append_nil _).symm, .nil⟩
    rw [hloop, Checked.ok_bind, Checked.rangeFrom_eq hle, Checked.ok_bind] at h
    obtain rfl := Except.ok.inj h
    have hrest : ∀ item ∈ s.bundle.drop u.cursor, item.originalChannel ≠ channels.compressedAvatarBundle :=
      fun item hitem => hitems item (List.mem_of_mem_drop hitem)
    have hall := hdelivers.append (.plain hrest)
    rw [← List.map_append, List.take_append_drop] at hall
    dsimp only
    rw [hsends, hdirect, List.nil_append]
    exact hall

/-- **What is built for a receiver delivers what is due.** -/
lemma delivers_buildSendsForReceiver (hcodec : codec.Lossless)
    (hpeers : ∀ sender ∈ peerStates, StoredWell sender.1 sender.2)
    (h : buildSendsForReceiver codec floats call peerStates spatialGrid system = some r) :
    ∃ sends, r.batch = outboundBatch call.receiverId sends ∧ Delivers codec sends (r.due.map (·.item.message)) := by
  have hchannels : ∀ item ∈ r.due.map DueSend.item, item.originalChannel ≠ channels.compressedAvatarBundle := by
    intro item hitem
    obtain ⟨due, hdue, rfl⟩ := List.mem_map.mp hitem
    obtain ⟨sender, hsender, -, hoffers⟩ := offers_of_buildSendsForReceiver h due hdue
    exact (hpeers sender hsender).channel_ne hoffers
  have hmessages : r.due.map (·.item.message) = (r.due.map DueSend.item).map BundleAvatarSend.message := by
    rw [List.map_map]
    rfl
  rw [hmessages]
  obtain ⟨⟨due, tracking⟩, -, h⟩ := Option.bind_eq_some_iff.mp h
  dsimp only at h
  split at h
  · split at h
    next => cases h
    next t hemit =>
      obtain rfl := Option.some.inj h
      exact ⟨t.direct, rfl, delivers_emitGreedyAvatarBundles hcodec rfl hchannels hemit⟩
  · obtain rfl := Option.some.inj h
    exact ⟨_, rfl, .plain hchannels⟩

end Messages

/-! ### The whole tick -/

section Tick

variable {codec : BlockCodec} {floats : SendFloats} {input : TickInput}

/-- The messages of what is sent to the receiver. -/
def messagesTo (receiver : PeerId) (sent : List SentUpdate) : List AvatarBundleItem :=
  (sent.filter fun update => update.receiver = receiver).map (·.due.item.message)

lemma messagesTo_append (receiver : PeerId) (sent sent' : List SentUpdate) :
    messagesTo receiver (sent ++ sent') = messagesTo receiver sent ++ messagesTo receiver sent' := by
  rw [messagesTo, List.filter_append, List.map_append]
  rfl

lemma messagesTo_sent (receiver other : PeerId) (due : List DueSend) :
    messagesTo receiver (due.map (input.sent other)) =
      if other = receiver then due.map (·.item.message) else [] := by
  split
  next heq =>
    rw [messagesTo, List.filter_eq_self.mpr, List.map_map]
    · rfl
    · intro update hupdate
      obtain ⟨_, -, rfl⟩ := List.mem_map.mp hupdate
      exact decide_eq_true heq
  next hne =>
    rw [messagesTo, List.filter_eq_nil_iff.mpr]
    · rfl
    · intro update hupdate heq
      obtain ⟨_, -, rfl⟩ := List.mem_map.mp hupdate
      exact hne (of_decide_eq_true heq)

/-- What is built and what is due, for one receiver. -/
lemma delivers_groups (hcodec : codec.Lossless) {peerStates : List (PeerId × PlayerAvatarState)}
    {spatialGrid : Option SpatialGrid} {system : AvatarSyncSystem}
    (hpeers : ∀ sender ∈ peerStates, StoredWell sender.1 sender.2) {receivers : List (PeerId × PlayerAvatarState)}
    (hnodup : (receivers.map Prod.fst).Nodup) {built : List ReceiverSends}
    (hbuilt : buildReceiverGroups codec floats input peerStates spatialGrid system receivers = some built) :
    ((built.filterMap ReceiverSends.batch).map OutboundAvatarBatch.receiver).Sublist (receivers.map Prod.fst) ∧
    ∀ receiver, ∃ sends, Delivers codec sends (messagesTo receiver (sentOf input receivers built)) ∧
      (built.filterMap ReceiverSends.batch).filter (fun batch => batch.receiver = receiver) =
        (outboundBatch receiver sends).toList ∧
      (receiver ∉ receivers.map Prod.fst → sends = []) := by
  induction receivers generalizing built with
  | nil =>
    obtain rfl := Option.some.inj hbuilt
    exact ⟨.slnil, fun receiver => ⟨[], .nil, rfl, fun _ => rfl⟩⟩
  | cons first receivers ih =>
    rw [List.map_cons, List.nodup_cons] at hnodup
    rw [buildReceiverGroups, List.mapM_cons] at hbuilt
    obtain ⟨r, hr, hbuilt⟩ := Option.bind_eq_some_iff.mp hbuilt
    obtain ⟨rest, hrest, hbuilt⟩ := Option.bind_eq_some_iff.mp hbuilt
    obtain rfl := Option.some.inj hbuilt
    obtain ⟨hsublist, hall⟩ := ih hnodup.2 hrest
    obtain ⟨firstSends, hbatch, hfirst⟩ := delivers_buildSendsForReceiver hcodec hpeers hr
    have hreceiver : (input.call first).receiverId = first.1 := rfl
    rw [hreceiver] at hbatch
    have hbatches : (r :: rest).filterMap ReceiverSends.batch =
        (outboundBatch first.1 firstSends).toList ++ rest.filterMap ReceiverSends.batch := by
      rw [List.filterMap_cons, hbatch]
      cases outboundBatch first.1 firstSends <;> rfl
    have hsent : sentOf input (first :: receivers) (r :: rest) =
        r.due.map (input.sent first.1) ++ sentOf input receivers rest := by
      rw [sentOf, List.zipWith_cons_cons, List.flatten_cons]
      rfl
    have hnames : ∀ batch ∈ (outboundBatch first.1 firstSends).toList, batch.receiver = first.1 := by
      unfold outboundBatch
      split
      · exact fun _ h => absurd h List.not_mem_nil
      · exact List.forall_mem_singleton.mpr rfl
    rw [hbatches, hsent]
    refine ⟨?_, fun receiver => ?_⟩
    · rw [List.map_append, List.map_cons]
      have hone : ((outboundBatch first.1 firstSends).toList.map OutboundAvatarBatch.receiver).Sublist [first.1] := by
        unfold outboundBatch
        split
        · exact List.nil_sublist _
        · exact List.Sublist.refl _
      exact hone.append hsublist
    · obtain ⟨sends, hdelivers, hgroups, hnone⟩ := hall receiver
      rw [messagesTo_append, messagesTo_sent, List.filter_append, hgroups]
      by_cases heq : first.1 = receiver
      · -- the others have nothing for it
        subst heq
        obtain rfl := hnone hnodup.1
        refine ⟨firstSends, ?_, ?_, fun h => absurd List.mem_cons_self h⟩
        · have hboth := hfirst.append hdelivers
          rw [List.append_nil] at hboth
          rw [if_pos rfl]
          exact hboth
        · rw [List.filter_eq_self.mpr fun batch hbatch => decide_eq_true (hnames batch hbatch)]
          exact List.append_nil _
      · refine ⟨sends, ?_, ?_, fun h => hnone fun hmem => h (List.mem_cons_of_mem _ hmem)⟩
        · rw [if_neg heq, List.nil_append]
          exact hdelivers
        · rw [List.filter_eq_nil_iff.mpr, List.nil_append]
          exact fun batch hbatch hname => heq ((hnames batch hbatch).symm.trans (of_decide_eq_true hname))

lemma offers_of_sentOf {peerStates : List (PeerId × PlayerAvatarState)} {spatialGrid : Option SpatialGrid}
    {system : AvatarSyncSystem} {receivers : List (PeerId × PlayerAvatarState)} {built : List ReceiverSends}
    (hbuilt : buildReceiverGroups codec floats input peerStates spatialGrid system receivers = some built) :
    ∀ update ∈ sentOf input receivers built,
      ∃ sender ∈ peerStates, sender.1 = update.due.senderId ∧ sender.2.Offers update.due.item := by
  induction receivers generalizing built with
  | nil =>
    obtain rfl := Option.some.inj hbuilt
    exact fun update hupdate => absurd hupdate List.not_mem_nil
  | cons first receivers ih =>
    rw [buildReceiverGroups, List.mapM_cons] at hbuilt
    obtain ⟨r, hr, hbuilt⟩ := Option.bind_eq_some_iff.mp hbuilt
    obtain ⟨rest, hrest, hbuilt⟩ := Option.bind_eq_some_iff.mp hbuilt
    obtain rfl := Option.some.inj hbuilt
    rw [sentOf, List.zipWith_cons_cons, List.flatten_cons]
    refine List.forall_mem_append.mpr ⟨fun update hupdate => ?_, ih hrest⟩
    obtain ⟨due, hdue, rfl⟩ := List.mem_map.mp hupdate
    exact offers_of_buildSendsForReceiver hr due hdue

theorem storedWell_of_syncRun {ts : List (Transition TickState SyncEvent)} {s : TickState}
    (hrun : Run (SyncSteps codec floats) {} ts s) : s.Kept ∧ Dict.All StoredWell s.system.states := by
  induction hrun with
  | nil => exact ⟨TickState.kept_empty, .empty⟩
  | snoc _ hstep ih =>
    obtain ⟨hkept, hstored⟩ := ih
    obtain ⟨mid, hmid, -, hstates, hpending⟩ := hstep.split
    refine ⟨kept_of_eq (hkept.step hmid) hstates hpending, ?_⟩
    rw [hstates]
    exact TickState.storedWell_step hmid hkept hstored

lemma addr_of_mem_log {availableParallelism : Option ℕ} {peers : PeerId → Option PeerState}
    {groups : List OutboundAvatarBatch} {workers : List Worker} {log : List AvatarDatagram}
    (h : Flushes availableParallelism peers groups workers log) {receiver : PeerId} {peer : PeerState}
    (hpeer : peers receiver = some peer) : ∀ datagram ∈ datagramsTo receiver log, datagram.addr = peer.addr := by
  intro datagram hdatagram
  obtain ⟨hmem, hreceiver⟩ := List.mem_filter.mp hdatagram
  obtain rfl := of_decide_eq_true hreceiver
  obtain ⟨sent, hsent, hout⟩ := List.mem_flatten.mp (h.log.perm_flatten.mem_iff.mp hmem)
  obtain ⟨worker, -, rfl⟩ := List.mem_map.mp hsent
  obtain ⟨batch, -, hbatch⟩ := List.mem_flatMap.mp ((goesOut_sublist _ _).subset hout)
  rw [receiver_of_mem_batchDatagrams hbatch] at hpeer
  rw [batchDatagrams, hpeer] at hbatch
  obtain ⟨bytes, -, rfl⟩ := List.mem_map.mp hbatch
  rfl

/-- **What is due for a receiver is what it reads.**  Whatever the number of workers and however they take turns at the
socket, the datagrams that go out to a receiver are read as messages that were due for it, in order; all of them, if the
receiver is live and the socket refuses nothing.  Each has the id, the number and the pose of its sender's state. -/
theorem tick_reaches_receivers (hcodec : codec.Lossless) {ts : List (Transition TickState SyncEvent)} {s t : TickState}
    (hrun : Run (SyncSteps codec floats) {} ts s) (hstep : SyncSteps codec floats s (.tick input) t)
    (hnodup : input.receivers.Nodup) :
    let sent := sentBy codec floats ⟨s, .tick input, t⟩
    (∀ update ∈ sent, ∃ player, t.system.states.lookup update.due.senderId = some player ∧
      player.peerId = update.due.senderId ∧ player.Says update.due.item.message) ∧
    ∃ groups, tickGroups codec floats input s = some groups ∧
      ∀ availableParallelism peers workers log, Flushes availableParallelism peers groups workers log →
        ∀ loop, SplitsMerged loop → ∀ receiver,
          (∀ peer, peers receiver = some peer → ∀ datagram ∈ datagramsTo receiver log, datagram.addr = peer.addr) ∧
          ∃ messages, receivedMessages codec (readSends loop ((datagramsTo receiver log).map (·.bytes))) =
              .ok messages ∧
            messages.Sublist (messagesTo receiver sent) ∧
            (AllSent peers workers → (peers receiver).isSome → messages = messagesTo receiver sent) := by
  intro sent
  obtain ⟨mid, grid, built, hmid, hstates, hbuilt, hgroups, hsent⟩ := exists_tickGroups hnodup hstep
  obtain ⟨hkept, hstored⟩ := storedWell_of_syncRun hrun
  have hmidStored := TickState.storedWell_step hmid hkept hstored
  have hpeers : ∀ sender ∈ peerStatesOf mid.system.states input.peers, StoredWell sender.1 sender.2 :=
    fun sender hsender => hmidStored _ _ (mem_peerStatesOf hsender)
  have hkeys : ((peerStatesOf mid.system.states input.receivers).map Prod.fst).Nodup :=
    (map_fst_peerStatesOf_sublist _ _).nodup hnodup
  obtain ⟨hsublist, hall⟩ := delivers_groups hcodec hpeers hkeys hbuilt
  refine ⟨fun update hupdate => ?_, _, hgroups, fun availableParallelism peers workers log hflushes loop hloop receiver =>
    ⟨fun peer hpeer => addr_of_mem_log hflushes hpeer, ?_⟩⟩
  · change sent = _ at hsent
    rw [hsent] at hupdate
    obtain ⟨sender, hsender, hid, hoffers⟩ := offers_of_sentOf hbuilt update hupdate
    have hplayer := mem_peerStatesOf hsender
    have hwell := hpeers sender hsender
    rw [hstates, ← hid]
    exact ⟨sender.2, hplayer, hwell.1, hwell.says hoffers⟩
  · obtain ⟨sends, ⟨hreceived, -⟩, hgroup, -⟩ := hall receiver
    obtain ⟨hsome, hwhole⟩ := hflushes.reaches (hsublist.nodup hkeys) receiver
    rw [datagramsTo_workerDatagrams, hgroup] at hsome hwhole
    change sent = _ at hsent
    rw [hsent]
    have hread := readSends_outboundBatch hloop peers receiver sends
    have hpart : (readSends loop ((datagramsTo receiver log).map (·.bytes))).Sublist sends := by
      refine (((hsome.map (·.bytes)).flatMap (cutDatagram loop)).filterMap _).trans ?_
      change (readSends loop _).Sublist sends
      rw [hread]
      split
      · exact List.Sublist.refl _
      · exact List.nil_sublist _
    obtain ⟨messages, hmessages, hmessagesPart⟩ := receivedMessages_of_sublist hpart hreceived
    refine ⟨messages, hmessages, hmessagesPart, fun hall hlive => ?_⟩
    rw [hwhole hall, hread, if_pos hlive, hreceived] at hmessages
    exact (Except.ok.inj hmessages).symm

end Tick

/-! ### A tick -/

lemma exists_flushes (availableParallelism : Option ℕ) (peers : PeerId → Option PeerState)
    (groups : List OutboundAvatarBatch) :
    ∃ workers log, Flushes availableParallelism peers groups workers log ∧ AllSent peers workers := by
  refine ⟨(receiverChunks availableParallelism groups).map fun chunk =>
    (chunk, List.replicate (workerDatagrams peers chunk).length .sent), _, ⟨?_, Interleaves.flatten _⟩, ?_⟩
  · rw [List.map_map]
    exact List.map_id _
  · exact List.forall_mem_map.mpr fun chunk _ => rfl

/-- Players 7 and 8 have sent their first updates. -/
def acquainted : TickState := (meeting.take 2).foldl syncNext {}

def firstTick : TickInput := ⟨100000000000, [7, 8], [7, 8], [8], plainConfig, false, ∅⟩

theorem tick_reaches_receivers_meeting :
    ∃ groups workers log messages, tickGroups storedBlocks farFloats firstTick acquainted = some groups ∧
      Flushes (some 4) (fun _ => some visitorPeer) groups workers log ∧
      receivedMessages storedBlocks (readSends mergedPackets ((datagramsTo 8 log).map (·.bytes))) = .ok messages ∧
      messages.length = 1 := by
  have htick : Run (SyncSteps storedBlocks farFloats) acquainted (trace syncNext acquainted [.tick firstTick]) _ :=
    syncRun_of_ready (by decide +kernel)
  have hrun : Run (SyncSteps storedBlocks farFloats) {} (trace syncNext {} (meeting.take 2)) acquainted :=
    syncRun_of_ready (by decide +kernel)
  obtain ⟨-, groups, hgroups, hreaches⟩ :=
    tick_reaches_receivers (fun _ => rfl) hrun (htick.step_of_mem _ List.mem_cons_self) (by decide)
  obtain ⟨workers, log, hflushes, hall⟩ := exists_flushes (some 4) (fun _ => some visitorPeer) groups
  obtain ⟨-, messages, hmessages, -, hwhole⟩ := hreaches _ _ _ _ hflushes _ splitsMerged_mergedPackets 8
  refine ⟨groups, workers, log, messages, hgroups, hflushes, hmessages, ?_⟩
  rw [hwhole hall rfl]
  decide +kernel

end BasisRust.Avatar
