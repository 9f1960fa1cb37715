import BasisRust.Avatar.Bundle
import BasisRust.Avatar.Grid
import BasisRust.Avatar.Slices
import BasisRust.Avatar.Tick
import BasisRust.Lib.Visit
import BasisRust.P2p.Broker

/-!
# `avatar_sync.rs`: what a receiver is sent

`build_sends_for_receiver` goes over the senders, in the order of the grid if there is one, and keeps for each of
them what the receiver has seen and when.  Times are in nanoseconds; what is computed in floating point is a
parameter.
-/

namespace BasisRust.Avatar

open Lib Protocol Transport P2p

structure SendFloats extends BundleFloats, GridFloats where
  /-- `distance_sq`, of the receiver's and the sender's position -/
  distanceSq : Vector F32 3 → Vector F32 3 → F32
  /-- `<=` -/
  le : F32 → F32 → Bool
  /-- `(base as f32 * (base_multiplier + distance_sq * increase_rate)) as i32` -/
  rawInterval : (base : UInt64) → (baseMultiplier distanceSq increaseRate : F32) → Int32

/-- A call's arguments and what it reads of the system, apart from the senders and the map. -/
structure SendCall where
  receiverId : PeerId
  receiverState : PlayerAvatarState
  config : AvatarSyncConfig
  now : ℕ
  updateDistances : Bool
  offloadedPairs : HashSet UInt64

/-- A message that is due, with the sender, the generation of the state it is from and the interval that is cached
for the pair. -/
structure DueSend where
  senderId : PeerId
  generation : UInt64
  intervalMs : UInt64
  item : BundleAvatarSend
  deriving DecidableEq

structure OutboundAvatarBatch where
  receiver : PeerId
  sends : List OutboundAvatarSend
  deriving DecidableEq

section

variable (floats : SendFloats)

def qualityFromDistanceSq (distanceSq : F32) (config : AvatarSyncConfig) : UInt8 :=
  if floats.le distanceSq config.highDistanceSq then BitQuality.high.toU8
  else if floats.le distanceSq config.mediumDistanceSq then BitQuality.medium.toU8
  else if floats.le distanceSq config.lowDistanceSq then BitQuality.low.toU8
  else BitQuality.veryLow.toU8

/-- The byte that is sent, and the interval in milliseconds. -/
def calculateIntervalFromDistanceSq (distanceSq : F32) (config : AvatarSyncConfig) : UInt8 × UInt64 :=
  let base := max config.defaultIntervalMs 1
  let rawInterval := floats.rawInterval base config.baseMultiplier distanceSq config.increaseRate
  let encoded := rawInterval - base.toUInt32.toInt32
  let intervalByte := UInt8.ofNat (min (max encoded.toInt 0) 255).toNat
  (intervalByte, base + intervalByte.toUInt64)

/-- The quality and the interval follow the distance. -/
def ReceiverTracking.measure (call : SendCall) (senderState : PlayerAvatarState) (tracking : ReceiverTracking) :
    ReceiverTracking :=
  let distSq := floats.distanceSq call.receiverState.position senderState.position
  let (intervalByte, intervalMs) := calculateIntervalFromDistanceSq floats distSq call.config
  { tracking with
    cachedQualityIndex := qualityFromDistanceSq floats distSq call.config
    cachedIntervalByte := intervalByte
    cachedIntervalMs := intervalMs }

/-- `Duration::from_secs(60)` -/
def sixtySeconds : ℕ := 60000000000

/-- The entry of a sender the receiver has not been sent anything of; an instant before the first one panics. -/
def ReceiverTracking.new (call : SendCall) (senderState : PlayerAvatarState) : Option ReceiverTracking :=
  if call.now < sixtySeconds then none
  else some (ReceiverTracking.measure floats call senderState
    { lastSeenGeneration := 0, lastSent := call.now - sixtySeconds, cachedQualityIndex := 0, cachedIntervalByte := 0,
      cachedIntervalMs := 0 })

/-- `required_interval_ms`, in nanoseconds. -/
def ReceiverTracking.requiredInterval (tracking : ReceiverTracking) (config : AvatarSyncConfig) : ℕ :=
  (max tracking.cachedIntervalMs (max config.defaultIntervalMs 1)).toNat * 1000000

/-- The message of the packet, in the form that the sender's id asks for. -/
def PreSerializedQuality.send (packet : PreSerializedQuality) (peerId : PeerId) (intervalByte : UInt8) :
    BundleAvatarSend :=
  if peerId ≤ 255 then ⟨packet.channelSmall, packet.bytesSmall, 1, intervalByte⟩
  else ⟨packet.channelLarge, packet.bytesLarge, 2, intervalByte⟩

/-- One round of the loop over the senders: the message that is due, if there is one, and the sender's entry.  A
quality that is none of the four panics. -/
def visitSender (call : SendCall) (senderId : PeerId) (senderState : PlayerAvatarState)
    (entry : Option ReceiverTracking) : Option (List DueSend × Option ReceiverTracking) :=
  if senderId = call.receiverId then some ([], none)
  else if packPair call.receiverId senderId ∈ call.offloadedPairs then some ([], none)
  else do
    let tracking ← entry.or (ReceiverTracking.new floats call senderState)
    let tracking := if call.updateDistances then tracking.measure floats call senderState else tracking
    match ← senderState.qualities[tracking.cachedQualityIndex.toNat]? with
    | none => return ([], some tracking)
    | some packet =>
      if senderState.generation ≤ tracking.lastSeenGeneration then return ([], some tracking)
      else if call.now - tracking.lastSent < tracking.requiredInterval call.config then return ([], some tracking)
      else
        let sent := { tracking with lastSeenGeneration := senderState.generation, lastSent := call.now }
        let item := packet.send senderState.peerId tracking.cachedIntervalByte
        return ([⟨senderId, senderState.generation, tracking.cachedIntervalMs, item⟩], some sent)

/-- The indices of the peers in the order they are visited in. -/
def peerIndices (call : SendCall) (peerCount : ℕ) : Option SpatialGrid → List ℕ
  | some grid => grid.orderedIndices floats.toGridFloats call.receiverState.position peerCount
  | none => List.range peerCount

/-- The messages that are due, in order, and the receiver's map. -/
def dueSends (call : SendCall) (peerStates : List (PeerId × PlayerAvatarState)) (spatialGrid : Option SpatialGrid)
    (tracking : Dict PeerId ReceiverTracking) : Option (List DueSend × Dict PeerId ReceiverTracking) := do
  let senders ← (peerIndices floats call peerStates.length spatialGrid).mapM fun index => peerStates[index]?
  visitAll (visitSender floats call) senders tracking

end

/-- The result of a call, and what the loop found due. -/
structure ReceiverSends where
  due : List DueSend
  batch : Option OutboundAvatarBatch
  system : AvatarSyncSystem

def outboundBatch (receiver : PeerId) (sends : List OutboundAvatarSend) : Option OutboundAvatarBatch :=
  if sends = [] then none else some ⟨receiver, sends⟩

def buildSendsForReceiver (codec : BlockCodec) (floats : SendFloats) (call : SendCall)
    (peerStates : List (PeerId × PlayerAvatarState)) (spatialGrid : Option SpatialGrid) (system : AvatarSyncSystem) :
    Option ReceiverSends := do
  let receiverTracking := (system.tracking.lookup call.receiverId).getD ∅
  let (due, receiverTracking) ← dueSends floats call peerStates spatialGrid receiverTracking
  let system := { system with tracking := system.tracking.insert call.receiverId receiverTracking }
  let items := due.map DueSend.item
  if call.config.enableBundleCompression then
    let bundleRatio := (system.bundleRatios.lookup call.receiverId).getD avatarBundleInitialRatio
    let bundleRawBytes := (items.map fun item => 3 + item.payload.length).sum
    match emitGreedyAvatarBundles codec floats.toBundleFloats call.config.bundleMinMessages call.config.bundleMinBytes
        { direct := [], bundle := items, bundleRawBytes, bundleRatio } with
    | .error _ => none
    | .ok t =>
      return {
        due
        batch := outboundBatch call.receiverId t.direct
        system := { system with bundleRatios := system.bundleRatios.insert call.receiverId t.bundleRatio } }
  else return { due, batch := outboundBatch call.receiverId (items.map BundleAvatarSend.plain), system }

/-- The states that a tick goes over: those of the peers, in the order of the peers. -/
def peerStatesOf (states : Dict PeerId PlayerAvatarState) (peers : List PeerId) : List (PeerId × PlayerAvatarState) :=
  peers.filterMap fun peer => (states.lookup peer).map (Prod.mk peer)

/-! ### What one round does -/

/-- The entry that a round works on has seen what the entry before has seen. -/
def ReceiverTracking.Continues (entry : Option ReceiverTracking) (tracking : ReceiverTracking) : Prop :=
  ∀ before, entry = some before →
    tracking.lastSeenGeneration = before.lastSeenGeneration ∧ tracking.lastSent = before.lastSent

/-- A round skips the sender, finds nothing due, or sends a state that is newer and late enough. -/
inductive VisitStep (call : SendCall) (senderId : PeerId) (senderState : PlayerAvatarState)
    (entry : Option ReceiverTracking) : List DueSend × Option ReceiverTracking → Prop
  | skips : VisitStep call senderId senderState entry ([], none)
  | waits (tracking : ReceiverTracking) (hentry : tracking.Continues entry) :
    VisitStep call senderId senderState entry ([], some tracking)
  | sends (tracking : ReceiverTracking) (item : BundleAvatarSend) (hentry : tracking.Continues entry)
    (hself : senderId ≠ call.receiverId) (hpair : packPair call.receiverId senderId ∉ call.offloadedPairs)
    (hnews : tracking.lastSeenGeneration < senderState.generation)
    (hlate : tracking.requiredInterval call.config ≤ call.now - tracking.lastSent) :
    VisitStep call senderId senderState entry
      ([⟨senderId, senderState.generation, tracking.cachedIntervalMs, item⟩],
        some { tracking with lastSeenGeneration := senderState.generation, lastSent := call.now })

lemma ReceiverTracking.continues_measure (floats : SendFloats) (call : SendCall) (senderState : PlayerAvatarState)
    {entry : Option ReceiverTracking} {tracking : ReceiverTracking} (h : tracking.Continues entry) :
    (tracking.measure floats call senderState).Continues entry := h

lemma ReceiverTracking.continues_of_or {floats : SendFloats} {call : SendCall} {senderState : PlayerAvatarState}
    {entry : Option ReceiverTracking} {tracking : ReceiverTracking}
    (h : entry.or (ReceiverTracking.new floats call senderState) = some tracking) : tracking.Continues entry := by
  intro before hbefore
  rw [hbefore, Option.some_or] at h
  obtain rfl := Option.some.inj h
  exact ⟨rfl, rfl⟩

theorem visitSender_spec {floats : SendFloats} {call : SendCall} {senderId : PeerId} {senderState : PlayerAvatarState}
    {entry : Option ReceiverTracking} {r : List DueSend × Option ReceiverTracking}
    (h : visitSender floats call senderId senderState entry = some r) : VisitStep call senderId senderState entry r := by
  rw [visitSender] at h
  by_cases hself : senderId = call.receiverId
  · rw [if_pos hself] at h
    obtain rfl := Option.some.inj h
    exact .skips
  by_cases hpair : packPair call.receiverId senderId ∈ call.offloadedPairs
  · rw [if_neg hself, if_pos hpair] at h
    obtain rfl := Option.some.inj h
    exact .skips
  rw [if_neg hself, if_neg hpair] at h
  obtain ⟨before, hbefore, h⟩ := Option.bind_eq_some_iff.mp h
  have hentry := ReceiverTracking.continues_of_or hbefore
  dsimp only at h
  set tracking := if call.updateDistances then before.measure floats call senderState else before with htracking
  have hentry : tracking.Continues entry := by
    rw [htracking]
    split
    · exact ReceiverTracking.continues_measure floats call senderState hentry
    · exact hentry
  obtain ⟨quality, -, h⟩ := Option.bind_eq_some_iff.mp h
  cases quality with
  | none =>
    obtain rfl := Option.some.inj h
    exact .waits tracking hentry
  | some packet =>
    dsimp only at h
    by_cases hseen : senderState.generation ≤ tracking.lastSeenGeneration
    · rw [if_pos hseen] at h
      obtain rfl := Option.some.inj h
      exact .waits tracking hentry
    by_cases hearly : call.now - tracking.lastSent < tracking.requiredInterval call.config
    · rw [if_neg hseen, if_pos hearly] at h
      obtain rfl := Option.some.inj h
      exact .waits tracking hentry
    · rw [if_neg hseen, if_neg hearly] at h
      obtain rfl := Option.some.inj h
      exact .sends tracking _ hentry hself hpair (UInt64.not_le.mp hseen) (not_lt.mp hearly)

lemma exists_of_mem_mapM {α β : Type} {f : α → Option β} {xs : List α} {ys : List β} (h : xs.mapM f = some ys) {y : β}
    (hy : y ∈ ys) : ∃ x ∈ xs, f x = some y := by
  induction xs generalizing ys with
  | nil =>
    obtain rfl := Option.some.inj h
    exact absurd hy List.not_mem_nil
  | cons x xs ih =>
    rw [List.mapM_cons] at h
    obtain ⟨first, hfirst, h⟩ := Option.bind_eq_some_iff.mp h
    obtain ⟨rest, hrest, h⟩ := Option.bind_eq_some_iff.mp h
    obtain rfl := Option.some.inj h
    rcases List.mem_cons.mp hy with rfl | hy
    · exact ⟨x, List.mem_cons_self, hfirst⟩
    · obtain ⟨x', hx', hvalue⟩ := ih hrest hy
      exact ⟨x', List.mem_cons_of_mem _ hx', hvalue⟩

lemma dueSends_spec {floats : SendFloats} {call : SendCall} {peerStates : List (PeerId × PlayerAvatarState)}
    {spatialGrid : Option SpatialGrid} {tracking : Dict PeerId ReceiverTracking}
    {r : List DueSend × Dict PeerId ReceiverTracking} (h : dueSends floats call peerStates spatialGrid tracking = some r) :
    ∃ senders : List (PeerId × PlayerAvatarState), (∀ x ∈ senders, x ∈ peerStates) ∧
      visitAll (visitSender floats call) senders tracking = some r := by
  obtain ⟨senders, hsenders, hvisits⟩ := Option.bind_eq_some_iff.mp h
  refine ⟨senders, fun x hx => ?_, hvisits⟩
  obtain ⟨index, -, hindex⟩ := exists_of_mem_mapM hsenders hx
  exact List.mem_of_getElem? hindex

/-- A call changes what is remembered of its receiver, and the ratio. -/
theorem buildSendsForReceiver_spec {codec : BlockCodec} {floats : SendFloats} {call : SendCall}
    {peerStates : List (PeerId × PlayerAvatarState)} {spatialGrid : Option SpatialGrid} {system : AvatarSyncSystem}
    {r : ReceiverSends} (h : buildSendsForReceiver codec floats call peerStates spatialGrid system = some r) :
    r.system.states = system.states ∧ r.system.pending = system.pending ∧ ∃ tracking,
      dueSends floats call peerStates spatialGrid ((system.tracking.lookup call.receiverId).getD ∅) =
        some (r.due, tracking) ∧ r.system.tracking = system.tracking.insert call.receiverId tracking := by
  obtain ⟨⟨due, tracking⟩, hdue, h⟩ := Option.bind_eq_some_iff.mp h
  dsimp only at h
  split at h
  · split at h
    · cases h
    · obtain rfl := Option.some.inj h
      exact ⟨rfl, rfl, tracking, hdue, rfl⟩
  · obtain rfl := Option.some.inj h
    exact ⟨rfl, rfl, tracking, hdue, rfl⟩

/-! ### The order of the senders -/

/-- The entries are from one map. -/
def FromOneMap (peerStates : List (PeerId × PlayerAvatarState)) : Prop :=
  ∀ x ∈ peerStates, ∀ y ∈ peerStates, x.1 = y.1 → x = y

lemma mem_peerStatesOf {states : Dict PeerId PlayerAvatarState} {peers : List PeerId}
    {x : PeerId × PlayerAvatarState} (h : x ∈ peerStatesOf states peers) : states.lookup x.1 = some x.2 := by
  obtain ⟨peer, -, hx⟩ := List.mem_filterMap.mp h
  obtain ⟨state, hstate, rfl⟩ := Option.map_eq_some_iff.mp hx
  exact hstate

lemma fromOneMap_peerStatesOf (states : Dict PeerId PlayerAvatarState) (peers : List PeerId) :
    FromOneMap (peerStatesOf states peers) := by
  intro x hx y hy hxy
  have hstates := mem_peerStatesOf hy
  rw [← hxy, mem_peerStatesOf hx] at hstates
  exact Prod.ext hxy (Option.some.inj hstates)

lemma mapM_getElem? {α : Type} (xs : List α) {indices : List ℕ} (h : ∀ i ∈ indices, i < xs.length) :
    indices.mapM (fun i => xs[i]?) = some (indices.filterMap fun i => xs[i]?) := by
  induction indices with
  | nil => rfl
  | cons i indices ih =>
    rw [List.forall_mem_cons] at h
    rw [List.mapM_cons, ih h.2, List.getElem?_eq_getElem h.1, List.filterMap_cons, List.getElem?_eq_getElem h.1]
    rfl

lemma filterMap_range_getElem? {α : Type} (xs : List α) : ((List.range xs.length).filterMap fun i => xs[i]?) = xs := by
  have hmap : (List.range xs.length).map (fun i => xs[i]?) = xs.map some := by
    refine List.ext_getElem (by simp) fun i hi hi' => ?_
    simp
  calc (List.range xs.length).filterMap (fun i => xs[i]?)
      = ((List.range xs.length).map fun i => xs[i]?).filterMap id := by rw [List.filterMap_map]; rfl
    _ = xs := by rw [hmap]; simp

/-- The senders of a permutation of the indices. -/
lemma senders_perm {α : Type} (xs : List α) {indices : List ℕ} (h : indices.Perm (List.range xs.length)) :
    ∃ ys, indices.mapM (fun i => xs[i]?) = some ys ∧ ys.Perm xs := by
  refine ⟨_, mapM_getElem? xs fun i hi => List.mem_range.mp (h.mem_iff.mp hi), ?_⟩
  have hperm := h.filterMap fun i => xs[i]?
  rwa [filterMap_range_getElem?] at hperm

/-- The same messages in some order, and the same maps. -/
structure SameSends (r r' : ReceiverSends) : Prop where
  batch : Option.Rel (fun batch batch' => batch.receiver = batch'.receiver ∧ batch.sends.Perm batch'.sends)
    r.batch r'.batch
  tracking : Dict.Rel (Dict.Rel (· = ·)) r.system.tracking r'.system.tracking
  others : r.system.states = r'.system.states ∧ r.system.pending = r'.system.pending ∧
    r.system.bundleRatios = r'.system.bundleRatios

lemma outboundBatch_perm (receiver : PeerId) {sends sends' : List OutboundAvatarSend} (h : sends.Perm sends') :
    Option.Rel (fun batch batch' => batch.receiver = batch'.receiver ∧ batch.sends.Perm batch'.sends)
      (outboundBatch receiver sends) (outboundBatch receiver sends') := by
  unfold outboundBatch
  by_cases hnil : sends = []
  · rw [if_pos hnil, if_pos (by rw [hnil] at h; exact h.nil_eq.symm)]
    exact .none
  · rw [if_neg hnil, if_neg (by rintro rfl; exact hnil h.eq_nil)]
    exact .some ⟨rfl, h⟩

lemma tracking_insert {tracking : Dict PeerId (Dict PeerId ReceiverTracking)} {d d' : Dict PeerId ReceiverTracking}
    (h : Dict.Rel (· = ·) d d') (receiver : PeerId) :
    Dict.Rel (Dict.Rel (· = ·)) (tracking.insert receiver d) (tracking.insert receiver d') := by
  intro k
  rw [Dict.lookup_insert, Dict.lookup_insert]
  by_cases hk : k = receiver
  · rw [if_pos hk, if_pos hk]
    exact .some h
  · rw [if_neg hk, if_neg hk]
    exact Dict.Rel.refl (fun d => Dict.Rel.refl (fun _ => rfl) d) tracking k

/-- Without bundles the call is the loop. -/
lemma buildSendsForReceiver_plain (codec : BlockCodec) (floats : SendFloats) {call : SendCall}
    (hplain : call.config.enableBundleCompression = false) (peerStates : List (PeerId × PlayerAvatarState))
    (spatialGrid : Option SpatialGrid) (system : AvatarSyncSystem) :
    buildSendsForReceiver codec floats call peerStates spatialGrid system =
      (dueSends floats call peerStates spatialGrid ((system.tracking.lookup call.receiverId).getD ∅)).map fun r =>
        ⟨r.1, outboundBatch call.receiverId (r.1.map fun due => due.item.plain),
          { system with tracking := system.tracking.insert call.receiverId r.2 }⟩ := by
  rw [buildSendsForReceiver]
  dsimp only
  cases dueSends floats call peerStates spatialGrid ((system.tracking.lookup call.receiverId).getD ∅) with
  | none => rfl
  | some r =>
    simp only [Option.bind_eq_bind, Option.bind_some, hplain, Bool.false_eq_true, if_false, List.map_map]
    rfl

theorem dueSends_perm (floats : SendFloats) (call : SendCall) {peerStates : List (PeerId × PlayerAvatarState)}
    (hstates : FromOneMap peerStates) (grid : SpatialGrid) (tracking : Dict PeerId ReceiverTracking) :
    Option.Rel VisitsAgree (dueSends floats call peerStates none tracking)
      (dueSends floats call peerStates (some grid) tracking) := by
  have hgrid : (peerIndices floats call peerStates.length (some grid)).Perm (List.range peerStates.length) :=
    grid.indicesAround_perm _ _
  obtain ⟨senders, hsenders, hperm⟩ := senders_perm peerStates hgrid
  have hall : (List.range peerStates.length).mapM (fun i => peerStates[i]?) = some peerStates := by
    rw [mapM_getElem? peerStates fun i hi => List.mem_range.mp hi, filterMap_range_getElem?]
  unfold dueSends
  rw [show peerIndices floats call peerStates.length none = List.range peerStates.length from rfl, hall, hsenders]
  exact visitAll_perm hperm.symm hstates (Dict.rel_eq_of_lookup fun _ => rfl)

/-- **Spatial culling changes only the order.**  The grid, whatever it holds and whichever cell the receiver is in,
goes over every index once; a receiver is sent the same messages, and the same is remembered. -/
theorem spatial_culling_changes_order_only (grid : SpatialGrid) (peerStates : List (PeerId × PlayerAvatarState)) :
    (∀ cell, (grid.indicesAround cell peerStates.length).Perm (List.range peerStates.length)) ∧
      ∀ codec floats call system, FromOneMap peerStates → call.config.enableBundleCompression = false →
        Option.Rel SameSends (buildSendsForReceiver codec floats call peerStates none system)
          (buildSendsForReceiver codec floats call peerStates (some grid) system) := by
  refine ⟨fun cell => grid.indicesAround_perm cell _, fun codec floats call system hstates hplain => ?_⟩
  rw [buildSendsForReceiver_plain codec floats hplain, buildSendsForReceiver_plain codec floats hplain]
  have hdue := dueSends_perm floats call hstates grid ((system.tracking.lookup call.receiverId).getD ∅)
  generalize dueSends floats call peerStates none _ = o at hdue ⊢
  generalize dueSends floats call peerStates (some grid) _ = o' at hdue ⊢
  cases hdue with
  | none => exact .none
  | some hagree =>
    obtain ⟨hperm, htracking⟩ := hagree
    exact .some ⟨outboundBatch_perm _ (hperm.map _), tracking_insert htracking _, rfl, rfl, rfl⟩

/-! ### Two senders -/

def plainSendFloats : SendFloats where
  toBundleFloats := plainBundleFloats
  cellSize lowDistanceSq := some lowDistanceSq
  coordinate _ _ := 0
  distanceSq _ _ := 0
  le distanceSq limit := distanceSq ≤ limit
  rawInterval base _ _ _ := base.toUInt32.toInt32

/-- A player that has sent one update of the highest quality; its packets are cut off behind their heads. -/
def standing (peerId : PeerId) (generation : UInt64) : PlayerAvatarState where
  peerId := peerId
  position := .replicate 3 0
  generation := generation
  lastInboundSequence := 0
  outboundSequence := 0
  hasReceivedFirst := true
  qualities := .replicate 4 (some (preSerialize peerId 0 .high []))

def threeStanding : List (PeerId × PlayerAvatarState) := [(7, standing 7 1), (8, standing 8 2), (300, standing 300 3)]

def standingCall : SendCall where
  receiverId := 7
  receiverState := standing 7 1
  config := plainConfig
  now := 100000000000
  updateDistances := false
  offloadedPairs := ∅

/-- The last sender is near. -/
def nearLast : SpatialGrid := ⟨0, (∅ : Dict Cell (List ℕ)).insert (0, 0, 0) [2]⟩

theorem spatial_culling_changes_order_only_nearLast :
    Option.Rel SameSends (buildSendsForReceiver storedBlocks plainSendFloats standingCall threeStanding none {})
      (buildSendsForReceiver storedBlocks plainSendFloats standingCall threeStanding (some nearLast) {}) :=
  (spatial_culling_changes_order_only nearLast threeStanding).2 storedBlocks plainSendFloats standingCall {}
    (by unfold FromOneMap; decide) rfl

end BasisRust.Avatar
