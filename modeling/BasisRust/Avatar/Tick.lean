import BasisRust.Avatar.Sync
import BasisRust.Lib.Run
import BasisRust.Protocol.Repack

/-!
# `avatar_sync.rs`: the updates a tick picks up

`upsert_from_channel_payload` leaves an update in `pending`, one a player, and `process_pending_updates`
moves what it finds there into `states`, where the sequence number decides whether it is still news.  The
buffers of the pool are fresh lists here, and the profiler is left out.
-/

namespace BasisRust.Avatar

open Lib Protocol Transport

/-! ### What a tick makes of an update -/

def playerAvatarLargeChannelForQuality (qualityIndex : UInt8) (hasAdditionalData : Bool) : UInt8 :=
  channels.playerAvatarVeryLowLarge + qualityIndex * 2 + if hasAdditionalData then 1 else 0

def readPosition (payload : Bytes) : Option (Vector F32 3) :=
  if payload.length < writePosition then none
  else some #v[u32At payload 0, u32At payload 4, u32At payload 8]

structure ProcessedAvatarUpdate where
  peerId : PeerId
  inboundSequence : UInt8
  position : Vector F32 3
  quality : BitQuality
  payload : Bytes
  payloadLen : ℕ
  deriving DecidableEq

/-- An update without its sequence number panics. -/
def processPendingUpdate (peerId : PeerId) (update : PendingAvatarUpdate) : Option ProcessedAvatarUpdate := do
  let inboundSequence ← update.payload.head?
  let quality := qualityOfChannel update.channel
  let expected := quality.payloadLen
  let payloadLen := min expected (update.payload.length - 1)
  let avatarPayload := (update.payload.drop 1).take payloadLen
  let position := (readPosition avatarPayload).getD #v[0, 0, 0]
  return { peerId, inboundSequence, position, quality, payload := update.payload, payloadLen }

def preSerialize (peerId : PeerId) (outboundSequence : UInt8) (quality : BitQuality) (payload : Bytes) :
    PreSerializedQuality where
  channelSmall := playerAvatarChannelForQuality quality.toU8 false
  channelLarge := playerAvatarLargeChannelForQuality quality.toU8 false
  bytesSmall := [peerId.toUInt8, 0, outboundSequence] ++ payload
  bytesLarge := leBytes 2 peerId.toNat ++ [0, outboundSequence] ++ payload

/-- The packets by quality; a pose of the highest quality is repacked for the other three. -/
def buildQualityPackets (peerId : PeerId) (outboundSequence : UInt8) (inboundQuality : BitQuality)
    (payload : Bytes) : ExceptT String Option (Vector (Option PreSerializedQuality) 4) :=
  let packet quality bytes := some (preSerialize peerId outboundSequence quality bytes)
  let repacked target := ExceptT.mk (repackHighToLowerInto payload target (List.replicate target.payloadLen 0))
  match inboundQuality with
  | .high => do
    let medium ← repacked .medium
    let low ← repacked .low
    let veryLow ← repacked .veryLow
    return #v[packet .veryLow veryLow, packet .low low, packet .medium medium, packet .high payload]
  | other => return #v[none, none, none, none].setIfInBounds other.toU8.toNat (packet other payload)

/-- The maps, with the counter that numbers what the ticks have processed. -/
structure TickState where
  system : AvatarSyncSystem := {}
  generation : UInt64 := 1

namespace TickState

def setPlayer (peerId : PeerId) (player : PlayerAvatarState) (s : TickState) : TickState :=
  { s with system := { s.system with states := s.system.states.insert peerId player } }

/-- One round of the loop over the processed updates. -/
def storeUpdate (s : TickState) (update : ProcessedAvatarUpdate) : Option TickState :=
  let generation := s.generation
  let s := { s with generation := generation + 1 }
  let avatarPayload := (update.payload.drop 1).take update.payloadLen
  match s.system.states.lookup update.peerId with
  | some current =>
    let delta := update.inboundSequence - current.lastInboundSequence
    if current.hasReceivedFirst ∧ (delta = 0 ∨ delta ≥ 128) then some s
    else do
      let moved : PlayerAvatarState :=
        { current with
          lastInboundSequence := update.inboundSequence
          outboundSequence := current.outboundSequence + 1
          hasReceivedFirst := true
          position := update.position
          generation := generation }
      match ← (buildQualityPackets update.peerId moved.outboundSequence update.quality avatarPayload).run with
      | .ok qualities => return s.setPlayer update.peerId { moved with qualities := qualities }
      | .error _ => return s.setPlayer update.peerId moved
  | none => do
    match ← (buildQualityPackets update.peerId 0 update.quality avatarPayload).run with
    | .ok qualities =>
      return s.setPlayer update.peerId
        { peerId := update.peerId
          position := update.position
          generation := generation
          lastInboundSequence := update.inboundSequence
          outboundSequence := 0
          hasReceivedFirst := true
          qualities := qualities }
    | .error _ => return s

/-- The updates found under the keys, each taken out, and what is still pending. -/
def drainPending : List PeerId → Dict PeerId PendingAvatarUpdate →
    List (PeerId × PendingAvatarUpdate) × Dict PeerId PendingAvatarUpdate
  | [], pending => ([], pending)
  | peerId :: keys, pending =>
    match pending.lookup peerId with
    | none => drainPending keys pending
    | some update =>
      let (updates, rest) := drainPending keys (pending.erase peerId)
      ((peerId, update) :: updates, rest)

/-- A tick that finds the keys of `pending` in the order `keys`, with the number of updates it has
processed. -/
def processPendingUpdates (keys : List PeerId) (s : TickState) : Option (ℕ × TickState) := do
  let (updates, rest) := drainPending keys s.system.pending
  let processed ← updates.mapM fun update => processPendingUpdate update.1 update.2
  let s ← processed.foldlM storeUpdate { s with system := { s.system with pending := rest } }
  return (updates.length, s)

end TickState

/-! ### Whole updates

What `upsert_from_channel_payload` stores is as long as its quality asks for, so a tick neither panics nor
fails on it. -/

namespace PendingAvatarUpdate

variable (update : PendingAvatarUpdate)

def sequence : UInt8 := update.payload.headD 0

def quality : BitQuality := qualityOfChannel update.channel

def body : Bytes := update.payload.drop 1

/-- The length the quality asks for, and the sequence number. -/
def Whole : Prop := update.payload.length = 1 + update.quality.payloadLen

/-- The result of `process_pending_update` for a whole update. -/
def processed (peerId : PeerId) : ProcessedAvatarUpdate where
  peerId := peerId
  inboundSequence := update.sequence
  position := (readPosition update.body).getD #v[0, 0, 0]
  quality := update.quality
  payload := update.payload
  payloadLen := update.quality.payloadLen

/-- The player's state is the one of the update: its number, its position and its packets. -/
structure ShownBy (peerId : PeerId) (player : PlayerAvatarState) : Prop where
  sequence : player.lastInboundSequence = update.sequence
  position : readPosition update.body = some player.position
  packets : (buildQualityPackets peerId player.outboundSequence update.quality update.body).run =
    some (.ok player.qualities)
  received : player.hasReceivedFirst = true

variable {update}

lemma Whole.length_body (h : update.Whole) : update.body.length = update.quality.payloadLen := by
  rw [body, List.length_drop, h]
  exact Nat.add_sub_cancel_left _ _

lemma Whole.body_eq (h : update.Whole) :
    (update.payload.drop 1).take update.quality.payloadLen = update.body :=
  List.take_of_length_le h.length_body.le

theorem Whole.processPendingUpdate (h : update.Whole) (peerId : PeerId) :
    processPendingUpdate peerId update = some (update.processed peerId) := by
  have hlen : min update.quality.payloadLen (update.payload.length - 1) = update.quality.payloadLen := by
    rw [h]
    omega
  have hhead : update.payload.head? = some update.sequence := by
    cases hp : update.payload with
    | nil =>
      rw [Whole, hp] at h
      exact absurd h (by rw [List.length_nil]; omega)
    | cons b bs =>
      rw [sequence, hp]
      rfl
  rw [Avatar.processPendingUpdate, hhead]
  dsimp only [Option.bind_eq_bind, Option.bind_some]
  rw [show qualityOfChannel update.channel = update.quality from rfl, hlen, h.body_eq]
  rfl

lemma Whole.readPosition (h : update.Whole) : ∃ position, readPosition update.body = some position := by
  have hlen : ¬ update.body.length < writePosition := by
    rw [h.length_body]
    cases update.quality <;> decide
  exact ⟨_, if_neg hlen⟩

end PendingAvatarUpdate

/-- The packets of a pose that is as long as its quality asks for are built. -/
theorem buildQualityPackets_ok {quality : BitQuality} {payload : Bytes} (h : payload.length = quality.payloadLen)
    (peerId : PeerId) (outboundSequence : UInt8) :
    ∃ qualities, (buildQualityPackets peerId outboundSequence quality payload).run = some (.ok qualities) := by
  cases quality with
  | high =>
    have hrepack (target : BitQuality) (htarget : target ≠ .high) :
        ∃ out, repackHighToLowerInto payload target (List.replicate target.payloadLen 0) = some (.ok out) := by
      have hroom : target.payloadLen ≤ (List.replicate target.payloadLen (0 : UInt8)).length :=
        (List.length_replicate).ge
      obtain ⟨rotated, -, heq⟩ := repackHighToLowerInto_eq h.ge htarget hroom
      exact ⟨_, heq⟩
    obtain ⟨medium, hmedium⟩ := hrepack .medium (by decide)
    obtain ⟨low, hlow⟩ := hrepack .low (by decide)
    obtain ⟨veryLow, hveryLow⟩ := hrepack .veryLow (by decide)
    rw [buildQualityPackets]
    dsimp only
    rw [hmedium, hlow, hveryLow]
    exact ⟨_, rfl⟩
  | veryLow => exact ⟨_, rfl⟩
  | low => exact ⟨_, rfl⟩
  | medium => exact ⟨_, rfl⟩

/-- The update is not news for the player. -/
def PlayerAvatarState.IsPast (current : PlayerAvatarState) (update : PendingAvatarUpdate) : Prop :=
  current.hasReceivedFirst = true ∧
    (update.sequence - current.lastInboundSequence = 0 ∨ update.sequence - current.lastInboundSequence ≥ 128)

/-- What a tick that picks up the update makes of the player's entry. -/
def Stored (peerId : PeerId) (update : PendingAvatarUpdate) (entry entry' : Option PlayerAvatarState) : Prop :=
  (∃ current, entry = some current ∧ current.IsPast update ∧ entry' = some current) ∨
    (∀ current, entry = some current → ¬ current.IsPast update) ∧
      ∃ player, entry' = some player ∧ update.ShownBy peerId player

/-- The same with the numbers: the update is the one that is processed with the number `generation`. -/
inductive Enters (peerId : PeerId) (update : PendingAvatarUpdate) (generation : UInt64) :
    Option PlayerAvatarState → Option PlayerAvatarState → Prop
  | stale (current : PlayerAvatarState) (hpast : current.IsPast update) :
    Enters peerId update generation (some current) (some current)
  | moves (current player : PlayerAvatarState) (hnews : ¬ current.IsPast update) (hshown : update.ShownBy peerId player)
    (hgeneration : player.generation = generation) (hsequence : player.outboundSequence = current.outboundSequence + 1)
    (hid : player.peerId = current.peerId) : Enters peerId update generation (some current) (some player)
  | first (player : PlayerAvatarState) (hshown : update.ShownBy peerId player)
    (hgeneration : player.generation = generation) (hsequence : player.outboundSequence = 0)
    (hid : player.peerId = peerId) : Enters peerId update generation none (some player)

lemma Enters.stored {peerId : PeerId} {update : PendingAvatarUpdate} {generation : UInt64}
    {entry entry' : Option PlayerAvatarState} (h : Enters peerId update generation entry entry') :
    Stored peerId update entry entry' := by
  cases h with
  | stale current hpast => exact .inl ⟨current, rfl, hpast, rfl⟩
  | moves current player hnews hshown =>
    refine .inr ⟨fun now hnow => ?_, player, rfl, hshown⟩
    rw [← Option.some.inj hnow]
    exact hnews
  | first player hshown =>
    refine .inr ⟨fun current hcurrent => ?_, player, rfl, hshown⟩
    cases hcurrent

namespace TickState

@[simp] lemma states_setPlayer (peerId : PeerId) (player : PlayerAvatarState) (s : TickState) :
    (s.setPlayer peerId player).system.states = s.system.states.insert peerId player := rfl

/-- A round changes the counter and the entry of the update's player only. -/
theorem storeUpdate_spec {update : PendingAvatarUpdate} (h : update.Whole) (peerId : PeerId) (s : TickState) :
    ∃ t, s.storeUpdate (update.processed peerId) = some t ∧ t.generation = s.generation + 1 ∧
      t.system = { s.system with states := t.system.states } ∧
      (∀ q, q ≠ peerId → t.system.states.lookup q = s.system.states.lookup q) ∧
      Enters peerId update s.generation (s.system.states.lookup peerId) (t.system.states.lookup peerId) := by
  obtain ⟨position, hposition⟩ := h.readPosition
  have hgetD : (readPosition update.body).getD #v[0, 0, 0] = position := by
    rw [hposition, Option.getD_some]
  have hset (player : PlayerAvatarState) (g : UInt64) (q : PeerId) (hq : q ≠ peerId) :
      (({ s with generation := g } : TickState).setPlayer peerId player).system.states.lookup q =
        s.system.states.lookup q := by
    rw [states_setPlayer, Dict.lookup_insert, if_neg hq]
  have hself (player : PlayerAvatarState) (g : UInt64) :
      (({ s with generation := g } : TickState).setPlayer peerId player).system.states.lookup peerId = some player := by
    rw [states_setPlayer, Dict.lookup_insert, if_pos rfl]
  rw [storeUpdate]
  dsimp only [PendingAvatarUpdate.processed]
  rw [h.body_eq, hgetD]
  cases hentry : s.system.states.lookup peerId with
  | none =>
    obtain ⟨qualities, hbuilt⟩ := buildQualityPackets_ok h.length_body peerId 0
    dsimp only
    rw [hbuilt]
    refine ⟨_, rfl, rfl, rfl, hset _ _, ?_⟩
    rw [hself]
    exact .first _ ⟨rfl, hposition, hbuilt, rfl⟩ rfl rfl rfl
  | some current =>
    dsimp only
    by_cases hpast : current.IsPast update
    · rw [if_pos (show _ ∧ _ from hpast)]
      refine ⟨_, rfl, rfl, rfl, fun _ _ => rfl, ?_⟩
      rw [hentry]
      exact .stale current hpast
    · obtain ⟨qualities, hbuilt⟩ := buildQualityPackets_ok h.length_body peerId (current.outboundSequence + 1)
      rw [if_neg (show ¬ (_ ∧ _) from hpast), hbuilt]
      refine ⟨_, rfl, rfl, rfl, hset _ _, ?_⟩
      rw [hself]
      exact .moves current _ hpast ⟨rfl, hposition, hbuilt, rfl⟩ rfl rfl rfl

lemma mapM_processPendingUpdate {updates : List (PeerId × PendingAvatarUpdate)} (hwhole : ∀ x ∈ updates, x.2.Whole) :
    updates.mapM (fun x => processPendingUpdate x.1 x.2) = some (updates.map fun x => x.2.processed x.1) := by
  induction updates with
  | nil => rfl
  | cons x updates ih =>
    rw [List.forall_mem_cons] at hwhole
    rw [List.mapM_cons, hwhole.1.processPendingUpdate, ih hwhole.2]
    rfl

/-- The loop, over updates of different players: each gets a number of its own. -/
theorem foldlM_storeUpdate {updates : List (PeerId × PendingAvatarUpdate)} (hwhole : ∀ x ∈ updates, x.2.Whole)
    (hnodup : (updates.map Prod.fst).Nodup) (s : TickState) :
    ∃ t, (updates.map fun x => x.2.processed x.1).foldlM storeUpdate s = some t ∧
      t.generation = s.generation + UInt64.ofNat updates.length ∧
      t.system = { s.system with states := t.system.states } ∧
      (∀ q, q ∉ updates.map Prod.fst → t.system.states.lookup q = s.system.states.lookup q) ∧
      ∀ x ∈ updates, ∃ i < updates.length, Enters x.1 x.2 (s.generation + UInt64.ofNat i)
        (s.system.states.lookup x.1) (t.system.states.lookup x.1) := by
  induction updates generalizing s with
  | nil =>
    refine ⟨s, rfl, ?_, rfl, fun _ _ => rfl, fun x hx => absurd hx List.not_mem_nil⟩
    exact (UInt64.add_zero _).symm
  | cons x updates ih =>
    rw [List.forall_mem_cons] at hwhole
    rw [List.map_cons, List.nodup_cons] at hnodup
    obtain ⟨s₁, hstore, hcount₁, hsystem₁, hothers₁, henters₁⟩ := storeUpdate_spec hwhole.1 x.1 s
    obtain ⟨t, hfold, hcount, hsystem, hothers, henters⟩ := ih hwhole.2 hnodup.2 s₁
    have hnumber (i : ℕ) : s₁.generation + UInt64.ofNat i = s.generation + UInt64.ofNat (i + 1) := by
      rw [hcount₁, UInt64.ofNat_add, UInt64.add_assoc, UInt64.add_comm 1]
      rfl
    refine ⟨t, ?_, ?_, ?_, fun q hq => ?_, fun y hy => ?_⟩
    · rw [List.map_cons, List.foldlM_cons, hstore]
      exact hfold
    · rw [hcount, hnumber, List.length_cons]
    · rw [hsystem, hsystem₁]
    · rw [List.map_cons, List.mem_cons, not_or] at hq
      rw [hothers q hq.2, hothers₁ q hq.1]
    · rcases List.mem_cons.mp hy with rfl | hy
      · refine ⟨0, by rw [List.length_cons]; omega, ?_⟩
        rw [hothers _ hnodup.1, show s.generation + UInt64.ofNat 0 = s.generation from UInt64.add_zero _]
        exact henters₁
      · have hne : y.1 ≠ x.1 := fun heq => hnodup.1 (heq ▸ List.mem_map_of_mem hy)
        obtain ⟨i, hi, hentered⟩ := henters y hy
        refine ⟨i + 1, by rw [List.length_cons]; omega, ?_⟩
        rw [← hnumber, ← hothers₁ _ hne]
        exact hentered

/-- What is taken out is what was there, and it is not there any more. -/
theorem drainPending_spec {keys : List PeerId} (hnodup : keys.Nodup) (pending : Dict PeerId PendingAvatarUpdate) :
    (∀ x, x ∈ (drainPending keys pending).1 ↔ x.1 ∈ keys ∧ pending.lookup x.1 = some x.2) ∧
      ((drainPending keys pending).1.map Prod.fst).Nodup ∧
      ∀ q, (drainPending keys pending).2.lookup q = if q ∈ keys then none else pending.lookup q := by
  induction keys generalizing pending with
  | nil =>
    refine ⟨fun x => ⟨fun hx => absurd hx List.not_mem_nil, fun hx => absurd hx.1 List.not_mem_nil⟩, List.nodup_nil,
      fun q => ?_⟩
    rw [if_neg List.not_mem_nil]
    rfl
  | cons peerId keys ih =>
    rw [List.nodup_cons] at hnodup
    cases hlookup : pending.lookup peerId with
    | none =>
      have hdrain : drainPending (peerId :: keys) pending = drainPending keys pending := by
        rw [drainPending, hlookup]
      obtain ⟨hmem, hdistinct, hrest⟩ := ih hnodup.2 pending
      rw [hdrain]
      refine ⟨fun x => ?_, hdistinct, fun q => ?_⟩
      · rw [hmem, List.mem_cons]
        refine ⟨fun hx => ⟨.inr hx.1, hx.2⟩, fun hx => ⟨hx.1.resolve_left fun heq => ?_, hx.2⟩⟩
        rw [heq, hlookup] at hx
        cases hx.2
      · rw [hrest]
        by_cases hq : q = peerId
        · rw [hq, hlookup, ite_self, ite_self]
        · simp only [List.mem_cons, or_iff_right hq]
    | some update =>
      have hdrain : drainPending (peerId :: keys) pending =
          ((peerId, update) :: (drainPending keys (pending.erase peerId)).1,
            (drainPending keys (pending.erase peerId)).2) := by
        rw [drainPending, hlookup]
      obtain ⟨hmem, hdistinct, hrest⟩ := ih hnodup.2 (pending.erase peerId)
      rw [hdrain]
      refine ⟨fun x => ?_, ?_, fun q => ?_⟩
      · rw [List.mem_cons, hmem, List.mem_cons]
        constructor
        · rintro (rfl | ⟨hkey, hfound⟩)
          · exact ⟨.inl rfl, hlookup⟩
          · have hne : x.1 ≠ peerId := fun heq => hnodup.1 (heq ▸ hkey)
            rw [Dict.lookup_erase, if_neg hne] at hfound
            exact ⟨.inr hkey, hfound⟩
        · rintro ⟨heq | hkey, hfound⟩
          · rw [heq, hlookup] at hfound
            exact .inl (Prod.ext heq (Option.some.inj hfound).symm)
          · have hne : x.1 ≠ peerId := fun heq => hnodup.1 (heq ▸ hkey)
            rw [Dict.lookup_erase, if_neg hne]
            exact .inr ⟨hkey, hfound⟩
      · rw [List.map_cons, List.nodup_cons]
        refine ⟨fun hx => ?_, hdistinct⟩
        obtain ⟨x, hx, rfl⟩ := List.mem_map.mp hx
        exact hnodup.1 ((hmem x).mp hx).1
      · rw [hrest, Dict.lookup_erase]
        by_cases hq : q = peerId
        · rw [if_pos hq, ite_self, if_pos (hq ▸ List.mem_cons_self)]
        · simp only [if_neg hq, List.mem_cons, or_iff_right hq]

/-- Every update that waits is whole. -/
def Sound (s : TickState) : Prop :=
  ∀ peerId update, s.system.pending.lookup peerId = some update → update.Whole

/-- **A tick returns**, leaves nothing pending and enters what was under numbers of its own. -/
theorem processPendingUpdates_enters {s : TickState} (hs : s.Sound) {keys : List PeerId}
    (hkeys : keys.Perm s.system.pending.keys) :
    ∃ n t, s.processPendingUpdates keys = some (n, t) ∧ (∀ q, t.system.pending.lookup q = none) ∧
      t.generation = s.generation + UInt64.ofNat keys.length ∧ t.system.tracking = s.system.tracking ∧
      ∀ q, (s.system.pending.lookup q = none → t.system.states.lookup q = s.system.states.lookup q) ∧
        ∀ update, s.system.pending.lookup q = some update → ∃ i < keys.length,
          Enters q update (s.generation + UInt64.ofNat i) (s.system.states.lookup q) (t.system.states.lookup q) := by
  have hnodup : keys.Nodup := hkeys.nodup_iff.mpr s.system.pending.nodupKeys
  have hpresent (q : PeerId) : q ∈ keys ↔ ∃ update, s.system.pending.lookup q = some update := by
    rw [hkeys.mem_iff, ← AList.mem_keys, Dict.mem_iff_lookup]
  obtain ⟨hmem, hdistinct, hrest⟩ := drainPending_spec hnodup s.system.pending
  have hwhole : ∀ x ∈ (drainPending keys s.system.pending).1, x.2.Whole :=
    fun x hx => hs x.1 x.2 ((hmem x).mp hx).2
  have hdrained : ((drainPending keys s.system.pending).1.map Prod.fst).Perm keys := by
    refine (List.perm_ext_iff_of_nodup hdistinct hnodup).mpr fun q => ⟨fun hq => ?_, fun hq => ?_⟩
    · obtain ⟨x, hx, rfl⟩ := List.mem_map.mp hq
      exact ((hmem x).mp hx).1
    · obtain ⟨update, hupdate⟩ := (hpresent q).mp hq
      exact List.mem_map.mpr ⟨(q, update), (hmem _).mpr ⟨hq, hupdate⟩, rfl⟩
  have hlength : (drainPending keys s.system.pending).1.length = keys.length := by
    rw [← hdrained.length_eq, List.length_map]
  have hprocessed : (drainPending keys s.system.pending).1.mapM (fun x => processPendingUpdate x.1 x.2) =
      some ((drainPending keys s.system.pending).1.map fun x => x.2.processed x.1) :=
    mapM_processPendingUpdate hwhole
  obtain ⟨t, hfold, hcount, hsystem, hothers, henters⟩ := foldlM_storeUpdate hwhole hdistinct
    { s with system := { s.system with pending := (drainPending keys s.system.pending).2 } }
  rw [hlength] at hcount henters
  refine ⟨(drainPending keys s.system.pending).1.length, t, ?_, fun q => ?_, hcount, ?_,
    fun q => ⟨fun hnone => ?_, fun update hupdate => ?_⟩⟩
  · rw [processPendingUpdates]
    dsimp only
    rw [hprocessed]
    dsimp only [Option.bind_eq_bind, Option.bind_some]
    rw [hfold]
    rfl
  · rw [hsystem]
    dsimp only
    rw [hrest]
    by_cases hq : q ∈ keys
    · exact if_pos hq
    · rw [if_neg hq]
      exact Option.eq_none_iff_forall_ne_some.mpr fun update h => hq ((hpresent q).mpr ⟨update, h⟩)
  · rw [hsystem]
  · refine hothers q fun hq => ?_
    obtain ⟨x, hx, rfl⟩ := List.mem_map.mp hq
    have hfound := ((hmem x).mp hx).2
    rw [hnone] at hfound
    cases hfound
  · exact henters (q, update) ((hmem _).mpr ⟨(hpresent q).mpr ⟨update, hupdate⟩, hupdate⟩)

theorem processPendingUpdates_spec {s : TickState} (hs : s.Sound) {keys : List PeerId}
    (hkeys : keys.Perm s.system.pending.keys) :
    ∃ n t, s.processPendingUpdates keys = some (n, t) ∧ (∀ q, t.system.pending.lookup q = none) ∧
      ∀ q, (s.system.pending.lookup q = none → t.system.states.lookup q = s.system.states.lookup q) ∧
        ∀ update, s.system.pending.lookup q = some update →
          Stored q update (s.system.states.lookup q) (t.system.states.lookup q) := by
  obtain ⟨n, t, heq, hpending, -, -, hentries⟩ := processPendingUpdates_enters hs hkeys
  refine ⟨n, t, heq, hpending, fun q => ⟨(hentries q).1, fun update hupdate => ?_⟩⟩
  obtain ⟨i, -, hentered⟩ := (hentries q).2 update hupdate
  exact hentered.stored

end TickState
end BasisRust.Avatar
