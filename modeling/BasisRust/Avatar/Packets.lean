import BasisRust.Avatar.Arrival

/-!
# Stored packets

The packets of a stored player are those of its last update under its own id and number, on whichever path they
were built.  A tick numbers the updates it processes, stale ones too, by one counter of 64 bits.
-/

namespace BasisRust.Avatar

open Lib Protocol Transport

/-! ### What a packet says -/

/-- The channels of a quality, for small and for large ids. -/
def avatarChannels : BitQuality → UInt8 × UInt8
  | .veryLow => (channels.playerAvatarVeryLow, channels.playerAvatarVeryLowLarge)
  | .low => (channels.playerAvatarLow, channels.playerAvatarLowLarge)
  | .medium => (channels.playerAvatarMedium, channels.playerAvatarMediumLarge)
  | .high => (channels.playerAvatarHigh, channels.playerAvatarHighLarge)

/-- The packet is the pose under the id and the number, on the channels of the quality. -/
structure PacketAgrees (peerId : PeerId) (sequence : UInt8) (quality : BitQuality) (payload : Bytes)
    (packet : PreSerializedQuality) : Prop where
  length : payload.length = quality.payloadLen
  small : packet.bytesSmall = [UInt8.ofNat (peerId.toNat % 256), 0, sequence] ++ payload
  large : packet.bytesLarge =
    [UInt8.ofNat (peerId.toNat % 256), UInt8.ofNat (peerId.toNat / 256), 0, sequence] ++ payload
  channels : (packet.channelSmall, packet.channelLarge) = avatarChannels quality

/-- The entry at the index of the quality. -/
def PlayerAvatarState.packet (player : PlayerAvatarState) : BitQuality → Option PreSerializedQuality
  | .veryLow => player.qualities[0]
  | .low => player.qualities[1]
  | .medium => player.qualities[2]
  | .high => player.qualities[3]

/-- Four packets, the lower three repacked from the highest. -/
def PlayerAvatarState.HasAllPackets (player : PlayerAvatarState) : Prop :=
  ∃ payload : BitQuality → Bytes,
    (∀ quality, quality ≠ .high →
      repackHighToLowerInto (payload .high) quality (List.replicate quality.payloadLen 0) =
        some (.ok (payload quality))) ∧
    ∀ quality, ∃ packet, player.packet quality = some packet ∧
      PacketAgrees player.peerId player.outboundSequence quality (payload quality) packet

/-- One packet, of the one quality the player sends. -/
def PlayerAvatarState.HasOnePacket (player : PlayerAvatarState) : Prop :=
  ∃ source payload packet, PacketAgrees player.peerId player.outboundSequence source payload packet ∧
    ∀ quality, player.packet quality = if quality = source then some packet else none

lemma preSerialize_agrees {quality : BitQuality} {payload : Bytes} (h : payload.length = quality.payloadLen)
    (peerId : PeerId) (sequence : UInt8) :
    PacketAgrees peerId sequence quality payload (preSerialize peerId sequence quality payload) := by
  have hlow : peerId.toUInt8 = UInt8.ofNat (peerId.toNat % 256) := by
    rw [← UInt8.toNat_inj, UInt16.toNat_toUInt8, UInt8.toNat_ofNat']
    omega
  refine ⟨h, ?_, ?_, ?_⟩
  · rw [← hlow]
    rfl
  · have hbytes : leBytes 2 peerId.toNat = [UInt8.ofNat (peerId.toNat % 256), UInt8.ofNat (peerId.toNat / 256)] := by
      rw [leBytes, leBytes, leBytes, List.cons.injEq]
      refine ⟨?_, rfl⟩
      rw [← UInt8.toNat_inj, UInt8.toNat_ofNat', UInt8.toNat_ofNat']
      omega
    rw [preSerialize, hbytes]
    rfl
  · cases quality <;> rfl

/-- The repacking of a whole pose is whole. -/
lemma repackHighToLowerInto_length {high : Bytes} (hhigh : high.length = BitQuality.high.payloadLen)
    (target : BitQuality) (htarget : target ≠ .high) :
    ∃ out, repackHighToLowerInto high target (List.replicate target.payloadLen 0) = some (.ok out) ∧
      out.length = target.payloadLen := by
  have hroom : target.payloadLen ≤ (List.replicate target.payloadLen (0 : UInt8)).length :=
    (List.length_replicate).ge
  obtain ⟨rotated, hrotated, heq⟩ := repackHighToLowerInto_eq hhigh.ge htarget hroom
  refine ⟨_, heq, ?_⟩
  rw [List.length_append, hrotated.length_assembled hhigh.ge, List.length_drop, List.length_replicate]
  omega

lemma hasAllPackets_of_built {player : PlayerAvatarState} {payload : Bytes}
    (hlength : payload.length = BitQuality.high.payloadLen)
    (h : (buildQualityPackets player.peerId player.outboundSequence .high payload).run = some (.ok player.qualities)) :
    player.HasAllPackets := by
  obtain ⟨medium, hmedium, hmediumLength⟩ := repackHighToLowerInto_length hlength .medium (by decide)
  obtain ⟨low, hlow, hlowLength⟩ := repackHighToLowerInto_length hlength .low (by decide)
  obtain ⟨veryLow, hveryLow, hveryLowLength⟩ := repackHighToLowerInto_length hlength .veryLow (by decide)
  rw [buildQualityPackets] at h
  dsimp only at h
  rw [hmedium, hlow, hveryLow] at h
  have hqualities := Except.ok.inj (Option.some.inj h)
  have hpacket (quality : BitQuality) (bytes : Bytes) (hbytes : bytes.length = quality.payloadLen) :
      PacketAgrees player.peerId player.outboundSequence quality bytes
        (preSerialize player.peerId player.outboundSequence quality bytes) := preSerialize_agrees hbytes _ _
  refine ⟨fun quality => BitQuality.casesOn quality veryLow low medium payload, fun quality hne => ?_,
    fun quality => ?_⟩
  · cases quality with
    | veryLow => exact hveryLow
    | low => exact hlow
    | medium => exact hmedium
    | high => exact absurd rfl hne
  · cases quality with
    | veryLow => exact ⟨_, congrArg (·[0]) hqualities.symm, hpacket .veryLow veryLow hveryLowLength⟩
    | low => exact ⟨_, congrArg (·[1]) hqualities.symm, hpacket .low low hlowLength⟩
    | medium => exact ⟨_, congrArg (·[2]) hqualities.symm, hpacket .medium medium hmediumLength⟩
    | high => exact ⟨_, congrArg (·[3]) hqualities.symm, hpacket .high payload hlength⟩

lemma hasOnePacket_of_built {player : PlayerAvatarState} {source : BitQuality} {payload : Bytes}
    (hsource : source ≠ .high) (hlength : payload.length = source.payloadLen)
    (h : (buildQualityPackets player.peerId player.outboundSequence source payload).run = some (.ok player.qualities)) :
    player.HasOnePacket := by
  have hbuilt : (buildQualityPackets player.peerId player.outboundSequence source payload).run =
      some (.ok (#v[none, none, none, none].setIfInBounds source.toU8.toNat
        (some (preSerialize player.peerId player.outboundSequence source payload)))) := by
    cases source with
    | high => exact absurd rfl hsource
    | veryLow => rfl
    | low => rfl
    | medium => rfl
  rw [hbuilt] at h
  have hqualities := Except.ok.inj (Option.some.inj h)
  refine ⟨source, payload, _, preSerialize_agrees hlength _ _, fun quality => ?_⟩
  cases quality with
  | veryLow =>
    rw [PlayerAvatarState.packet, ← hqualities]
    cases source <;> rfl
  | low =>
    rw [PlayerAvatarState.packet, ← hqualities]
    cases source <;> rfl
  | medium =>
    rw [PlayerAvatarState.packet, ← hqualities]
    cases source <;> rfl
  | high =>
    rw [PlayerAvatarState.packet, ← hqualities]
    cases source <;> rfl

/-- **Both paths to a stored state build the packets alike.** -/
theorem hasPackets_of_built {player : PlayerAvatarState} {quality : BitQuality} {payload : Bytes}
    (hlength : payload.length = quality.payloadLen)
    (h : (buildQualityPackets player.peerId player.outboundSequence quality payload).run =
      some (.ok player.qualities)) : player.HasAllPackets ∨ player.HasOnePacket := by
  by_cases hquality : quality = .high
  · rw [hquality] at hlength h
    exact .inl (hasAllPackets_of_built hlength h)
  · exact .inr (hasOnePacket_of_built hquality hlength h)

/-! ### Every state that is reached -/

/-- The player is stored under its own id, with its own packets. -/
def StoredWell (peerId : PeerId) (player : PlayerAvatarState) : Prop :=
  player.peerId = peerId ∧ (player.HasAllPackets ∨ player.HasOnePacket)

lemma Enters.storedWell {peerId : PeerId} {update : PendingAvatarUpdate} {generation : UInt64}
    {entry : Option PlayerAvatarState} {player : PlayerAvatarState} (hwhole : update.Whole)
    (h : Enters peerId update generation entry (some player))
    (hentry : ∀ current, entry = some current → StoredWell peerId current) : StoredWell peerId player := by
  have hbuilt (hid : player.peerId = peerId) (hshown : update.ShownBy peerId player) : StoredWell peerId player := by
    have hpackets := hshown.packets
    rw [← hid] at hpackets
    exact ⟨hid, hasPackets_of_built hwhole.length_body hpackets⟩
  cases h with
  | stale hpast => exact hentry player rfl
  | moves current player hnews hshown _ _ hid => exact hbuilt (hid.trans (hentry current rfl).1) hshown
  | first player hshown _ _ hid => exact hbuilt hid hshown

namespace TickState

lemma states_upsert (peerId : PeerId) (channel : UInt8) (payload : Bytes) (system : AvatarSyncSystem) :
    (system.upsertFromChannelPayload peerId channel payload).states = system.states := by
  rw [upsertFromChannelPayload_eq]
  cases acceptedUpdate channel payload <;> rfl

/-- What a tick does, read off a step. -/
theorem Steps.enters {s t : TickState} {keys : List PeerId} (h : s.Steps (.tick keys) t) (hs : s.Sound) :
    t.generation = s.generation + UInt64.ofNat keys.length ∧ t.system.tracking = s.system.tracking ∧
      ∀ q, (s.system.pending.lookup q = none → t.system.states.lookup q = s.system.states.lookup q) ∧
        ∀ update, s.system.pending.lookup q = some update → ∃ i < keys.length,
          Enters q update (s.generation + UInt64.ofNat i) (s.system.states.lookup q) (t.system.states.lookup q) := by
  obtain ⟨hkeys, hafter⟩ := h
  obtain ⟨n, t', heq, -, hcount, htracking, hentries⟩ := processPendingUpdates_enters hs hkeys
  rw [after, heq] at hafter
  obtain rfl := Option.some.inj hafter
  exact ⟨hcount, htracking, hentries⟩

lemma Sound.exists_tick {s : TickState} (hs : s.Sound) {keys : List PeerId} (hkeys : keys.Perm s.system.pending.keys) :
    ∃ t, s.Steps (.tick keys) t := by
  obtain ⟨n, t, heq, -⟩ := processPendingUpdates_enters hs hkeys
  refine ⟨t, hkeys, ?_⟩
  rw [after, heq]
  rfl

theorem storedWell_step {s t : TickState} {event : AvatarEvent} (hstep : s.Steps event t) (hkept : s.Kept)
    (h : Dict.All StoredWell s.system.states) : Dict.All StoredWell t.system.states := by
  cases event with
  | upsert q channel payload =>
    obtain ⟨-, hafter⟩ := hstep
    obtain rfl := Option.some.inj hafter
    dsimp only
    rw [states_upsert]
    exact h
  | remove q =>
    obtain ⟨-, hafter⟩ := hstep
    obtain rfl := Option.some.inj hafter
    exact h.erase
  | tick keys =>
    obtain ⟨-, -, hentries⟩ := hstep.enters hkept.sound
    intro q player hplayer
    cases hwaiting : s.system.pending.lookup q with
    | none => exact h q player ((hentries q).1 hwaiting ▸ hplayer)
    | some update =>
      obtain ⟨i, -, hentered⟩ := (hentries q).2 update hwaiting
      rw [hplayer] at hentered
      exact hentered.storedWell (hkept.sound q update hwaiting) fun current hcurrent => h q current hcurrent

end TickState

/-! ### The counter -/

/-- How many updates the event has processed. -/
def AvatarEvent.processed : AvatarEvent → ℕ
  | tick keys => keys.length
  | _ => 0

def processedUpdates (ts : List (Transition TickState AvatarEvent)) : ℕ := (ts.map fun tr => tr.label.processed).sum

/-- The counter after `n` updates: it starts at 1 and wraps around. -/
structure Counted (n : ℕ) (s : TickState) : Prop where
  counter : s.generation = UInt64.ofNat (1 + n)
  stored : n < 2 ^ 64 → ∀ q player, s.system.states.lookup q = some player → player.generation.toNat ≤ n

lemma Counted.toNat_add {n : ℕ} {s : TickState} (h : Counted n s) {i k : ℕ} (hi : i < k) (hk : n + k < 2 ^ 64) :
    (s.generation + UInt64.ofNat i).toNat = 1 + n + i := by
  rw [h.counter, ← UInt64.ofNat_add, UInt64.toNat_ofNat_of_lt']
  rw [UInt64.size]
  omega

lemma Enters.generation_le {peerId : PeerId} {update : PendingAvatarUpdate} {generation : UInt64} {n : ℕ}
    {entry : Option PlayerAvatarState} {player : PlayerAvatarState}
    (h : Enters peerId update generation entry (some player)) (hgeneration : generation.toNat ≤ n)
    (hentry : ∀ current, entry = some current → current.generation.toNat ≤ n) : player.generation.toNat ≤ n := by
  cases h with
  | stale hpast => exact hentry player rfl
  | moves current player _ _ hnumber => rwa [hnumber]
  | first player _ hnumber => rwa [hnumber]

theorem Counted.step {n : ℕ} {s t : TickState} {event : AvatarEvent} (h : Counted n s) (hkept : s.Kept)
    (hstep : s.Steps event t) : Counted (n + event.processed) t := by
  cases event with
  | upsert q channel payload =>
    obtain ⟨-, hafter⟩ := hstep
    obtain rfl := Option.some.inj hafter
    refine ⟨h.counter, fun hn => ?_⟩
    dsimp only
    rw [TickState.states_upsert]
    exact h.stored hn
  | remove q =>
    obtain ⟨-, hafter⟩ := hstep
    obtain rfl := Option.some.inj hafter
    exact ⟨h.counter, fun hn => Dict.All.erase (h.stored hn)⟩
  | tick keys =>
    obtain ⟨hcount, -, hentries⟩ := hstep.enters hkept.sound
    rw [AvatarEvent.processed]
    refine ⟨?_, fun hn q player hplayer => ?_⟩
    · rw [hcount, h.counter, ← UInt64.ofNat_add, Nat.add_assoc]
    · have hstored := h.stored (by omega)
      cases hwaiting : s.system.pending.lookup q with
      | none =>
        have hle := hstored q player ((hentries q).1 hwaiting ▸ hplayer)
        omega
      | some update =>
        obtain ⟨i, hi, hentered⟩ := (hentries q).2 update hwaiting
        rw [hplayer] at hentered
        refine hentered.generation_le ?_ fun current hcurrent => (hstored q current hcurrent).trans (Nat.le_add_right _ _)
        rw [h.toNat_add hi hn]
        omega

lemma processedUpdates_concat (ts : List (Transition TickState AvatarEvent)) (tr : Transition TickState AvatarEvent) :
    processedUpdates (ts ++ [tr]) = processedUpdates ts + tr.label.processed := by
  simp [processedUpdates]

/-- What holds all along a run. -/
theorem counted_of_run {ts : List (Transition TickState AvatarEvent)} {s : TickState}
    (hrun : Run TickState.Steps {} ts s) :
    s.Kept ∧ Dict.All StoredWell s.system.states ∧ Counted (processedUpdates ts) s := by
  induction hrun with
  | nil =>
    refine ⟨TickState.kept_empty, Dict.All.empty, rfl, fun _ q player hplayer => ?_⟩
    cases hplayer
  | @snoc ts s event t hrun hstep ih =>
    obtain ⟨hkept, hwell, hcounted⟩ := ih
    refine ⟨hkept.step hstep, TickState.storedWell_step hstep hkept hwell, ?_⟩
    rw [processedUpdates_concat]
    exact hcounted.step hkept hstep

/-- How far the update is ahead of the player, around the 256 numbers. -/
def PlayerAvatarState.delta (player : PlayerAvatarState) (update : PendingAvatarUpdate) : ℕ :=
  (update.sequence - player.lastInboundSequence).toNat

lemma PlayerAvatarState.isPast_iff_delta {player : PlayerAvatarState} (hreceived : player.hasReceivedFirst = true)
    (update : PendingAvatarUpdate) :
    player.IsPast update ↔ player.delta update = 0 ∨ player.delta update ≥ 128 := by
  rw [IsPast, and_iff_right hreceived, delta, ← UInt8.toNat_inj, ge_iff_le, UInt8.le_iff_toNat_le]
  exact Iff.rfl

/-- **Stored packets agree with the stored state, and stale updates change nothing.**  In every state that is
reached the packets of a player are those of its id and its number.  An update that is not ahead leaves the player
as it is; any other one moves its number by one, and its generation goes up for as long as the counter of the
updates has not gone around. -/
theorem stored_packets_agree {ts : List (Transition TickState AvatarEvent)} {s : TickState}
    (hrun : Run TickState.Steps {} ts s) {peerId : PeerId} {player : PlayerAvatarState}
    (hplayer : s.system.states.lookup peerId = some player) :
    (player.peerId = peerId ∧ (player.HasAllPackets ∨ player.HasOnePacket)) ∧
      ∀ keys t update, s.Steps (.tick keys) t → s.system.pending.lookup peerId = some update →
        (player.delta update = 0 ∨ player.delta update ≥ 128 → t.system.states.lookup peerId = some player) ∧
        (0 < player.delta update → player.delta update < 128 →
          ∃ player', t.system.states.lookup peerId = some player' ∧
            player'.outboundSequence = player.outboundSequence + 1 ∧
            (processedUpdates ts + keys.length < 2 ^ 64 → player.generation < player'.generation)) := by
  obtain ⟨hkept, hwell, hcounted⟩ := counted_of_run hrun
  refine ⟨hwell peerId player hplayer, fun keys t update hstep hupdate => ?_⟩
  have hpast := PlayerAvatarState.isPast_iff_delta (hkept.received peerId player hplayer) update
  obtain ⟨-, -, hentries⟩ := hstep.enters hkept.sound
  obtain ⟨i, hi, hentered⟩ := (hentries peerId).2 update hupdate
  rw [hplayer] at hentered
  generalize t.system.states.lookup peerId = entry at hentered
  cases hentered with
  | stale _ hstale =>
    refine ⟨fun _ => rfl, fun hpos hlt => ?_⟩
    rcases hpast.mp hstale with hzero | hfar <;> omega
  | moves _ player' hnews _ hgeneration hsequence hid =>
    refine ⟨fun hold => absurd (hpast.mpr hold) hnews, fun _ _ => ⟨player', rfl, hsequence, fun hfew => ?_⟩⟩
    have hle := hcounted.stored (by omega) peerId player hplayer
    rw [UInt64.lt_iff_toNat_lt, hgeneration, hcounted.toNat_add hi hfew]
    omega

/-- A second update waits for the player. -/
theorem stored_packets_agree_second :
    ∃ player, ((firstEvents ++ [veryLowUpdate 1]).foldl next {}).system.states.lookup 7 = some player ∧
      (player.peerId = 7 ∧ (player.HasAllPackets ∨ player.HasOnePacket)) := by
  have hrun : Run TickState.Steps {} (trace next {} (firstEvents ++ [veryLowUpdate 1]))
      ((firstEvents ++ [veryLowUpdate 1]).foldl next {}) := run_of_ready (by decide +kernel)
  obtain ⟨player, hplayer⟩ := Option.isSome_iff_exists.mp
    (show (((firstEvents ++ [veryLowUpdate 1]).foldl next {}).system.states.lookup 7).isSome by decide +kernel)
  exact ⟨player, hplayer, (stored_packets_agree hrun hplayer).1⟩

/-! ### The counter goes around -/

/-- Nothing waits, and player 7 is at number 0. -/
structure AtZero (s : TickState) : Prop where
  quiet : s.system.pending = ∅
  player : ∃ current, s.system.states.lookup 7 = some current ∧ current.hasReceivedFirst = true ∧
    current.lastInboundSequence = 0

lemma acceptedUpdate_veryLow (sequence : UInt8) :
    acceptedUpdate channels.playerAvatarVeryLow (sequence :: List.replicate 112 0) =
      some ⟨channels.playerAvatarVeryLow, sequence :: List.replicate 112 0⟩ := rfl

/-- An update that is sent again costs a number and changes nothing else. -/
lemma AtZero.again {s : TickState} (h : AtZero s) :
    ∃ mid, s.Steps (veryLowUpdate 0) mid ∧ mid.Steps (.tick [7]) { s with generation := s.generation + 1 } := by
  obtain ⟨hquiet, current, hcurrent, hreceived, hlast⟩ := h
  obtain ⟨⟨states, pending, tracking, bundleRatios⟩, generation⟩ := s
  dsimp only at hquiet hcurrent
  subst hquiet
  generalize hupdate : (⟨channels.playerAvatarVeryLow, 0 :: List.replicate 112 0⟩ : PendingAvatarUpdate) = update
  have hwhole : update.Whole := by
    rw [← hupdate]
    exact whole_of_acceptedUpdate (acceptedUpdate_veryLow 0)
  have hpast : current.IsPast update := by
    rw [PlayerAvatarState.IsPast, hlast, ← hupdate]
    exact ⟨hreceived, .inl rfl⟩
  refine ⟨⟨⟨states, (∅ : Dict PeerId PendingAvatarUpdate).insert 7 update, tracking, bundleRatios⟩, generation⟩,
    ⟨trivial, ?_⟩, .refl _, ?_⟩
  · rw [← hupdate]
    rfl
  · have hdrain : TickState.drainPending [7] ((∅ : Dict PeerId PendingAvatarUpdate).insert 7 update) =
        ([(7, update)], ∅) := rfl
    have hstore : TickState.storeUpdate ⟨⟨states, ∅, tracking, bundleRatios⟩, generation⟩ (update.processed 7) =
        some ⟨⟨states, ∅, tracking, bundleRatios⟩, generation + 1⟩ := by
      rw [TickState.storeUpdate]
      dsimp only [PendingAvatarUpdate.processed]
      rw [hcurrent]
      exact if_pos hpast
    rw [TickState.after, TickState.processPendingUpdates]
    dsimp only
    rw [hdrain]
    dsimp only
    rw [List.mapM_cons, hwhole.processPendingUpdate]
    dsimp only [Option.bind_eq_bind, Option.bind_some, List.mapM_nil, Option.pure_def]
    rw [List.foldlM_cons, hstore]
    rfl

/-- Any number of times. -/
lemma AtZero.run {s : TickState} (h : AtZero s) (n : ℕ) :
    ∃ ts, Run TickState.Steps s ts { s with generation := s.generation + UInt64.ofNat n } ∧
      ∀ tr ∈ ts, ∀ q, tr.label ≠ .remove q := by
  induction n with
  | zero =>
    refine ⟨[], (UInt64.add_zero s.generation).symm ▸ .nil, fun tr htr => absurd htr List.not_mem_nil⟩
  | succ n ih =>
    obtain ⟨ts, hrun, hstays⟩ := ih
    have hzero : AtZero { s with generation := s.generation + UInt64.ofNat n } := ⟨h.quiet, h.player⟩
    obtain ⟨mid, hupsert, htick⟩ := hzero.again
    have hnumber : s.generation + UInt64.ofNat (n + 1) = s.generation + UInt64.ofNat n + 1 := by
      rw [UInt64.ofNat_add, ← UInt64.add_assoc]
      rfl
    rw [hnumber]
    refine ⟨_, (hrun.snoc hupsert).snoc htick, ?_⟩
    simp only [List.forall_mem_append, List.forall_mem_singleton]
    exact ⟨⟨hstays, fun q => nofun⟩, fun q => nofun⟩

lemma firstEvents_atZero : AtZero (firstEvents.foldl next {}) := by
  obtain ⟨current, hcurrent, hlast⟩ := firstEvents_shown
  have hkept := (counted_of_run firstEvents_run).1
  exact ⟨AList.ext (by decide +kernel), current, hcurrent, hkept.received 7 current hcurrent, hlast⟩

/-- Once enough updates have brought the counter to 0, the next one of the player gets the least number there is. -/
lemma AtZero.falls_back {ts : List (Transition TickState AvatarEvent)} {s₀ : TickState}
    (hrun₀ : Run TickState.Steps {} ts s₀) (h₀ : AtZero s₀) {n : ℕ} (hcounter₀ : s₀.generation + UInt64.ofNat n = 0) :
    ∃ ts' s' player t update, Run TickState.Steps {} ts' s' ∧ s'.system.states.lookup 7 = some player ∧
      s'.Steps (.tick [7]) t ∧ s'.system.pending.lookup 7 = some update ∧ player.delta update = 1 ∧
      ∀ player', t.system.states.lookup 7 = some player' → player'.generation ≤ player.generation := by
  obtain ⟨ts₁, hagain, -⟩ := h₀.run n
  have hrun := hrun₀.append hagain
  have h : AtZero { s₀ with generation := s₀.generation + UInt64.ofNat n } := ⟨h₀.quiet, h₀.player⟩
  have hcounter : ({ s₀ with generation := s₀.generation + UInt64.ofNat n } : TickState).generation = 0 := hcounter₀
  generalize ({ s₀ with generation := s₀.generation + UInt64.ofNat n } : TickState) = s at hrun h hcounter
  obtain ⟨hquiet, current, hcurrent, -, hlast⟩ := h
  generalize hupdate : (⟨channels.playerAvatarVeryLow, 1 :: List.replicate 112 0⟩ : PendingAvatarUpdate) = update
  have hupsert : s.Steps (veryLowUpdate 1)
      { s with system := { s.system with pending := s.system.pending.insert 7 update } } := by
    rw [← hupdate]
    exact ⟨trivial, rfl⟩
  have hrun' := hrun.snoc hupsert
  have hkept := (counted_of_run hrun').1
  have hkeys : [7].Perm (s.system.pending.insert 7 update).keys := by
    rw [hquiet]
    exact .refl _
  have hwaiting : (s.system.pending.insert 7 update).lookup 7 = some update := AList.lookup_insert _
  have hdelta : current.delta update = 1 := by
    rw [PlayerAvatarState.delta, hlast, ← hupdate]
    rfl
  obtain ⟨t, htick⟩ := hkept.sound.exists_tick hkeys
  refine ⟨_, _, current, t, update, hrun', hcurrent, htick, hwaiting, hdelta, fun player' hplayer' => ?_⟩
  obtain ⟨i, hi, hentered⟩ := ((htick.enters hkept.sound).2.2 7).2 update hwaiting
  rw [List.length_singleton, Nat.lt_one_iff] at hi
  rw [hplayer', hcurrent, hcounter, hi] at hentered
  cases hentered with
  | stale => exact UInt64.le_refl _
  | moves _ _ _ _ hgeneration =>
    rw [hgeneration, UInt64.le_iff_toNat_le]
    exact Nat.zero_le _

/-- After 2 ^ 64 - 1 updates the counter is at 0, below the number of the first update. -/
theorem generation_goes_around :
    ¬ ∀ (ts : List (Transition TickState AvatarEvent)) (s : TickState) (peerId : PeerId) (player : PlayerAvatarState)
        (keys : List PeerId) (t : TickState) (update : PendingAvatarUpdate), Run TickState.Steps {} ts s →
        s.system.states.lookup peerId = some player → s.Steps (.tick keys) t →
        s.system.pending.lookup peerId = some update → 0 < player.delta update → player.delta update < 128 →
        ∃ player', t.system.states.lookup peerId = some player' ∧
          player'.outboundSequence = player.outboundSequence + 1 ∧ player.generation < player'.generation := by
  intro h
  have hcounter : (firstEvents.foldl next {}).generation + UInt64.ofNat (2 ^ 64 - 2) = 0 := by decide +kernel
  obtain ⟨ts, s, player, t, update, hrun, hplayer, htick, hwaiting, hdelta, hle⟩ :=
    firstEvents_atZero.falls_back firstEvents_run hcounter
  obtain ⟨player', hplayer', -, hlt⟩ := h ts s 7 player [7] t update hrun hplayer htick hwaiting
    (by omega) (by omega)
  exact UInt64.not_lt.mpr (hle player' hplayer') hlt

end BasisRust.Avatar
