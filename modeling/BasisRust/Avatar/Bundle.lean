import BasisRust.Lib.Checked
import BasisRust.Protocol.Bundle
import BasisRust.Protocol.Channels

/-!
# `avatar_sync.rs`: the bundles of a receiver

What a tick has for a receiver is cut into ranges, each sent as one compressed bundle.  How long a range is goes by
the compression ratio of the ones before; a bundle that comes out too large is tried once more with a shorter range,
and what is left when the loop gives up is sent message by message.  What is computed in floating point is a
parameter, and the profiler is left out.
-/

namespace BasisRust.Avatar

open Lib Protocol

structure OutboundAvatarSend where
  channel : UInt8
  payload : Bytes
  deriving DecidableEq

structure BundleAvatarSend where
  originalChannel : UInt8
  payload : Bytes
  intervalOffset : ℕ
  intervalByte : UInt8
  deriving DecidableEq

def avatarBundleWireBudgetBytes : ℕ := 1100

/-- 0.60 -/
def avatarBundleInitialRatio : F32 := 0x3f19999a

structure BundleFloats where
  /-- `(AVATAR_BUNDLE_MIN_RATIO..=AVATAR_BUNDLE_MAX_RATIO).contains(&ratio)` -/
  inRange : F32 → Bool
  /-- `((AVATAR_BUNDLE_WIRE_BUDGET_BYTES as f32 * 0.95) / ratio) as usize` -/
  targetRaw : F32 → ℕ
  /-- `((AVATAR_BUNDLE_WIRE_BUDGET_BYTES as f32 * 0.92) / observed) as usize`, where `observed` is
  `(compressed_len as f32 / raw_len.max(1) as f32).clamp(AVATAR_BUNDLE_MIN_RATIO, 0.99)` -/
  retryTargetRaw : (compressedLen rawLen : ℕ) → ℕ
  /-- `*ratio * (1.0 - observed_weight) + observed * observed_weight`, where both this and `observed`, the quotient
  of the two lengths, are clamped to the range -/
  mix : (ratio : F32) → (compressedLen rawLen : ℕ) → (observedWeight : F32) → F32

def patchIntervalBytes (payload : Bytes) (intervalOffset : ℕ) (interval : UInt8) : Bytes :=
  if payload[intervalOffset]? = some interval then payload
  else if intervalOffset < payload.length then payload.set intervalOffset interval
  else payload

/-! ### One range -/

section Range

variable (bundle : List BundleAvatarSend)

/-- The loop of `pick_bundle_chunk_end`: the first message of a range is taken however large it is. -/
def pickLoop (cursor hardEnd targetRaw chunkEnd rawAccum : ℕ) : Checked ℕ :=
  if chunkEnd < hardEnd then do
    let entry ← Checked.index bundle chunkEnd
    let entrySize := 3 + entry.payload.length
    if chunkEnd > cursor ∧ rawAccum + entrySize > targetRaw then return chunkEnd
    else pickLoop cursor hardEnd targetRaw (chunkEnd + 1) (rawAccum + entrySize)
  else return chunkEnd
termination_by hardEnd - chunkEnd

def pickBundleChunkEnd (cursor hardEnd targetRaw : ℕ) : Checked ℕ := pickLoop bundle cursor hardEnd targetRaw cursor 0

def bundleRangeRawLen (start stop : ℕ) : Checked ℕ := do
  let items ← Checked.range bundle start stop
  return (items.map fun item => 3 + item.payload.length).sum

inductive BundleEmit where
  | emitted (rawLen compressedLen : ℕ)
  | overshot (rawLen compressedLen : ℕ)

def BundleAvatarSend.slice (item : BundleAvatarSend) : AvatarBundleSlice :=
  ⟨item.originalChannel, item.payload, some (item.intervalOffset, item.intervalByte)⟩

/-- What was emitted, with the sends as they are then. -/
def tryEmitBundleRange (codec : BlockCodec) (direct : List OutboundAvatarSend) (start stop : ℕ) :
    Checked (Except String (List OutboundAvatarSend × BundleEmit)) := do
  let items ← Checked.range bundle start stop
  match tryEncodeAvatarBundleSlices codec (items.map BundleAvatarSend.slice) with
  | .error e => return .error e
  | .ok encoded =>
    if encoded.bytes.length > avatarBundleWireBudgetBytes then
      return .ok (direct, .overshot encoded.rawLen encoded.compressedLen)
    else
      return .ok (direct ++ [⟨channels.compressedAvatarBundle, encoded.bytes⟩],
        .emitted encoded.rawLen encoded.compressedLen)

end Range

/-! ### The loop -/

namespace BundleFloats

variable (floats : BundleFloats)

def validBundleRatio (ratio : F32) : F32 := if floats.inRange ratio then ratio else avatarBundleInitialRatio

def updateBundleRatio (ratio : F32) (compressedLen rawLen : ℕ) (observedWeight : F32) : F32 :=
  if rawLen = 0 then ratio else floats.mix ratio compressedLen rawLen observedWeight

end BundleFloats

/-- The variables of the loop. -/
structure BundleLoop where
  direct : List OutboundAvatarSend
  cursor : ℕ
  bundleRatio : F32
  ratio : F32

inductive BundleRound where
  | next (s : BundleLoop)
  | stop (s : BundleLoop)

section Loop

variable (codec : BlockCodec) (floats : BundleFloats) (bundle : List BundleAvatarSend) (minMessages minBytes : ℕ)

/-- A bundle was emitted: the ratio follows it, and the cursor goes behind it. -/
def BundleLoop.advance (s : BundleLoop) (direct : List OutboundAvatarSend) (cursor compressedLen rawLen : ℕ)
    (observedWeight : F32) : BundleLoop :=
  let bundleRatio := floats.updateBundleRatio s.bundleRatio compressedLen rawLen observedWeight
  { direct, cursor, bundleRatio, ratio := floats.validBundleRatio bundleRatio }

/-- The rest of a round whose bundle came out too large. -/
def retryRound (s : BundleLoop) (chunkEnd compressedLen rawLen : ℕ) : Checked BundleRound := do
  -- weight 0.7
  let s := { s with bundleRatio := floats.updateBundleRatio s.bundleRatio compressedLen rawLen 0x3f333333 }
  let retryTargetRaw := floats.retryTargetRaw compressedLen rawLen
  let picked ← pickBundleChunkEnd bundle s.cursor chunkEnd retryTargetRaw
  let retryEnd := if picked ≥ chunkEnd then s.cursor + max ((chunkEnd - s.cursor) * 3 / 4) 1 else picked
  if retryEnd ≤ s.cursor then return .stop s
  else do
    let retryRawLen ← bundleRangeRawLen bundle s.cursor retryEnd
    if retryRawLen < minBytes then return .stop s
    else
      match ← tryEmitBundleRange bundle codec s.direct s.cursor retryEnd with
      -- weight 0.5
      | .ok (direct, .emitted rawLen compressedLen) =>
        return .next (s.advance floats direct retryEnd compressedLen rawLen 0x3f000000)
      | _ => return .stop s

def emitRound (s : BundleLoop) : Checked BundleRound := do
  let targetRaw := floats.targetRaw s.ratio
  let chunkEnd ← pickBundleChunkEnd bundle s.cursor bundle.length targetRaw
  if chunkEnd ≤ s.cursor then return .stop s
  else do
    let rawLen ← bundleRangeRawLen bundle s.cursor chunkEnd
    if rawLen < minBytes then return .stop s
    else
      match ← tryEmitBundleRange bundle codec s.direct s.cursor chunkEnd with
      -- weight 0.3
      | .ok (direct, .emitted rawLen compressedLen) =>
        return .next (s.advance floats direct chunkEnd compressedLen rawLen 0x3e99999a)
      | .ok (_, .overshot rawLen compressedLen) =>
        retryRound codec floats bundle minBytes s chunkEnd compressedLen rawLen
      | .error _ => return .stop s

end Loop

/-! ### What one round does -/

section Rounds

variable {codec : BlockCodec} {floats : BundleFloats} {bundle : List BundleAvatarSend} {minMessages minBytes : ℕ}

lemma pickLoop_spec {cursor hardEnd targetRaw : ℕ} (hend : hardEnd ≤ bundle.length) (chunkEnd rawAccum : ℕ) :
    ∃ picked, pickLoop bundle cursor hardEnd targetRaw chunkEnd rawAccum = .ok picked ∧ chunkEnd ≤ picked ∧
      (picked = chunkEnd ∨ picked ≤ hardEnd) := by
  rw [pickLoop]
  by_cases hlt : chunkEnd < hardEnd
  · have hindex := Checked.index_eq (show chunkEnd < bundle.length by omega) ⟨0, [], 0, 0⟩
    rw [if_pos hlt, hindex, Checked.ok_bind]
    dsimp only
    split
    · exact ⟨chunkEnd, rfl, le_rfl, .inl rfl⟩
    · obtain ⟨picked, heq, hle, hpicked⟩ := pickLoop_spec hend (chunkEnd + 1) _
      exact ⟨picked, heq, by omega, .inr (by omega)⟩
  · rw [if_neg hlt]
    exact ⟨chunkEnd, rfl, le_rfl, .inl rfl⟩
termination_by hardEnd - chunkEnd

/-- The end that is picked is inside the list unless the cursor is not. -/
lemma pickBundleChunkEnd_spec {hardEnd : ℕ} (hend : hardEnd ≤ bundle.length) (cursor targetRaw : ℕ) :
    ∃ picked, pickBundleChunkEnd bundle cursor hardEnd targetRaw = .ok picked ∧ cursor ≤ picked ∧
      (picked = cursor ∨ picked ≤ hardEnd) :=
  pickLoop_spec hend cursor 0

lemma bundleRangeRawLen_ok {start stop : ℕ} (hle : start ≤ stop) (hstop : stop ≤ bundle.length) :
    ∃ rawLen, bundleRangeRawLen bundle start stop = .ok rawLen := by
  rw [bundleRangeRawLen, Checked.range_eq hle hstop, Checked.ok_bind]
  exact ⟨_, rfl⟩

/-- The messages of a range. -/
def rangeItems (bundle : List BundleAvatarSend) (start stop : ℕ) : List BundleAvatarSend :=
  (bundle.drop start).take (stop - start)

/-- A range was sent as one bundle that keeps to the budget. -/
structure EmittedRange (codec : BlockCodec) (bundle : List BundleAvatarSend) (start stop : ℕ)
    (direct direct' : List OutboundAvatarSend) : Prop where
  lt : start < stop
  le : stop ≤ bundle.length
  encoded : ∃ encoded, tryEncodeAvatarBundleSlices codec ((rangeItems bundle start stop).map BundleAvatarSend.slice) =
      .ok encoded ∧ encoded.bytes.length ≤ avatarBundleWireBudgetBytes ∧
    direct' = direct ++ [⟨channels.compressedAvatarBundle, encoded.bytes⟩]

lemma tryEmitBundleRange_spec (codec : BlockCodec) {start stop : ℕ} (hlt : start < stop)
    (hstop : stop ≤ bundle.length) (direct : List OutboundAvatarSend) :
    (∃ e, tryEmitBundleRange bundle codec direct start stop = .ok (.error e)) ∨
      (∃ rawLen compressedLen, tryEmitBundleRange bundle codec direct start stop =
        .ok (.ok (direct, .overshot rawLen compressedLen))) ∨
      ∃ direct' rawLen compressedLen, tryEmitBundleRange bundle codec direct start stop =
        .ok (.ok (direct', .emitted rawLen compressedLen)) ∧
          EmittedRange codec bundle start stop direct direct' := by
  rw [tryEmitBundleRange, Checked.range_eq hlt.le hstop, Checked.ok_bind]
  cases hencoded : tryEncodeAvatarBundleSlices codec ((rangeItems bundle start stop).map BundleAvatarSend.slice) with
  | error e =>
    rw [rangeItems] at hencoded
    rw [hencoded]
    exact .inl ⟨e, rfl⟩
  | ok encoded =>
    have hrange := hencoded
    rw [rangeItems] at hrange
    rw [hrange]
    dsimp only
    by_cases hlarge : encoded.bytes.length > avatarBundleWireBudgetBytes
    · rw [if_pos hlarge]
      exact .inr (.inl ⟨_, _, rfl⟩)
    · rw [if_neg hlarge]
      exact .inr (.inr ⟨_, _, _, rfl, hlt, hstop, encoded, hencoded, not_lt.mp hlarge, rfl⟩)

/-- A round that goes on has sent the messages it went over, and one that stops has sent nothing. -/
inductive RoundStep (codec : BlockCodec) (bundle : List BundleAvatarSend) (s : BundleLoop) : BundleRound → Prop
  | next (t : BundleLoop) (h : EmittedRange codec bundle s.cursor t.cursor s.direct t.direct) :
    RoundStep codec bundle s (.next t)
  | stop (t : BundleLoop) (hcursor : t.cursor = s.cursor) (hdirect : t.direct = s.direct) :
    RoundStep codec bundle s (.stop t)

/-- The two tries of a round stop it at an empty range and at one too small for a bundle, and send a range the same
way: what they do about one that failed or came out too large is theirs. -/
lemma tryRange_spec {s t : BundleLoop} {stop : ℕ} (ht : t.cursor = s.cursor ∧ t.direct = s.direct)
    (hstop : s.cursor < stop → stop ≤ bundle.length)
    {rest : Except String (List OutboundAvatarSend × BundleEmit) → Checked BundleRound}
    (hfailed : ∀ e, ∃ round, rest (.error e) = .ok round ∧ RoundStep codec bundle s round)
    (hovershot : s.cursor < stop → ∀ rawLen compressedLen,
      ∃ round, rest (.ok (s.direct, .overshot rawLen compressedLen)) = .ok round ∧ RoundStep codec bundle s round)
    (hemitted : ∀ direct rawLen compressedLen, EmittedRange codec bundle s.cursor stop s.direct direct →
      ∃ round, rest (.ok (direct, .emitted rawLen compressedLen)) = .ok round ∧ RoundStep codec bundle s round) :
    ∃ round, (if stop ≤ s.cursor then return BundleRound.stop t else do
        let rawLen ← bundleRangeRawLen bundle s.cursor stop
        if rawLen < minBytes then return BundleRound.stop t
        else tryEmitBundleRange bundle codec s.direct s.cursor stop >>= rest) = Except.ok round ∧
      RoundStep codec bundle s round := by
  by_cases hstay : stop ≤ s.cursor
  · rw [if_pos hstay]
    exact ⟨_, rfl, .stop t ht.1 ht.2⟩
  have hlt : s.cursor < stop := not_le.mp hstay
  obtain ⟨rawLen, hraw⟩ := bundleRangeRawLen_ok hlt.le (hstop hlt)
  rw [if_neg hstay, hraw, Checked.ok_bind]
  by_cases hsmall : rawLen < minBytes
  · rw [if_pos hsmall]
    exact ⟨_, rfl, .stop t ht.1 ht.2⟩
  rw [if_neg hsmall]
  rcases tryEmitBundleRange_spec codec hlt (hstop hlt) s.direct with
    ⟨e, hemit⟩ | ⟨rawLen, compressedLen, hemit⟩ | ⟨direct, rawLen, compressedLen, hemit, hrange⟩
  · rw [hemit, Checked.ok_bind]
    exact hfailed e
  · rw [hemit, Checked.ok_bind]
    exact hovershot hlt rawLen compressedLen
  · rw [hemit, Checked.ok_bind]
    exact hemitted direct rawLen compressedLen hrange

lemma retryRound_spec {s : BundleLoop} {chunkEnd : ℕ} (hlt : s.cursor < chunkEnd) (hend : chunkEnd ≤ bundle.length)
    (compressedLen rawLen : ℕ) :
    ∃ round, retryRound codec floats bundle minBytes s chunkEnd compressedLen rawLen = .ok round ∧
      RoundStep codec bundle s round := by
  obtain ⟨picked, hpicked, hle, hbound⟩ :=
    pickBundleChunkEnd_spec hend s.cursor (floats.retryTargetRaw compressedLen rawLen)
  rw [retryRound]
  dsimp only
  rw [hpicked, Checked.ok_bind]
  set retryEnd := if picked ≥ chunkEnd then s.cursor + max ((chunkEnd - s.cursor) * 3 / 4) 1 else picked with hretry
  have hretryEnd : retryEnd ≤ chunkEnd := by
    rw [hretry]
    split <;> omega
  refine tryRange_spec (s := s) ?_ (fun _ => hretryEnd.trans hend) ?_ ?_ ?_
  · exact ⟨rfl, rfl⟩
  · exact fun _ => ⟨_, rfl, .stop _ rfl rfl⟩
  · exact fun _ _ _ => ⟨_, rfl, .stop _ rfl rfl⟩
  · exact fun _ _ _ hrange => ⟨_, rfl, .next _ hrange⟩

variable (codec floats bundle minBytes) in
theorem emitRound_spec (s : BundleLoop) :
    ∃ round, emitRound codec floats bundle minBytes s = .ok round ∧ RoundStep codec bundle s round := by
  obtain ⟨chunkEnd, hpicked, hle, hbound⟩ := pickBundleChunkEnd_spec le_rfl s.cursor (floats.targetRaw s.ratio)
  rw [emitRound, hpicked, Checked.ok_bind]
  have hend : s.cursor < chunkEnd → chunkEnd ≤ bundle.length := by omega
  refine tryRange_spec (s := s) ?_ hend ?_ ?_ ?_
  · exact ⟨rfl, rfl⟩
  · exact fun _ => ⟨_, rfl, .stop _ rfl rfl⟩
  · exact fun hlt rawLen compressedLen => retryRound_spec hlt (hend hlt) compressedLen rawLen
  · exact fun _ _ _ hrange => ⟨_, rfl, .next _ hrange⟩

lemma cursor_lt_of_next {s t : BundleLoop} (h : emitRound codec floats bundle minBytes s = .ok (.next t)) :
    s.cursor < t.cursor ∧ t.cursor ≤ bundle.length := by
  obtain ⟨round, hround, hstep⟩ := emitRound_spec codec floats bundle minBytes s
  rw [h] at hround
  obtain rfl := Except.ok.inj hround
  cases hstep with
  | next _ hrange => exact ⟨hrange.lt, hrange.le⟩

end Rounds

section Loop

variable (codec : BlockCodec) (floats : BundleFloats) (bundle : List BundleAvatarSend) (minMessages minBytes : ℕ)

def emitLoop (s : BundleLoop) : Checked BundleLoop := do
  let left ← Checked.sub bundle.length s.cursor
  if left ≥ minMessages then
    match _h : emitRound codec floats bundle minBytes s with
    | .ok (.next t) => emitLoop t
    | .ok (.stop t) => return t
    | .error fault => .error fault
  else return s
termination_by bundle.length - s.cursor
decreasing_by
  have hcursor := cursor_lt_of_next _h
  omega

end Loop

/-- What the loop works on. -/
structure BundleState where
  direct : List OutboundAvatarSend
  bundle : List BundleAvatarSend
  bundleRawBytes : ℕ
  bundleRatio : F32

def BundleAvatarSend.plain (item : BundleAvatarSend) : OutboundAvatarSend :=
  ⟨item.originalChannel, patchIntervalBytes item.payload item.intervalOffset item.intervalByte⟩

def emitGreedyAvatarBundles (codec : BlockCodec) (floats : BundleFloats) (minMessages minBytes : ℕ) (s : BundleState) :
    Checked BundleState :=
  if s.bundle = [] then return s
  else do
    let t ← emitLoop codec floats s.bundle minMessages minBytes
      ⟨s.direct, 0, s.bundleRatio, floats.validBundleRatio s.bundleRatio⟩
    let rest ← Checked.rangeFrom s.bundle t.cursor
    return {
      direct := t.direct ++ rest.map BundleAvatarSend.plain
      bundle := []
      bundleRawBytes := 0
      bundleRatio := t.bundleRatio }

/-! ### What the receiver gets -/

/-- The message that is to arrive: the interval byte is written where the offset is inside the payload. -/
def BundleAvatarSend.message (item : BundleAvatarSend) : AvatarBundleItem :=
  ⟨item.originalChannel, item.payload.set item.intervalOffset item.intervalByte⟩

/-- The messages in one send. -/
def OutboundAvatarSend.messages (codec : BlockCodec) (send : OutboundAvatarSend) :
    Except BundleError (List AvatarBundleItem) :=
  if send.channel = channels.compressedAvatarBundle then decodeAvatarBundle codec send.payload
  else .ok [⟨send.channel, send.payload⟩]

/-- The messages in all of the sends, one after the other. -/
def receivedMessages (codec : BlockCodec) : List OutboundAvatarSend → Except BundleError (List AvatarBundleItem)
  | [] => .ok []
  | send :: sends => do return (← send.messages codec) ++ (← receivedMessages codec sends)

/-- The receiver gets the messages, and no bundle is larger than the budget. -/
structure Delivers (codec : BlockCodec) (sends : List OutboundAvatarSend) (messages : List AvatarBundleItem) :
    Prop where
  received : receivedMessages codec sends = .ok messages
  fits : ∀ send ∈ sends, send.channel = channels.compressedAvatarBundle → send.payload.length ≤ 1100

lemma BundleAvatarSend.item_slice (send : BundleAvatarSend) : send.slice.item = send.message := by
  rw [AvatarBundleSlice.item, slice, AvatarBundleSlice.written_patch]
  rfl

/-- The two paths patch the interval byte alike. -/
lemma patchIntervalBytes_eq (payload : Bytes) (offset : ℕ) (interval : UInt8) :
    patchIntervalBytes payload offset interval = payload.set offset interval := by
  unfold patchIntervalBytes
  split
  next hsame =>
    obtain ⟨hlt, rfl⟩ := List.getElem?_eq_some_iff.mp hsame
    exact (List.set_getElem_self hlt).symm
  next =>
    split
    · rfl
    next hout => exact (List.set_eq_of_length_le (not_lt.mp hout)).symm

namespace Delivers

variable {codec : BlockCodec}

lemma nil : Delivers codec [] [] := ⟨rfl, fun _ hsend => absurd hsend List.not_mem_nil⟩

lemma cons {send : OutboundAvatarSend} {sends : List OutboundAvatarSend} {messages rest : List AvatarBundleItem}
    (hsend : send.messages codec = .ok messages)
    (hfits : send.channel = channels.compressedAvatarBundle → send.payload.length ≤ 1100)
    (h : Delivers codec sends rest) : Delivers codec (send :: sends) (messages ++ rest) := by
  constructor
  · rw [receivedMessages, hsend, h.received]
    rfl
  · exact List.forall_mem_cons.mpr ⟨hfits, h.fits⟩

lemma append {sends sends' : List OutboundAvatarSend} {messages messages' : List AvatarBundleItem}
    (h : Delivers codec sends messages) (h' : Delivers codec sends' messages') :
    Delivers codec (sends ++ sends') (messages ++ messages') := by
  induction sends generalizing messages with
  | nil =>
    obtain rfl := Except.ok.inj h.received
    exact h'
  | cons send sends ih =>
    obtain ⟨hreceived, hfits⟩ := h
    rw [List.forall_mem_cons] at hfits
    rw [receivedMessages] at hreceived
    cases hsend : send.messages codec with
    | error e =>
      rw [hsend] at hreceived
      cases hreceived
    | ok first =>
      cases hrest : receivedMessages codec sends with
      | error e =>
        rw [hsend, hrest] at hreceived
        cases hreceived
      | ok rest =>
        rw [hsend, hrest] at hreceived
        obtain rfl := Except.ok.inj hreceived
        rw [List.cons_append, List.append_assoc]
        exact (ih ⟨hrest, hfits.2⟩).cons hsend hfits.1

/-- Messages that are sent one by one. -/
lemma plain {items : List BundleAvatarSend}
    (hitems : ∀ item ∈ items, item.originalChannel ≠ channels.compressedAvatarBundle) :
    Delivers codec (items.map BundleAvatarSend.plain) (items.map BundleAvatarSend.message) := by
  induction items with
  | nil => exact .nil
  | cons item items ih =>
    rw [List.forall_mem_cons] at hitems
    have hmessages : item.plain.messages codec = .ok [item.message] := by
      rw [OutboundAvatarSend.messages, BundleAvatarSend.plain, if_neg hitems.1, patchIntervalBytes_eq]
      rfl
    exact (ih hitems.2).cons hmessages fun heq => absurd heq hitems.1

/-- A range that is sent as a bundle. -/
lemma bundle (hcodec : codec.Lossless) {items : List BundleAvatarSend} {encoded : EncodedAvatarBundle}
    (hencoded : tryEncodeAvatarBundleSlices codec (items.map BundleAvatarSend.slice) = .ok encoded)
    (hfits : encoded.bytes.length ≤ avatarBundleWireBudgetBytes) :
    Delivers codec [⟨channels.compressedAvatarBundle, encoded.bytes⟩] (items.map BundleAvatarSend.message) := by
  have hmessages : OutboundAvatarSend.messages codec ⟨channels.compressedAvatarBundle, encoded.bytes⟩ =
      .ok (items.map BundleAvatarSend.message) := by
    rw [OutboundAvatarSend.messages, if_pos rfl, decodeAvatarBundle_of_encoded hcodec hencoded, List.map_map]
    exact congrArg Except.ok (List.map_congr_left fun item _ => item.item_slice)
  have h := nil.cons hmessages fun _ => hfits
  rwa [List.append_nil] at h

end Delivers

/-- What lies before the cursor has been sent. -/
structure SentSoFar (codec : BlockCodec) (bundle : List BundleAvatarSend) (direct : List OutboundAvatarSend)
    (s : BundleLoop) : Prop where
  le : s.cursor ≤ bundle.length
  sent : ∃ sends, s.direct = direct ++ sends ∧
    Delivers codec sends ((bundle.take s.cursor).map BundleAvatarSend.message)

section Delivery

variable {codec : BlockCodec} {floats : BundleFloats} {bundle : List BundleAvatarSend} {minMessages minBytes : ℕ}
  {direct : List OutboundAvatarSend}

lemma SentSoFar.next (hcodec : codec.Lossless) {s t : BundleLoop} (h : SentSoFar codec bundle direct s)
    (hrange : EmittedRange codec bundle s.cursor t.cursor s.direct t.direct) : SentSoFar codec bundle direct t := by
  obtain ⟨sends, hsends, hdelivers⟩ := h.sent
  obtain ⟨encoded, hencoded, hfits, hdirect⟩ := hrange.encoded
  refine ⟨hrange.le, sends ++ [⟨channels.compressedAvatarBundle, encoded.bytes⟩], ?_, ?_⟩
  · rw [hdirect, hsends, List.append_assoc]
  · have htake : bundle.take t.cursor = bundle.take s.cursor ++ rangeItems bundle s.cursor t.cursor := by
      rw [rangeItems, ← List.take_add, Nat.add_sub_cancel' hrange.lt.le]
    rw [htake, List.map_append]
    exact hdelivers.append (.bundle hcodec hencoded hfits)

variable (floats minMessages minBytes) in
theorem emitLoop_spec (hcodec : codec.Lossless) (s : BundleLoop) (h : SentSoFar codec bundle direct s) :
    ∃ t, emitLoop codec floats bundle minMessages minBytes s = .ok t ∧ SentSoFar codec bundle direct t := by
  obtain ⟨round, hround, hstep⟩ := emitRound_spec codec floats bundle minBytes s
  rw [emitLoop, Checked.sub_eq h.le, Checked.ok_bind]
  by_cases hmore : bundle.length - s.cursor ≥ minMessages
  · rw [if_pos hmore]
    cases hstep with
    | stop t hcursor hdirect =>
      rw [hround]
      obtain ⟨hle, hsent⟩ := h
      exact ⟨t, rfl, hcursor ▸ hle, by rw [hcursor, hdirect]; exact hsent⟩
    | next t hrange =>
      rw [hround]
      have hlt := hrange.lt
      have hle := hrange.le
      exact emitLoop_spec hcodec t (h.next hcodec hrange)
  · rw [if_neg hmore]
    exact ⟨s, rfl, h⟩
termination_by bundle.length - s.cursor

/-- **Greedy bundling delivers every message once, in order.**  Whatever the compressor and the floating point
arithmetic make of the sizes, the loop ends without a fault, and what it has appended is received as the messages
that were to be sent. -/
theorem emitGreedyAvatarBundles_delivers (hcodec : codec.Lossless) (floats : BundleFloats) (minMessages minBytes : ℕ)
    (s : BundleState) (hitems : ∀ item ∈ s.bundle, item.originalChannel ≠ channels.compressedAvatarBundle) :
    ∃ t sends, emitGreedyAvatarBundles codec floats minMessages minBytes s = .ok t ∧ t.bundle = [] ∧
      t.direct = s.direct ++ sends ∧ Delivers codec sends (s.bundle.map BundleAvatarSend.message) := by
  rw [emitGreedyAvatarBundles]
  by_cases hempty : s.bundle = []
  · rw [if_pos hempty, hempty]
    exact ⟨s, [], rfl, hempty, (List.append_nil _).symm, .nil⟩
  · rw [if_neg hempty]
    obtain ⟨t, hloop, hle, sends, hsends, hdelivers⟩ := emitLoop_spec floats minMessages minBytes hcodec
      ⟨s.direct, 0, s.bundleRatio, floats.validBundleRatio s.bundleRatio⟩
      ⟨Nat.zero_le _, [], (List.append_nil _).symm, .nil⟩
    rw [hloop, Checked.ok_bind, Checked.rangeFrom_eq hle, Checked.ok_bind]
    refine ⟨_, sends ++ (s.bundle.drop t.cursor).map BundleAvatarSend.plain, rfl, rfl, ?_, ?_⟩
    · rw [hsends, List.append_assoc]
    · have hrest : ∀ item ∈ s.bundle.drop t.cursor, item.originalChannel ≠ channels.compressedAvatarBundle :=
        fun item hitem => hitems item (List.mem_of_mem_drop hitem)
      have h := hdelivers.append (.plain hrest)
      rwa [← List.map_append, List.take_append_drop] at h

/-- The compressor that leaves everything as it is. -/
def storedBlocks : BlockCodec where
  compress raw := raw
  decompress bytes _ := some bytes

/-- Ranges of 1045 bytes, then of 1012. -/
def plainBundleFloats : BundleFloats where
  inRange _ := true
  targetRaw _ := 1045
  retryTargetRaw _ _ := 1012
  mix ratio _ _ _ := ratio

/-- Two messages of the lowest quality, the second from a large id. -/
def twoSends : BundleState where
  direct := [⟨channels.playerAvatarLow, [1, 2]⟩]
  bundle := [⟨channels.playerAvatarVeryLow, [7, 0, 1] ++ List.replicate 112 5, 1, 9⟩,
    ⟨channels.playerAvatarVeryLowLarge, [44, 1, 0, 1] ++ List.replicate 112 6, 2, 20⟩]
  bundleRawBytes := 237
  bundleRatio := avatarBundleInitialRatio

theorem emitGreedyAvatarBundles_delivers_twoSends :
    ∃ t sends, emitGreedyAvatarBundles storedBlocks plainBundleFloats 2 128 twoSends = .ok t ∧ t.bundle = [] ∧
      t.direct = twoSends.direct ++ sends ∧
      Delivers storedBlocks sends (twoSends.bundle.map BundleAvatarSend.message) :=
  emitGreedyAvatarBundles_delivers (fun _ => rfl) plainBundleFloats 2 128 twoSends (by decide)

end Delivery

end BasisRust.Avatar
