import BasisRust.Client.Connect
import BasisRust.Core.Voice
import BasisRust.Protocol.Answers

/-!
# The recipients a client sends

A client lists the ids that are to hear it, or those that are not, with a count of one byte or of two.  The server
makes the same of a list, of its complement and of a bitmap.
-/

namespace BasisRust.Client

open Lib Protocol Transport BasisRust.Core

/-! ### The client's messages -/

def serializeVoiceRecipientsSmall (recipients : List PeerId) : Bytes :=
  putU8 (UInt8.ofNat (min recipients.length 255)) ++ (recipients.take 255).flatMap putU16

def serializeVoiceRecipientsLarge (recipients : List PeerId) : Bytes :=
  putU16 (UInt16.ofNat (min recipients.length 65535)) ++ (recipients.take 65535).flatMap putU16

/-- The channel and the payload. -/
def publishVoiceRecipientExclusions (exclusions : List PeerId) : UInt8 × Bytes :=
  if exclusions.length ≤ 255 then
    (channels.audioRecipientsInverted, serializeVoiceRecipientsSmall exclusions)
  else (channels.audioRecipientsInvertedLarge, serializeVoiceRecipientsLarge exclusions)

/-! ### The bitmap -/

/-- The least number of bytes with a bit for each of the ids. -/
def bitmapLength (ids : List PeerId) : ℕ := ids.foldr (fun id len => max (id.toNat / 8 + 1) len) 0

def bitmapOf (ids : List PeerId) : Bytes :=
  (ids.map UInt16.toNat).foldl setBit (List.replicate (bitmapLength ids) 0)

/-- The count of the bytes, then the bytes. -/
def bitmapMessage (ids : List PeerId) : Bytes :=
  putU16 (UInt16.ofNat (bitmapLength ids)) ++ bitmapOf ids

lemma bitmapLength_le_iff {ids : List PeerId} {len : ℕ} :
    bitmapLength ids ≤ len ↔ ∀ id ∈ ids, id.toNat / 8 < len := by
  induction ids with
  | nil => simp [bitmapLength]
  | cons id ids ih =>
    rw [List.forall_mem_cons, ← ih, bitmapLength, List.foldr_cons, max_le_iff]
    exact Iff.rfl

lemma bitmapLength_le (ids : List PeerId) : bitmapLength ids ≤ 8192 := by
  refine bitmapLength_le_iff.mpr fun id _ => ?_
  have hlt := id.toNat_lt
  omega

lemma length_bitmapOf (ids : List PeerId) : (bitmapOf ids).length = bitmapLength ids := by
  rw [bitmapOf, length_foldl_setBit, List.length_replicate]

/-- The bits are those of the ids. -/
lemma getBit_bitmapOf {ids : List PeerId} {index : ℕ} :
    getBit (bitmapOf ids) index = true ↔ ∃ id ∈ ids, id.toNat = index := by
  have hlength : ∀ i ∈ ids.map UInt16.toNat, i / 8 < (List.replicate (bitmapLength ids) (0 : UInt8)).length := by
    rw [List.forall_mem_map, List.length_replicate]
    exact bitmapLength_le_iff.mp le_rfl
  rw [bitmapOf, getBit_foldl_setBit hlength, getBit_replicate, Bool.or_false, decide_eq_true_eq, List.mem_map]

/-! ### What the server reads -/

/-- A count and as many ids are read back, whichever count it is. -/
lemma parse_counted {largeCount : Bool} {count : Bytes} {ids : List PeerId}
    (h : Decodes (if largeCount then UInt16.toNat <$> getU16 else UInt8.toNat <$> getU8) count ids.length) :
    parse (VoiceReceiversMessage.deserialize largeCount) (count ++ ids.flatMap putU16) = some ⟨ids⟩ := by
  refine parse_of_decodes ?_
  unfold VoiceReceiversMessage.deserialize
  have hids := (decodes_ids ids).map VoiceReceiversMessage.mk
  cases largeCount with
  | true =>
    have hread : Decodes (UInt16.toNat <$> getU16) count ids.length := h
    exact hread.bind hids
  | false =>
    have hread : Decodes (UInt8.toNat <$> getU8) count ids.length := h
    exact hread.bind hids

lemma parse_small {ids : List PeerId} (h : ids.length ≤ 255) :
    parse (VoiceReceiversMessage.deserialize false) (serializeVoiceRecipientsSmall ids) = some ⟨ids⟩ := by
  have hcount : (UInt8.ofNat (min ids.length 255)).toNat = ids.length := by
    rw [Nat.min_eq_left h, UInt8.toNat_ofNat']
    omega
  have hread := (decodes_getU8 (UInt8.ofNat (min ids.length 255))).map UInt8.toNat
  rw [hcount] at hread
  rw [serializeVoiceRecipientsSmall, List.take_of_length_le h]
  exact parse_counted hread

lemma parse_large {ids : List PeerId} (h : ids.length ≤ 65535) :
    parse (VoiceReceiversMessage.deserialize true) (serializeVoiceRecipientsLarge ids) = some ⟨ids⟩ := by
  have hcount : (UInt16.ofNat (min ids.length 65535)).toNat = ids.length := by
    rw [Nat.min_eq_left h, UInt16.toNat_ofNat']
    omega
  have hread := (decodes_getU16 (UInt16.ofNat (min ids.length 65535))).map UInt16.toNat
  rw [hcount] at hread
  rw [serializeVoiceRecipientsLarge, List.take_of_length_le h]
  exact parse_counted hread

lemma bitfieldBytes_bitmapMessage (ids : List PeerId) : bitfieldBytes (bitmapMessage ids) = some (bitmapOf ids) := by
  have hlength := length_bitmapOf ids
  have hcount : (UInt16.ofNat (bitmapLength ids)).toNat = (bitmapOf ids).length := by
    have hle := bitmapLength_le ids
    rw [UInt16.toNat_ofNat', hlength]
    omega
  have hread : getU16 (bitmapMessage ids) = .ok (UInt16.ofNat (bitmapLength ids)) (bitmapOf ids) := decodes_getU16 _ _
  unfold bitfieldBytes withRead
  rw [hread]
  dsimp only
  rw [hcount, if_neg (Nat.lt_irrefl _), List.take_length]

/-! ### The same recipients -/

/-- The message has the server keep those of the set who are there, without the speaker. -/
def Keeps (env : Outside) (peer : PeerId) (delivery : DeliveryMethod) (s : ServerState) (message : UInt8 × Bytes)
    (set : PeerId → Prop) : Prop :=
  ∃ list, (s.handleMessage env peer message.1 delivery message.2).voiceRecipients.lookup peer = some list ∧
    ∀ id, id ∈ list ↔ set id ∧ id ∈ s.authenticatedPeers ∧ id ≠ peer

section Keeps

variable {env : Outside} {peer : PeerId} {delivery : DeliveryMethod} {s : ServerState} {payload : Bytes}
  {largeCount : Bool} {ids : HashSet PeerId}

/-- A list that can be read says what its channel makes of it. -/
lemma read_list {users : List PeerId} (inverted : Bool)
    (h : parse (VoiceReceiversMessage.deserialize largeCount) payload = some ⟨users⟩) :
    (RecipientEncoding.list largeCount inverted).read payload =
      some (if inverted then .allBut users else .only users) := by
  unfold RecipientEncoding.read
  dsimp only
  rw [h]
  rfl

lemma keeps_only (h : parse (VoiceReceiversMessage.deserialize largeCount) payload = some ⟨ids.elems⟩) :
    Keeps env peer delivery s ((RecipientEncoding.list largeCount false).channel, payload) (· ∈ ids) :=
  ServerState.exists_voiceRecipients (read_list false h) fun id _ _ => List.nodup_iff_count_le_one.mp ids.nodup id

lemma keeps_allBut (h : parse (VoiceReceiversMessage.deserialize largeCount) payload = some ⟨ids.elems⟩) :
    Keeps env peer delivery s ((RecipientEncoding.list largeCount true).channel, payload) (· ∉ ids) :=
  ServerState.exists_voiceRecipients (read_list true h) trivial

lemma keeps_bits : Keeps env peer delivery s (channels.audioRecipientsBitfield, bitmapMessage ids.elems) (· ∈ ids) := by
  have hread : RecipientEncoding.bitfield.read (bitmapMessage ids.elems) = some (.bits (bitmapOf ids.elems)) :=
    congrArg (Option.map Recipients.bits) (bitfieldBytes_bitmapMessage ids.elems)
  -- no bit from 65536 on is set
  have hnames : (Recipients.bits (bitmapOf ids.elems)).NamesOnce peer s := by
    intro index hlarge hbit _
    obtain ⟨id, -, rfl⟩ := getBit_bitmapOf.mp hbit
    exact absurd hlarge (Nat.not_le_of_lt id.toNat_lt)
  obtain ⟨list, hlist, hmem⟩ := ServerState.exists_voiceRecipients hread hnames
  refine ⟨list, hlist, fun id => (hmem id).trans (and_congr_left' ?_)⟩
  refine getBit_bitmapOf.trans ⟨?_, fun hid => ⟨id, hid, rfl⟩⟩
  rintro ⟨other, hother, heq⟩
  exact UInt16.toNat_inj.mp heq ▸ hother

end Keeps

/-- **The encodings agree**: a list with either count, and the bitmap, have the server keep the players of the set; the
list on the channel for exclusions has it keep the others. -/
theorem voice_recipients_agree (env : Outside) (peer : PeerId) (delivery : DeliveryMethod) (s : ServerState)
    (ids : HashSet PeerId) (h : ids.elems.length ≤ 65535) :
    (ids.elems.length ≤ 255 → Keeps env peer delivery s
        (channels.audioRecipients, serializeVoiceRecipientsSmall ids.elems) (· ∈ ids)) ∧
    Keeps env peer delivery s (channels.audioRecipientsLarge, serializeVoiceRecipientsLarge ids.elems) (· ∈ ids) ∧
    Keeps env peer delivery s (channels.audioRecipientsBitfield, bitmapMessage ids.elems) (· ∈ ids) ∧
    (ids.elems.length ≤ 255 → Keeps env peer delivery s
        (channels.audioRecipientsInverted, serializeVoiceRecipientsSmall ids.elems) (· ∉ ids)) ∧
    Keeps env peer delivery s
      (channels.audioRecipientsInvertedLarge, serializeVoiceRecipientsLarge ids.elems) (· ∉ ids) ∧
    Keeps env peer delivery s (publishVoiceRecipientExclusions ids.elems) (· ∉ ids) := by
  have honlySmall (hsmall : ids.elems.length ≤ 255) := @keeps_only env peer delivery s _ _ _ (parse_small hsmall)
  have hbutSmall (hsmall : ids.elems.length ≤ 255) := @keeps_allBut env peer delivery s _ _ _ (parse_small hsmall)
  have honlyLarge := @keeps_only env peer delivery s _ _ _ (parse_large h)
  have hbutLarge := @keeps_allBut env peer delivery s _ _ _ (parse_large h)
  refine ⟨honlySmall, honlyLarge, keeps_bits, hbutSmall, hbutLarge, ?_⟩
  unfold publishVoiceRecipientExclusions
  split
  next hsmall => exact hbutSmall hsmall
  next => exact hbutLarge

theorem voice_recipients_agree_two : Keeps plainOutside 0 .reliableOrdered (.start openConfig)
    (channels.audioRecipients, serializeVoiceRecipientsSmall [7, 300]) (· ∈ (⟨[7, 300], by decide⟩ : HashSet PeerId)) :=
  (voice_recipients_agree plainOutside 0 .reliableOrdered (.start openConfig) ⟨[7, 300], by decide⟩ (by decide)).1
    (by decide)

end BasisRust.Client
