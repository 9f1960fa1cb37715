import BasisRust.Core.System
import BasisRust.Lib.Bitmap

/-!
# Who hears a speaker

A speaker's recipients come as a list of ids, as a list of those that are left out, or as a bitmap.  The server keeps
of them who is there, and sends each packet to every entry of the list it keeps.
-/

namespace BasisRust.Core

open Lib Protocol Transport
open P2p

/-! ### What a payload says -/

/-- The form in which a speaker's recipients are sent. -/
inductive RecipientEncoding where
  | list (largeCount inverted : Bool)
  | bitfield
  deriving DecidableEq, Repr

namespace RecipientEncoding

def channel : RecipientEncoding → UInt8
  | list false false => channels.audioRecipients
  | list true false => channels.audioRecipientsLarge
  | list false true => channels.audioRecipientsInverted
  | list true true => channels.audioRecipientsInvertedLarge
  | bitfield => channels.audioRecipientsBitfield

end RecipientEncoding

/-- Those who are to hear the speaker, those who are not, or a bit for each id. -/
inductive Recipients where
  | only (users : List PeerId)
  | allBut (users : List PeerId)
  | bits (bytes : Bytes)
  deriving DecidableEq

/-- What the payload says, if it can be read. -/
def RecipientEncoding.read : RecipientEncoding → Bytes → Option Recipients
  | list largeCount inverted, payload =>
    (parse (VoiceReceiversMessage.deserialize largeCount) payload).map fun message =>
      if inverted then .allBut message.users else .only message.users
  | bitfield, payload => (bitfieldBytes payload).map .bits

namespace Recipients

/-- The id is to hear the speaker. -/
def Denotes : Recipients → PeerId → Prop
  | only users, id => id ∈ users
  | allBut users, id => id ∉ users
  | bits bytes, id => getBit bytes id.toNat = true

/-- The player is there, and is not the speaker. -/
def isListener (peer : PeerId) (s : ServerState) (id : PeerId) : Bool := id ≠ peer && id ∈ s.authenticatedPeers

@[simp] lemma isListener_iff {peer id : PeerId} {s : ServerState} :
    isListener peer s id = true ↔ id ∈ s.authenticatedPeers ∧ id ≠ peer := by
  unfold isListener
  rw [Bool.and_eq_true, decide_eq_true_eq, decide_eq_true_eq, and_comm]

/-- The list that is kept of them. -/
def kept (peer : PeerId) (s : ServerState) : Recipients → List PeerId
  | only users => users.filter (isListener peer s)
  | allBut users => s.authenticatedPeers.keys.filter fun id => id ≠ peer && id ∉ users
  | bits bytes => (bitfieldIds bytes).filter (isListener peer s)

/-- No id that could be kept is there twice: not in a list, and not as the remainder of a bit that no id has. -/
def NamesOnce (peer : PeerId) (s : ServerState) : Recipients → Prop
  | only users => ∀ id ∈ s.authenticatedPeers, id ≠ peer → users.count id ≤ 1
  | allBut _ => True
  | bits bytes => ∀ index, 65536 ≤ index → getBit bytes index = true →
      UInt16.ofNat index ∈ s.authenticatedPeers → UInt16.ofNat index = peer

end Recipients

namespace ServerState

variable {s : ServerState} {peer : PeerId}

/-- Each of the five channels keeps the list that the payload stands for, or leaves the one that was there. -/
lemma handleMessage_recipients (env : Outside) (peer : PeerId) (encoding : RecipientEncoding)
    (delivery : DeliveryMethod) (payload : Bytes) (s : ServerState) :
    s.handleMessage env peer encoding.channel delivery payload =
      (encoding.read payload).elim s fun recipients => s.setVoiceRecipients peer (recipients.kept peer s) := by
  cases encoding with
  | list largeCount inverted =>
    have harm : armOf (RecipientEncoding.list largeCount inverted).channel = .audioRecipients largeCount inverted := by
      revert largeCount inverted
      decide
    rw [handleMessage, harm]
    change s.updateVoiceRecipients peer payload largeCount inverted = _
    unfold updateVoiceRecipients onParsed RecipientEncoding.read
    dsimp only
    cases parse (VoiceReceiversMessage.deserialize largeCount) payload with
    | none => rfl
    | some message =>
      cases inverted with
      | true => rfl
      | false => rfl
  | bitfield =>
    change s.updateVoiceRecipientsBitfield peer payload = _
    unfold updateVoiceRecipientsBitfield RecipientEncoding.read
    dsimp only
    cases bitfieldBytes payload with
    | none => rfl
    | some bytes => rfl

/-! ### Clean lists -/

/-- The list has everybody who is to hear the speaker and is there, once, and nobody else. -/
structure CleanList (peer : PeerId) (recipients : Recipients) (s : ServerState) (list : List PeerId) : Prop where
  nodup : list.Nodup
  notSelf : peer ∉ list
  authenticated : ∀ id ∈ list, id ∈ s.authenticatedPeers
  exact : ∀ id, id ∈ list ↔ recipients.Denotes id ∧ id ∈ s.authenticatedPeers ∧ id ≠ peer

/-- The message is for the peer. -/
def isFor (target : PeerId) : Outgoing → Bool
  | .send target' _ _ _ => target' = target
  | .natIntroduce _ _ _ _ _ => false

/-- With this list a packet of the speaker's goes to nobody twice. -/
def RelaysOnce (peer : PeerId) (list : List PeerId) : Prop :=
  ∀ (s : ServerState) (segment : Bytes) (target : PeerId), s.voiceRecipients.lookup peer = some list →
    (((s.relayVoiceMessage peer segment).sent.drop s.sent.length).countP (isFor target)) ≤ 1

/-- What is sent is sent to entries of the list. -/
lemma relaysOnce_of_nodup {list : List PeerId} (h : list.Nodup) : RelaysOnce peer list := by
  intro s segment target hlookup
  unfold relayVoiceMessage
  rw [hlookup]
  dsimp only [post]
  rw [List.drop_left]
  generalize (if isLargeId peer then channels.voiceLarge else channels.voice) = channel
  have hfor : isFor target ∘ (fun recipient => Outgoing.send recipient channel .unreliable (voicePayload peer segment)) =
      (· == target) := by
    funext recipient
    simp only [Function.comp_apply, isFor]
    rfl
  calc _ ≤ ((list.filter fun recipient => !s.p2pBroker.isOffloaded peer recipient).map fun recipient =>
        Outgoing.send recipient channel .unreliable (voicePayload peer segment)).countP (isFor target) :=
          List.filter_sublist.countP_le
    _ = (list.filter fun recipient => !s.p2pBroker.isOffloaded peer recipient).count target := by
        rw [List.countP_map, hfor, List.count]
    _ ≤ list.count target := List.filter_sublist.count_le target
    _ ≤ 1 := List.nodup_iff_count_le_one.mp h target

lemma bitfieldIds_eq (bytes : Bytes) : bitfieldIds bytes = (setIndexes bytes).map UInt16.ofNat := by
  rw [← flatMap_zipIdx_testBit, List.map_flatMap]
  simp only [List.map_map]
  rfl

lemma cleanList_only_iff {users : List PeerId} :
    CleanList peer (.only users) s ((Recipients.only users).kept peer s) ↔
      (Recipients.only users).NamesOnce peer s := by
  have hcount {id : PeerId} (hid : Recipients.isListener peer s id = true) :
      (users.filter (Recipients.isListener peer s)).count id = users.count id := List.count_filter hid
  constructor
  · intro h id hid hne
    rw [← hcount (Recipients.isListener_iff.mpr ⟨hid, hne⟩)]
    exact List.nodup_iff_count_le_one.mp h.nodup id
  · intro h
    have hmem (id : PeerId) : id ∈ (Recipients.only users).kept peer s ↔
        id ∈ users ∧ id ∈ s.authenticatedPeers ∧ id ≠ peer := by
      rw [Recipients.kept, List.mem_filter, Recipients.isListener_iff]
    refine ⟨List.nodup_iff_count_le_one.mpr fun id => ?_, fun hself => ((hmem peer).mp hself).2.2 rfl,
      fun id hid => ((hmem id).mp hid).2.1, hmem⟩
    by_cases hid : Recipients.isListener peer s id = true
    · rw [Recipients.kept, hcount hid]
      exact h id (Recipients.isListener_iff.mp hid).1 (Recipients.isListener_iff.mp hid).2
    · rw [Recipients.kept, List.count_eq_zero_of_not_mem fun hin => hid (List.mem_filter.mp hin).2]
      exact Nat.zero_le 1

/-- The roster has everybody once. -/
lemma cleanList_allBut {users : List PeerId} :
    CleanList peer (.allBut users) s ((Recipients.allBut users).kept peer s) := by
  have hmem (id : PeerId) : id ∈ (Recipients.allBut users).kept peer s ↔
      id ∉ users ∧ id ∈ s.authenticatedPeers ∧ id ≠ peer := by
    simp only [Recipients.kept, List.mem_filter, AList.mem_keys, Bool.and_eq_true, decide_eq_true_eq]
    tauto
  refine ⟨s.authenticatedPeers.nodupKeys.filter _, fun hself => ?_, fun id hid => ?_, hmem⟩
  · exact ((hmem peer).mp hself).2.2 rfl
  · exact ((hmem id).mp hid).2.1

/-- A bit from 65536 on stands for the id that is left of its number. -/
lemma cleanList_bits_iff {bytes : Bytes} :
    CleanList peer (.bits bytes) s ((Recipients.bits bytes).kept peer s) ↔
      (Recipients.bits bytes).NamesOnce peer s := by
  let indexes := (setIndexes bytes).filter (Recipients.isListener peer s ∘ UInt16.ofNat)
  have hlist : (Recipients.bits bytes).kept peer s = indexes.map UInt16.ofNat := by
    rw [Recipients.kept, bitfieldIds_eq, List.filter_map]
  have hindex (index : ℕ) : index ∈ indexes ↔
      getBit bytes index = true ∧ UInt16.ofNat index ∈ s.authenticatedPeers ∧ UInt16.ofNat index ≠ peer := by
    rw [List.mem_filter, mem_setIndexes, Function.comp_apply, Recipients.isListener_iff]
  rw [hlist]
  constructor
  · intro h index hlarge hbit hthere
    by_contra hne
    have hmem := (hindex index).mpr ⟨hbit, hthere, hne⟩
    obtain ⟨hdenoted, -⟩ := (h.exact _).mp (List.mem_map_of_mem hmem)
    have hother : (UInt16.ofNat index).toNat ∈ indexes := by
      rw [hindex, UInt16.ofNat_toNat]
      exact ⟨hdenoted, hthere, hne⟩
    have heq := List.inj_on_of_nodup_map h.nodup hother hmem (UInt16.ofNat_toNat)
    have hlt := (UInt16.ofNat index).toNat_lt
    omega
  · intro h
    have hsmall {index : ℕ} (hin : index ∈ indexes) : (UInt16.ofNat index).toNat = index := by
      obtain ⟨hbit, hthere, hne⟩ := (hindex index).mp hin
      have hlt : index < 65536 := by
        by_contra hlarge
        exact hne (h index (Nat.le_of_not_lt hlarge) hbit hthere)
      rw [UInt16.toNat_ofNat']
      exact Nat.mod_eq_of_lt hlt
    have hmem (id : PeerId) : id ∈ indexes.map UInt16.ofNat ↔
        getBit bytes id.toNat = true ∧ id ∈ s.authenticatedPeers ∧ id ≠ peer := by
      rw [List.mem_map]
      constructor
      · rintro ⟨index, hin, rfl⟩
        rw [hsmall hin]
        exact (hindex index).mp hin
      · intro hid
        refine ⟨id.toNat, (hindex id.toNat).mpr ?_, UInt16.ofNat_toNat⟩
        rw [UInt16.ofNat_toNat]
        exact hid
    refine ⟨List.Nodup.map_on (fun i hi j hj heq => ?_) ((nodup_setIndexes bytes).filter _),
      fun hself => ((hmem peer).mp hself).2.2 rfl, fun id hid => ((hmem id).mp hid).2.1, hmem⟩
    rw [← hsmall hi, ← hsmall hj, heq]

theorem cleanList_kept_iff {recipients : Recipients} :
    CleanList peer recipients s (recipients.kept peer s) ↔ recipients.NamesOnce peer s := by
  cases recipients with
  | only users => exact cleanList_only_iff
  | allBut users => exact iff_of_true cleanList_allBut trivial
  | bits bytes => exact cleanList_bits_iff

/-- **A payload that can be read leaves a clean list**, one that has a packet sent to nobody twice, exactly when it
names no id twice. -/
theorem voice_recipients_clean_iff (env : Outside) (peer : PeerId) (encoding : RecipientEncoding)
    (delivery : DeliveryMethod) (payload : Bytes) (s : ServerState) :
    (∀ recipients list, encoding.read payload = some recipients →
      (s.handleMessage env peer encoding.channel delivery payload).voiceRecipients.lookup peer = some list →
        CleanList peer recipients s list ∧ RelaysOnce peer list) ↔
      ∀ recipients, encoding.read payload = some recipients → recipients.NamesOnce peer s := by
  rw [handleMessage_recipients]
  refine forall_congr' fun recipients => ?_
  constructor
  · intro h hread
    rw [hread] at h
    exact cleanList_kept_iff.mp (h _ rfl (AList.lookup_insert _)).1
  · rintro h list hread hlookup
    rw [hread] at hlookup
    have hkept : some (recipients.kept peer s) = some list :=
      (AList.lookup_insert s.voiceRecipients).symm.trans hlookup
    obtain rfl := Option.some.inj hkept
    have hclean := cleanList_kept_iff.mpr (h hread)
    exact ⟨hclean, relaysOnce_of_nodup hclean.nodup⟩

/-- Two ids, both the second client's. -/
def listedTwice : Bytes := [2, 1, 0, 1, 0]

theorem voice_recipient_kept_twice : ∃ ts s, Run Steps (.start openConfig) ts s ∧
    ¬ ∀ recipients list, (RecipientEncoding.list false false).read listedTwice = some recipients →
      (s.handleMessage plainOutside 0 (RecipientEncoding.list false false).channel .reliableOrdered
        listedTwice).voiceRecipients.lookup 0 = some list →
          CleanList 0 recipients s list ∧ RelaysOnce 0 list := by
  let s := twoClients.foldl next (.start openConfig)
  refine ⟨_, s, run_of_enabled twoClients (by decide +kernel), fun h => ?_⟩
  have hclean := (h (.only [1, 1]) [1, 1] (by decide +kernel) (by decide +kernel)).1
  exact absurd hclean.nodup (by decide)

/-- What a payload that names nobody twice has the server keep. -/
lemma exists_voiceRecipients {env : Outside} {encoding : RecipientEncoding} {delivery : DeliveryMethod}
    {payload : Bytes} {recipients : Recipients} (hread : encoding.read payload = some recipients)
    (hnames : recipients.NamesOnce peer s) :
    ∃ list, (s.handleMessage env peer encoding.channel delivery payload).voiceRecipients.lookup peer = some list ∧
      ∀ id, id ∈ list ↔ recipients.Denotes id ∧ id ∈ s.authenticatedPeers ∧ id ≠ peer := by
  refine ⟨recipients.kept peer s, ?_, (cleanList_kept_iff.mpr hnames).exact⟩
  rw [handleMessage_recipients, hread]
  exact AList.lookup_insert s.voiceRecipients

end ServerState
end BasisRust.Core
