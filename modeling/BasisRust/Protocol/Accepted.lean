import BasisRust.Lib.Yields
import BasisRust.Protocol.Requests
import BasisRust.Protocol.RoundTrip

/-!
# What is accepted can be passed on

The server reads a message, keeps it or wraps it, and writes it again for others.  For the messages below, which tell
themselves where they end, whatever the reader returns fits the counts of the format and is already in canonical form,
so that what is written is read back as the very message that was accepted.  Only the names of a player are an
exception: an empty one is written as `Failure`.
-/

namespace BasisRust.Protocol

open Lib

/-! ### The primitive reads -/

lemma yields_take (len : ℕ) : Yields (take len) fun bytes => bytes.length = len := by
  intro reader bytes rest h
  unfold take at h
  split at h
  next => cases h
  next hlen =>
    cases h
    exact List.length_take_of_le (not_lt.mp hlen)

/-- Bytes behind a 16-bit count are no more than it can count. -/
lemma yields_getBytes (len : UInt16) : Yields (getBytes len.toNat) BytesFit :=
  (yields_take len.toNat).mono fun bytes h => by
    have hlt := len.toNat_lt
    unfold BytesFit
    omega

lemma yields_getString : Yields getString StringFits := by
  unfold getString
  refine .skip fun lenPlus => ?_
  dsimp only
  split
  · exact .pure (by unfold StringFits; decide)
  · refine (yields_take _).bind fun bytes hbytes => ?_
    have hlt := lenPlus.toNat_lt
    split
    next text htext =>
      refine .pure ?_
      unfold StringFits
      rw [asBytes_of_fromUtf8 htext]
      omega
    next => exact fun _ _ _ h => nomatch h

/-! ### The messages -/

lemma BytesMessage.accepted : Yields deserialize Fits :=
  .skip fun len => (yields_getBytes len).bind fun _ hdata => .pure hdata

lemma ClientMetaDataMessage.accepted : Yields deserialize Fits :=
  yields_getString.bind fun _ huuid => yields_getString.bind fun _ hname => yields_getString.bind fun _ hplatform =>
    .pure ⟨huuid, hname, hplatform⟩

lemma ClientAvatarChangeMessage.accepted : Yields deserialize Fits :=
  .skip fun _ => .skip fun len => (yields_getBytes len).bind fun _ hbytes => .skip fun _ => .pure hbytes

/-- An entry without data is read with the index `0`. -/
lemma AdditionalAvatarData.accepted : Yields deserialize fun m => m.Fits ∧ m.canon = m := by
  unfold deserialize
  refine .skip fun len => ?_
  have hlt := len.toNat_lt
  split
  · exact .pure ⟨Nat.zero_le _, rfl⟩
  · next hlen =>
    refine .skip fun messageIndex => (yields_take _).bind fun data hdata => .pure ⟨?_, ?_⟩
    · unfold Fits
      dsimp only
      omega
    · rw [canon, if_neg]
      rintro rfl
      exact hlen hdata.symm

lemma LocalAvatarSyncMessage.accepted : Yields deserialize fun m => m.Fits ∧ m.canon = m := by
  unfold deserialize
  refine .skip fun level => (yields_take _).bind fun array harray => .skip fun count => ?_
  have hlt := count.toNat_lt
  have hdatas := Yields.readN AdditionalAvatarData.accepted count.toNat
  have hkept {datas : List AdditionalAvatarData} (h : ∀ d ∈ datas, d.Fits ∧ d.canon = d) :
      datas.map AdditionalAvatarData.canon = datas := (List.map_congr_left fun d hd => (h d hd).2).trans (List.map_id _)
  split
  · next hcount =>
    refine .skip fun linked => hdatas.bind fun datas h => .pure ⟨⟨harray, ?_, fun d hd => (h.2 d hd).1⟩, ?_⟩
    · dsimp only
      omega
    · have hne : datas ≠ [] := List.ne_nil_of_length_pos (by omega)
      rw [canon, hkept h.2, if_neg hne]
  · refine Yields.bind (P := fun linked => linked = 0) (.pure rfl) fun linked hlinked => ?_
    refine hdatas.bind fun datas h => .pure ⟨⟨harray, ?_, fun d hd => (h.2 d hd).1⟩, ?_⟩
    · dsimp only
      omega
    · rw [canon, hkept h.2, hlinked, ite_self]

lemma ReadyMessage.accepted :
    Yields deserialize fun m => m.Fits ∧ m.localAvatarSyncMessage.canon = m.localAvatarSyncMessage :=
  ClientMetaDataMessage.accepted.bind fun _ hmetaData => ClientAvatarChangeMessage.accepted.bind fun _ hchange =>
    LocalAvatarSyncMessage.accepted.bind fun _ hsync => .pure ⟨⟨hmetaData, hchange, hsync.1⟩, hsync.2⟩

lemma ServerSideSyncPlayerMessage.accepted : Yields deserialize fun m => m.Fits ∧ m.canon = m :=
  .skip fun _ => .skip fun _ => .skip fun _ => LocalAvatarSyncMessage.accepted.bind fun _ hsync =>
    .pure ⟨hsync.1, by rw [canon, hsync.2]⟩

lemma ServerAvatarChangeMessage.accepted : Yields deserialize Fits :=
  .skip fun _ => ClientAvatarChangeMessage.accepted.bind fun _ hchange => .pure hchange

lemma AvatarLoadDataMessage.accepted : Yields deserialize Fits :=
  .skip fun _ => .skip fun _ => .skip fun len => (yields_getBytes len).bind fun _ hpayload => .pure hpayload

/-- Outside mode 0 the transform is read as the identity. -/
lemma LocalLoadResource.accepted : Yields deserialize fun m => m.Fits ∧ m.canon = m := by
  unfold deserialize
  refine .skip fun mode => yields_getString.bind fun _ hid => yields_getString.bind fun _ hpassword => ?_
  refine yields_getString.bind fun _ hurl => yields_getString.bind fun _ hcreator => ?_
  iterate 4 refine .skip fun _ => ?_
  dsimp only
  split
  · next hmode =>
    iterate 10 refine .skip fun _ => ?_
    exact .pure ⟨⟨hid, hpassword, hurl, hcreator⟩, if_pos hmode⟩
  · next hmode => exact .pure ⟨⟨hid, hpassword, hurl, hcreator⟩, if_neg hmode⟩

lemma UnloadResource.accepted : Yields deserialize Fits :=
  .skip fun _ => yields_getString.bind fun _ hid => .pure hid

lemma PreloadReadyMessage.accepted : Yields deserialize Fits :=
  yields_getString.bind fun _ hid => .skip fun _ => .pure hid

lemma OwnershipTransferMessage.accepted : Yields deserialize Fits :=
  .skip fun _ => yields_getString.bind fun _ hid => .pure hid

lemma ContentShareMessage.accepted : Yields deserialize Fits := by
  refine yields_getString.bind fun _ hid => yields_getString.bind fun _ hurl => ?_
  refine yields_getString.bind fun _ hpassword => ?_
  iterate 4 refine .skip fun _ => ?_
  exact .pure ⟨hid, hurl, hpassword⟩

lemma CameraPipStateMessage.accepted : Yields deserialize fun m => m.canon = m := by
  unfold deserialize
  refine .skip fun playerId => .skip fun isActive => ?_
  dsimp only
  split
  · next hactive =>
    unfold readPipTransform
    iterate 7 refine .skip fun _ => ?_
    exact .pure (if_pos hactive)
  · next hactive => exact .pure (if_neg hactive)

lemma ServerLibraryItem.accepted : Yields deserialize Fits :=
  .skip fun _ => yields_getString.bind fun _ hurl => yields_getString.bind fun _ hpassword => .pure ⟨hurl, hpassword⟩

lemma ServerLibraryMessage.accepted : Yields deserialize Fits := by
  refine .skip fun count => (Yields.readN ServerLibraryItem.accepted _).bind fun items h => .pure ⟨?_, h.2⟩
  have hlt := count.toNat_lt
  dsimp only
  omega

lemma ConsoleData.accepted : Yields deserialize Fits :=
  .skip fun _ => .skip fun len => (yields_getBytes len).bind fun _ harray => .pure harray

lemma BasisP2PSignalMessage.accepted : Yields deserialize Fits :=
  .skip fun _ => yields_getString.bind fun _ htoken => .pure htoken

/-! ### All of them -/

/-- What the reader accepts is read back, up to `back`, from what the writer makes of it. -/
def PassesOn {α : Type} (read : ReadResult α) (write : α → Bytes) (back : α → α) : Prop :=
  ∀ payload m rest, read payload = .ok m rest → Decodes read (write m) (back m)

lemma PassesOn.of {α : Type} {read : ReadResult α} {write : α → Bytes} {back : α → α} {P : α → Prop}
    (haccepted : Yields read P) (hdecodes : ∀ m, P m → Decodes read (write m) (back m)) : PassesOn read write back :=
  fun payload m rest h => hdecodes m (haccepted payload m rest h)

/-- The same for a message whose canonical form is itself. -/
lemma PassesOn.of_canon {α : Type} {read : ReadResult α} {write : α → Bytes} {canon : α → α} {P : α → Prop}
    (haccepted : Yields read fun m => P m ∧ canon m = m) (hdecodes : ∀ m, P m → Decodes read (write m) (canon m)) :
    PassesOn read write id :=
  .of haccepted fun m hm => by
    have h := hdecodes m hm.1
    rwa [hm.2] at h

/-- The player's names as they are written. -/
def ReadyMessage.named (m : ReadyMessage) : ReadyMessage :=
  { m with playerMetaDataMessage := m.playerMetaDataMessage.canon }

/-- **What is accepted can be passed on.**  A message of any of these types, read from any bytes, is written so that
it is read back unchanged, with whatever follows left unread; the names of a player come back with `Failure` for an
empty one. -/
theorem accepted_passesOn :
    PassesOn BytesMessage.deserialize BytesMessage.serialize id ∧
    PassesOn PlayerIdMessage.deserialize PlayerIdMessage.serialize id ∧
    PassesOn ClientMetaDataMessage.deserialize ClientMetaDataMessage.serialize ClientMetaDataMessage.canon ∧
    PassesOn ClientAvatarChangeMessage.deserialize ClientAvatarChangeMessage.serialize id ∧
    PassesOn AdditionalAvatarData.deserialize AdditionalAvatarData.serialize id ∧
    PassesOn LocalAvatarSyncMessage.deserialize LocalAvatarSyncMessage.serialize id ∧
    PassesOn ReadyMessage.deserialize ReadyMessage.serialize ReadyMessage.named ∧
    PassesOn ServerSideSyncPlayerMessage.deserialize ServerSideSyncPlayerMessage.serialize id ∧
    PassesOn ServerAvatarChangeMessage.deserialize ServerAvatarChangeMessage.serialize id ∧
    PassesOn AvatarLoadDataMessage.deserialize AvatarLoadDataMessage.serialize id ∧
    PassesOn LocalLoadResource.deserialize LocalLoadResource.serialize id ∧
    PassesOn UnloadResource.deserialize UnloadResource.serialize id ∧
    PassesOn PreloadReadyMessage.deserialize PreloadReadyMessage.serialize id ∧
    PassesOn OwnershipTransferMessage.deserialize OwnershipTransferMessage.serialize id ∧
    PassesOn ContentShareMessage.deserialize ContentShareMessage.serialize id ∧
    PassesOn CameraPipStateMessage.deserialize CameraPipStateMessage.serialize id ∧
    PassesOn ServerLibraryMessage.deserialize ServerLibraryMessage.serialize id ∧
    PassesOn ConsoleData.deserialize ConsoleData.serialize id ∧
    PassesOn BasisP2PSignalMessage.deserialize BasisP2PSignalMessage.serialize id := by
  have hready : PassesOn ReadyMessage.deserialize ReadyMessage.serialize ReadyMessage.named :=
    .of ReadyMessage.accepted fun m hm => by
      have h := ReadyMessage.decodes hm.1
      rwa [ReadyMessage.canon, hm.2] at h
  have hcamera : PassesOn CameraPipStateMessage.deserialize CameraPipStateMessage.serialize id :=
    .of CameraPipStateMessage.accepted fun m hm => by
      have h := CameraPipStateMessage.decodes m
      rwa [hm] at h
  exact ⟨.of BytesMessage.accepted fun _ => BytesMessage.decodes,
    .of (.any _) fun m _ => PlayerIdMessage.decodes m,
    .of ClientMetaDataMessage.accepted fun _ => ClientMetaDataMessage.decodes,
    .of ClientAvatarChangeMessage.accepted fun _ => ClientAvatarChangeMessage.decodes,
    .of_canon AdditionalAvatarData.accepted fun _ => AdditionalAvatarData.decodes,
    .of_canon LocalAvatarSyncMessage.accepted fun _ => LocalAvatarSyncMessage.decodes,
    hready,
    .of_canon ServerSideSyncPlayerMessage.accepted fun _ => ServerSideSyncPlayerMessage.decodes,
    .of ServerAvatarChangeMessage.accepted fun _ => ServerAvatarChangeMessage.decodes,
    .of AvatarLoadDataMessage.accepted fun _ => AvatarLoadDataMessage.decodes,
    .of_canon LocalLoadResource.accepted fun _ => LocalLoadResource.decodes,
    .of UnloadResource.accepted fun _ => UnloadResource.decodes,
    .of PreloadReadyMessage.accepted fun _ => PreloadReadyMessage.decodes,
    .of OwnershipTransferMessage.accepted fun _ => OwnershipTransferMessage.decodes,
    .of ContentShareMessage.accepted fun _ => ContentShareMessage.decodes,
    hcamera,
    .of ServerLibraryMessage.accepted fun _ => ServerLibraryMessage.decodes,
    .of ConsoleData.accepted fun _ => ConsoleData.decodes,
    .of BasisP2PSignalMessage.accepted fun _ => BasisP2PSignalMessage.decodes⟩

/-- Metadata without names, and an entry without data whose index is not on the wire. -/
theorem accepted_passesOn_samples :
    Decodes ClientMetaDataMessage.deserialize (ClientMetaDataMessage.serialize ⟨"", "", ""⟩)
      ⟨"Failure", "Failure", "Failure"⟩ ∧
    Decodes AdditionalAvatarData.deserialize (AdditionalAvatarData.serialize ⟨0, []⟩) ⟨0, []⟩ := by
  obtain ⟨-, -, hmetaData, -, hdata, -⟩ := accepted_passesOn
  exact ⟨hmetaData [0, 0, 0, 0, 0, 0, 9] ⟨"", "", ""⟩ [9] rfl, hdata [0, 7] ⟨0, []⟩ [7] rfl⟩

end BasisRust.Protocol
