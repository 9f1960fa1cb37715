import BasisRust.Protocol.Messages

/-!
# Decode undoes encode

Every self-delimiting message is read back from its own bytes, up to `canon`, with whatever follows
left unread.  One lemma a message, following its reader field by field; a nested message is one step.
-/

namespace BasisRust.Protocol

open Lib

lemma toNat_ofNat_length {bs : Bytes} (h : BytesFit bs) :
    (UInt16.ofNat bs.length).toNat = bs.length := by
  rw [UInt16.toNat_ofNat']
  unfold BytesFit at h
  omega

lemma nonEmptyOrFailure_fits {s : String} (h : StringFits s) : StringFits (nonEmptyOrFailure s) := by
  unfold nonEmptyOrFailure
  split
  · unfold StringFits
    decide
  · exact h

theorem BytesMessage.decodes {m : BytesMessage} (h : m.Fits) :
    Decodes deserialize m.serialize m := by
  unfold deserialize serialize
  refine (decodes_getU16 _).bind ?_
  exact (decodes_getBytes (toNat_ofNat_length h).symm).map _

theorem PlayerIdMessage.decodes (m : PlayerIdMessage) : Decodes deserialize m.serialize m :=
  (decodes_getU16 m.playerId).map _

theorem ClientMetaDataMessage.decodes {m : ClientMetaDataMessage} (h : m.Fits) :
    Decodes deserialize m.serialize m.canon := by
  unfold deserialize serialize
  simp only [List.append_assoc]
  refine (decodes_getString (nonEmptyOrFailure_fits h.playerUuid)).bind ?_
  refine (decodes_getString (nonEmptyOrFailure_fits h.playerDisplayName)).bind ?_
  exact (decodes_getString (nonEmptyOrFailure_fits h.playerPlatform)).map _

theorem ClientAvatarChangeMessage.decodes {m : ClientAvatarChangeMessage} (h : m.Fits) :
    Decodes deserialize m.serialize m := by
  unfold deserialize serialize
  simp only [List.append_assoc]
  refine (decodes_getU8 _).bind ?_
  refine (decodes_getU16 _).bind ?_
  refine (decodes_getBytes (toNat_ofNat_length h).symm).bind ?_
  exact (decodes_getU8 _).map _

theorem AdditionalAvatarData.decodes {m : AdditionalAvatarData} (h : m.Fits) :
    Decodes deserialize m.serialize m.canon := by
  have hmin : min m.data.length 255 = m.data.length := min_eq_left h
  have hlen : (UInt8.ofNat m.data.length).toNat = m.data.length := by
    rw [UInt8.toNat_ofNat']
    unfold Fits at h
    omega
  unfold deserialize serialize
  simp only [hmin, List.take_length]
  refine (decodes_getU8 _).bind ?_
  rw [hlen]
  by_cases hd : m.data = []
  · rw [canon, if_pos hd, hd]
    exact Decodes.pure _
  · have hpos : 0 < m.data.length := List.length_pos_iff.mpr hd
    rw [canon, if_neg hd, if_pos hpos, if_neg hpos.ne']
    refine (decodes_getU8 _).bind ?_
    exact (decodes_getBytes rfl).map _

theorem LocalAvatarSyncMessage.decodes {m : LocalAvatarSyncMessage} (h : m.Fits) :
    Decodes deserialize m.serialize m.canon := by
  have hcount : (UInt8.ofNat m.additionalAvatarDatas.length).toNat
      = m.additionalAvatarDatas.length := by
    rw [UInt8.toNat_ofNat']
    have := h.count
    omega
  unfold deserialize serialize
  simp only [List.append_assoc]
  refine (decodes_getU8 _).bind ?_
  refine (decodes_getBytes h.array).bind ?_
  refine (decodes_getU8 _).bind ?_
  simp only [hcount]
  have hdatas := Decodes.readN fun d hd => AdditionalAvatarData.decodes (h.datas d hd)
  by_cases hd : m.additionalAvatarDatas = []
  · simp only [hd, canon]
    exact Decodes.pure _
  · have hpos : 0 < m.additionalAvatarDatas.length := List.length_pos_iff.mpr hd
    simp only [canon, if_pos hpos, ne_eq, hd, not_false_eq_true, if_true]
    refine (decodes_getU8 _).bind ?_
    exact hdatas.map _

theorem ReadyMessage.decodes {m : ReadyMessage} (h : m.Fits) :
    Decodes deserialize m.serialize m.canon := by
  unfold deserialize serialize
  simp only [List.append_assoc]
  refine (ClientMetaDataMessage.decodes h.playerMetaDataMessage).bind ?_
  refine (ClientAvatarChangeMessage.decodes h.clientAvatarChangeMessage).bind ?_
  exact (LocalAvatarSyncMessage.decodes h.localAvatarSyncMessage).map _

theorem ServerSideSyncPlayerMessage.decodes {m : ServerSideSyncPlayerMessage} (h : m.Fits) :
    Decodes deserialize m.serialize m.canon := by
  unfold deserialize serialize
  simp only [List.append_assoc]
  refine (decodes_getU16 _).bind ?_
  refine (decodes_getU8 _).bind ?_
  refine (decodes_getU8 _).bind ?_
  exact (LocalAvatarSyncMessage.decodes h).map _

theorem ServerAvatarChangeMessage.decodes {m : ServerAvatarChangeMessage} (h : m.Fits) :
    Decodes deserialize m.serialize m := by
  unfold deserialize serialize
  refine (decodes_getU16 _).bind ?_
  exact (ClientAvatarChangeMessage.decodes h).map _

theorem AvatarLoadDataMessage.decodes {m : AvatarLoadDataMessage} (h : m.Fits) :
    Decodes deserialize m.serialize m := by
  unfold deserialize serialize
  simp only [List.append_assoc]
  refine (decodes_getU8 _).bind ?_
  refine (decodes_getU16 _).bind ?_
  refine (decodes_getU16 _).bind ?_
  exact (decodes_getBytes (toNat_ofNat_length h).symm).map _

theorem LocalLoadResource.decodes {m : LocalLoadResource} (h : m.Fits) :
    Decodes deserialize m.serialize m.canon := by
  unfold deserialize serialize
  simp only [List.append_assoc]
  refine (decodes_getU8 _).bind ?_
  refine (decodes_getString h.loadedNetId).bind ?_
  refine (decodes_getString h.unlockPassword).bind ?_
  refine (decodes_getString h.combinedUrl).bind ?_
  refine (decodes_getString h.uuidOfCreator).bind ?_
  refine (decodes_getBool _).bind ?_
  refine (decodes_getBool _).bind ?_
  refine (decodes_getBool _).bind ?_
  refine (decodes_getU8 _).bind ?_
  by_cases hm : m.mode = 0
  · rw [canon, if_pos hm, if_pos hm, if_pos hm]
    iterate 9 refine (decodes_getF32 _).bind ?_
    exact (decodes_getF32 _).map _
  · rw [canon, if_neg hm, if_neg hm, if_neg hm]
    exact Decodes.pure _

theorem UnloadResource.decodes {m : UnloadResource} (h : m.Fits) :
    Decodes deserialize m.serialize m := by
  unfold deserialize serialize
  refine (decodes_getU8 _).bind ?_
  exact (decodes_getString h).map _

theorem PreloadReadyMessage.decodes {m : PreloadReadyMessage} (h : m.Fits) :
    Decodes deserialize m.serialize m := by
  unfold deserialize serialize
  refine (decodes_getString h).bind ?_
  exact (decodes_getBool _).map _

theorem OwnershipTransferMessage.decodes {m : OwnershipTransferMessage} (h : m.Fits) :
    Decodes deserialize m.serialize m := by
  unfold deserialize serialize
  refine (decodes_getU16 _).bind ?_
  exact (decodes_getString h).map _

theorem ContentShareMessage.decodes {m : ContentShareMessage} (h : m.Fits) :
    Decodes deserialize m.serialize m := by
  unfold deserialize serialize
  simp only [List.append_assoc]
  refine (decodes_getString h.sphereNetId).bind ?_
  refine (decodes_getString h.contentUrl).bind ?_
  refine (decodes_getString h.unlockPassword).bind ?_
  refine (decodes_getU8 _).bind ?_
  rw [ContentShareType.ofU8_toU8]
  refine (decodes_getF32 _).bind ?_
  refine (decodes_getF32 _).bind ?_
  exact (decodes_getF32 _).map _

theorem CameraPipStateMessage.decodes (m : CameraPipStateMessage) :
    Decodes deserialize m.serialize m.canon := by
  unfold deserialize serialize
  simp only [List.append_assoc]
  refine (decodes_getU16 _).bind ?_
  refine (decodes_getBool _).bind ?_
  by_cases hm : m.isActive
  · rw [canon, if_pos hm, if_pos hm, if_pos hm]
    unfold readPipTransform writePipTransform
    simp only [List.append_assoc]
    iterate 6 refine (decodes_getF32 _).bind ?_
    exact (decodes_getF32 _).map _
  · rw [canon, if_neg hm, if_neg hm, if_neg hm]
    exact Decodes.pure _

theorem ServerLibraryItem.decodes {m : ServerLibraryItem} (h : m.Fits) :
    Decodes deserialize m.serialize m := by
  unfold deserialize serialize
  simp only [List.append_assoc]
  refine (decodes_getU8 _).bind ?_
  refine (decodes_getString h.url).bind ?_
  exact (decodes_getString h.password).map _

theorem ServerLibraryMessage.decodes {m : ServerLibraryMessage} (h : m.Fits) :
    Decodes deserialize m.serialize m := by
  have hcount : (UInt16.ofNat m.items.length).toNat = m.items.length := by
    rw [UInt16.toNat_ofNat']
    have := h.count
    omega
  unfold deserialize serialize
  refine (decodes_getU16 _).bind ?_
  rw [hcount]
  have hitems := Decodes.readN (f := id) fun i hi => ServerLibraryItem.decodes (h.items i hi)
  rw [List.map_id] at hitems
  exact hitems.map _

theorem ConsoleData.decodes {m : ConsoleData} (h : m.Fits) :
    Decodes deserialize m.serialize m := by
  unfold deserialize serialize
  simp only [List.append_assoc]
  refine (decodes_getU8 _).bind ?_
  refine (decodes_getU16 _).bind ?_
  exact (decodes_getBytes (toNat_ofNat_length h).symm).map _

theorem BasisP2PSignalMessage.decodes {m : BasisP2PSignalMessage} (h : m.Fits) :
    Decodes deserialize m.serialize m := by
  unfold deserialize serialize
  refine (decodes_getU16 _).bind ?_
  exact (decodes_getString h).map _

/-- **Decode undoes encode.**  For each self-delimiting message type, every value that fits its counts
is read back as its canonical form from its own bytes followed by anything, which stays unread. -/
theorem deserialize_serialize :
    (∀ m : BytesMessage, m.Fits → Decodes BytesMessage.deserialize m.serialize m) ∧
    (∀ m : PlayerIdMessage, Decodes PlayerIdMessage.deserialize m.serialize m) ∧
    (∀ m : ClientMetaDataMessage, m.Fits →
      Decodes ClientMetaDataMessage.deserialize m.serialize m.canon) ∧
    (∀ m : ClientAvatarChangeMessage, m.Fits →
      Decodes ClientAvatarChangeMessage.deserialize m.serialize m) ∧
    (∀ m : AdditionalAvatarData, m.Fits →
      Decodes AdditionalAvatarData.deserialize m.serialize m.canon) ∧
    (∀ m : LocalAvatarSyncMessage, m.Fits →
      Decodes LocalAvatarSyncMessage.deserialize m.serialize m.canon) ∧
    (∀ m : ReadyMessage, m.Fits → Decodes ReadyMessage.deserialize m.serialize m.canon) ∧
    (∀ m : ServerSideSyncPlayerMessage, m.Fits →
      Decodes ServerSideSyncPlayerMessage.deserialize m.serialize m.canon) ∧
    (∀ m : ServerAvatarChangeMessage, m.Fits →
      Decodes ServerAvatarChangeMessage.deserialize m.serialize m) ∧
    (∀ m : LocalLoadResource, m.Fits →
      Decodes LocalLoadResource.deserialize m.serialize m.canon) ∧
    (∀ m : UnloadResource, m.Fits → Decodes UnloadResource.deserialize m.serialize m) ∧
    (∀ m : PreloadReadyMessage, m.Fits → Decodes PreloadReadyMessage.deserialize m.serialize m) ∧
    (∀ m : OwnershipTransferMessage, m.Fits →
      Decodes OwnershipTransferMessage.deserialize m.serialize m) ∧
    (∀ m : ContentShareMessage, m.Fits → Decodes ContentShareMessage.deserialize m.serialize m) ∧
    (∀ m : CameraPipStateMessage, Decodes CameraPipStateMessage.deserialize m.serialize m.canon) ∧
    (∀ m : ServerLibraryMessage, m.Fits →
      Decodes ServerLibraryMessage.deserialize m.serialize m) ∧
    (∀ m : ConsoleData, m.Fits → Decodes ConsoleData.deserialize m.serialize m) ∧
    (∀ m : AvatarLoadDataMessage, m.Fits →
      Decodes AvatarLoadDataMessage.deserialize m.serialize m) ∧
    (∀ m : BasisP2PSignalMessage, m.Fits →
      Decodes BasisP2PSignalMessage.deserialize m.serialize m) :=
  ⟨fun _ => BytesMessage.decodes, PlayerIdMessage.decodes, fun _ => ClientMetaDataMessage.decodes,
    fun _ => ClientAvatarChangeMessage.decodes, fun _ => AdditionalAvatarData.decodes,
    fun _ => LocalAvatarSyncMessage.decodes, fun _ => ReadyMessage.decodes,
    fun _ => ServerSideSyncPlayerMessage.decodes, fun _ => ServerAvatarChangeMessage.decodes,
    fun _ => LocalLoadResource.decodes, fun _ => UnloadResource.decodes,
    fun _ => PreloadReadyMessage.decodes, fun _ => OwnershipTransferMessage.decodes,
    fun _ => ContentShareMessage.decodes, CameraPipStateMessage.decodes,
    fun _ => ServerLibraryMessage.decodes, fun _ => ConsoleData.decodes,
    fun _ => AvatarLoadDataMessage.decodes, fun _ => BasisP2PSignalMessage.decodes⟩

/-- One value of each type, with the corners of the format: an empty name, an additional entry without
data, a resource whose transform is not carried. -/
theorem deserialize_serialize_samples :
    Decodes BytesMessage.deserialize (BytesMessage.serialize ⟨[1, 2]⟩) ⟨[1, 2]⟩ ∧
    Decodes ClientMetaDataMessage.deserialize (ClientMetaDataMessage.serialize ⟨"id", "", "vr"⟩)
      ⟨"id", "Failure", "vr"⟩ ∧
    Decodes ClientAvatarChangeMessage.deserialize
      (ClientAvatarChangeMessage.serialize ⟨1, [7, 8], 3⟩) ⟨1, [7, 8], 3⟩ ∧
    Decodes AdditionalAvatarData.deserialize (AdditionalAvatarData.serialize ⟨9, []⟩) ⟨0, []⟩ ∧
    Decodes LocalAvatarSyncMessage.deserialize
      (LocalAvatarSyncMessage.serialize ⟨0, List.replicate 112 5, [⟨9, []⟩, ⟨4, [6]⟩], 2⟩)
      ⟨0, List.replicate 112 5, [⟨0, []⟩, ⟨4, [6]⟩], 2⟩ ∧
    Decodes ReadyMessage.deserialize
      (ReadyMessage.serialize
        ⟨⟨"id", "", "vr"⟩, ⟨1, [7, 8], 3⟩, ⟨3, List.replicate 182 5, [], 2⟩⟩)
      ⟨⟨"id", "Failure", "vr"⟩, ⟨1, [7, 8], 3⟩, ⟨3, List.replicate 182 5, [], 0⟩⟩ ∧
    Decodes ServerSideSyncPlayerMessage.deserialize
      (ServerSideSyncPlayerMessage.serialize ⟨11, 1, 2, ⟨1, List.replicate 131 5, [], 2⟩⟩)
      ⟨11, 1, 2, ⟨1, List.replicate 131 5, [], 0⟩⟩ ∧
    Decodes ServerAvatarChangeMessage.deserialize
      (ServerAvatarChangeMessage.serialize ⟨11, ⟨1, [7, 8], 3⟩⟩) ⟨11, ⟨1, [7, 8], 3⟩⟩ ∧
    Decodes LocalLoadResource.deserialize
      (LocalLoadResource.serialize
        ⟨1, "net", "pw", "", "id", true, 5, 5, 5, 5, 5, 5, 5, 5, 5, 5, true, false, 2⟩)
      ⟨1, "net", "pw", "", "id", true, 0, 0, 0, 0, 0, 0, F32.one, F32.one, F32.one, F32.one,
        true, false, 2⟩ ∧
    Decodes UnloadResource.deserialize (UnloadResource.serialize ⟨1, "net"⟩) ⟨1, "net"⟩ ∧
    Decodes PreloadReadyMessage.deserialize (PreloadReadyMessage.serialize ⟨"net", true⟩)
      ⟨"net", true⟩ ∧
    Decodes OwnershipTransferMessage.deserialize (OwnershipTransferMessage.serialize ⟨11, "own"⟩)
      ⟨11, "own"⟩ ∧
    Decodes ContentShareMessage.deserialize
      (ContentShareMessage.serialize ⟨"net", "url", "", .world, 1, 2, 3⟩)
      ⟨"net", "url", "", .world, 1, 2, 3⟩ ∧
    Decodes ServerLibraryMessage.deserialize
      (ServerLibraryMessage.serialize ⟨[⟨0, "url", ""⟩, ⟨1, "", "pw"⟩]⟩)
      ⟨[⟨0, "url", ""⟩, ⟨1, "", "pw"⟩]⟩ ∧
    Decodes ConsoleData.deserialize (ConsoleData.serialize ⟨4, [1, 2, 3]⟩) ⟨4, [1, 2, 3]⟩ ∧
    Decodes AvatarLoadDataMessage.deserialize (AvatarLoadDataMessage.serialize ⟨4, 11, [1, 2]⟩)
      ⟨4, 11, [1, 2]⟩ ∧
    Decodes BasisP2PSignalMessage.deserialize (BasisP2PSignalMessage.serialize ⟨11, "token"⟩)
      ⟨11, "token"⟩ := by
  obtain ⟨bytes, -, metaData, change, data, sync, ready, side, serverChange, load, unload, preload, owner,
    share, -, library, console, avatarLoad, signal⟩ := deserialize_serialize
  have hmeta : ClientMetaDataMessage.Fits ⟨"id", "", "vr"⟩ := ⟨by decide, by decide, by decide⟩
  have hdata : ∀ d ∈ [⟨9, []⟩, ⟨4, [6]⟩], AdditionalAvatarData.Fits d := by
    unfold AdditionalAvatarData.Fits
    decide
  have hitems : ∀ i ∈ [⟨0, "url", ""⟩, ⟨1, "", "pw"⟩], ServerLibraryItem.Fits i := by
    simp only [List.forall_mem_cons]
    exact ⟨⟨by decide, by decide⟩, ⟨by decide, by decide⟩, by simp⟩
  exact ⟨bytes _ (by unfold BytesMessage.Fits; decide), metaData _ hmeta,
    change _ (by unfold ClientAvatarChangeMessage.Fits; decide),
    data ⟨9, []⟩ (by unfold AdditionalAvatarData.Fits; decide),
    sync ⟨0, List.replicate 112 5, [⟨9, []⟩, ⟨4, [6]⟩], 2⟩ ⟨rfl, by decide, hdata⟩,
    ready ⟨⟨"id", "", "vr"⟩, ⟨1, [7, 8], 3⟩, ⟨3, List.replicate 182 5, [], 2⟩⟩
      ⟨hmeta, by unfold ClientAvatarChangeMessage.Fits; decide, rfl, by decide, by simp⟩,
    side ⟨11, 1, 2, ⟨1, List.replicate 131 5, [], 2⟩⟩ ⟨rfl, by decide, by simp⟩,
    serverChange ⟨11, ⟨1, [7, 8], 3⟩⟩
      (by unfold ServerAvatarChangeMessage.Fits ClientAvatarChangeMessage.Fits; decide),
    load ⟨1, "net", "pw", "", "id", true, 5, 5, 5, 5, 5, 5, 5, 5, 5, 5, true, false, 2⟩
      ⟨by decide, by decide, by decide, by decide⟩,
    unload _ (by unfold UnloadResource.Fits; decide),
    preload _ (by unfold PreloadReadyMessage.Fits; decide),
    owner _ (by unfold OwnershipTransferMessage.Fits; decide),
    share _ ⟨by decide, by decide, by decide⟩, library _ ⟨by decide, hitems⟩,
    console _ (by unfold ConsoleData.Fits; decide),
    avatarLoad _ (by unfold AvatarLoadDataMessage.Fits; decide),
    signal _ (by unfold BasisP2PSignalMessage.Fits; decide)⟩

end BasisRust.Protocol
