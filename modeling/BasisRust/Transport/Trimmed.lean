import BasisRust.Lib.Checked
import BasisRust.Lib.StartCode
import BasisRust.Transport.ServerInfo

/-!
# The answer to a query, for texts of any length

`trim_to_bytes` steps down to the start of a character.  What it leaves is the longest prefix of whole
characters that fits; it is a text again, so it comes back from the answer.
-/

namespace BasisRust.Transport

open Lib Protocol

/-- `cut` is the longest prefix of whole characters of the text that has at most `max` bytes. -/
structure LongestPrefix (max : ℕ) (text cut : String) : Prop where
  isPrefix : cut.toList <+: text.toList
  fits : (asBytes cut).length ≤ max
  longest : ∀ other : String, other.toList <+: text.toList → (asBytes other).length ≤ max →
    other.toList <+: cut.toList

/-! ### With every access checked -/

/-- The loop, with `end -= 1` checked. -/
def boundaryBelowChecked (utf8 : Bytes) : ℕ → Checked ℕ
  | 0 => if isCharBoundary utf8 0 then .ok 0 else .error .underflow
  | index + 1 => if isCharBoundary utf8 (index + 1) then .ok (index + 1) else boundaryBelowChecked utf8 index

/-- `&value[..end]` of a `&str` -/
def strTake (utf8 : Bytes) (index : ℕ) : Checked Bytes :=
  if isCharBoundary utf8 index then Checked.range utf8 0 index else .error .outOfRange

def trimToBytesChecked (value : Bytes) (max : ℕ) : Checked Bytes :=
  if value.length ≤ max then .ok value
  else do
    let index ← boundaryBelowChecked value max
    strTake value index

def ServerInfoResponse.serializeChecked (response : ServerInfoResponse) : Checked Bytes := do
  let name ← trimToBytesChecked (asBytes response.name) serverInfoNameMaxLength
  let motd ← trimToBytesChecked (asBytes response.motd) serverInfoMotdMaxLength
  return putU32 serverInfoResponseMagic ++ putU16 serverInfoProtocolVersion ++ putU16 response.nonce ++
    putU16 response.online ++ putU16 response.max ++ putStr name ++ putStr motd

/-! ### Stepping down to a boundary -/

section Boundary

variable {utf8 : Bytes} {index below : ℕ}

lemma isCharBoundary_boundaryBelow : isCharBoundary utf8 (boundaryBelow utf8 index) = true := by
  induction index with
  | zero => rfl
  | succ index ih =>
    rw [boundaryBelow]
    split
    next h => exact h
    next => exact ih

lemma le_boundaryBelow (h : isCharBoundary utf8 below = true) (hle : below ≤ index) :
    below ≤ boundaryBelow utf8 index := by
  induction index with
  | zero => exact hle
  | succ index ih =>
    rw [boundaryBelow]
    split
    next => exact hle
    next hnot =>
      refine ih (Nat.le_of_lt_succ (lt_of_le_of_ne hle ?_))
      rintro rfl
      exact hnot h

lemma boundaryBelowChecked_eq : boundaryBelowChecked utf8 index = .ok (boundaryBelow utf8 index) := by
  induction index with
  | zero => rfl
  | succ index ih =>
    rw [boundaryBelowChecked, boundaryBelow]
    split
    · rfl
    · exact ih

theorem trimToBytesChecked_eq (value : Bytes) (max : ℕ) :
    trimToBytesChecked value max = .ok (trimToBytes value max) := by
  unfold trimToBytesChecked trimToBytes
  split
  next => rfl
  next hlong =>
    have hle : boundaryBelow value max ≤ value.length := (boundaryBelow_le value max).trans (Nat.le_of_not_le hlong)
    rw [boundaryBelowChecked_eq, Checked.ok_bind, strTake, if_pos isCharBoundary_boundaryBelow,
      Checked.range_eq (Nat.zero_le _) hle]
    rfl

theorem ServerInfoResponse.serializeChecked_eq (response : ServerInfoResponse) :
    response.serializeChecked = .ok response.serialize := by
  rw [serializeChecked, trimToBytesChecked_eq, Checked.ok_bind, trimToBytesChecked_eq]
  rfl

end Boundary

/-! ### Characters -/

/-- `u8::is_utf8_char_boundary` -/
def isUtf8CharBoundary (b : UInt8) : Bool := b < 0x80 || b ≥ 0xc0

lemma isCharBoundary_iff {utf8 : Bytes} {index : ℕ} :
    isCharBoundary utf8 index = true ↔ IsBoundary isUtf8CharBoundary utf8 index := by
  unfold isCharBoundary IsBoundary isUtf8CharBoundary
  cases hb : utf8[index]? with
  | none => simp
  | some b =>
    have hne : index ≠ utf8.length := by
      obtain ⟨hlt, -⟩ := List.getElem?_eq_some_iff.mp hb
      exact hlt.ne
    simp [hne]

lemma isUtf8CharBoundary_ofNat {n : ℕ} (h : n < 256) :
    isUtf8CharBoundary (UInt8.ofNat n) = true ↔ n < 0x80 ∨ 0xc0 ≤ n := by
  have htoNat : (UInt8.ofNat n).toNat = n := UInt8.toNat_ofNat_of_lt' h
  have hlow : (0x80 : UInt8).toNat = 0x80 := rfl
  have hhigh : (0xc0 : UInt8).toNat = 0xc0 := rfl
  rw [isUtf8CharBoundary, Bool.or_eq_true, decide_eq_true_iff, decide_eq_true_iff, UInt8.lt_iff_toNat_lt, ge_iff_le,
    UInt8.le_iff_toNat_le, htoNat, hlow, hhigh]

/-- A character's first byte is a boundary, the others are none. -/
lemma startCode_utf8 : StartCode isUtf8CharBoundary String.utf8EncodeChar := by
  constructor
  intro c
  have hinner (n : ℕ) : isUtf8CharBoundary (UInt8.ofNat (n % 0x40 + 0x80)) = false := by
    rw [← Bool.not_eq_true, isUtf8CharBoundary_ofNat (by omega)]
    omega
  have hfirst {n : ℕ} (hlt : n < 256) (h : n < 0x80 ∨ 0xc0 ≤ n) : isUtf8CharBoundary (UInt8.ofNat n) = true :=
    (isUtf8CharBoundary_ofNat hlt).mpr h
  unfold String.utf8EncodeChar
  dsimp only
  split
  · exact ⟨_, [], rfl, hfirst (by omega) (by omega), List.forall_mem_nil _⟩
  · split
    · exact ⟨_, _, rfl, hfirst (by omega) (by omega), List.forall_mem_singleton.mpr (hinner _)⟩
    · split
      · refine ⟨_, _, rfl, hfirst (by omega) (by omega), ?_⟩
        exact List.forall_mem_cons.mpr ⟨hinner _, List.forall_mem_singleton.mpr (hinner _)⟩
      · refine ⟨_, _, rfl, hfirst (by omega) (by omega), ?_⟩
        rw [List.forall_mem_cons, List.forall_mem_cons]
        exact ⟨hinner _, hinner _, List.forall_mem_singleton.mpr (hinner _)⟩

/-- **Where a text can be cut:** behind whole characters. -/
lemma isCharBoundary_asBytes_iff {text : String} {index : ℕ} :
    isCharBoundary (asBytes text) index = true ↔
      ∃ cut : String, cut.toList <+: text.toList ∧ (asBytes cut).length = index := by
  rw [isCharBoundary_iff, asBytes_eq_flatMap, startCode_utf8.isBoundary_flatMap_iff]
  constructor
  · rintro ⟨chars, hchars, hlen⟩
    refine ⟨String.ofList chars, ?_, ?_⟩
    · rwa [String.toList_ofList]
    · rwa [asBytes_eq_flatMap, String.toList_ofList]
  · rintro ⟨cut, hcut, hlen⟩
    exact ⟨cut.toList, hcut, by rwa [← asBytes_eq_flatMap]⟩

/-- Of two prefixes of a text the one with fewer bytes is the shorter one. -/
lemma prefix_of_length_asBytes_le {text cut other : String} (hcut : cut.toList <+: text.toList)
    (hother : other.toList <+: text.toList) (h : (asBytes other).length ≤ (asBytes cut).length) :
    other.toList <+: cut.toList := by
  rw [asBytes_eq_flatMap, asBytes_eq_flatMap] at h
  exact startCode_utf8.prefix_of_length_le hcut hother h

lemma take_asBytes {text cut : String} (h : cut.toList <+: text.toList) :
    (asBytes text).take (asBytes cut).length = asBytes cut := by
  obtain ⟨rest, hrest⟩ := h
  rw [asBytes_eq_flatMap text, asBytes_eq_flatMap cut, ← hrest, List.flatMap_append, List.take_left]

/-- **What is left of a text.** -/
theorem exists_longestPrefix (text : String) (max : ℕ) :
    ∃ cut, LongestPrefix max text cut ∧ trimToBytes (asBytes text) max = asBytes cut := by
  by_cases hshort : (asBytes text).length ≤ max
  · refine ⟨text, ⟨List.prefix_refl _, hshort, fun other hother _ => hother⟩, ?_⟩
    rw [trimToBytes, if_pos hshort]
  · obtain ⟨cut, hcut, hlen⟩ := isCharBoundary_asBytes_iff.mp (@isCharBoundary_boundaryBelow (asBytes text) max)
    refine ⟨cut, ⟨hcut, ?_, ?_⟩, ?_⟩
    · rw [hlen]
      exact boundaryBelow_le _ max
    · intro other hother hfits
      have hboundary := isCharBoundary_asBytes_iff.mpr ⟨other, hother, rfl⟩
      have hle := le_boundaryBelow hboundary hfits
      rw [← hlen] at hle
      exact prefix_of_length_asBytes_le hcut hother hle
    · rw [trimToBytes, if_neg hshort, ← hlen, take_asBytes hcut]

/-- The second byte of the last character does not fit. -/
example : trimToBytes (asBytes "ab\u00e9") 3 = asBytes "ab" := by decide

/-! ### The answer -/

/-- The answer is the one to the texts that are left of its texts. -/
lemma serialize_eq_of_trimmed {response : ServerInfoResponse} {name motd : String}
    (hname : trimToBytes (asBytes response.name) serverInfoNameMaxLength = asBytes name)
    (hmotd : trimToBytes (asBytes response.motd) serverInfoMotdMaxLength = asBytes motd)
    (hnameFits : (asBytes name).length ≤ serverInfoNameMaxLength)
    (hmotdFits : (asBytes motd).length ≤ serverInfoMotdMaxLength) :
    response.serialize = { response with name, motd }.serialize := by
  rw [ServerInfoResponse.serialize, ServerInfoResponse.serialize, hname, hmotd, trimToBytes, if_pos hnameFits,
    trimToBytes, if_pos hmotdFits]

/-- Nothing but the datagram is sent. -/
lemma sent_sendServerInfo (remoteAddr : SocketAddr) (response : ServerInfoResponse) (w : World) :
    ∃ sent, (final (sendServerInfo remoteAddr response) w).sent = w.sent ++ sent ∧
      ∀ datagram ∈ sent, datagram = (remoteAddr, serverInfoPacket response) := by
  rw [final, sendServerInfo, sendRawTo]
  split
  next hsent =>
    split at hsent
    · cases hsent
    · cases hsent
      exact ⟨_, rfl, fun _ hmem => List.mem_singleton.mp hmem⟩
  next hsent =>
    split at hsent
    · cases hsent
      exact ⟨[], (List.append_nil _).symm, List.forall_mem_nil _⟩
    · cases hsent

/-- **An answer is small, and says what it was made from.**  No access of the writer fails, the two texts come
back cut behind the last whole character that fits, and the datagram is smaller than the smallest query. -/
theorem server_info_bounded_faithful (response : ServerInfoResponse) (remoteAddr : SocketAddr) (w : World) :
    response.serializeChecked = .ok response.serialize ∧
    (∃ name motd, LongestPrefix serverInfoNameMaxLength response.name name ∧
      LongestPrefix serverInfoMotdMaxLength response.motd motd ∧
      ServerInfoResponse.deserialize response.serialize = .ok { response with name, motd } []) ∧
    ∃ sent, (final (sendServerInfo remoteAddr response) w).sent = w.sent ++ sent ∧
      ∀ datagram ∈ sent, datagram = (remoteAddr, serverInfoPacket response) ∧
        datagram.2.length < serverInfoMinRequestBytes := by
  refine ⟨response.serializeChecked_eq, ?_, ?_⟩
  · obtain ⟨name, hname, hnameLeft⟩ := exists_longestPrefix response.name serverInfoNameMaxLength
    obtain ⟨motd, hmotd, hmotdLeft⟩ := exists_longestPrefix response.motd serverInfoMotdMaxLength
    refine ⟨name, motd, hname, hmotd, ?_⟩
    have hread := @decodes_serverInfoResponse { response with name, motd } hname.fits hmotd.fits []
    rwa [List.append_nil, ← serialize_eq_of_trimmed hnameLeft hmotdLeft hname.fits hmotd.fits] at hread
  · obtain ⟨sent, hsent, honly⟩ := sent_sendServerInfo remoteAddr response w
    refine ⟨sent, hsent, fun datagram hmem => ⟨honly datagram hmem, ?_⟩⟩
    rw [honly datagram hmem]
    exact (length_serverInfoPacket_le response).trans_lt (by decide)

end BasisRust.Transport
