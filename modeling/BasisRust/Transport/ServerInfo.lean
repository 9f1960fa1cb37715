import BasisRust.Transport.Handle

/-!
# `server_info.rs`: the answer to a query

`ServerInfoResponse` with the two texts cut to fixed numbers of bytes, and `send_server_info`.  A `&str` is
its UTF-8 here.
-/

namespace BasisRust.Transport

open Lib Protocol

def serverInfoResponseMagic : UInt32 := 0xBA515102
def serverInfoNameMaxLength : ℕ := 64
def serverInfoMotdMaxLength : ℕ := 256

structure ServerInfoResponse where
  name : String
  motd : String
  online : UInt16
  max : UInt16
  nonce : UInt16
  deriving DecidableEq, Repr

/-! ### Cutting a text -/

/-- `str::is_char_boundary` -/
def isCharBoundary (utf8 : Bytes) (index : ℕ) : Bool :=
  index = 0 ||
    match utf8[index]? with
    | none => index = utf8.length
    | some b => b < 0x80 || b ≥ 0xc0

/-- The loop that goes down from `end` to a boundary. -/
def boundaryBelow (utf8 : Bytes) : ℕ → ℕ
  | 0 => 0
  | index + 1 => if isCharBoundary utf8 (index + 1) then index + 1 else boundaryBelow utf8 index

def trimToBytes (value : Bytes) (max : ℕ) : Bytes :=
  if value.length ≤ max then value else value.take (boundaryBelow value max)

/-- `put_string`, for a `&str` that need not be a whole `String`. -/
def putStr (utf8 : Bytes) : Bytes :=
  if utf8 = [] then putU16 0 else putU16 (UInt16.ofNat (utf8.length + 1)) ++ putBytes utf8

namespace ServerInfoResponse

def serialize (response : ServerInfoResponse) : Bytes :=
  putU32 serverInfoResponseMagic ++ putU16 serverInfoProtocolVersion ++ putU16 response.nonce ++
    putU16 response.online ++ putU16 response.max ++
    putStr (trimToBytes (asBytes response.name) serverInfoNameMaxLength) ++
    putStr (trimToBytes (asBytes response.motd) serverInfoMotdMaxLength)

def deserialize : ReadResult ServerInfoResponse := do
  let _ ← getU32
  let _ ← getU16
  let nonce ← getU16
  let online ← getU16
  let max ← getU16
  let name ← getString
  let motd ← getString
  return { name, motd, online, max, nonce }

end ServerInfoResponse

def serverInfoPacket (response : ServerInfoResponse) : Bytes :=
  PacketProperty.unconnectedMessage.toU8 :: response.serialize

def sendServerInfo (remoteAddr : SocketAddr) (response : ServerInfoResponse) : TransportM Unit :=
  sendRawTo (serverInfoPacket response) remoteAddr

/-! ### The size of the answer -/

lemma boundaryBelow_le (utf8 : Bytes) (index : ℕ) : boundaryBelow utf8 index ≤ index := by
  induction index with
  | zero => exact le_rfl
  | succ index ih =>
    rw [boundaryBelow]
    split
    · exact le_rfl
    · omega

lemma length_trimToBytes_le (value : Bytes) (max : ℕ) : (trimToBytes value max).length ≤ max := by
  rw [trimToBytes]
  split
  next h => exact h
  next h =>
    have := boundaryBelow_le value max
    rw [List.length_take]
    omega

lemma length_putStr_le (utf8 : Bytes) : (putStr utf8).length ≤ utf8.length + 2 := by
  rw [putStr]
  split
  · simp [putU16]
  · simp [putU16, putBytes]
    omega

/-- The largest answer. -/
def serverInfoMaxPacketBytes : ℕ := 337

theorem length_serverInfoPacket_le (response : ServerInfoResponse) :
    (serverInfoPacket response).length ≤ serverInfoMaxPacketBytes := by
  have hname := length_putStr_le (trimToBytes (asBytes response.name) serverInfoNameMaxLength)
  have hmotd := length_putStr_le (trimToBytes (asBytes response.motd) serverInfoMotdMaxLength)
  have hname' := length_trimToBytes_le (asBytes response.name) serverInfoNameMaxLength
  have hmotd' := length_trimToBytes_le (asBytes response.motd) serverInfoMotdMaxLength
  rw [serverInfoNameMaxLength] at hname hname'
  rw [serverInfoMotdMaxLength] at hmotd hmotd'
  rw [serverInfoPacket, ServerInfoResponse.serialize, serverInfoMaxPacketBytes]
  simp only [List.length_cons, List.length_append, putU32, putU16, length_leBytes, serverInfoNameMaxLength,
    serverInfoMotdMaxLength]
  omega

/-! ### The round trip -/

lemma putStr_asBytes (value : String) : putStr (asBytes value) = putString value := by
  rw [putStr, putString]
  simp only [asBytes_eq_nil]

/-- **Texts that need not be cut come back**, with the numbers. -/
theorem decodes_serverInfoResponse {response : ServerInfoResponse}
    (hname : (asBytes response.name).length ≤ serverInfoNameMaxLength)
    (hmotd : (asBytes response.motd).length ≤ serverInfoMotdMaxLength) :
    Decodes ServerInfoResponse.deserialize response.serialize response := by
  have hname' : (asBytes response.name).length ≤ 65534 := hname.trans (by decide)
  have hmotd' : (asBytes response.motd).length ≤ 65534 := hmotd.trans (by decide)
  rw [ServerInfoResponse.serialize, trimToBytes, if_pos hname, trimToBytes, if_pos hmotd, putStr_asBytes,
    putStr_asBytes]
  simp only [List.append_assoc]
  refine (decodes_getU32 _).bind ((decodes_getU16 _).bind ((decodes_getU16 _).bind ((decodes_getU16 _).bind ?_)))
  exact (decodes_getU16 _).bind ((decodes_getString hname').bind ((decodes_getString hmotd').map _))

end BasisRust.Transport
