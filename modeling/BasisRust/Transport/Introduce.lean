import BasisRust.Transport.Packet

/-!
# NAT introductions on the wire

Two endpoints and a token, written and read back.  An endpoint is its family, its octets and its port; an address of
the sixth version loses its flow and its scope.  A string is its length plus one, where no string at all has the
length zero and the empty one may have either.
-/

namespace BasisRust.Transport

open Lib Protocol

/-! ### Writing -/

def natIntroduceResponseHash : UInt64 :=
  fnv1_64 "LiteNetLib.NatPunchModule+NatIntroduceResponsePacket"

def writeLitenetEndpoint : SocketAddr → Bytes
  | .v4 octets port => 0 :: octets.toList ++ leBytes 2 port.toNat
  | .v6 octets port _ _ => 1 :: octets.toList ++ leBytes 2 port.toNat

/-- A string that is too long is cut. -/
def writeLitenetString (value : String) : Bytes :=
  if value = "" then leBytes 2 0
  else
    let lenPlus := min ((asBytes value).length + 1) 65535
    leBytes 2 lenPlus ++ (asBytes value).take (lenPlus - 1)

def buildNatIntroduceResponse (internal external : SocketAddr) (token : String) : Bytes :=
  PacketProperty.natMessage.toU8 :: leBytes 8 natIntroduceResponseHash.toNat ++ writeLitenetEndpoint internal ++
    writeLitenetEndpoint external ++ writeLitenetString token

/-- The address and the port, as `SocketAddr::new` puts them together. -/
def SocketAddr.plain : SocketAddr → SocketAddr
  | v4 octets port => v4 octets port
  | v6 octets port _ _ => v6 octets port 0 0

/-- What follows the hash of a response. -/
def readNatIntroduceResponse : StateT Bytes Option (SocketAddr × SocketAddr × String) := do
  let internal ← readLitenetEndpoint
  let external ← readLitenetEndpoint
  let token ← readLitenetString
  return (internal, external, token)

/-! ### Pieces -/

/-- One reader after the other. -/
lemma bind_eq_some_iff {α β : Type} {x : StateT Bytes Option α} {f : α → StateT Bytes Option β} {bytes rest : Bytes}
    {b : β} : (x >>= f) bytes = some (b, rest) ↔
      ∃ a between, x bytes = some (a, between) ∧ f a between = some (b, rest) := by
  have hbind : (x >>= f) bytes = (x bytes).bind fun read => f read.1 read.2 := rfl
  rw [hbind, Option.bind_eq_some_iff, Prod.exists]

lemma pure_eq_some_iff {α : Type} {a b : α} {bytes rest : Bytes} :
    (pure a : StateT Bytes Option α) bytes = some (b, rest) ↔ a = b ∧ bytes = rest := by
  have hpure : (pure a : StateT Bytes Option α) bytes = some (a, bytes) := rfl
  rw [hpure, Option.some.injEq, Prod.mk.injEq]

lemma getRange_eq_some_iff {len : ℕ} {bytes piece rest : Bytes} :
    getRange len bytes = some (piece, rest) ↔ bytes = piece ++ rest ∧ piece.length = len := by
  unfold getRange
  constructor
  · intro h
    split at h
    next => cases h
    next hlen =>
      cases h
      exact ⟨(List.take_append_drop len bytes).symm, List.length_take_of_le (not_lt.mp hlen)⟩
  · rintro ⟨rfl, rfl⟩
    rw [if_neg (by rw [List.length_append]; omega), List.take_left, List.drop_left]

lemma getArray_eq_some_iff {n : ℕ} {bytes rest : Bytes} {octets : Vector UInt8 n} :
    getArray n bytes = some (octets, rest) ↔ bytes = octets.toList ++ rest := by
  unfold getArray
  constructor
  · intro h
    split at h
    next hlen =>
      cases h
      exact (List.take_append_drop n bytes).symm
    next => cases h
  · rintro rfl
    have hlength : octets.toList.length = n := octets.length_toList
    have htake : (octets.toList ++ rest).take n = octets.toList := List.take_left' hlength
    have hdrop : (octets.toList ++ rest).drop n = rest := List.drop_left' hlength
    rw [dif_pos (by rw [htake, hlength])]
    simp only [htake, hdrop]
    rfl

lemma leBytes_u16At {bytes : Bytes} (h : bytes.length = 2) : leBytes 2 (u16At bytes 0).toNat = bytes := by
  have hval : leVal bytes < 65536 := by
    have hlt := leVal_lt bytes
    rwa [h] at hlt
  rw [u16At, slice, List.drop_zero, List.take_of_length_le h.le, UInt16.toNat_ofNat', Nat.mod_eq_of_lt hval, ← h,
    leBytes_leVal]

lemma u16At_leBytes {n : ℕ} (h : n < 65536) : (u16At (leBytes 2 n) 0).toNat = n := by
  rw [u16At, slice, List.drop_zero, List.take_of_length_le (by rw [length_leBytes]), leVal_leBytes_of_lt h,
    UInt16.toNat_ofNat', Nat.mod_eq_of_lt h]

/-- The octets of an address and its port. -/
lemma readAddress_eq_some_iff {n : ℕ} {make : Vector UInt8 n → UInt16 → SocketAddr} {endpoint : SocketAddr}
    {bytes rest : Bytes} :
    (do
      let octets ← getArray n
      let port ← getRange 2
      return make octets (u16At port 0) : StateT Bytes Option SocketAddr) bytes = some (endpoint, rest) ↔
      ∃ octets port, bytes = octets.toList ++ leBytes 2 port.toNat ++ rest ∧ make octets port = endpoint := by
  constructor
  · intro h
    obtain ⟨octets, afterOctets, hoctets, h⟩ := bind_eq_some_iff.mp h
    obtain ⟨port, afterPort, hport, h⟩ := bind_eq_some_iff.mp h
    obtain ⟨hmake, rfl⟩ := pure_eq_some_iff.mp h
    obtain ⟨rfl, hlength⟩ := getRange_eq_some_iff.mp hport
    refine ⟨octets, u16At port 0, ?_, hmake⟩
    rw [getArray_eq_some_iff.mp hoctets, leBytes_u16At hlength, List.append_assoc]
  · rintro ⟨octets, port, rfl, rfl⟩
    have hport : u16At (leBytes 2 port.toNat) 0 = port := UInt16.toNat_inj.mp (u16At_leBytes port.toNat_lt)
    refine bind_eq_some_iff.mpr ⟨octets, _, getArray_eq_some_iff.mpr (List.append_assoc ..), ?_⟩
    refine bind_eq_some_iff.mpr ⟨_, rest, getRange_eq_some_iff.mpr ⟨rfl, length_leBytes 2 _⟩, ?_⟩
    exact pure_eq_some_iff.mpr ⟨by rw [hport], rfl⟩

/-! ### Endpoints -/

@[simp] lemma plain_plain (endpoint : SocketAddr) : endpoint.plain.plain = endpoint.plain := by
  cases endpoint <;> rfl

@[simp] lemma writeLitenetEndpoint_plain (endpoint : SocketAddr) :
    writeLitenetEndpoint endpoint.plain = writeLitenetEndpoint endpoint := by
  cases endpoint <;> rfl

/-- **An endpoint is read from what is written for it**, and from nothing else. -/
theorem readLitenetEndpoint_eq_some_iff {endpoint : SocketAddr} {bytes rest : Bytes} :
    readLitenetEndpoint bytes = some (endpoint, rest) ↔
      bytes = writeLitenetEndpoint endpoint ++ rest ∧ endpoint.plain = endpoint := by
  constructor
  · intro h
    obtain ⟨head, between, hhead, hread⟩ := bind_eq_some_iff.mp h
    obtain ⟨rfl, hlength⟩ := getRange_eq_some_iff.mp hhead
    obtain ⟨family, rfl⟩ := List.length_eq_one_iff.mp hlength
    rw [List.headD_cons] at hread
    generalize hfamily : family.toNat = n at hread
    match n with
    | 0 =>
      obtain rfl : family = 0 := UInt8.toNat_inj.mp hfamily
      obtain ⟨octets, port, rfl, rfl⟩ := readAddress_eq_some_iff.mp hread
      exact ⟨rfl, rfl⟩
    | 1 =>
      obtain rfl : family = 1 := UInt8.toNat_inj.mp hfamily
      obtain ⟨octets, port, rfl, rfl⟩ :=
        (@readAddress_eq_some_iff _ (fun octets port => .v6 octets port 0 0) _ _ _).mp hread
      exact ⟨rfl, rfl⟩
    | _ + 2 => cases hread
  · rintro ⟨rfl, hplain⟩
    cases endpoint with
    | v4 octets port =>
      refine bind_eq_some_iff.mpr ⟨[0], _, getRange_eq_some_iff.mpr ⟨rfl, rfl⟩, ?_⟩
      exact readAddress_eq_some_iff.mpr ⟨octets, port, rfl, rfl⟩
    | v6 octets port flowinfo scopeId =>
      refine bind_eq_some_iff.mpr ⟨[1], _, getRange_eq_some_iff.mpr ⟨rfl, rfl⟩, ?_⟩
      exact (@readAddress_eq_some_iff _ (fun octets port => .v6 octets port 0 0) _ _ _).mpr ⟨octets, port, rfl, hplain⟩

/-- The address and the port come back. -/
lemma readLitenetEndpoint_append (endpoint : SocketAddr) (rest : Bytes) :
    readLitenetEndpoint (writeLitenetEndpoint endpoint ++ rest) = some (endpoint.plain, rest) :=
  readLitenetEndpoint_eq_some_iff.mpr ⟨by rw [writeLitenetEndpoint_plain], plain_plain endpoint⟩

/-! ### Strings -/

lemma writeLitenetString_of_le {value : String} (hne : value ≠ "") (h : (asBytes value).length ≤ 65534) :
    writeLitenetString value = leBytes 2 ((asBytes value).length + 1) ++ asBytes value := by
  have hmin : min ((asBytes value).length + 1) 65535 = (asBytes value).length + 1 := min_eq_left (by omega)
  rw [writeLitenetString, if_neg hne]
  simp only [hmin, Nat.add_sub_cancel, List.take_length]

/-- A string that was not cut comes back. -/
theorem readLitenetString_append {value : String} (h : (asBytes value).length ≤ 65534) (rest : Bytes) :
    readLitenetString (writeLitenetString value ++ rest) = some (value, rest) := by
  by_cases hempty : value = ""
  · subst hempty
    refine bind_eq_some_iff.mpr ⟨leBytes 2 0, rest, getRange_eq_some_iff.mpr ⟨rfl, rfl⟩, ?_⟩
    rw [u16At_leBytes (by decide), if_pos rfl]
    rfl
  · rw [writeLitenetString_of_le hempty h, List.append_assoc]
    refine bind_eq_some_iff.mpr ⟨_, _, getRange_eq_some_iff.mpr ⟨rfl, length_leBytes 2 _⟩, ?_⟩
    rw [u16At_leBytes (by omega), if_neg (Nat.succ_ne_zero _), Nat.add_sub_cancel]
    refine bind_eq_some_iff.mpr ⟨asBytes value, rest, getRange_eq_some_iff.mpr ⟨rfl, rfl⟩, ?_⟩
    rw [fromUtf8_asBytes, Option.map_some]

/-- What is read as a string is no longer than one that is written without a cut. -/
lemma length_le_of_readLitenetString {bytes rest : Bytes} {value : String}
    (h : readLitenetString bytes = some (value, rest)) : (asBytes value).length ≤ 65534 := by
  obtain ⟨size, between, hsize, h⟩ := bind_eq_some_iff.mp h
  have hlt := (u16At size 0).toNat_lt
  split at h
  next =>
    obtain ⟨rfl, -⟩ := pure_eq_some_iff.mp h
    decide
  next =>
    obtain ⟨raw, after, hraw, h⟩ := bind_eq_some_iff.mp h
    obtain ⟨text, htext, hvalue⟩ := Option.map_eq_some_iff.mp h
    obtain ⟨rfl, -⟩ := Prod.mk.inj hvalue
    rw [asBytes_of_fromUtf8 htext, (getRange_eq_some_iff.mp hraw).2]
    omega

/-! ### Packets -/

/-- What `parse_nat_introduce_request` accepts begins with the hash and the endpoint as it is written. -/
lemma request_of_parse {bytes : Bytes} {addr : SocketAddr} {token : String}
    (h : parseNatIntroduceRequest bytes = some (addr, token)) :
    leBytes 8 natIntroduceRequestHash.toNat ++ writeLitenetEndpoint addr <+: bytes ∧
      (asBytes token).length ≤ 65534 := by
  unfold parseNatIntroduceRequest at h
  split at h
  next => cases h
  next hlength =>
    split at h
    next => cases h
    next hhash =>
      obtain ⟨⟨_, rest⟩, hread, rfl⟩ := Option.map_eq_some_iff.mp h
      obtain ⟨addr', between, haddr, hread⟩ := bind_eq_some_iff.mp hread
      obtain ⟨token', after, htoken, hread⟩ := bind_eq_some_iff.mp hread
      obtain ⟨hpair, -⟩ := pure_eq_some_iff.mp hread
      obtain ⟨rfl, rfl⟩ := Prod.mk.inj hpair
      have hendpoint := (readLitenetEndpoint_eq_some_iff.mp haddr).1
      have hhead : leBytes 8 natIntroduceRequestHash.toNat = bytes.take 8 := by
        have htake : (bytes.take 8).length = 8 := List.length_take_of_le (not_lt.mp hlength)
        have hval : leVal (bytes.take 8) < 2 ^ 64 := by
          have hlt := leVal_lt (bytes.take 8)
          rwa [htake] at hlt
        have hleBytes := leBytes_leVal (bytes.take 8)
        rw [htake] at hleBytes
        rw [← not_not.mp hhash, u64At, slice, List.drop_zero, UInt64.toNat_ofNat', Nat.mod_eq_of_lt hval, hleBytes]
      refine ⟨⟨between, ?_⟩, length_le_of_readLitenetString htoken⟩
      rw [hhead, List.append_assoc, ← hendpoint, List.take_append_drop]

/-- **NAT introductions round trip.**  The introduced peer reads what was written, to the end of the packet; and a
request that the server accepts is one that was written. -/
theorem nat_introduction_round_trips :
    (∀ (internal external : SocketAddr) (token : String), (asBytes token).length ≤ 65534 →
      readNatIntroduceResponse ((buildNatIntroduceResponse internal external token).drop 9) =
        some ((internal.plain, external.plain, token), [])) ∧
    ∀ (bytes : Bytes) (addr : SocketAddr) (token : String), parseNatIntroduceRequest bytes = some (addr, token) →
      leBytes 8 natIntroduceRequestHash.toNat ++ writeLitenetEndpoint addr <+: bytes ∧
        readLitenetString (writeLitenetString token) = some (token, []) := by
  constructor
  · intro internal external token htoken
    have hdrop : (buildNatIntroduceResponse internal external token).drop 9 =
        writeLitenetEndpoint internal ++ (writeLitenetEndpoint external ++ writeLitenetString token) := by
      have hhead : (PacketProperty.natMessage.toU8 :: leBytes 8 natIntroduceResponseHash.toNat).length = 9 := by
        rw [List.length_cons, length_leBytes]
      rw [buildNatIntroduceResponse, List.append_assoc, List.append_assoc]
      exact List.drop_left' hhead
    rw [hdrop]
    have hread := readLitenetString_append htoken []
    rw [List.append_nil] at hread
    refine bind_eq_some_iff.mpr ⟨internal.plain, _, readLitenetEndpoint_append internal _, ?_⟩
    refine bind_eq_some_iff.mpr ⟨external.plain, _, readLitenetEndpoint_append external _, ?_⟩
    exact bind_eq_some_iff.mpr ⟨token, [], hread, rfl⟩
  · intro bytes addr token h
    obtain ⟨hhead, hlength⟩ := request_of_parse h
    have hread := readLitenetString_append hlength []
    rw [List.append_nil] at hread
    exact ⟨hhead, hread⟩

/-- A request with an empty token that is written with a length of one. -/
def shortRequest : Bytes :=
  leBytes 8 natIntroduceRequestHash.toNat ++ writeLitenetEndpoint (.v4 #v[10, 0, 0, 7] 4296) ++ [1, 0]

theorem nat_introduction_round_trips_short :
    readNatIntroduceResponse ((buildNatIntroduceResponse (.v4 #v[10, 0, 0, 7] 4296)
      (.v6 #v[32, 1, 13, 184, 0, 0, 0, 0, 0, 0, 0, 0, 0, 0, 0, 1] 4296 0 2) "t").drop 9) =
        some ((.v4 #v[10, 0, 0, 7] 4296,
          .v6 #v[32, 1, 13, 184, 0, 0, 0, 0, 0, 0, 0, 0, 0, 0, 0, 1] 4296 0 0, "t"), []) ∧
      readLitenetString (writeLitenetString "") = some ("", []) := by
  have hshort : parseNatIntroduceRequest shortRequest = some (.v4 #v[10, 0, 0, 7] 4296, "") := by decide +kernel
  exact ⟨nat_introduction_round_trips.1 _ _ "t" (by decide), (nat_introduction_round_trips.2 _ _ _ hshort).2⟩

end BasisRust.Transport
