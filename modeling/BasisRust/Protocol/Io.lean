import BasisRust.Lib.Codec
import BasisRust.Lib.LittleEndian

/-!
# `io.rs`: the writer and the reader of the wire format

A writer only ever appends, so `putX v` is the bytes that `put_x(v)` appends.  A reader is the bytes
not read yet; a failed read leaves them as they are at the failure, so a caller that goes on after an
error sees the same position as in the source.  Floats travel as their bit patterns: no message
computes with one.
-/

namespace BasisRust.Protocol

open Lib

abbrev Bytes := List UInt8

/-- An `f32`, by its bit pattern. -/
abbrev F32 := UInt32

/-- An `f64`, by its bit pattern. -/
abbrev F64 := UInt64

/-- The bit pattern of `1.0`. -/
def F32.one : F32 := 0x3f800000

inductive NetReadError where
  | underflow (needed remaining : ℕ)
  | utf8
  deriving DecidableEq, Repr

/-- The unread bytes. -/
abbrev NetReader := Bytes

abbrev ReadResult (α : Type) := EStateM NetReadError NetReader α

/-! ### Strings -/

/-- `str::as_bytes`. -/
def asBytes (s : String) : Bytes := s.toUTF8.data.toList

/-- `std::str::from_utf8`. -/
def fromUtf8 (bs : Bytes) : Option String := String.fromUTF8? ⟨bs.toArray⟩

lemma fromUtf8_asBytes (s : String) : fromUtf8 (asBytes s) = some s := by
  unfold fromUtf8 asBytes
  simp [String.fromUTF8?, s.isValidUTF8, String.fromUTF8]

lemma asBytes_of_fromUtf8 {bytes : Bytes} {text : String} (h : fromUtf8 bytes = some text) : asBytes text = bytes := by
  unfold fromUtf8 String.fromUTF8? at h
  split at h
  next hvalid =>
    cases h
    rfl
  next => cases h

lemma asBytes_eq_nil {s : String} : asBytes s = [] ↔ s = "" := by
  constructor
  · intro h
    have hs := fromUtf8_asBytes s
    rw [h] at hs
    have he : fromUtf8 [] = some "" := by decide
    rw [he] at hs
    exact (Option.some.inj hs).symm
  · rintro rfl
    decide

lemma asBytes_eq_flatMap (text : String) : asBytes text = text.toList.flatMap String.utf8EncodeChar := by
  have hencoded : text.toByteArray = text.toList.utf8Encode := by
    conv_lhs => rw [← @String.ofList_toList text, String.toByteArray_ofList]
  rw [asBytes, String.toUTF8_eq_toByteArray, hencoded, List.utf8Encode]
  simp

/-! ### `NetWriter` -/

def putU8 (v : UInt8) : Bytes := [v]
def putBool (v : Bool) : Bytes := putU8 (if v then 1 else 0)
def putU16 (v : UInt16) : Bytes := leBytes 2 v.toNat
def putU32 (v : UInt32) : Bytes := leBytes 4 v.toNat
def putI32 (v : Int32) : Bytes := leBytes 4 v.toUInt32.toNat
def putI64 (v : Int64) : Bytes := leBytes 8 v.toUInt64.toNat
def putU64 (v : UInt64) : Bytes := leBytes 8 v.toNat
def putF32 (v : F32) : Bytes := leBytes 4 v.toNat
def putF64 (v : F64) : Bytes := leBytes 8 v.toNat
def putBytes (v : Bytes) : Bytes := v
def putBytesWithLength (v : Bytes) : Bytes := putU16 (UInt16.ofNat v.length) ++ putBytes v

/-- A length plus one, then the bytes; the empty string is the length `0` alone. -/
def putString (v : String) : Bytes :=
  if v = "" then putU16 0
  else putU16 (UInt16.ofNat ((asBytes v).length + 1)) ++ putBytes (asBytes v)

/-- Behind the length stand the bytes, whatever the length says. -/
lemma drop_putString (v : String) : (putString v).drop 2 = asBytes v := by
  unfold putString
  split
  next hv =>
    rw [hv]
    decide
  next => exact List.drop_left' (length_leBytes 2 _)

lemma putString_injective : Function.Injective putString := by
  intro v w h
  have hbytes : asBytes v = asBytes w := by rw [← drop_putString, h, drop_putString]
  exact Option.some.inj ((fromUtf8_asBytes v).symm.trans ((congrArg fromUtf8 hbytes).trans (fromUtf8_asBytes w)))

/-! ### `NetReader` -/

def take (len : ℕ) : ReadResult Bytes := fun r =>
  if r.length < len then .error (.underflow len r.length) r
  else .ok (r.take len) (r.drop len)

def getU8 : ReadResult UInt8 := do return (← take 1).headD 0
def getBool : ReadResult Bool := do return (← getU8) != 0
def getU16 : ReadResult UInt16 := do return UInt16.ofNat (leVal (← take 2))
def getU32 : ReadResult UInt32 := do return UInt32.ofNat (leVal (← take 4))
def getI32 : ReadResult Int32 := do return ⟨UInt32.ofNat (leVal (← take 4))⟩
def getI64 : ReadResult Int64 := do return ⟨UInt64.ofNat (leVal (← take 8))⟩
def getU64 : ReadResult UInt64 := do return UInt64.ofNat (leVal (← take 8))
def getI8 : ReadResult Int8 := do return ⟨← getU8⟩
def getI16 : ReadResult Int16 := do return ⟨UInt16.ofNat (leVal (← take 2))⟩
def getF32 : ReadResult F32 := getU32
def getF64 : ReadResult F64 := getU64
def getBytes (len : ℕ) : ReadResult Bytes := take len

/-- All the bytes not read yet; they stay unread. -/
def remainingSlice : ReadResult Bytes := get

def getString : ReadResult String := do
  let lenPlus := (← getU16).toNat
  if lenPlus = 0 then return ""
  let bytes ← take (lenPlus - 1)
  match fromUtf8 bytes with
  | some s => return s
  | none => throw .utf8

/-! ### Every read decodes the matching write -/

theorem decodes_take {len : ℕ} {bs : Bytes} (h : bs.length = len) : Decodes (take len) bs bs := by
  intro rest
  subst h
  simp [take]

/-- A fixed-width word: its bytes are taken and reassembled. -/
theorem decodes_word {α : Type} {k n : ℕ} (f : Bytes → α) {v : α} (h : f (leBytes k n) = v) :
    Decodes (do return f (← take k)) (leBytes k n) v := by
  subst h
  exact (decodes_take (length_leBytes k n)).map f

theorem decodes_getU8 (v : UInt8) : Decodes getU8 (putU8 v) v := by
  have h : Decodes (take 1) (putU8 v) (putU8 v) := decodes_take rfl
  exact h.map fun bs => bs.headD 0

theorem decodes_getBool (v : Bool) : Decodes getBool (putBool v) v := by
  have h := (decodes_getU8 (if v then 1 else 0)).map fun b => b != 0
  cases v <;> exact h

theorem decodes_getU16 (v : UInt16) : Decodes getU16 (putU16 v) v :=
  decodes_word (fun bs => UInt16.ofNat (leVal bs))
    (by rw [leVal_leBytes_of_lt v.toNat_lt, UInt16.ofNat_toNat])

theorem decodes_getU32 (v : UInt32) : Decodes getU32 (putU32 v) v :=
  decodes_word (fun bs => UInt32.ofNat (leVal bs))
    (by rw [leVal_leBytes_of_lt v.toNat_lt, UInt32.ofNat_toNat])

theorem decodes_getI32 (v : Int32) : Decodes getI32 (putI32 v) v :=
  decodes_word (fun bs => (⟨UInt32.ofNat (leVal bs)⟩ : Int32))
    (by rw [leVal_leBytes_of_lt v.toUInt32.toNat_lt, UInt32.ofNat_toNat])

theorem decodes_getI64 (v : Int64) : Decodes getI64 (putI64 v) v :=
  decodes_word (fun bs => (⟨UInt64.ofNat (leVal bs)⟩ : Int64))
    (by rw [leVal_leBytes_of_lt v.toUInt64.toNat_lt, UInt64.ofNat_toNat])

theorem decodes_getU64 (v : UInt64) : Decodes getU64 (putU64 v) v :=
  decodes_word (fun bs => UInt64.ofNat (leVal bs))
    (by rw [leVal_leBytes_of_lt v.toNat_lt, UInt64.ofNat_toNat])

theorem decodes_getF64 (v : F64) : Decodes getF64 (putF64 v) v := decodes_getU64 v

theorem decodes_getF32 (v : F32) : Decodes getF32 (putF32 v) v := decodes_getU32 v

theorem decodes_getBytes {len : ℕ} {v : Bytes} (h : v.length = len) :
    Decodes (getBytes len) (putBytes v) v := decodes_take h

/-- A string comes back when its length and one more fit the `u16` in front. -/
theorem decodes_getString {v : String} (h : (asBytes v).length ≤ 65534) :
    Decodes getString (putString v) v := by
  unfold getString putString
  by_cases hv : v = ""
  · subst hv
    rw [if_pos rfl, ← List.append_nil (putU16 0)]
    exact (decodes_getU16 0).bind (Decodes.pure "")
  · rw [if_neg hv]
    have hlen : (UInt16.ofNat ((asBytes v).length + 1)).toNat = (asBytes v).length + 1 := by
      rw [UInt16.toNat_ofNat']
      omega
    refine (decodes_getU16 _).bind ?_
    rw [hlen, if_neg (Nat.succ_ne_zero _), Nat.add_sub_cancel, ← List.append_nil (putBytes _)]
    refine (decodes_take rfl).bind ?_
    simp only [fromUtf8_asBytes]
    exact Decodes.pure v

end BasisRust.Protocol
