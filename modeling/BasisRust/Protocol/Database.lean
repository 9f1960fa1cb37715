import BasisRust.Protocol.Io

/-!
# `messages.rs`: database records

A record travels as a list of tagged fields and is kept as the text of a JSON object.  What `serde_json`
makes of a text, and how it writes a value, is left open: `SerdeJson` holds the two functions.
-/

namespace BasisRust.Protocol

open Lib

/-! ### `serde_json` -/

/-- An integer of 64 bits, signed or unsigned, or a finite `f64`. -/
inductive Number where
  | int (value : ℤ)
  | float (bits : F64)
  deriving DecidableEq, Repr

inductive Value where
  | null
  | bool (value : Bool)
  | number (value : Number)
  | string (value : String)
  | array (items : List Value)
  | object (fields : List (String × Value))

structure SerdeJson where
  /-- `Value::to_string` -/
  toString : Value → String
  /-- `serde_json::from_str` -/
  fromStr : String → Option Value

/-- `Number::from_f64`: only finite numbers. -/
def Number.fromF64 (bits : F64) : Option Number :=
  if (bits >>> 52) &&& 0x7ff = 0x7ff then none else some (.float bits)

/-- `value as f64` of an `f32`. -/
def F32.toF64 (value : F32) : F64 := (Float32.ofBits value).toFloat.toBits

/-- `Map::insert`; the fields are ordered by their keys. -/
def insertField (key : String) (value : Value) : List (String × Value) → List (String × Value)
  | [] => [(key, value)]
  | (k, v) :: rest =>
    if key = k then (k, value) :: rest
    else if key < k then (key, value) :: (k, v) :: rest
    else (k, v) :: insertField key value rest

/-! ### Records -/

structure DatabasePrimitiveMessage where
  name : String
  jsonPayload : String
  deriving DecidableEq, Repr

def writeDatabaseNumber : Number → Bytes
  | .int value =>
    if -2147483648 ≤ value ∧ value < 2147483648 then putU8 2 ++ putI32 (Int32.ofInt value)
    else if value < 9223372036854775808 then putU8 6 ++ putI64 (Int64.ofInt value)
    else putU8 7 ++ putU64 (UInt64.ofNat value.toNat)
  | .float bits => putU8 5 ++ putF64 bits

def writeDatabaseValue (json : SerdeJson) : Value → Bytes
  | .null => putU8 0
  | .string value => putU8 1 ++ putString value
  | .number number => writeDatabaseNumber number
  | .bool value => putU8 3 ++ putBool value
  | other => putU8 1 ++ putString (json.toString other)

def writeDatabasePayload (json : SerdeJson) (jsonPayload : String) : Bytes :=
  match (json.fromStr jsonPayload).getD (.string jsonPayload) with
  | .object fields =>
    putI32 (Int32.ofNat fields.length) ++
      fields.flatMap fun field => putString field.1 ++ writeDatabaseValue json field.2
  | value => putI32 1 ++ putString "value" ++ writeDatabaseValue json value

/-- The value a marker announces; an unknown marker announces nothing. -/
def readDatabaseValue (marker : UInt8) : ReadResult Value :=
  match marker.toNat with
  | 1 | 13 => do return .string (← getString)
  | 2 => do return .number (.int (← getI32).toInt)
  | 3 => do return .bool (← getBool)
  | 4 => do return ((Number.fromF64 (F32.toF64 (← getF32))).map .number).getD .null
  | 5 => do return ((Number.fromF64 (← getF64)).map .number).getD .null
  | 6 => do return .number (.int (← getI64).toInt)
  | 7 => do return .number (.int (← getU64).toNat)
  | 8 => do return .number (.int (← getI16).toInt)
  | 9 => do return .number (.int (← getU16).toNat)
  | 10 => do return .number (.int (← getU8).toNat)
  | 11 => do return .number (.int (← getI8).toInt)
  | 12 => do return .string (toString (← getU16).toNat)
  | _ => return .null

def readDatabaseField : ReadResult (String × Value) := do
  let key ← getString
  let marker ← getU8
  let value ← readDatabaseValue marker
  return (key, value)

def readDatabasePayload (json : SerdeJson) : ReadResult String := do
  let count ← getI32
  let fields ← readN readDatabaseField (max count 0).toInt.toNat
  return json.toString (.object (fields.foldl (fun map field => insertField field.1 field.2 map) []))

namespace DatabasePrimitiveMessage

def serialize (json : SerdeJson) (m : DatabasePrimitiveMessage) : Bytes :=
  putString m.name ++ writeDatabasePayload json m.jsonPayload

def deserialize (json : SerdeJson) : ReadResult DatabasePrimitiveMessage := do
  let name ← getString
  let jsonPayload ← readDatabasePayload json
  return ⟨name, jsonPayload⟩

end DatabasePrimitiveMessage

end BasisRust.Protocol
