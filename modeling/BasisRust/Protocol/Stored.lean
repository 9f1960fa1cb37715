import BasisRust.Lib.FinalState
import BasisRust.Protocol.Database

/-!
# Database records, stored and fetched

What comes back of a record: the fields of its object with nested values as their texts, and anything but an
object as the one field of an object.  Done twice it is the same as done once.
-/

namespace BasisRust.Protocol

open Lib

/-! ### Values -/

/-- The numbers there are: 64 bits, signed or not, and finite floats. -/
def Number.Valid : Number → Prop
  | .int value => -9223372036854775808 ≤ value ∧ value < 18446744073709551616
  | .float bits => Number.fromF64 bits = some (.float bits)

instance : DecidablePred Number.Valid
  | .int _ => inferInstanceAs (Decidable (_ ∧ _))
  | .float _ => inferInstanceAs (Decidable (_ = _))

/-- The values there are: the fields of an object are in the order of their keys, each key once. -/
inductive Value.Valid : Value → Prop
  | null : Value.Valid .null
  | bool (value : Bool) : Value.Valid (.bool value)
  | number {value : Number} (h : value.Valid) : Value.Valid (.number value)
  | string (value : String) : Value.Valid (.string value)
  | array {items : List Value} (h : ∀ item ∈ items, item.Valid) : Value.Valid (.array items)
  | object {fields : List (String × Value)} (hkeys : fields.Pairwise fun f g => f.1 < g.1)
      (h : ∀ field ∈ fields, field.2.Valid) : Value.Valid (.object fields)

namespace Value

/-- The fields that are written: those of an object, or the value as the only one. -/
def fieldsOf : Value → List (String × Value)
  | .object fields => fields
  | value => [("value", value)]

/-- A nested value as its text. -/
def flat (json : SerdeJson) : Value → Value
  | .array items => .string (json.toString (.array items))
  | .object fields => .string (json.toString (.object fields))
  | value => value

/-- The object that comes back. -/
def norm (json : SerdeJson) (value : Value) : Value :=
  .object (value.fieldsOf.map fun field => (field.1, field.2.flat json))

/-- A string, or the text of a nested value, has a length that can be written. -/
def TextFits (json : SerdeJson) : Value → Prop
  | .string text => (asBytes text).length ≤ 65534
  | .array items => (asBytes (json.toString (.array items))).length ≤ 65534
  | .object fields => (asBytes (json.toString (.object fields))).length ≤ 65534
  | _ => True

/-- All keys, strings and texts of nested values have lengths that can be written. -/
def Fits (json : SerdeJson) (value : Value) : Prop :=
  ∀ field ∈ value.fieldsOf, (asBytes field.1).length ≤ 65534 ∧ field.2.TextFits json

variable {json : SerdeJson} {value : Value}

lemma flat_flat : (value.flat json).flat json = value.flat json := by
  cases value <;> rfl

/-- **Norming is done once.** -/
theorem norm_norm : (value.norm json).norm json = value.norm json := by
  unfold norm
  rw [fieldsOf, List.map_map]
  refine congrArg Value.object (List.map_congr_left fun field _ => ?_)
  exact congrArg (field.1, ·) flat_flat

lemma TextFits.flat (h : value.TextFits json) : (value.flat json).TextFits json := by
  cases value <;> exact h

lemma Fits.norm (h : value.Fits json) : (value.norm json).Fits json :=
  List.forall_mem_map.mpr fun field hmem => ⟨(h field hmem).1, (h field hmem).2.flat⟩

lemma Valid.flat (h : value.Valid) : (value.flat json).Valid := by
  cases h with
  | null => exact .null
  | bool value => exact .bool value
  | number h => exact .number h
  | string value => exact .string value
  | array | object => exact .string _

/-- A value as the only field of an object. -/
lemma Valid.field (h : value.Valid) : (Value.object [("value", value)]).Valid :=
  .object (List.pairwise_singleton _ _) (List.forall_mem_singleton.mpr h)

lemma Valid.fieldsOf (h : value.Valid) : (Value.object value.fieldsOf).Valid := by
  cases h with
  | object hkeys h => exact .object hkeys h
  | null => exact Valid.null.field
  | bool value => exact (Valid.bool value).field
  | number h => exact (Valid.number h).field
  | string value => exact (Valid.string value).field
  | array h => exact (Valid.array h).field

lemma Valid.norm (h : value.Valid) : (value.norm json).Valid := by
  cases h.fieldsOf with
  | object hkeys h =>
    exact .object (List.pairwise_map.mpr hkeys) (List.forall_mem_map.mpr fun field hmem => (h field hmem).flat)

end Value

/-- The value of a text; a text that is not JSON is a string. -/
def SerdeJson.valueOf (json : SerdeJson) (text : String) : Value := (json.fromStr text).getD (.string text)

/-! ### One value -/

/-- A marker and what it announces. -/
def readMarked : ReadResult Value := do
  let marker ← getU8
  readDatabaseValue marker

lemma decodes_readMarked {marker : UInt8} {bytes : Bytes} {value : Value}
    (h : Decodes (readDatabaseValue marker) bytes value) : Decodes readMarked (putU8 marker ++ bytes) value :=
  (decodes_getU8 marker).bind h

/-- **A number comes back exactly.** -/
lemma decodes_writeDatabaseNumber {number : Number} (h : number.Valid) :
    Decodes readMarked (writeDatabaseNumber number) (.number number) := by
  cases number with
  | int value =>
    obtain ⟨hlow, hhigh⟩ := h
    rw [writeDatabaseNumber]
    split
    next hi32 =>
      have hvalue : (Int32.ofInt value).toInt = value := Int32.toInt_ofInt_of_le hi32.1 hi32.2
      have hread := (decodes_getI32 (Int32.ofInt value)).map fun read => Value.number (.int read.toInt)
      rw [hvalue] at hread
      exact decodes_readMarked hread
    · split
      next hi64 =>
        have hvalue : (Int64.ofInt value).toInt = value := Int64.toInt_ofInt_of_le hlow hi64
        have hread := (decodes_getI64 (Int64.ofInt value)).map fun read => Value.number (.int read.toInt)
        rw [hvalue] at hread
        exact decodes_readMarked hread
      next hi64 =>
        have hsize : value.toNat < UInt64.size := by
          rw [UInt64.size]
          omega
        have hvalue : ((UInt64.ofNat value.toNat).toNat : ℤ) = value := by
          rw [UInt64.toNat_ofNat_of_lt' hsize]
          omega
        have hread := (decodes_getU64 (UInt64.ofNat value.toNat)).map fun read => Value.number (.int read.toNat)
        rw [hvalue] at hread
        exact decodes_readMarked hread
  | float bits =>
    have hvalid : Number.fromF64 bits = some (.float bits) := h
    have hread := (decodes_getF64 bits).map fun read => ((Number.fromF64 read).map Value.number).getD .null
    rw [hvalid] at hread
    exact decodes_readMarked hread

section Payload

variable {json : SerdeJson} {value : Value}

lemma decodes_writeDatabaseValue (hvalid : value.Valid) (hfits : value.TextFits json) :
    Decodes readMarked (writeDatabaseValue json value) (value.flat json) := by
  have htext {text : String} (h : (asBytes text).length ≤ 65534) :
      Decodes readMarked (putU8 1 ++ putString text) (.string text) :=
    decodes_readMarked ((decodes_getString h).map Value.string)
  cases hvalid with
  | null => exact @decodes_readMarked 0 [] _ (Decodes.pure _)
  | bool value => exact decodes_readMarked ((decodes_getBool value).map Value.bool)
  | number h => exact decodes_writeDatabaseNumber h
  | string value => exact htext hfits
  | array | object => exact htext hfits

/-! ### The fields -/

/-- What a field is written as. -/
def fieldBytes (json : SerdeJson) (field : String × Value) : Bytes :=
  putString field.1 ++ writeDatabaseValue json field.2

lemma writeDatabasePayload_eq (text : String) : writeDatabasePayload json text =
    putI32 (Int32.ofNat (json.valueOf text).fieldsOf.length) ++ (json.valueOf text).fieldsOf.flatMap (fieldBytes json) := by
  have hother (value : Value) : putI32 1 ++ putString "value" ++ writeDatabaseValue json value =
      putI32 1 ++ [("value", value)].flatMap (fieldBytes json) := by
    rw [List.flatMap_singleton, fieldBytes, List.append_assoc]
  rw [writeDatabasePayload, ← SerdeJson.valueOf]
  cases json.valueOf text with
  | object fields => rfl
  | null | bool | number | string | array => exact hother _

lemma readDatabaseField_eq : readDatabaseField = (do
    let key ← getString
    let value ← readMarked
    return (key, value)) := by
  rw [readDatabaseField, readMarked]
  simp only [bind_assoc]

lemma decodes_readDatabaseField {field : String × Value} (hvalid : field.2.Valid)
    (hkey : (asBytes field.1).length ≤ 65534) (hfits : field.2.TextFits json) :
    Decodes readDatabaseField (fieldBytes json field) (field.1, field.2.flat json) := by
  rw [readDatabaseField_eq]
  exact (decodes_getString hkey).bind ((decodes_writeDatabaseValue hvalid hfits).map fun value => (field.1, value))

/-- A key behind all others is entered at the end. -/
lemma insertField_of_forall_lt {fields : List (String × Value)} {key : String} (h : ∀ field ∈ fields, field.1 < key) :
    insertField key value fields = fields ++ [(key, value)] := by
  induction fields with
  | nil => rfl
  | cons field fields ih =>
    obtain ⟨hlt, hrest⟩ := List.forall_mem_cons.mp h
    have hne : key ≠ field.1 := fun heq => String.lt_irrefl _ (heq ▸ hlt)
    rw [insertField, if_neg hne, if_neg (String.lt_asymm hlt), ih hrest, List.cons_append]

/-- Fields in the order of their keys are entered one after the other. -/
lemma foldl_insertField (fields done : List (String × Value))
    (h : (done ++ fields).Pairwise fun f g => f.1 < g.1) :
    fields.foldl (fun map field => insertField field.1 field.2 map) done = done ++ fields := by
  induction fields generalizing done with
  | nil => rw [List.foldl_nil, List.append_nil]
  | cons field fields ih =>
    have hbefore : ∀ earlier ∈ done, earlier.1 < field.1 := fun earlier hmem =>
      (List.pairwise_append.mp h).2.2 earlier hmem field List.mem_cons_self
    have hsplit : done ++ field :: fields = (done ++ [field]) ++ fields := by
      rw [List.append_assoc, List.singleton_append]
    rw [List.foldl_cons, insertField_of_forall_lt hbefore, hsplit]
    rw [hsplit] at h
    exact ih _ h

lemma toNat_count_of_lt {count : ℕ} (h : count < 2147483648) : (max (Int32.ofNat count) 0).toInt.toNat = count := by
  have hcount : (Int32.ofNat count).toInt = count := Int32.toInt_ofNat_of_lt h
  have hzero : (0 : Int32).toInt = 0 := rfl
  have hmax : max (Int32.ofNat count) 0 = if Int32.ofNat count ≤ 0 then 0 else Int32.ofNat count := rfl
  rw [hmax]
  split
  next hle =>
    rw [Int32.le_iff_toInt_le, hcount, hzero] at hle
    rw [hzero]
    omega
  next => rw [hcount, Int.toNat_natCast]

/-- **The payload of a text** is read as the text of the normed value. -/
lemma decodes_writeDatabasePayload {text : String} (hvalid : (json.valueOf text).Valid)
    (hfits : (json.valueOf text).Fits json) (hcount : (json.valueOf text).fieldsOf.length < 2147483648) :
    Decodes (readDatabasePayload json) (writeDatabasePayload json text)
      (json.toString ((json.valueOf text).norm json)) := by
  have hnormed : ((json.valueOf text).norm json).Valid := hvalid.norm
  cases hnormed with
  | object hsorted =>
    cases hvalid.fieldsOf with
    | object hkeys hvalues =>
      have hfields := Decodes.readN fun field hmem =>
        decodes_readDatabaseField (hvalues field hmem) (hfits field hmem).1 (hfits field hmem).2
      have hdone := hfields.map fun fields =>
        json.toString (.object (fields.foldl (fun map field => insertField field.1 field.2 map) []))
      rw [foldl_insertField _ [] hsorted] at hdone
      rw [writeDatabasePayload_eq, readDatabasePayload]
      refine (decodes_getI32 _).bind ?_
      rw [toNat_count_of_lt hcount]
      exact hdone

/-! ### Records -/

namespace SerdeJson

/-- What is relied on for a text: its value is one there is, and the text of the normed value is parsed as it. -/
structure Faithful (json : SerdeJson) (text : String) : Prop where
  valid : ∀ value, json.fromStr text = some value → value.Valid
  round : json.fromStr (json.toString ((json.valueOf text).norm json)) = some ((json.valueOf text).norm json)

/-- The record is read with its payload normed, and nothing behind it is read. -/
def Returns (json : SerdeJson) (m : DatabasePrimitiveMessage) : Prop :=
  Decodes (DatabasePrimitiveMessage.deserialize json) (DatabasePrimitiveMessage.serialize json m)
    ⟨m.name, json.toString ((json.valueOf m.jsonPayload).norm json)⟩

lemma Faithful.valueOf {text : String} (h : json.Faithful text) : (json.valueOf text).Valid := by
  rw [SerdeJson.valueOf]
  cases hparsed : json.fromStr text with
  | none => exact .string text
  | some value => exact h.valid value hparsed

lemma returns_of_valid {name text : String} (hname : (asBytes name).length ≤ 65534)
    (hvalid : (json.valueOf text).Valid) (hfits : (json.valueOf text).Fits json)
    (hcount : (json.valueOf text).fieldsOf.length < 2147483648) : json.Returns ⟨name, text⟩ :=
  (decodes_getString hname).bind ((decodes_writeDatabasePayload hvalid hfits hcount).map fun payload =>
    DatabasePrimitiveMessage.mk name payload)

/-- **Records are stable.**  What is fetched is what was stored, normed; stored once more it stays as it is.  The
numbers of all three integer ranges come back exactly. -/
theorem database_payload_stable {name text : String} (hfaithful : json.Faithful text)
    (hname : (asBytes name).length ≤ 65534) (hfits : (json.valueOf text).Fits json)
    (hcount : (json.valueOf text).fieldsOf.length < 2147483648) :
    json.Returns ⟨name, text⟩ ∧
    ((json.valueOf text).norm json).norm json = (json.valueOf text).norm json ∧
    Decodes (DatabasePrimitiveMessage.deserialize json)
      (DatabasePrimitiveMessage.serialize json ⟨name, json.toString ((json.valueOf text).norm json)⟩)
      ⟨name, json.toString ((json.valueOf text).norm json)⟩ ∧
    ∀ value : ℤ, -9223372036854775808 ≤ value → value < 18446744073709551616 →
      Decodes readMarked (writeDatabaseNumber (.int value)) (.number (.int value)) := by
  have hagain : json.valueOf (json.toString ((json.valueOf text).norm json)) = (json.valueOf text).norm json := by
    rw [SerdeJson.valueOf, hfaithful.round, Option.getD_some]
  refine ⟨returns_of_valid hname hfaithful.valueOf hfits hcount, Value.norm_norm, ?_, ?_⟩
  · have hsecond := @returns_of_valid json name (json.toString ((json.valueOf text).norm json)) hname
    rw [Returns, hagain, Value.norm_norm] at hsecond
    refine hsecond hfaithful.valueOf.norm hfits.norm ?_
    rw [Value.norm, Value.fieldsOf, List.length_map]
    exact hcount
  · exact fun value hlow hhigh => decodes_writeDatabaseNumber ⟨hlow, hhigh⟩

end SerdeJson
end Payload

/-! ### Known values -/

/-- The text of a value without floats, with strings that need no escapes, up to a depth. -/
def textOf : ℕ → Value → String
  | _ + 1, .null => "null"
  | _ + 1, .bool value => if value then "true" else "false"
  | _ + 1, .number (.int value) => toString value
  | _ + 1, .string value => "\"" ++ value ++ "\""
  | depth + 1, .array items => "[" ++ ",".intercalate (items.map (textOf depth)) ++ "]"
  | depth + 1, .object fields =>
    "\x7b" ++ ",".intercalate (fields.map fun field => "\"" ++ field.1 ++ "\":" ++ textOf depth field.2) ++ "\x7d"
  | _, _ => ""

/-- Writes such values, and parses the texts of some of them. -/
def knownJson (known : List Value) : SerdeJson where
  toString := textOf 3
  fromStr text := known.find? fun value => textOf 3 value = text

/-- A field beyond the `i32` range, and a nested array. -/
def nestedValue : Value := .object [("a", .number (.int 5000000000)), ("b", .array [.number (.int 1)])]

def nestedNormed : Value := .object [("a", .number (.int 5000000000)), ("b", .string "[1]")]

/-- An object with the one field `value`. -/
def valueField (value : Value) : Value := .object [("value", value)]

namespace SerdeJson

theorem database_payload_stable_nested :
    (knownJson [nestedValue, nestedNormed]).Returns ⟨"n", "\x7b\"a\":5000000000,\"b\":[1]\x7d"⟩ := by
  have hparsed : (knownJson [nestedValue, nestedNormed]).fromStr "\x7b\"a\":5000000000,\"b\":[1]\x7d" =
      some nestedValue := rfl
  have hvalid : nestedValue.Valid := by
    refine .object (by decide) (List.forall_mem_cons.mpr ⟨.number (by decide), List.forall_mem_singleton.mpr ?_⟩)
    exact .array (List.forall_mem_singleton.mpr (.number (by decide)))
  have hfits : nestedValue.Fits (knownJson [nestedValue, nestedNormed]) := by
    have harray : (asBytes "[1]").length ≤ 65534 := by decide
    exact List.forall_mem_cons.mpr ⟨⟨by decide, trivial⟩, List.forall_mem_singleton.mpr ⟨by decide, harray⟩⟩
  refine (database_payload_stable ⟨?_, rfl⟩ (by decide) hfits (by decide)).1
  intro value hvalue
  obtain rfl := Option.some.inj (hparsed.symm.trans hvalue)
  exact hvalid

end SerdeJson

/-! ### Records that do not come back -/

section Lost

lemma two_le_length_putString (text : String) : 2 ≤ (putString text).length := by
  rw [putString]
  split
  · exact Nat.le_refl 2
  · rw [List.length_append, putU16, length_leBytes]
    exact Nat.le_add_right 2 _

variable {json : SerdeJson} {name text : String}

/-- A count that is not positive is a count of no fields. -/
lemma decodes_readDatabasePayload_none {count : Int32} (h : (max count 0).toInt.toNat = 0) :
    Decodes (readDatabasePayload json) (putI32 count) (json.toString (.object [])) := by
  rw [readDatabasePayload, ← List.append_nil (putI32 count)]
  refine (decodes_getI32 count).bind ?_
  rw [h]
  exact Decodes.pure _

/-- The fields of an object whose count is not one of an `i32` are not read. -/
lemma not_returns_of_count (hname : (asBytes name).length ≤ 65534)
    (hcount : (max (Int32.ofNat (json.valueOf text).fieldsOf.length) 0).toInt.toNat = 0)
    (hne : (json.valueOf text).fieldsOf ≠ []) : ¬ json.Returns ⟨name, text⟩ := by
  intro hreturns
  have hempty : Decodes (DatabasePrimitiveMessage.deserialize json)
      (putString name ++ putI32 (Int32.ofNat (json.valueOf text).fieldsOf.length))
      ⟨name, json.toString (.object [])⟩ :=
    (decodes_getString hname).bind
      ((decodes_readDatabasePayload_none hcount).map fun payload => DatabasePrimitiveMessage.mk name payload)
  have hread := hempty ((json.valueOf text).fieldsOf.flatMap (fieldBytes json))
  have hwhole := hreturns []
  rw [List.append_nil, DatabasePrimitiveMessage.serialize, writeDatabasePayload_eq, ← List.append_assoc] at hwhole
  have hnil : (json.valueOf text).fieldsOf.flatMap (fieldBytes json) = [] :=
    (EStateM.Result.ok.inj (hread.symm.trans hwhole)).2
  obtain ⟨field, hfield⟩ := List.exists_mem_of_ne_nil _ hne
  have hkey := congrArg List.length (List.flatMap_eq_nil_iff.mp hnil field hfield)
  rw [fieldBytes, List.length_append, List.length_nil] at hkey
  have hlong := two_le_length_putString field.1
  omega

/-- The length of the name is not one of a `u16`: the empty name is read. -/
lemma not_returns_of_name (hname : (asBytes name).length = 65535) : ¬ json.Returns ⟨name, text⟩ := by
  intro hreturns
  have hne : name ≠ "" := by
    rintro rfl
    exact absurd hname (by decide)
  have hwritten : putString name = putU16 0 ++ asBytes name := by
    rw [putString, if_neg hne, hname]
    rfl
  have hwhole := hreturns []
  rw [DatabasePrimitiveMessage.serialize, hwritten, List.append_assoc, List.append_assoc] at hwhole
  have hempty : Decodes getString (putU16 0 ++ []) "" := (decodes_getU16 0).bind (Decodes.pure "")
  rw [List.append_nil] at hempty
  obtain ⟨read, rest, hread, hrest⟩ := ok_of_bind_ok hwhole
  rw [hempty] at hread
  cases hread
  obtain ⟨payload, rest', -, hrecord⟩ := ok_of_bind_ok hrest
  cases hrecord
  exact hne rfl

end Lost

/-! ### Too many keys, too long a name -/

/-- Keys of two characters each, in their order. -/
def keyAt (i : ℕ) : String := String.ofList [Char.ofNat (57344 + i / 65536), Char.ofNat (57344 + i % 65536)]

def manyFields (count : ℕ) : List (String × Value) := (List.range count).map fun i => (keyAt i, .null)

def manyJson (count : ℕ) : SerdeJson := knownJson [.object (manyFields count)]

def manyText (count : ℕ) : String := textOf 3 (.object (manyFields count))

def nameOf (length : ℕ) : String := String.ofList (List.replicate length 'a')

lemma charOf_lt {m n : ℕ} (h : m < n) (hn : n < 65536) : Char.ofNat (57344 + m) < Char.ofNat (57344 + n) := by
  have htoNat {d : ℕ} (hd : d < 65536) : (Char.ofNat (57344 + d)).toNat = 57344 + d := by
    have hvalid : (57344 + d).isValidChar := .inr ⟨by omega, by omega⟩
    rw [Char.ofNat, dif_pos hvalid]
    rfl
  rw [Char.lt_def, UInt32.lt_iff_toNat_lt]
  change (Char.ofNat _).toNat < (Char.ofNat _).toNat
  rw [htoNat (h.trans hn), htoNat hn]
  omega

lemma keyAt_lt {i j : ℕ} (h : i < j) (hj : j < 2147483648) : keyAt i < keyAt j := by
  have hsplit := Nat.div_add_mod i 65536
  have hsplit' := Nat.div_add_mod j 65536
  have hlow := Nat.mod_lt i (show 0 < 65536 by decide)
  have hlow' := Nat.mod_lt j (show 0 < 65536 by decide)
  rw [keyAt, keyAt, String.lt_iff, String.toList_ofList, String.toList_ofList, List.cons_lt_cons_iff,
    List.cons_lt_cons_iff]
  rcases Nat.lt_or_ge (i / 65536) (j / 65536) with hfirst | hfirst
  · exact .inl (charOf_lt hfirst (by omega))
  · have hsame : i / 65536 = j / 65536 := by omega
    exact .inr ⟨by rw [hsame], .inl (charOf_lt (by omega) hlow')⟩

lemma length_asBytes_keyAt (i : ℕ) : (asBytes (keyAt i)).length ≤ 65534 := by
  have hfirst := Char.utf8Size_le_four (Char.ofNat (57344 + i / 65536))
  have hsecond := Char.utf8Size_le_four (Char.ofNat (57344 + i % 65536))
  rw [keyAt, asBytes_eq_flatMap, String.toList_ofList, List.flatMap_cons, List.flatMap_singleton, List.length_append,
    String.length_utf8EncodeChar, String.length_utf8EncodeChar]
  omega

lemma valid_manyFields {count : ℕ} (h : count ≤ 2147483648) : (Value.object (manyFields count)).Valid := by
  refine .object (List.pairwise_map.mpr ?_) (List.forall_mem_map.mpr fun _ _ => .null)
  refine List.pairwise_lt_range.imp_of_mem fun _ hj hlt => keyAt_lt hlt ?_
  exact (List.mem_range.mp hj).trans_le h

lemma norm_manyFields (json : SerdeJson) (count : ℕ) :
    (Value.object (manyFields count)).norm json = .object (manyFields count) := by
  rw [Value.norm, Value.fieldsOf, manyFields, List.map_map]
  rfl

lemma fromStr_textOf (value : Value) (known : List Value) :
    (knownJson (value :: known)).fromStr (textOf 3 value) = some value :=
  @List.find?_cons_of_pos _ (fun known => decide (textOf 3 known = textOf 3 value)) value known (decide_eq_true rfl)

lemma fromStr_manyText (count : ℕ) : (manyJson count).fromStr (manyText count) = some (.object (manyFields count)) :=
  fromStr_textOf _ []

lemma valueOf_manyText (count : ℕ) : (manyJson count).valueOf (manyText count) = .object (manyFields count) := by
  rw [SerdeJson.valueOf, fromStr_manyText, Option.getD_some]

lemma faithful_manyText {count : ℕ} (h : count ≤ 2147483648) : (manyJson count).Faithful (manyText count) := by
  constructor
  · intro value hvalue
    obtain rfl := Option.some.inj ((fromStr_manyText count).symm.trans hvalue)
    exact valid_manyFields h
  · rw [valueOf_manyText, norm_manyFields]
    exact fromStr_manyText count

lemma fits_manyText (count : ℕ) : ((manyJson count).valueOf (manyText count)).Fits (manyJson count) := by
  rw [valueOf_manyText]
  exact List.forall_mem_map.mpr fun i _ => ⟨length_asBytes_keyAt i, trivial⟩

lemma not_returns_manyText {count : ℕ} (h : count = 2147483648) : ¬ (manyJson count).Returns ⟨"n", manyText count⟩ := by
  have hlength : (Value.object (manyFields count)).fieldsOf.length = count := by
    rw [Value.fieldsOf, manyFields, List.length_map, List.length_range]
  refine not_returns_of_count (by decide) ?_ ?_
  · rw [valueOf_manyText, hlength, h]
    decide
  · rw [valueOf_manyText]
    intro hnil
    rw [hnil, List.length_nil] at hlength
    omega

/-- An object of 2^31 keys is read as an empty one, and a name of 65535 bytes as the empty one. -/
theorem database_payload_lost :
    ((manyJson 2147483648).Faithful (manyText 2147483648) ∧
      ((manyJson 2147483648).valueOf (manyText 2147483648)).Fits (manyJson 2147483648) ∧
      ¬ (manyJson 2147483648).Returns ⟨"n", manyText 2147483648⟩) ∧
    ((knownJson [valueField (.string "x")]).Faithful "x" ∧
      ((knownJson [valueField (.string "x")]).valueOf "x").Fits (knownJson [valueField (.string "x")]) ∧
      ¬ (knownJson [valueField (.string "x")]).Returns ⟨nameOf 65535, "x"⟩) := by
  have hname : (asBytes (nameOf 65535)).length = 65535 := by
    have hchar : String.utf8EncodeChar 'a' = [97] := by decide
    rw [nameOf, asBytes_eq_flatMap, String.toList_ofList, List.flatMap_replicate, hchar,
      List.flatten_replicate_singleton, List.length_replicate]
  have htext : (asBytes "x").length ≤ 65534 := by decide
  refine ⟨⟨faithful_manyText (Nat.le_refl _), fits_manyText _, not_returns_manyText rfl⟩, ⟨?_, rfl⟩, ?_,
    not_returns_of_name hname⟩
  · intro value hvalue
    cases hvalue
  · exact List.forall_mem_singleton.mpr ⟨by decide, htext⟩

end BasisRust.Protocol
