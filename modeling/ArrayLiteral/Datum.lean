import ArrayLiteral.Text.Utf8
import ArrayLiteral.Value.Basic

/-!
# Datum — values from a self-describing stream

A stream of typed data, of the kind that binary and textual formats deliver, is turned into a
value.  Not every datum has a place in one: a value cannot be made of bytes, of a wrapper or of an
integer of 128 bits, and the key of a map must be text.  Data are visited in order, in a map each
key before its value, and the first one without a place is the error.
-/

namespace ArrayLiteral

/-- One datum of a stream. -/
inductive Datum where
  | bool (value : Bool)
  /-- An integer of 64 bits with a sign. -/
  | signed (value : Int64)
  /-- An integer of 64 bits without a sign. -/
  | unsigned (value : UInt64)
  /-- An integer of 128 bits with a sign. -/
  | signed128 (value : Int)
  /-- An integer of 128 bits without a sign. -/
  | unsigned128 (value : Nat)
  | float (value : Binary64)
  | text (value : Text)
  | bytes (value : List UInt8)
  | unit
  /-- An optional datum that is missing. -/
  | absent
  /-- An optional datum that is there. -/
  | present (content : Datum)
  /-- A datum in a wrapper that has a type of its own. -/
  | wrapped (content : Datum)
  | sequence (items : List Datum)
  | mapping (entries : List (Datum × Datum))
  /-- The stream breaks off with a message. -/
  | failure (message : Text)

namespace Datum

/-- The places of a datum. -/
inductive Place where
  | value
  | key
deriving DecidableEq

/-- What a place expects, in words. -/
def Place.expected : Place → Text
  | .value => "a scalar, sequence or map".toList
  | .key => "a string".toList

/-- A word with a detail in backquotes. -/
def detailed (word detail : Text) : Text := word ++ " `".toList ++ detail ++ ['\x60']

/-- What a datum is called in a message. -/
def description : Datum → Text
  | .bool b => detailed "boolean".toList (if b then "true".toList else "false".toList)
  | .signed i => detailed "integer".toList (Decimal.integerText i.toInt)
  | .unsigned n => detailed "integer".toList (Decimal.digits n.toNat)
  | .signed128 i => detailed "integer".toList (Decimal.integerText i) ++ " as i128".toList
  | .unsigned128 n => detailed "integer".toList (Decimal.digits n) ++ " as u128".toList
  | .float x =>
    let t := Number.floatText x
    detailed "floating point".toList (if x.isFinite ∧ '.' ∉ t then t ++ ['.', '0'] else t)
  | .text _ => "string".toList
  | .bytes _ => "byte array".toList
  | .unit => "unit value".toList
  | .absent => "Option value".toList
  | .present _ => "Option value".toList
  | .wrapped _ => "newtype struct".toList
  | .sequence _ => "sequence".toList
  | .mapping _ => "map".toList
  | .failure cause => cause

/-- Why a stream has no value. -/
inductive Fault where
  /-- A datum is of a type that the place does not accept. -/
  | misplaced (found : Datum) (place : Place)
  /-- The bytes of a key are not UTF-8. -/
  | notUtf8 (bytes : List UInt8)
  /-- The stream broke off. -/
  | broken (message : Text)

/-- The message. -/
def Fault.message : Fault → Text
  | .misplaced found place =>
    "invalid type: ".toList ++ found.description ++ ", expected ".toList ++ place.expected
  | .notUtf8 content =>
    "invalid value: ".toList ++ (Datum.bytes content).description ++ ", expected ".toList ++
      Place.key.expected
  | .broken cause => cause

/-- The key that a datum is. -/
def toKey : Datum → Except Fault Text
  | .text t => .ok t
  | .bytes content =>
    match Text.ofUtf8? content with
    | some t => .ok t
    | none => .error (.notUtf8 content)
  | .failure cause => .error (.broken cause)
  | d => .error (.misplaced d .key)

mutual

/-- The value that a datum is. -/
def toValue : Datum → Except Fault Value
  | .bool b => .ok (.bool b)
  | .signed i => .ok (.ofInt64 i)
  | .unsigned n => .ok (.number (.ofNat n.toNat))
  | .float x => .ok (.ofBinary64 x)
  | .text t => .ok (.string t)
  | .unit => .ok .null
  | .absent => .ok .null
  | .present d => toValue d
  | .sequence items => (toItems items).map .list
  | .mapping entries => (toEntries [] entries).map .map
  | .failure cause => .error (.broken cause)
  | d => .error (.misplaced d .value)

/-- The elements that the data are. -/
def toItems : List Datum → Except Fault (List Value)
  | [] => .ok []
  | d :: rest => do
    let item ← toValue d
    let items ← toItems rest
    return item :: items

/-- The entries that the data add to a map. -/
def toEntries (done : Entries Value) : List (Datum × Datum) → Except Fault (Entries Value)
  | [] => .ok done
  | (k, v) :: rest => do
    let key ← toKey k
    let value ← toValue v
    toEntries (done.insert key value) rest

end

end Datum

end ArrayLiteral
