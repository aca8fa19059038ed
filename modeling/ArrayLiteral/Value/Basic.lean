import ArrayLiteral.Entries.Basic
import ArrayLiteral.Number.Basic

/-!
# Value — Basic

A value is what one element of an array literal stands for: a scalar, a list, a map, or an
expression that is kept as it was written.
-/

namespace ArrayLiteral

/-- A value of an array literal. -/
inductive Value where
  | null
  | bool (value : Bool)
  | number (value : Number)
  /-- The text between two quotes, with its escapes as they were written. -/
  | string (text : Text)
  /-- Elements whose order counts. -/
  | list (items : List Value)
  /-- Entries whose keys are texts. -/
  | map (entries : List (Text × Value))
  /-- An expression that is not interpreted, without outer blanks. -/
  | raw (text : Text)

namespace Value

instance : Inhabited Value := ⟨.null⟩

/-- The kinds of values. -/
inductive Kind where
  | null
  | bool
  | number
  | string
  | list
  | map
  | raw
deriving DecidableEq

/-- The kind of a value. -/
def kind : Value → Kind
  | .null => .null
  | .bool _ => .bool
  | .number _ => .number
  | .string _ => .string
  | .list _ => .list
  | .map _ => .map
  | .raw _ => .raw

/-- The truth value. -/
def bool? : Value → Option Bool
  | .bool b => some b
  | _ => none

/-- The number. -/
def number? : Value → Option Number
  | .number n => some n
  | _ => none

/-- The integer. -/
def integer? (v : Value) : Option Int64 := v.number?.bind Number.integer?

/-- The text of a string; an expression is not a string. -/
def string? : Value → Option Text
  | .string s => some s
  | _ => none

/-- The text of an expression. -/
def raw? : Value → Option Text
  | .raw s => some s
  | _ => none

/-- The elements of a list. -/
def list? : Value → Option (List Value)
  | .list items => some items
  | _ => none

/-- The entries of a map. -/
def map? : Value → Option (Entries Value)
  | .map entries => some entries
  | _ => none

/-- The value of a binary64 number; a whole one that fits 64 bits is an integer. -/
def ofBinary64 (x : Binary64) : Value := .number (.ofBinary64 x)

/-- The value of a 64-bit integer. -/
def ofInt64 (i : Int64) : Value := .number (.integer i)

end Value

end ArrayLiteral
