import ArrayLiteral.Error
import ArrayLiteral.Literal.Walker
import ArrayLiteral.Number.Literal
import ArrayLiteral.Value.Basic

/-!
# Literal — Reader

Reading a literal.  Only the outer brackets can be missing; inside them every text has a value,
and what is no array, string, number or constant is kept as an expression.

An array is a map as soon as an arrow stands at its top.  Of a map, the pieces without an arrow
are dropped, and a key that occurs twice keeps its first place and takes its last value.

Arrays are read down to a depth.  One that lies deeper is kept as an expression.
-/

namespace ArrayLiteral

namespace Text

/-- Whether a text begins with `[` and ends with `]`. -/
def isBracketed (t : Text) : Bool := t.head? == some '[' && t.getLast? == some ']'

/-- The text between the outer two characters, without outer blanks. -/
def inner (t : Text) : Text := trim t.tail.dropLast

/-- The text between two quotes of this kind. -/
def unquote? (quote : Char) : Text → Option Text
  | c :: rest => if c = quote ∧ rest.getLast? = some quote then some rest.dropLast else none
  | [] => none

/-- Equality without regard to the case of ASCII letters. -/
def equalIgnoringCase (s t : Text) : Bool := s.map Char.toLower == t.map Char.toLower

end Text

namespace Value

/-- How many levels of arrays are read. -/
def maxLevels : Nat := 129

/-- The value of a text without outer blanks that is not bracketed. -/
def readScalar (t : Text) : Value :=
  match (t.unquote? '\'').or (t.unquote? '"') with
  | some s => .string s
  | none =>
    match Number.ofLiteral? t with
    | some n => .number n
    | none =>
      if t.equalIgnoringCase ['t', 'r', 'u', 'e'] then .bool true
      else if t.equalIgnoringCase ['f', 'a', 'l', 's', 'e'] then .bool false
      else if t.equalIgnoringCase ['n', 'u', 'l', 'l'] then .null
      else .raw t

/-- The key that a value stands for, if it was read from the text. -/
def toKey (t : Text) : Value → Text
  | .string s => s
  | .raw s => s
  | .number n => n.text
  | .bool true => ['t', 'r', 'u', 'e']
  | .bool false => ['f', 'a', 'l', 's', 'e']
  | .null => ['n', 'u', 'l', 'l']
  | .list _ => t
  | .map _ => t

/-- The key that a text without outer blanks stands for.  The key of an array is its text. -/
def readKey (t : Text) : Text := if t.isBracketed then t else toKey t (readScalar t)

/-- The entry of a piece that has an arrow.  The value is read by `read`. -/
def keyed? (mode : QuoteScan) (read : Text → Value) (piece : Text) : Option (Text × Value) :=
  (piece.arrow? mode).map fun (key, value) => (readKey key.trim, read value.trim)

/-- The array with this text between its brackets, whose elements are read by `read`. -/
def readArray (mode : QuoteScan) (read : Text → Value) (content : Text) : Value :=
  let pieces := (content.pieces mode).map Text.trim
  if (content.arrow? mode).isSome then .map (Entries.collect (pieces.filterMap (keyed? mode read)))
  else .list ((pieces.filter (· ≠ [])).map read)

/-- The value of a text without outer blanks.  So many levels of arrays are read. -/
def read (mode : QuoteScan) : Nat → Text → Value
  | 0, t => if t.isBracketed then .raw t else readScalar t
  | levels + 1, t =>
    if t.isBracketed then readArray mode (read mode levels) t.inner else readScalar t

/-- The value of a text, which may be of any form. -/
def ofText (mode : QuoteScan) (t : Text) : Value := read mode maxLevels t.trim

/-- The value of a literal, which must be an array. -/
def parse (mode : QuoteScan) (t : Text) : Except Error Value :=
  if t.trim.isBracketed then .ok (ofText mode t) else .error (.unbracketed t)

/-- A text is refused exactly when it is not bracketed. -/
theorem parse_eq_error_iff {mode : QuoteScan} {t : Text} {e : Error} :
    parse mode t = .error e ↔ t.trim.isBracketed = false ∧ e = .unbracketed t := by
  unfold parse
  cases t.trim.isBracketed with
  | true => simp
  | false => simp only [Bool.false_eq_true, if_false, Except.error.injEq, true_and, eq_comm]

end Value

end ArrayLiteral
