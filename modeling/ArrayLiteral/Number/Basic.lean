import ArrayLiteral.Number.Binary64
import ArrayLiteral.Number.Decimal
import ArrayLiteral.Text.Blank

/-!
# Number — Basic

A number is an integer of 64 bits or a binary64 number.  In normal form the two do not overlap:
a whole value that fits 64 bits is an integer (`ofBinary64`), so that `1.0` and `1` are one number.
-/

namespace ArrayLiteral

/-- A number. -/
inductive Number where
  | integer (value : Int64)
  | float (value : Binary64)
deriving DecidableEq

namespace Number

/-- The 64-bit integer of this value, if there is one. -/
def int64? (i : Int) : Option Int64 :=
  if Int64.minValue.toInt ≤ i ∧ i ≤ Int64.maxValue.toInt then some (Int64.ofInt i) else none

/-- The number of a binary64 value: an integer if it is whole and fits.  The upper bound is rounded
up when it becomes a binary64 number, so the value has to stay below it. -/
def ofBinary64 (x : Binary64) : Number :=
  if x.fract.equal .zero && (Binary64.ofInt Int64.minValue.toInt).le x &&
      x.lt (.ofInt Int64.maxValue.toInt) then
    .integer x.toInt64
  else .float x

/-- The number of an integer of 32 bits with a sign. -/
def ofInt32 (i : Int32) : Number := .integer i.toInt64

/-- The number of an integer of 32 bits without a sign. -/
def ofUInt32 (n : UInt32) : Number := .integer (Int64.ofNat n.toNat)

/-- The number of a natural, rounded unless it fits a 64-bit integer. -/
def ofNat (n : Nat) : Number :=
  match int64? n with
  | some i => .integer i
  | none => .float (.ofInt n)

/-- Whether the number is an integer. -/
def isInteger : Number → Bool
  | .integer _ => true
  | .float _ => false

/-- The integer, if the number is one. -/
def integer? : Number → Option Int64
  | .integer i => some i
  | .float _ => none

/-- The nearest binary64 number. -/
def toBinary64 : Number → Binary64
  | .integer i => .ofInt i.toInt
  | .float x => x

/-- Numerical equality within each kind.  An integer never equals a float. -/
def equal : Number → Number → Bool
  | .integer i, .integer j => i == j
  | .float x, .float y => x.equal y
  | _, _ => false

/-- A binary64 number as it stands in a literal: the fewest digits that read back to it, of two
equally near decimals the larger, and never an exponent. -/
def floatText (x : Binary64) : Text :=
  if x.isNaN then ['N', 'a', 'N']
  else
    let magnitude :=
      if !x.isFinite then ['i', 'n', 'f']
      else if x.isZero then ['0']
      else (Decimal.ofRank .up x.rank).positional
    if x.negative then '-' :: magnitude else magnitude

/-- A number as it stands in a literal. -/
def text : Number → Text
  | .integer i => Decimal.integerText i.toInt
  | .float x => floatText x

end Number

end ArrayLiteral
