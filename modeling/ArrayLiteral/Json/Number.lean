import ArrayLiteral.Number.Literal

/-!
# Json — Number

Reading a JSON number.  One without fraction and exponent is an exact integer while it fits 64
bits, with or without a sign.  Any other is computed in binary64: as many leading digits as fit 64
bits form the significand, which is rounded and then multiplied or divided by a power of ten, so
that up to three roundings take place.  A number beyond the range of binary64 is refused.
-/

namespace ArrayLiteral.Json

/-- The parts of a JSON number. -/
structure Numeral where
  negative : Bool
  whole : Text
  fraction : Option Text
  exponent : Option Int
deriving DecidableEq

namespace Numeral

/-- Reads the exponent, which must be all that is left. -/
def exponent? : Text → Option (Option Int)
  | [] => some none
  | e :: rest =>
    if e = 'e' ∨ e = 'E' then
      let (negative, digits) :=
        match rest with
        | '-' :: digits => (true, digits)
        | '+' :: digits => (false, digits)
        | digits => (false, digits)
      if Number.Literal.isDigits digits then
        let magnitude : Int := Decimal.digitsValue digits
        some (some (if negative then -magnitude else magnitude))
      else none
    else none

/-- The fraction, if there is one, and what follows it. -/
def fraction? : Text → Option (Option Text × Text)
  | '.' :: rest =>
    match rest.takeWhile Char.isDigit with
    | [] => none
    | digits => some (some digits, rest.dropWhile Char.isDigit)
  | rest => some (none, rest)

/-- Whether these digits can stand before the point: there is one, and no needless zero. -/
def isWhole : Text → Bool
  | [] => false
  | ['0'] => true
  | d :: _ => d != '0'

/-- The parts of a text that has the form of a number. -/
def ofText? (t : Text) : Option Numeral :=
  let (negative, unsigned) := Number.Literal.unsign t
  let whole := unsigned.takeWhile Char.isDigit
  if isWhole whole then do
    let (fraction, rest) ← fraction? (unsigned.dropWhile Char.isDigit)
    let exponent ← exponent? rest
    return ⟨negative, whole, fraction, exponent⟩
  else none

/-- Appends digits to a significand while it fits 64 bits; answers it with the number of digits
that are left over. -/
def significand (n : Nat) : Text → Nat × Nat
  | [] => (n, 0)
  | d :: rest =>
    let next := 10 * n + (d.toNat - '0'.toNat)
    if next < UInt64.size then significand next rest else (n, (d :: rest).length)

/-- The rank of the power of ten. -/
def powerOfTen (k : Nat) : Nat := Binary64.nearest (Nat.pow 10 k * Binary64.one) 1

/-- The rank of a rounded product. -/
def product (x y : Nat) : Nat :=
  Binary64.nearest (Binary64.units x * Binary64.units y) Binary64.one

/-- The rank of a rounded quotient. -/
def quotient (x y : Nat) : Nat :=
  Binary64.nearest (Binary64.units x * Binary64.one) (Binary64.units y)

/-- The largest power of ten that is divided by at once. -/
def maxPower : Nat := 308

/-- Divides by a power of ten, in steps if it is a large one. -/
def divide (x k : Nat) : Nat :=
  if k ≤ maxPower then quotient x (powerOfTen k)
  else if x = 0 then 0
  else divide (quotient x (powerOfTen maxPower)) (k - maxPower)
termination_by k
decreasing_by simp only [maxPower] at *; omega

/-- Multiplies by a power of ten, unless the product is infinite. -/
def multiply? (x k : Nat) : Option Nat :=
  if x = 0 then some 0
  else if k ≤ maxPower ∧ product x (powerOfTen k) < Binary64.infinityRank then
    some (product x (powerOfTen k))
  else none

/-- The rank of a significand times a power of ten. -/
def scale? (n : Nat) (exponent : Int) : Option Nat :=
  let x := Binary64.nearest (n * Binary64.one) 1
  if 0 ≤ exponent then multiply? x exponent.toNat else some (divide x exponent.natAbs)

/-- The value computed in binary64. -/
def float? (l : Numeral) : Option Binary64 :=
  let fraction := l.fraction.getD []
  let (n, dropped) := significand 0 l.whole
  let (n, left) := significand n fraction
  let exponent : Int := l.exponent.getD 0 + dropped - (fraction.length - left : Nat)
  (scale? n exponent).map (.ofRank l.negative)

/-- The number of the value computed in binary64. -/
def scaled? (l : Numeral) : Option Number := l.float?.map .ofBinary64

/-- The number of digits without fraction and exponent. -/
def integer (negative : Bool) (n : Nat) : Number :=
  if negative then
    match Number.int64? (-n) with
    | some i => .integer i
    | none => .ofBinary64 (.ofInt (-n))
  else .ofNat n

/-- The number that a JSON number denotes. -/
def number? (l : Numeral) : Option Number :=
  match l.fraction, l.exponent with
  | none, none =>
    let n := Decimal.digitsValue l.whole
    if n < UInt64.size then some (integer l.negative n) else l.scaled?
  | _, _ => l.scaled?

end Numeral

/-- Reads a JSON number. -/
def readNumber? (t : Text) : Option Number := (Numeral.ofText? t).bind Numeral.number?

end ArrayLiteral.Json
