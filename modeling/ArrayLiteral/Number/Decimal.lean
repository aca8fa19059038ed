import ArrayLiteral.Number.Binary64
import ArrayLiteral.Text.Blank

/-!
# Number — Decimal

Decimals `coefficient · 10 ^ exponent`: how they are read from digits, which of them stands for a
binary64 magnitude, and how they are written out.

The decimal that stands for a magnitude is the one with the fewest digits among those that round
to it, and of several such the nearest.  The decimals that round to a magnitude lie between the
midpoints to its two neighbours, where the midpoints themselves belong to the even rank.
-/

namespace ArrayLiteral

/-- The decimal `coefficient · 10 ^ exponent`. -/
structure Decimal where
  coefficient : Nat
  exponent : Int
deriving DecidableEq

namespace Decimal

/-- The value of a run of decimal digits. -/
def digitsValue (digits : Text) : Nat := Nat.ofDigitChars 10 digits 0

/-- The decimal digits of a natural, without leading zeros. -/
def digits (n : Nat) : Text := Nat.toDigits 10 n

theorem digitsValue_digits (n : Nat) : digitsValue (digits n) = n :=
  Nat.ofDigitChars_toDigits (by decide) (by decide)

theorem isDigit_of_mem_digits {n : Nat} {c : Char} (h : c ∈ digits n) : c.isDigit = true :=
  Nat.isDigit_of_mem_toDigits (by decide) (by decide) h

/-- Which of two equally near decimals is taken. -/
inductive Tie where
  /-- The larger one. -/
  | up
  /-- The one with an even coefficient. -/
  | even
deriving DecidableEq

/-- The decimals that round to the magnitude of one rank.  They are kept as naturals, in units of
10⁻³²⁴ over the common denominator `unit`. -/
structure Interval where
  low : Nat
  value : Nat
  high : Nat
  /-- Whether the ends belong to it. -/
  closed : Bool

namespace Interval

/-- The scale of an interval: 10⁻³²⁴ in units of 2⁻¹⁰⁷⁵ · 10⁻³²⁴. -/
def unit : Nat := 2 * Binary64.one

/-- The decimals that round to the magnitude of a positive rank. -/
def ofRank (rank : Nat) : Interval :=
  let here := Binary64.units rank
  { low := (Binary64.units (rank - 1) + here) * Nat.pow 10 324
    value := 2 * here * Nat.pow 10 324
    high := (here + Binary64.units (rank + 1)) * Nat.pow 10 324
    closed := rank % 2 == 0 }

/-- Whether a decimal rounds to the magnitude. -/
def holds (i : Interval) (x : Nat) : Bool :=
  if i.closed then i.low ≤ x && x ≤ i.high else i.low < x && x < i.high

/-- The multiple of `step` nearest to the value among those in the interval, by its factor.  Only
the two multiples next to the value have to be tried. -/
def multiple? (i : Interval) (tie : Tie) (step : Nat) : Option Nat :=
  let below := i.value / step
  match i.holds (below * step), i.holds ((below + 1) * step) with
  | false, false => none
  | true, false => some below
  | false, true => some (below + 1)
  | true, true =>
    let rest := i.value % step
    if 2 * rest < step then some below
    else if step < 2 * rest then some (below + 1)
    else match tie with
      | .up => some (below + 1)
      | .even => some (below + below % 2)

/-- The shortest decimal of the interval on the grids 10 ^ (`k` - 324) and finer. -/
def shortest (i : Interval) (tie : Tie) : Nat → Decimal
  | 0 => ⟨(i.multiple? tie unit).getD (i.value / unit), -324⟩
  | k + 1 =>
    match i.multiple? tie (Nat.pow 10 (k + 1) * unit) with
    | some n => ⟨n, (k + 1 : Nat) - 324⟩
    | none => shortest i tie k

end Interval

/-- A grid that is too coarse for an interval, where the search can begin: a binary digit is worth
less than 0.31 decimal ones. -/
def Interval.coarse (i : Interval) : Nat := (i.high / Interval.unit).log2 * 31 / 100 + 1

/-- The decimal that stands for the magnitude of a positive rank. -/
def ofRank (tie : Tie) (rank : Nat) : Decimal :=
  let i := Interval.ofRank rank
  i.shortest tie i.coarse

/-- The exponent of the first digit: a decimal is `d.ddd · 10 ^ magnitude`. -/
def magnitude (x : Decimal) : Int := (digits x.coefficient).length - 1 + x.exponent

/-- A run of zeros. -/
def zeros (n : Nat) : Text := List.replicate n '0'

/-- A decimal written with a point and without an exponent.  A whole number has no point. -/
def positional (x : Decimal) : Text :=
  let ds := digits x.coefficient
  if 0 ≤ x.exponent then ds ++ zeros x.exponent.toNat
  else
    let places := x.exponent.natAbs
    if places < ds.length then ds.take (ds.length - places) ++ '.' :: ds.drop (ds.length - places)
    else '0' :: '.' :: zeros (places - ds.length) ++ ds

/-- An integer written in decimal digits. -/
def integerText (i : Int) : Text :=
  if i < 0 then '-' :: digits i.natAbs else digits i.natAbs

/-- A decimal written with one digit before the point and an exponent, which has a sign. -/
def scientific (x : Decimal) : Text :=
  let exponent :=
    if 0 ≤ x.magnitude then '+' :: digits x.magnitude.toNat else integerText x.magnitude
  match digits x.coefficient with
  | [] => []
  | [d] => d :: 'e' :: exponent
  | d :: ds => d :: '.' :: ds ++ 'e' :: exponent

end Decimal

end ArrayLiteral
