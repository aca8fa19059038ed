import ArrayLiteral.Collation.Weights

/-!
# Collation — KeyOrder

The two orders in which the keys of a map can be sorted: as in the root locale, or by code point.
Both are total orders that tell all keys apart, because keys of the same weights are in the end
compared by code point.
-/

namespace ArrayLiteral

namespace Collation

/-- Compares texts by code point, which is the order of their UTF-8 bytes. -/
def compareCodePoints (a b : Text) : Ordering := compare a b

/-- Compares texts by their primary weights, then their secondary ones, then their tertiary ones,
and last by code point. -/
def compareLocale (a b : Text) : Ordering :=
  let x := Weights.ofText a
  let y := Weights.ofText b
  (compare x.primary y.primary).then <|
    (compare x.secondary y.secondary).then <|
      (compare x.tertiary y.tertiary).then (compareCodePoints a b)

end Collation

/-- An order of keys. -/
inductive KeyOrder where
  /-- Blanks, punctuation, symbols, digits, letters; accents and case only as a tie-break. -/
  | locale
  /-- Code point by code point. -/
  | bytewise
deriving DecidableEq

namespace KeyOrder

/-- Compares two keys. -/
def compare : KeyOrder → Text → Text → Ordering
  | .locale => Collation.compareLocale
  | .bytewise => Collation.compareCodePoints

/-- Whether the first key may stand before the second. -/
def le (order : KeyOrder) (a b : Text) : Bool := (order.compare a b).isLE

/-- A key never comes before itself. -/
theorem compare_self (order : KeyOrder) (a : Text) : order.compare a a = .eq := by
  cases order with
  | locale =>
    simp only [compare, Collation.compareLocale, Collation.compareCodePoints,
      Std.ReflCmp.compare_self, Ordering.eq_then]
  | bytewise => simp only [compare, Collation.compareCodePoints, Std.ReflCmp.compare_self]

end KeyOrder

end ArrayLiteral
