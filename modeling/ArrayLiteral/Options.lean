import ArrayLiteral.Collation.KeyOrder

/-!
# Options — how literals are read, sorted and written

The indent is a natural number, so that it has no largest value.  What a machine word or the memory
cannot hold is left out: no text is too long to be written.
-/

namespace ArrayLiteral

/-- How quotes are followed in a text. -/
inductive QuoteScan where
  /-- The next quote of the same kind ends a string. -/
  | naive
  /-- A quote after an odd number of backslashes stays inside its string. -/
  | escapes
deriving DecidableEq

/-- How literals are read, sorted and written. -/
structure Options where
  /-- Spaces per level. -/
  indent : Nat := 4
  keyOrder : KeyOrder := .locale
  quoteScan : QuoteScan := .naive
deriving DecidableEq

end ArrayLiteral
