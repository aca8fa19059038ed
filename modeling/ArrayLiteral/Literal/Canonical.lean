import ArrayLiteral.Literal.Printer
import ArrayLiteral.Literal.Reader
import ArrayLiteral.Value.Sort

/-!
# Literal — Canonical

The canonical form of a literal: what is read, with all maps sorted by key, written again.  A text
is canonical if it is that already, up to one line end.
-/

namespace ArrayLiteral

/-- The canonical form of a literal. -/
def sortLiteral (options : Options) (t : Text) : Except Error Text :=
  (Value.parse options.quoteScan t).map fun v =>
    (v.sortKeys options.keyOrder).render options.indent 0

/-- Whether a literal is in canonical form. -/
def isCanonical (options : Options) (t : Text) : Except Error Bool :=
  (sortLiteral options t).map fun sorted => t.chomp == sorted

/-- What is read is sorted and written. -/
theorem sortLiteral_of_parse {options : Options} {t : Text} {v : Value}
    (h : Value.parse options.quoteScan t = .ok v) :
    sortLiteral options t = .ok ((v.sortKeys options.keyOrder).render options.indent 0) := by
  rw [sortLiteral, h]
  rfl

end ArrayLiteral
