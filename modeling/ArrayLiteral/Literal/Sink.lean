import ArrayLiteral.Error
import ArrayLiteral.Literal.Printer
import ArrayLiteral.Options
import ArrayLiteral.Text.Utf8

/-!
# Literal — Sink

A literal can be written to a destination that takes only so many bytes.  What fits is delivered
either way; the error is that of the destination.
-/

namespace ArrayLiteral

/-- A destination that takes so many bytes, or any number, and then fails for a cause. -/
structure Sink where
  capacity : Option Nat
  cause : Text

namespace Sink

/-- The bytes that reach the destination. -/
def delivered (s : Sink) (bytes : List UInt8) : List UInt8 :=
  match s.capacity with
  | some n => bytes.take n
  | none => bytes

/-- Whether the bytes reach the destination. -/
def write (s : Sink) (bytes : List UInt8) : Except Error Unit :=
  if s.delivered bytes = bytes then .ok () else .error (.io s.cause)

end Sink

/-- The bytes of a value's literal. -/
def Value.bytes (options : Options) (v : Value) : List UInt8 := (v.render options.indent 0).utf8

end ArrayLiteral
