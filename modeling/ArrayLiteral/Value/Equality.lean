import ArrayLiteral.Value.Basic

/-!
# Value — Equality

Two values are equal when they have the same kind and content.  Lists are compared in order; maps
are compared key by key, whatever the order of their entries.  Numbers follow numerical equality,
so that a NaN is not equal to itself, and an integer never equals a float.
-/

namespace ArrayLiteral.Value

mutual

/-- Equality of values. -/
def equal : Value → Value → Bool
  | .null, .null => true
  | .bool a, .bool b => a == b
  | .number m, .number n => m.equal n
  | .string s, .string t => s == t
  | .list xs, .list ys => equalItems xs ys
  | .map m, .map n => m.length == n.length && includes m n
  | .raw s, .raw t => s == t
  | _, _ => false

/-- Equality of lists, element by element. -/
def equalItems : List Value → List Value → Bool
  | [], [] => true
  | x :: xs, y :: ys => equal x y && equalItems xs ys
  | _, _ => false

/-- Whether the second map has every key of the first, with an equal value. -/
def includes : List (Text × Value) → Entries Value → Bool
  | [], _ => true
  | (key, value) :: rest, n =>
    (match n.get? key with
      | some other => equal value other
      | none => false) && includes rest n

end

end ArrayLiteral.Value
