import ArrayLiteral.Value.Basic

/-!
# Proofs — Value — Identity

Whether two values are the same can be decided, so that what is read from a literal can be checked
by evaluation.  This is identity, and not the equality of values: entries have their places, and a
NaN is itself.
-/

namespace ArrayLiteral.Value

mutual

/-- Two values are the same if they have one constructor and the same parts. -/
instance decidableEq : ∀ v w : Value, Decidable (v = w)
  | .null, w =>
      match w with
      | .null => .isTrue rfl
      | .bool _ | .number _ | .string _ | .list _ | .map _ | .raw _ => .isFalse nofun
  | .bool b, w =>
      match w with
      | .bool c => decidable_of_iff (b = c) (by rw [Value.bool.injEq])
      | .null | .number _ | .string _ | .list _ | .map _ | .raw _ => .isFalse nofun
  | .number m, w =>
      match w with
      | .number n => decidable_of_iff (m = n) (by rw [Value.number.injEq])
      | .null | .bool _ | .string _ | .list _ | .map _ | .raw _ => .isFalse nofun
  | .string s, w =>
      match w with
      | .string t => decidable_of_iff (s = t) (by rw [Value.string.injEq])
      | .null | .bool _ | .number _ | .list _ | .map _ | .raw _ => .isFalse nofun
  | .list items, w =>
      match w with
      | .list others =>
          have := decidableEqItems items others
          decidable_of_iff (items = others) (by rw [Value.list.injEq])
      | .null | .bool _ | .number _ | .string _ | .map _ | .raw _ => .isFalse nofun
  | .map entries, w =>
      match w with
      | .map others =>
          have := decidableEqEntries entries others
          decidable_of_iff (entries = others) (by rw [Value.map.injEq])
      | .null | .bool _ | .number _ | .string _ | .list _ | .raw _ => .isFalse nofun
  | .raw s, w =>
      match w with
      | .raw t => decidable_of_iff (s = t) (by rw [Value.raw.injEq])
      | .null | .bool _ | .number _ | .string _ | .list _ | .map _ => .isFalse nofun

instance decidableEqItems : ∀ items others : List Value, Decidable (items = others)
  | [], [] => .isTrue rfl
  | [], _ :: _ | _ :: _, [] => .isFalse nofun
  | v :: rest, w :: others =>
      have := decidableEq v w
      have := decidableEqItems rest others
      decidable_of_iff (v = w ∧ rest = others) (by rw [List.cons.injEq])

instance decidableEqEntries : ∀ entries others : List (Text × Value), Decidable (entries = others)
  | [], [] => .isTrue rfl
  | [], _ :: _ | _ :: _, [] => .isFalse nofun
  | (k, v) :: rest, (l, w) :: others =>
      have := decidableEq v w
      have := decidableEqEntries rest others
      decidable_of_iff ((k = l ∧ v = w) ∧ rest = others) (by rw [List.cons.injEq, Prod.mk.injEq])

end

end ArrayLiteral.Value
