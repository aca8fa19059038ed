import ArrayLiteral.Number.Literal

/-!
# Proofs — Number — Normal

A number is in normal form if it is an integer whenever it could be one (`Normal`).  What is made
of a binary64 value is in normal form (`normal_ofBinary64`), and so is what is read from a literal,
which is finite too (`normal_and_finite_of_ofLiteral?`).
-/

namespace ArrayLiteral.Number

/-- The number is not a whole value of 64 bits that is kept as a float. -/
def Normal : Number → Prop
  | .integer _ => True
  | .float x => ofBinary64 x = .float x

/-- A float is neither infinite nor a NaN. -/
def Finite : Number → Prop
  | .integer _ => True
  | .float x => x.isFinite = true

/-- A binary64 value that is kept is kept as it is. -/
theorem ofBinary64_eq_float {x y : Binary64} (h : ofBinary64 x = .float y) : x = y := by
  rw [ofBinary64] at h
  split at h
  · cases h
  · exact Number.float.inj h

/-- **What is made of a binary64 value is in normal form.** -/
theorem normal_ofBinary64 (x : Binary64) : (ofBinary64 x).Normal := by
  cases h : ofBinary64 x with
  | integer i => trivial
  | float y =>
      obtain rfl := ofBinary64_eq_float h
      exact h

theorem finite_ofBinary64 {x : Binary64} (hx : x.isFinite = true) : (ofBinary64 x).Finite := by
  cases h : ofBinary64 x with
  | integer i => trivial
  | float y =>
      obtain rfl := ofBinary64_eq_float h
      exact hx

/-- **A number that is read** is in normal form, and finite. -/
theorem normal_and_finite_of_ofLiteral? {t : Text} {n : Number} (h : ofLiteral? t = some n) :
    n.Normal ∧ n.Finite := by
  obtain ⟨l, -, hl⟩ := Option.bind_eq_some_iff.mp h
  rw [Literal.number?] at hl
  split at hl
  · cases hl
    exact ⟨trivial, trivial⟩
  · rw [Literal.rounded?] at hl
    split at hl
    · rename_i hfinite
      cases hl
      exact ⟨normal_ofBinary64 _, finite_ofBinary64 hfinite⟩
    · cases hl

end ArrayLiteral.Number
