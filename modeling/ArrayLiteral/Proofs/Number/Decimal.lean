import Mathlib.Data.List.Basic
import ArrayLiteral.Number.Decimal

/-!
# Proofs — Number — Decimal

The digits of a natural have no needless zero: only zero begins with one (`head?_digits`).  And a
whole decimal that stands for a positive magnitude is positive (`coefficient_ofRank_pos`), because
zero lies outside of the interval that rounds to the magnitude.
-/

namespace ArrayLiteral.Decimal

/-! ### Digits -/

theorem digits_ne_nil (n : Nat) : digits n ≠ [] := Nat.toDigits_ne_nil

/-- Only zero begins with a zero. -/
theorem head?_digits {n : Nat} (hn : 0 < n) : (digits n).head? ≠ some '0' := by
  induction n using Nat.strongRecOn with
  | ind n ih =>
      rcases Nat.lt_or_ge n 10 with hlt | hge
      · rw [digits, Nat.toDigits_of_lt_base hlt]
        simpa [Nat.digitChar_eq_zero] using Nat.pos_iff_ne_zero.mp hn
      · rw [digits, Nat.toDigits_of_base_le (by decide) hge,
          List.head?_append_of_ne_nil _ Nat.toDigits_ne_nil]
        exact ih (n / 10) (by omega) (by omega)

/-! ### The decimal of a magnitude -/

namespace Interval

/-- What is found is one of the two multiples next to the value.  It lies in the interval, and the
other one is not nearer if it lies there too. -/
theorem multiple?_cases {i : Interval} {tie : Tie} {step n : Nat}
    (h : i.multiple? tie step = some n) :
    (n = i.value / step ∧ i.holds (i.value / step * step) = true ∧
      (i.holds ((i.value / step + 1) * step) = true → 2 * (i.value % step) ≤ step)) ∨
    (n = i.value / step + 1 ∧ i.holds ((i.value / step + 1) * step) = true ∧
      (i.holds (i.value / step * step) = true → step ≤ 2 * (i.value % step))) := by
  unfold multiple? at h
  dsimp only at h
  split at h
  · cases h
  · rename_i hbelow habove
    cases h
    exact Or.inl ⟨rfl, hbelow, fun h => absurd h (Bool.eq_false_iff.mp habove)⟩
  · rename_i hbelow habove
    cases h
    exact Or.inr ⟨rfl, habove, fun h => absurd h (Bool.eq_false_iff.mp hbelow)⟩
  · rename_i hbelow habove
    split at h
    · rename_i hnear
      cases h
      exact Or.inl ⟨rfl, hbelow, fun _ => Nat.le_of_lt hnear⟩
    · rename_i hle
      split at h
      · rename_i hnear
        cases h
        exact Or.inr ⟨rfl, habove, fun _ => Nat.le_of_lt hnear⟩
      · -- both are equally near
        rename_i hge
        have hn : n = i.value / step ∨ n = i.value / step + 1 := by
          cases tie <;> cases h <;> omega
        rcases hn with rfl | rfl
        · exact Or.inl ⟨rfl, hbelow, fun _ => Nat.not_lt.mp hge⟩
        · exact Or.inr ⟨rfl, habove, fun _ => Nat.not_lt.mp hle⟩

/-- What is found lies in the interval. -/
theorem holds_of_multiple? {i : Interval} {tie : Tie} {step n : Nat}
    (h : i.multiple? tie step = some n) : i.holds (n * step) = true := by
  rcases multiple?_cases h with ⟨rfl, hbelow, -⟩ | ⟨rfl, habove, -⟩
  · exact hbelow
  · exact habove

/-- Nothing is found exactly if the two multiples next to the value lie outside. -/
theorem multiple?_eq_none_iff {i : Interval} {tie : Tie} {step : Nat} :
    i.multiple? tie step = none ↔
      i.holds (i.value / step * step) = false ∧ i.holds ((i.value / step + 1) * step) = false := by
  unfold multiple?
  dsimp only
  split
  · simp [*]
  · simp [*]
  · simp [*]
  · rename_i hbelow _
    simp only [hbelow, reduceCtorEq, false_and, iff_false]
    split
    · exact Option.some_ne_none _
    · split
      · exact Option.some_ne_none _
      · cases tie <;> exact Option.some_ne_none _

/-- A multiple of zero does not round to a positive magnitude. -/
theorem pos_of_holds {i : Interval} (hlow : 0 < i.low) {n step : Nat}
    (h : i.holds (n * step) = true) : 0 < n := by
  rcases Nat.eq_zero_or_pos n with rfl | hn
  · have hle : ¬ i.low ≤ 0 := Nat.not_le.mpr hlow
    simp [holds, hle] at h
  · exact hn

theorem multiple?_pos {i : Interval} (hlow : 0 < i.low) {tie : Tie} {step n : Nat}
    (h : i.multiple? tie step = some n) : 0 < n :=
  pos_of_holds hlow (holds_of_multiple? h)

theorem coefficient_shortest_pos {i : Interval} (hlow : 0 < i.low) {tie : Tie} {k : Nat}
    (h : 0 ≤ (i.shortest tie k).exponent) : 0 < (i.shortest tie k).coefficient := by
  induction k with
  | zero => simp [shortest] at h
  | succ k ih =>
      rw [shortest] at h ⊢
      split
      · rename_i n hn
        exact multiple?_pos hlow hn
      · rename_i hn
        rw [hn] at h
        exact ih h

end Interval

theorem units_pos {rank : Nat} (h : 0 < rank) : 0 < Binary64.units rank := by
  unfold Binary64.units
  split
  · exact h
  · rw [Nat.shiftLeft_eq]
    exact Nat.mul_pos (by omega) (Nat.two_pow_pos _)

theorem Interval.low_pos {rank : Nat} (h : 0 < rank) : 0 < (Interval.ofRank rank).low := by
  have hunits := units_pos h
  have hpow : ∀ k, 0 < Nat.pow 10 k := fun k => Nat.pow_pos (by decide)
  exact Nat.mul_pos (by omega) (hpow 324)

/-- **A whole decimal that stands for a positive magnitude is positive.** -/
theorem coefficient_ofRank_pos {rank : Nat} (h : 0 < rank) {tie : Tie}
    (hwhole : 0 ≤ (ofRank tie rank).exponent) : 0 < (ofRank tie rank).coefficient :=
  Interval.coefficient_shortest_pos (Interval.low_pos h) hwhole

end ArrayLiteral.Decimal
