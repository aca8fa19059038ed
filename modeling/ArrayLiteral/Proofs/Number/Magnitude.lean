import Mathlib.Algebra.Order.Field.Rat
import Mathlib.Data.Nat.Cast.Field
import Mathlib.Data.Rat.Cast.Order
import Mathlib.Order.Monotone.Basic
import Mathlib.Tactic.FieldSimp
import Mathlib.Tactic.Linarith
import Mathlib.Tactic.Positivity
import Mathlib.Tactic.Ring
import ArrayLiteral.Number.Binary64

/-!
# Proofs — Number — Magnitude

The value of a binary64 number as a rational, by the fields of its word (`value`).

* **The grid**: the ranks from `s · 2⁵²` on are those of the multiples of `2 ^ s` units, as long as
  these have 53 bits (`units_grid`).  So each rank is worth more than the one before it
  (`units_strictMono`), and every number of 53 bits, shifted, is the magnitude of a rank
  (`exists_rank`).
* **The fields** say the same as the units (`magnitude_eq`).
-/

namespace ArrayLiteral.Binary64

/-! ### The grid -/

/-- A rank behind `s · 2⁵²` is that of a multiple of `2 ^ s`. -/
theorem units_grid {m s : Nat} (hm : m ≤ 2 ^ 53) (hs : s = 0 ∨ 2 ^ 52 ≤ m) :
    units (s * 2 ^ 52 + m) = m * 2 ^ s := by
  unfold units
  simp only [Nat.shiftRight_eq_div_pow, Nat.shiftLeft_eq, Nat.one_mul]
  rcases Nat.lt_or_ge m (2 ^ 52) with hlow | hhigh
  · obtain rfl : s = 0 := hs.resolve_right (Nat.not_le.mpr hlow)
    rw [Nat.zero_mul, Nat.zero_add, if_pos hlow, Nat.pow_zero, Nat.mul_one]
  · rw [if_neg (by omega)]
    rcases Nat.lt_or_eq_of_le hm with hlt | rfl
    · have hdiv : (s * 2 ^ 52 + m) / 2 ^ 52 = s + 1 := by omega
      have hmod : (s * 2 ^ 52 + m) % 2 ^ 52 = m - 2 ^ 52 := by omega
      rw [hdiv, hmod, Nat.add_sub_of_le hhigh, Nat.add_sub_cancel]
    · -- the last one stands for the first of the next grid
      have hdiv : (s * 2 ^ 52 + 2 ^ 53) / 2 ^ 52 = s + 2 := by omega
      have hmod : (s * 2 ^ 52 + 2 ^ 53) % 2 ^ 52 = 0 := by omega
      rw [hdiv, hmod, Nat.add_zero, Nat.add_sub_assoc (by decide), Nat.pow_add, Nat.pow_succ 2 52,
        Nat.mul_assoc, Nat.mul_comm 2]

/-- Every rank lies on a grid. -/
theorem exists_grid (k : Nat) :
    ∃ s m, k = s * 2 ^ 52 + m ∧ m < 2 ^ 53 ∧ (s = 0 ∨ 2 ^ 52 ≤ m) := by
  refine ⟨k / 2 ^ 52 - 1, k - (k / 2 ^ 52 - 1) * 2 ^ 52, ?_, ?_, ?_⟩ <;> omega

theorem units_succ {m s : Nat} (hm : m < 2 ^ 53) (hs : s = 0 ∨ 2 ^ 52 ≤ m) :
    units (s * 2 ^ 52 + m + 1) = units (s * 2 ^ 52 + m) + 2 ^ s := by
  rw [Nat.add_assoc, units_grid hm (hs.imp_right fun h => Nat.le_succ_of_le h),
    units_grid hm.le hs, Nat.succ_mul]

/-- **The order of ranks** is the order of magnitudes. -/
theorem units_strictMono : StrictMono units := by
  refine strictMono_nat_of_lt_succ fun k => ?_
  obtain ⟨s, m, rfl, hm, hs⟩ := exists_grid k
  rw [units_succ hm hs]
  exact Nat.lt_add_of_pos_right (Nat.two_pow_pos s)

theorem units_zero : units 0 = 0 := by
  simpa using units_grid (m := 0) (s := 0) (Nat.zero_le _) (Or.inl rfl)

/-- A number of 53 bits, shifted, is the magnitude of a rank. -/
theorem exists_rank {m : Nat} (hm : m ≤ 2 ^ 53) (s : Nat) : ∃ k, units k = m * 2 ^ s := by
  induction s generalizing m with
  | zero => exact ⟨0 * 2 ^ 52 + m, units_grid hm (Or.inl rfl)⟩
  | succ s ih =>
      rcases Nat.lt_or_ge m (2 ^ 52) with hlow | hhigh
      · -- there is room for one more bit
        obtain ⟨k, hk⟩ := ih (m := m * 2) (by omega)
        exact ⟨k, by rw [hk, Nat.pow_succ', Nat.mul_assoc]⟩
      · exact ⟨(s + 1) * 2 ^ 52 + m, units_grid hm (Or.inr hhigh)⟩

/-- And the magnitude of a rank is a number of 53 bits, shifted. -/
theorem exists_units (k : Nat) : ∃ m s, m < 2 ^ 53 ∧ units k = m * 2 ^ s := by
  obtain ⟨s, m, rfl, hm, hs⟩ := exists_grid k
  exact ⟨m, s, hm, units_grid hm.le hs⟩

/-! ### The fields -/

/-- The magnitude of a rank, by the fields of its word: eleven bits of exponent, and a fraction of
52 bits.  The least exponent is that of the numbers without a leading one. -/
def magnitude (rank : Nat) : ℚ :=
  let exponent : Nat := rank / 2 ^ 52
  let fraction : ℚ := (rank % 2 ^ 52 : Nat) / 2 ^ 52
  if exponent = 0 then fraction * 2 ^ (-1022 : ℤ) else (1 + fraction) * 2 ^ ((exponent : ℤ) - 1023)

theorem exists_one_eq : ∃ n, one = 2 ^ n := by
  have hshift : ∀ n, ∃ k, 1 <<< n = 2 ^ k := fun n => ⟨n, Nat.one_shiftLeft n⟩
  exact hshift 1074

theorem one_cast : (one : ℚ) = 2 ^ (1074 : ℤ) := by
  have hcast : ∀ n : ℕ, ((1 <<< n : ℕ) : ℚ) = 2 ^ (n : ℤ) := fun n => by
    rw [Nat.one_shiftLeft, Nat.cast_pow, Nat.cast_ofNat, zpow_natCast]
  exact hcast 1074

theorem one_cast_pos : (0 : ℚ) < one := by
  rw [one_cast]
  exact zpow_pos two_pos _

theorem one_pos : 0 < one := Nat.cast_pos.mp one_cast_pos

/-- A magnitude is a number of units. -/
theorem magnitude_eq (rank : Nat) : magnitude rank = units rank / one := by
  have hexponent : ∀ e : ℕ, (2 : ℚ) ^ ((e : ℤ) - 1022) = 2 ^ e * 2 ^ 52 / one := fun e => by
    have hsum : (e : ℤ) - 1022 = e + (52 : ℕ) - 1074 := by omega
    rw [hsum, zpow_sub₀ two_ne_zero, zpow_add₀ two_ne_zero, zpow_natCast, zpow_natCast, one_cast]
  unfold magnitude units
  simp only [Nat.shiftRight_eq_div_pow, Nat.shiftLeft_eq, Nat.one_mul]
  rcases Nat.lt_or_ge rank (2 ^ 52) with hlow | hhigh
  · have hleast := hexponent 0
    rw [Nat.cast_zero, zero_sub, pow_zero, one_mul] at hleast
    rw [if_pos (Nat.div_eq_of_lt hlow), if_pos hlow, Nat.mod_eq_of_lt hlow, hleast]
    field_simp
  · have hdiv : 0 < rank / 2 ^ 52 := Nat.div_pos hhigh (Nat.two_pow_pos _)
    obtain ⟨e, he⟩ : ∃ e, rank / 2 ^ 52 = e + 1 := ⟨rank / 2 ^ 52 - 1, by omega⟩
    have hbias : ((e + 1 : ℕ) : ℤ) - 1023 = (e : ℤ) - 1022 := by omega
    rw [he, if_neg (Nat.succ_ne_zero e), if_neg (Nat.not_lt.mpr hhigh), hbias, hexponent,
      Nat.add_sub_cancel, Nat.cast_mul, Nat.cast_add, Nat.cast_pow, Nat.cast_pow, Nat.cast_ofNat]
    field_simp

/-- A whole magnitude is that number of ones. -/
theorem magnitude_eq_cast_iff {rank n : Nat} : magnitude rank = n ↔ units rank = n * one := by
  rw [magnitude_eq, div_eq_iff one_cast_pos.ne', ← Nat.cast_mul, Nat.cast_inj]

theorem magnitude_strictMono : StrictMono magnitude := by
  intro j k h
  rw [magnitude_eq, magnitude_eq]
  exact div_lt_div_of_pos_right (Nat.cast_lt.mpr (units_strictMono h)) one_cast_pos

theorem magnitude_nonneg (rank : Nat) : 0 ≤ magnitude rank := by
  rw [magnitude_eq]
  exact div_nonneg (Nat.cast_nonneg _) one_cast_pos.le

theorem magnitude_zero : magnitude 0 = 0 := by
  rw [magnitude_eq, units_zero, Nat.cast_zero, zero_div]

/-! ### Values -/

/-- A magnitude with a sign. -/
def signed (negative : Bool) (a : ℚ) : ℚ := if negative then -a else a

theorem abs_signed (negative : Bool) (a : ℚ) : |signed negative a| = |a| := by
  cases negative with
  | false => rfl
  | true => exact abs_neg a

theorem signed_sub (negative : Bool) (a b : ℚ) :
    signed negative a - signed negative b = signed negative (a - b) := by
  cases negative with
  | false => rfl
  | true =>
      simp only [signed, if_true]
      ring

theorem signed_inj {negative : Bool} {a b : ℚ} : signed negative a = signed negative b ↔ a = b := by
  cases negative with
  | false => rfl
  | true => exact neg_inj

/-- An integer by its sign. -/
theorem signed_natCast (negative : Bool) (n : ℕ) :
    signed negative n = ((if negative then -n else n : ℤ) : ℚ) := by
  rw [signed]
  split
  · rw [Int.cast_neg, Int.cast_natCast]
  · rw [Int.cast_natCast]

/-- The value of a finite number. -/
def value (x : Binary64) : ℚ := signed x.negative (magnitude x.rank)

theorem abs_value (x : Binary64) : |x.value| = magnitude x.rank := by
  rw [value, abs_signed, abs_of_nonneg (magnitude_nonneg _)]

/-- **A number is its sign and its value.** -/
theorem eq_of_value_eq {x y : Binary64} (hsign : x.negative = y.negative) (h : x.value = y.value) :
    x = y := by
  obtain ⟨negative, j⟩ := x
  obtain ⟨_, k⟩ := y
  cases hsign
  have hrank : j = k := Fin.ext (magnitude_strictMono.injective (signed_inj.mp h))
  rw [hrank]

theorem negative_of_value_pos {x : Binary64} (h : 0 < x.value) : x.negative = false := by
  rw [value, signed] at h
  rw [Bool.eq_false_iff]
  intro hnegative
  rw [if_pos hnegative] at h
  exact absurd (neg_pos.mp h) (not_lt.mpr (magnitude_nonneg _))

end ArrayLiteral.Binary64
