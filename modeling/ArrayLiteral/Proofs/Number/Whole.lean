import ArrayLiteral.Proofs.Number.Integral
import ArrayLiteral.Proofs.Number.Normal
import ArrayLiteral.Proofs.Number.Text

/-!
# Proofs — Number — Whole

Which binary64 values become integers.  A value is tested for its fraction, compared with the two
bounds of 64 bits, and cast.

* **Fractions** are exact (`value_fract`), so a number has none exactly if it is finite and its
  value is an integer (`fract_equal_zero_iff`).
* **Comparisons** are those of the values (`le_iff`, `lt_iff`).  The upper bound is rounded up to
  2⁶³ when it is compared (`ofInt_maxValue`).
* **The cast** of an integer within the bounds is that integer (`toInt64_of_value_eq`).

So a number is an integer exactly if its value is one of 64 bits, and that integer
(`ofBinary64_eq_integer_iff`).  Any other is kept (`ofBinary64_eq_float_iff`).
-/

namespace ArrayLiteral

namespace Binary64

variable {x y : Binary64}

/-! ### Fractions -/

theorem magnitude_eq_zero_iff {k : Nat} : magnitude k = 0 ↔ k = 0 := by
  rw [← magnitude_zero, magnitude_strictMono.injective.eq_iff]

theorem isZero_iff : x.isZero = true ↔ x.value = 0 := by
  rw [isZero, beq_iff_eq, ← abs_eq_zero, abs_value, magnitude_eq_zero_iff]

/-- What equals zero is a zero of either sign. -/
theorem equal_zero_iff : x.equal zero = true ↔ x.value = 0 := by
  rw [← isZero_iff, equal, Bool.and_eq_true, Bool.and_eq_true]
  constructor
  · rintro ⟨-, h⟩
    rcases (Bool.or_eq_true _ _).mp h with h | h
    · rw [beq_iff_eq.mp h]
      rfl
    · exact ((Bool.and_eq_true _ _).mp h).1
  · intro h
    have hnan : x.isNaN = false := by
      rw [isNaN, beq_iff_eq.mp h]
      rfl
    rw [hnan, h]
    exact ⟨⟨rfl, rfl⟩, Bool.or_true _⟩

/-- What is left of a magnitude without its whole part is a magnitude. -/
theorem exists_units_mod (k : Nat) : ∃ j, units j = units k % one := by
  obtain ⟨m, s, hm, hunits⟩ := exists_units k
  obtain ⟨n, hone⟩ := exists_one_eq
  rw [hunits, hone]
  rcases Nat.le_total s n with hle | hle
  · obtain ⟨e, rfl⟩ := Nat.exists_eq_add_of_le' hle
    rw [Nat.pow_add, Nat.mul_mod_mul_right]
    exact exists_rank ((Nat.mod_le _ _).trans hm.le) s
  · obtain ⟨e, rfl⟩ := Nat.exists_eq_add_of_le' hle
    rw [Nat.pow_add, ← Nat.mul_assoc, Nat.mul_mod_left]
    exact ⟨0, units_zero⟩

/-- **The fraction** of a finite number is exact. -/
theorem value_fract (hx : x.isFinite = true) :
    x.fract.value = signed x.negative ((units x.rank % one : ℕ) / one) := by
  obtain ⟨j, hj⟩ := exists_units_mod x.rank
  have hfract : x.fract = ofRatio (x.negative && units j != 0) (units j) one := by
    rw [fract, if_pos hx, hj]
  have hsign : signed (x.negative && units j != 0) (magnitude j) =
      signed x.negative (magnitude j) := by
    by_cases h : units j = 0
    · rw [magnitude_eq, h, Nat.cast_zero, zero_div, signed_zero, signed_zero]
    · rw [bne_iff_ne.mpr h, Bool.and_true]
  have hbound : magnitude j < overflow := by
    have hlt : magnitude j < 1 := by
      rw [magnitude_eq, hj, div_lt_one one_cast_pos]
      exact Nat.cast_lt.mpr (Nat.mod_lt _ one_pos)
    have htop := two_pow_lt_overflow
    norm_num at htop
    linarith
  have hround := rounds_ofRatio (x.negative && units j != 0) (units j) one_pos
  rw [← hfract, ← magnitude_eq, hsign] at hround
  have hfinite : x.fract.isFinite = true := by
    rwa [hround.isFinite_iff, abs_signed, abs_of_nonneg (magnitude_nonneg j)]
  have hj' : j < infinityRank := lt_infinityRank_of_lt_overflow hbound
  have hrank := val_rank_ofRank x.negative hj'.le
  -- the fraction is a value itself, and so it is not rounded
  have hexact : (ofRank x.negative j).value = signed x.negative (magnitude j) := by
    rw [value, hrank]
    rfl
  rw [← hj, ← magnitude_eq]
  exact hround.value_of_exact hfinite (by rw [isFinite, hrank]; exact decide_eq_true hj') hexact

/-- A number is whole exactly if its units are divisible. -/
theorem exists_int_value_iff : (∃ n : ℤ, x.value = n) ↔ units x.rank % one = 0 := by
  constructor
  · rintro ⟨n, hn⟩
    have habs : magnitude x.rank = n.natAbs := by rw [← abs_value, hn, abs_cast]
    rw [magnitude_eq_cast_iff.mp habs, Nat.mul_mod_left]
  · intro hmod
    have hdiv : magnitude x.rank = (units x.rank / one : ℕ) :=
      magnitude_eq_cast_iff.mpr (Nat.div_mul_cancel (Nat.dvd_of_mod_eq_zero hmod)).symm
    exact ⟨_, by rw [value, hdiv, signed_natCast]⟩

/-- **No fraction** is left of the finite numbers whose value is an integer, and of no others. -/
theorem fract_equal_zero_iff :
    x.fract.equal zero = true ↔ x.isFinite = true ∧ ∃ n : ℤ, x.value = n := by
  cases hx : x.isFinite with
  | false =>
      rw [fract, hx]
      exact ⟨nofun, nofun⟩
  | true =>
      rw [equal_zero_iff, value_fract hx, exists_int_value_iff, ← abs_eq_zero, abs_signed,
        abs_eq_zero, div_eq_zero_iff, or_iff_left one_cast_pos.ne', Nat.cast_eq_zero]
      exact (and_iff_right rfl).symm

/-! ### Comparisons -/

/-- **The order of places** is the order of values. -/
theorem place_le_iff : x.place ≤ y.place ↔ x.value ≤ y.value := by
  have hx := magnitude_nonneg x.rank
  have hy := magnitude_nonneg y.rank
  have hle : x.rank.val ≤ y.rank.val ↔ magnitude x.rank ≤ magnitude y.rank :=
    magnitude_strictMono.le_iff_le.symm
  have hge : y.rank.val ≤ x.rank.val ↔ magnitude y.rank ≤ magnitude x.rank :=
    magnitude_strictMono.le_iff_le.symm
  rw [place, place, value, value, signed, signed]
  cases x.negative with
  | false =>
      cases y.negative with
      | false => simpa using hle
      | true =>
          -- only zero is not above a negative number or zero
          simp only [Bool.false_eq_true, if_false, if_true]
          constructor
          · intro h
            rw [show x.rank.val = 0 by omega, show y.rank.val = 0 by omega, magnitude_zero,
              neg_zero]
          · intro h
            have hxzero := magnitude_eq_zero_iff.mp (show magnitude x.rank = 0 by linarith)
            have hyzero := magnitude_eq_zero_iff.mp (show magnitude y.rank = 0 by linarith)
            omega
  | true =>
      cases y.negative with
      | false =>
          simp only [Bool.false_eq_true, if_false, if_true]
          exact iff_of_true (by omega) (by linarith)
      | true => simpa using hge

theorem not_isNaN_of_isFinite (hx : x.isFinite = true) : x.isNaN = false :=
  decide_eq_false (Nat.not_lt.mpr (of_decide_eq_true hx).le)

theorem le_iff (hx : x.isFinite = true) (hy : y.isFinite = true) :
    x.le y = true ↔ x.value ≤ y.value := by
  rw [le, not_isNaN_of_isFinite hx, not_isNaN_of_isFinite hy, ← place_le_iff]
  simp

theorem lt_iff (hx : x.isFinite = true) (hy : y.isFinite = true) :
    x.lt y = true ↔ x.value < y.value := by
  have hplace : x.place < y.place ↔ x.value < y.value := by
    rw [← not_le, ← not_le, place_le_iff]
  rw [lt, not_isNaN_of_isFinite hx, not_isNaN_of_isFinite hy, ← hplace]
  simp

/-! ### The cast -/

/-- **The cast** of an integer of 64 bits is that integer. -/
theorem toInt64_of_value_eq {i : Int64} (hx : x.isFinite = true) (h : x.value = (i.toInt : ℤ)) :
    x.toInt64 = i := by
  have hmagnitude : magnitude x.rank = (units x.rank / one : ℕ) :=
    magnitude_eq_cast_iff.mpr
      (Nat.div_mul_cancel (Nat.dvd_of_mod_eq_zero (exists_int_value_iff.mp ⟨_, h⟩))).symm
  have hwhole : (if x.negative then -((units x.rank / one : ℕ) : ℤ) else (units x.rank / one : ℕ)) =
      i.toInt := by
    rw [value, hmagnitude, signed_natCast, Int.cast_inj] at h
    exact h
  rw [toInt64, not_isNaN_of_isFinite hx, if_neg Bool.false_ne_true]
  dsimp only
  rw [hwhole, if_neg (Int.not_lt.mpr i.minValue_le_toInt), if_neg (Int.not_lt.mpr i.toInt_le),
    Int64.ofInt_toInt]

/-! ### The bounds -/

theorem ofInt_minValue :
    (ofInt Int64.minValue.toInt).isFinite = true ∧
      (ofInt Int64.minValue.toInt).value = -2 ^ 63 := by
  have hbound : (-2 ^ 63 : ℤ).natAbs ≤ 2 ^ 64 := by decide
  rw [show Int64.minValue.toInt = -2 ^ 63 from rfl]
  refine ⟨isFinite_ofInt hbound, ?_⟩
  rw [(value_ofInt_eq_iff hbound).mpr ⟨1, 63, by decide, by decide⟩]
  norm_num

/-- The upper bound is rounded up. -/
theorem ofInt_maxValue :
    (ofInt Int64.maxValue.toInt).isFinite = true ∧
      (ofInt Int64.maxValue.toInt).value = 2 ^ 63 := by
  have hbound : (2 ^ 63 : ℤ).natAbs ≤ 2 ^ 64 := by decide
  rw [show ofInt Int64.maxValue.toInt = ofInt (2 ^ 63) by decide +kernel]
  refine ⟨isFinite_ofInt hbound, ?_⟩
  rw [(value_ofInt_eq_iff hbound).mpr ⟨1, 63, by decide, by decide⟩]
  norm_num

end Binary64

open Binary64

namespace Number

variable {x y : Binary64} {i : Int64}

/-! ### Values as integers -/

theorem int64?_eq_some_iff {i : ℤ} {n : Int64} : int64? i = some n ↔ n.toInt = i := by
  constructor
  · intro h
    rw [int64?] at h
    split at h
    · rename_i hi
      cases h
      exact Int64.toInt_ofInt_of_le hi.1 (Int.lt_of_le_sub_one hi.2)
    · cases h
  · rintro rfl
    exact int64?_toInt n

/-- The tests of a number say that its value is an integer of 64 bits. -/
theorem tests_iff :
    (x.fract.equal .zero && (Binary64.ofInt Int64.minValue.toInt).le x &&
        x.lt (.ofInt Int64.maxValue.toInt)) = true ↔
      x.isFinite = true ∧ ∃ i : Int64, x.value = i.toInt := by
  obtain ⟨hminfinite, hmin⟩ := ofInt_minValue
  obtain ⟨hmaxfinite, hmax⟩ := ofInt_maxValue
  rw [Bool.and_eq_true, Bool.and_eq_true, fract_equal_zero_iff, and_assoc, and_assoc]
  refine and_congr_right fun hx => ?_
  rw [le_iff hminfinite hx, lt_iff hx hmaxfinite, hmin, hmax]
  constructor
  · rintro ⟨⟨n, hn⟩, hlow, hhigh⟩
    rw [hn] at hlow hhigh
    have hlow : -2 ^ 63 ≤ n := by exact_mod_cast hlow
    have hhigh : n < 2 ^ 63 := by exact_mod_cast hhigh
    exact ⟨Int64.ofInt n, by rw [hn, Int64.toInt_ofInt_of_le hlow hhigh]⟩
  · rintro ⟨i, hi⟩
    have hlow : -2 ^ 63 ≤ i.toInt := i.minValue_le_toInt
    have hhigh : i.toInt < 2 ^ 63 := i.toInt_lt
    rw [hi]
    exact ⟨⟨_, rfl⟩, by exact_mod_cast hlow, by exact_mod_cast hhigh⟩

/-- **When a number is an integer**: its value is that integer. -/
theorem ofBinary64_eq_integer_iff :
    ofBinary64 x = .integer i ↔ x.isFinite = true ∧ x.value = i.toInt := by
  have hvalue := tests_iff (x := x)
  rw [ofBinary64]
  split
  · rename_i htests
    obtain ⟨hx, j, hj⟩ := hvalue.mp htests
    rw [toInt64_of_value_eq hx hj, integer.injEq, hj, Int.cast_inj, Int64.toInt_inj]
    exact (and_iff_right hx).symm
  · rename_i htests
    constructor
    · intro h
      cases h
    · rintro ⟨hx, hi⟩
      exact absurd (hvalue.mpr ⟨hx, i, hi⟩) htests

/-- **When a number is kept**: its value is no integer of 64 bits. -/
theorem ofBinary64_eq_float_iff :
    ofBinary64 x = .float y ↔ x = y ∧ ∀ i : Int64, ¬(x.isFinite = true ∧ x.value = i.toInt) := by
  constructor
  · intro h
    refine ⟨ofBinary64_eq_float h, fun i hi => ?_⟩
    rw [ofBinary64_eq_integer_iff.mpr hi] at h
    cases h
  · rintro ⟨rfl, hno⟩
    cases h : ofBinary64 x with
    | integer i => exact absurd (ofBinary64_eq_integer_iff.mp h) (hno i)
    | float y => rw [ofBinary64_eq_float h]

end Number

end ArrayLiteral
