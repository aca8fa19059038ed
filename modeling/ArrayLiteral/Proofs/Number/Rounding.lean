import ArrayLiteral.Proofs.Number.Midpoint

/-!
# Proofs — Number — Rounding

What it means that a rational is rounded to binary64 (`Rounds`): to the nearest finite value, of two
equally near ones to that with an even last bit, and from a bound on to infinity.

* `Rounds.unique`: for each rational and sign there is at most one such number.
* `rounds_ofRatio`: `ofRatio` gives it.
* `Rounds.value_of_exact`: what is a value already stays as it is, and `Rounds.le_value`,
  `Rounds.value_le`: rounding does not cross a value.
-/

namespace ArrayLiteral.Binary64

/-- The bound from which on magnitudes are rounded to infinity: half a spacing above the largest
finite one. -/
def overflow : ℚ := 2 ^ (1024 : ℤ) - 2 ^ (970 : ℤ)

/-- **Rounding**, to the nearest finite value, a tie to the even one.  The sign is kept, by which
the two zeros are told apart and the two infinities. -/
structure Rounds (negative : Bool) (q : ℚ) (x : Binary64) : Prop where
  sign : x.negative = negative
  isFinite_iff : x.isFinite = true ↔ |q| < overflow
  not_isNaN : x.isNaN = false
  nearest : x.isFinite = true → ∀ y : Binary64, y.isFinite = true → |q - x.value| ≤ |q - y.value|
  even : x.isFinite = true → ∀ y : Binary64, y.isFinite = true → y.value ≠ x.value →
    |q - y.value| = |q - x.value| → x.rank.val % 2 = 0

/-! ### Nearest magnitudes -/

/-- No magnitude is nearer, and another one is as near only if the rank is even. -/
def Nearest (a : ℚ) (k : Nat) : Prop :=
  ∀ j, |a - magnitude k| ≤ |a - magnitude j| ∧
    (j ≠ k → |a - magnitude j| = |a - magnitude k| → k % 2 = 0)

/-- A magnitude is nearest to what lies between its two midpoints. -/
theorem nearest_of_midpoints {a : ℚ} {k : Nat}
    (hlow : ∀ i, i + 1 = k → magnitude i + magnitude k ≤ 2 * a ∧
      (magnitude i + magnitude k = 2 * a → k % 2 = 0))
    (hhigh : 2 * a ≤ magnitude k + magnitude (k + 1) ∧
      (2 * a = magnitude k + magnitude (k + 1) → k % 2 = 0)) : Nearest a k := by
  intro j
  rcases Nat.lt_trichotomy j k with hlt | rfl | hgt
  · -- the rank before is at least as near as `j`
    obtain ⟨i, rfl⟩ : ∃ i, k = i + 1 := ⟨k - 1, by omega⟩
    obtain ⟨hmid, heven⟩ := hlow i rfl
    have hji : magnitude j ≤ magnitude i := magnitude_strictMono.monotone (Nat.le_of_lt_succ hlt)
    have hjk := magnitude_strictMono hlt
    have hj : |a - magnitude j| = a - magnitude j := abs_of_nonneg (by linarith)
    rw [hj]
    refine ⟨abs_sub_le_iff.mpr ⟨by linarith, by linarith⟩, fun _ htie => heven ?_⟩
    rcases abs_cases (a - magnitude (i + 1)) with ⟨hk, -⟩ | ⟨hk, -⟩ <;> rw [hk] at htie
    · linarith
    · linarith
  · exact ⟨le_refl _, fun h => absurd rfl h⟩
  · -- so is the rank behind
    obtain ⟨hmid, heven⟩ := hhigh
    have hjk : magnitude (k + 1) ≤ magnitude j := magnitude_strictMono.monotone hgt
    have hkj := magnitude_strictMono hgt
    have hj : |a - magnitude j| = magnitude j - a := by
      rw [abs_sub_comm]
      exact abs_of_nonneg (by linarith)
    rw [hj]
    refine ⟨abs_sub_le_iff.mpr ⟨by linarith, by linarith⟩, fun _ htie => heven ?_⟩
    rcases abs_cases (a - magnitude k) with ⟨hk, -⟩ | ⟨hk, -⟩ <;> rw [hk] at htie
    · linarith
    · linarith

variable {den : Nat}

theorem covers_iff (num : Nat) (hd : 0 < den) (k : Nat) :
    Covers (num * one) den k ↔ 2 * (num / den : ℚ) < magnitude k + magnitude (k + 1) ∨
      k % 2 = 0 ∧ 2 * (num / den : ℚ) = magnitude k + magnitude (k + 1) := by
  have hden : (0 : ℚ) < den := Nat.cast_pos.mpr hd
  rw [Covers, magnitude_eq, magnitude_eq, ← add_div, ← mul_div_assoc,
    div_lt_div_iff₀ hden one_cast_pos, div_eq_div_iff hden.ne' one_cast_pos.ne', mul_assoc]
  norm_cast

/-- **The rank of a quotient is that of the nearest magnitude**, unless it is that of infinity. -/
theorem nearest_nearest (num : Nat) (hd : 0 < den)
    (hk : Binary64.nearest (num * one) den < infinityRank) :
    Nearest (num / den) (Binary64.nearest (num * one) den) := by
  have hle : ∀ {j}, j < infinityRank → (Binary64.nearest (num * one) den ≤ j ↔ _) := fun hj =>
    (nearest_le_iff (num * one) hd hj).trans (covers_iff num hd _)
  generalize Binary64.nearest (num * one) den = k at hk hle ⊢
  refine nearest_of_midpoints (fun i hi => ?_) ?_
  · subst hi
    have hnot := (hle (Nat.lt_of_succ_lt hk)).not.mp (Nat.not_succ_le_self i)
    rw [not_or, not_and, not_lt] at hnot
    refine ⟨hnot.1, fun htie => ?_⟩
    have hodd : i % 2 ≠ 0 := fun h => hnot.2 h htie.symm
    omega
  · rcases (hle hk).mp (Nat.le_refl k) with hlt | ⟨heven, heq⟩
    · exact ⟨hlt.le, fun h => absurd h hlt.ne⟩
    · exact ⟨heq.le, fun _ => heven⟩

/-! ### Overflow -/

/-- The bound is the midpoint between the largest finite magnitude and that of infinity. -/
theorem two_mul_overflow :
    2 * overflow = magnitude (infinityRank - 1) + magnitude (infinityRank - 1 + 1) := by
  have hinfinity : magnitude (infinityRank - 1 + 1) = 2 ^ (1024 : ℤ) := by
    have hexponent : (infinityRank - 1 + 1) / 2 ^ 52 = 2047 := by decide
    have hfraction : (infinityRank - 1 + 1) % 2 ^ 52 = 0 := by decide
    rw [magnitude, hexponent, hfraction]
    norm_num
  have hlargest : magnitude (infinityRank - 1) = 2 ^ (1024 : ℤ) - 2 ^ (971 : ℤ) := by
    have hexponent : (infinityRank - 1) / 2 ^ 52 = 2046 := by decide
    have hfraction : (infinityRank - 1) % 2 ^ 52 = 2 ^ 52 - 1 := by decide
    have hsplit : ∀ n : ℤ, (2 : ℚ) ^ (971 + n) = 2 ^ (971 : ℤ) * 2 ^ n := zpow_add₀ two_ne_zero 971
    have hbias : ((2046 : ℕ) : ℤ) - 1023 = 971 + 52 := rfl
    have htop : (1024 : ℤ) = 971 + 53 := rfl
    rw [magnitude, hexponent, hfraction, if_neg (by decide), hbias, htop, hsplit, hsplit]
    generalize (2 : ℚ) ^ (971 : ℤ) = p
    norm_num
    ring
  have hhalf : (2 : ℚ) ^ (971 : ℤ) = 2 ^ (970 : ℤ) * 2 := zpow_add_one₀ two_ne_zero 970
  rw [hinfinity, hlargest, overflow, hhalf]
  ring

theorem nearest_lt_infinityRank_iff (num : Nat) (hd : 0 < den) :
    Binary64.nearest (num * one) den < infinityRank ↔ (num / den : ℚ) < overflow := by
  have hpos : 0 < infinityRank := by decide
  have hodd : (infinityRank - 1) % 2 ≠ 0 := by decide
  have hbound : 2 * (num / den : ℚ) < 2 * overflow ↔ (num / den : ℚ) < overflow :=
    mul_lt_mul_iff_right₀ two_pos
  rw [← Nat.le_sub_one_iff_lt hpos, nearest_le_iff _ hd (Nat.sub_one_lt_of_lt hpos),
    covers_iff num hd, ← two_mul_overflow, hbound, or_iff_left fun h => hodd h.1]

/-! ### Signs -/

/-- Numbers of one sign are as far apart as their magnitudes. -/
theorem abs_signed_sub (negative : Bool) (a b : ℚ) :
    |signed negative a - signed negative b| = |a - b| := by
  rw [signed_sub, abs_signed]

/-- Numbers of two signs are as far apart as the sum of their magnitudes. -/
theorem abs_signed_sub_of_ne {m n : Bool} (h : m ≠ n) {a b : ℚ} (ha : 0 ≤ a) (hb : 0 ≤ b) :
    |signed m a - signed n b| = a + b := by
  have hsum : |a + b| = a + b := abs_of_nonneg (add_nonneg ha hb)
  obtain rfl : n = !m := by
    cases m <;> cases n <;> simp_all
  cases m with
  | false =>
      have heq : signed false a - signed true b = a + b := sub_neg_eq_add a b
      rw [Bool.not_false, heq, hsum]
  | true =>
      have heq : signed true a - signed false b = -(a + b) := (neg_add' a b).symm
      rw [Bool.not_true, heq, abs_neg, hsum]

theorem signed_zero (negative : Bool) : signed negative 0 = 0 := by
  cases negative with
  | false => rfl
  | true => exact neg_zero

theorem signed_signed (negative : Bool) (a : ℚ) : signed negative (signed negative a) = a := by
  cases negative with
  | false => rfl
  | true => exact neg_neg a

/-! ### Rounding with a sign -/

/-- The nearest magnitude with the sign of the rational is its rounding. -/
theorem rounds_of_nearest {negative : Bool} {a : ℚ} {x : Binary64} (ha : 0 ≤ a)
    (hsign : x.negative = negative) (hfinite : x.isFinite = true ↔ a < overflow)
    (hnan : x.isNaN = false) (hnearest : x.isFinite = true → Nearest a x.rank) :
    Rounds negative (signed negative a) x where
  sign := hsign
  isFinite_iff := by rw [abs_signed, abs_of_nonneg ha, hfinite]
  not_isNaN := hnan
  nearest := by
    intro hx y _
    rw [value, hsign, abs_signed_sub, value]
    by_cases hy : negative = y.negative
    · rw [← hy, abs_signed_sub]
      exact (hnearest hx y.rank).1
    · -- a value of the other sign is not nearer than zero
      rw [abs_signed_sub_of_ne hy ha (magnitude_nonneg _)]
      have hzero := (hnearest hx 0).1
      rw [magnitude_zero, sub_zero, abs_of_nonneg ha] at hzero
      exact hzero.trans (le_add_of_nonneg_right (magnitude_nonneg _))
  even := by
    intro hx y _ hne htie
    rw [value, value, hsign] at hne
    rw [value, value, hsign, abs_signed_sub] at htie
    by_cases hy : negative = y.negative
    · rw [← hy, abs_signed_sub] at htie
      refine (hnearest hx y.rank).2 (fun hrank => hne ?_) htie
      rw [hrank, hy]
    · -- a value of the other sign is as near only if it is zero
      rw [abs_signed_sub_of_ne hy ha (magnitude_nonneg _)] at htie
      obtain ⟨hzero, heven⟩ := hnearest hx 0
      rw [magnitude_zero, sub_zero, abs_of_nonneg ha] at hzero heven
      have hnonneg := magnitude_nonneg y.rank
      have hy0 : magnitude y.rank = 0 := by linarith
      refine heven (fun hrank => hne ?_) (by linarith)
      rw [hy0, signed_zero, ← hrank, magnitude_zero, signed_zero]

theorem val_rank_ofRank (negative : Bool) {rank : Nat} (h : rank ≤ infinityRank) :
    (ofRank negative rank).rank.val = rank := by
  rw [ofRank, Fin.val_ofNat]
  exact Nat.mod_eq_of_lt (Nat.lt_of_le_of_lt h (by decide))

/-- **The quotient is rounded.** -/
theorem rounds_ofRatio (negative : Bool) (num : Nat) (hd : 0 < den) :
    Rounds negative (signed negative (num / den)) (ofRatio negative num den) := by
  have hrank : (ofRatio negative num den).rank.val = Binary64.nearest (num * one) den :=
    val_rank_ofRank negative (nearest_le _ _)
  refine rounds_of_nearest (div_nonneg (Nat.cast_nonneg _) (Nat.cast_nonneg _)) rfl ?_ ?_ ?_
  · rw [isFinite, hrank, decide_eq_true_eq]
    exact nearest_lt_infinityRank_iff num hd
  · rw [isNaN, hrank]
    exact decide_eq_false (Nat.not_lt.mpr (nearest_le _ _))
  · rw [isFinite, hrank, decide_eq_true_eq]
    exact nearest_nearest num hd

/-! ### One rounding -/

namespace Rounds

variable {negative : Bool} {q : ℚ} {x y : Binary64}

/-- Two even values that are equally near have another one between them, which is nearer. -/
theorem not_lt_rank (hx : Rounds negative q x) (hy : Rounds negative q y)
    (hfinite : y.isFinite = true) : ¬ x.rank.val < y.rank.val := by
  intro hlt
  have hyrank : y.rank.val < infinityRank := of_decide_eq_true hfinite
  have hxfinite : x.isFinite = true := decide_eq_true (hlt.trans hyrank)
  obtain ⟨a, rfl⟩ : ∃ a, q = signed negative a := ⟨_, (signed_signed negative q).symm⟩
  have hne : y.value ≠ x.value := by
    rw [value, value, hx.sign, hy.sign]
    exact fun h => (magnitude_strictMono hlt).ne' (signed_inj.mp h)
  have htie := le_antisymm (hy.nearest hfinite x hxfinite) (hx.nearest hxfinite y hfinite)
  have hxeven := hx.even hxfinite y hfinite hne htie
  have hyeven := hy.even hfinite x hxfinite hne.symm htie.symm
  have hbetween : (ofRank negative (x.rank + 1)).rank.val = x.rank + 1 :=
    val_rank_ofRank negative (by omega)
  have hnearer := hx.nearest hxfinite (ofRank negative (x.rank + 1))
    (decide_eq_true (by rw [hbetween]; omega))
  rw [value, value, hx.sign, hbetween] at hnearer
  rw [value, value, hx.sign, hy.sign] at htie
  have hlow : magnitude x.rank < magnitude (x.rank + 1) := magnitude_strictMono (Nat.lt_add_one _)
  have hhigh : magnitude (x.rank + 1) < magnitude y.rank := magnitude_strictMono (by omega)
  change |signed negative a - _| ≤ |signed negative a - signed negative _| at hnearer
  rw [abs_signed_sub, abs_signed_sub] at hnearer htie
  -- the tie says that `a` lies in the middle
  have hmiddle : 2 * a = magnitude x.rank + magnitude y.rank := by
    rcases abs_eq_abs.mp htie with h | h
    · linarith
    · linarith
  have hx' : |a - magnitude x.rank| = a - magnitude x.rank := abs_of_nonneg (by linarith)
  rw [hx'] at hnearer
  refine absurd hnearer (not_le.mpr (abs_sub_lt_iff.mpr ⟨?_, ?_⟩))
  · linarith
  · linarith

/-- **There is one rounding.** -/
theorem unique (hx : Rounds negative q x) (hy : Rounds negative q y) : x = y := by
  have hrank : x.rank = y.rank := by
    by_cases hq : |q| < overflow
    · have hxy := hx.not_lt_rank hy (hy.isFinite_iff.mpr hq)
      have hyx := hy.not_lt_rank hx (hx.isFinite_iff.mpr hq)
      exact Fin.ext (Nat.le_antisymm (Nat.not_lt.mp hyx) (Nat.not_lt.mp hxy))
    · -- neither finite nor a NaN, both are infinite
      have hinfinite : ∀ {z}, Rounds negative q z → z.rank.val = infinityRank := fun {z} hz => by
        have hge : ¬ z.rank.val < infinityRank := fun h =>
          hq (hz.isFinite_iff.mp (decide_eq_true h))
        have hle : ¬ infinityRank < z.rank.val := of_decide_eq_false hz.not_isNaN
        omega
      exact Fin.ext ((hinfinite hx).trans (hinfinite hy).symm)
  obtain ⟨m, j⟩ := x
  obtain ⟨n, k⟩ := y
  obtain rfl : m = n := hx.sign.trans hy.sign.symm
  obtain rfl : j = k := hrank
  rfl

/-! ### Rounding and values -/

/-- Rounding does not cross a value from below. -/
theorem value_le (hx : Rounds negative q x) (hxfinite : x.isFinite = true)
    (hyfinite : y.isFinite = true) (h : q ≤ y.value) : x.value ≤ y.value := by
  by_contra hlt
  have hnear := hx.nearest hxfinite y hyfinite
  have hxq : |q - x.value| = x.value - q := by
    rw [abs_sub_comm]
    exact abs_of_nonneg (by linarith)
  have hyq : |q - y.value| = y.value - q := by
    rw [abs_sub_comm]
    exact abs_of_nonneg (by linarith)
  linarith

/-- Rounding does not cross a value from above. -/
theorem le_value (hx : Rounds negative q x) (hxfinite : x.isFinite = true)
    (hyfinite : y.isFinite = true) (h : y.value ≤ q) : y.value ≤ x.value := by
  by_contra hlt
  have hnear := hx.nearest hxfinite y hyfinite
  have hxq : |q - x.value| = q - x.value := abs_of_nonneg (by linarith)
  have hyq : |q - y.value| = q - y.value := abs_of_nonneg (by linarith)
  linarith

/-- What is a value already stays as it is. -/
theorem value_of_exact (hx : Rounds negative q x) (hxfinite : x.isFinite = true)
    (hyfinite : y.isFinite = true) (h : y.value = q) : x.value = q := by
  rw [← h]
  exact le_antisymm (hx.value_le hxfinite hyfinite h.ge) (hx.le_value hxfinite hyfinite h.le)

end Rounds

end ArrayLiteral.Binary64
