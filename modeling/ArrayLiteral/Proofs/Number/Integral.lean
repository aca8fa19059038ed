import ArrayLiteral.Proofs.Number.Rounding

/-!
# Proofs — Number — Integral

Integers as binary64 values.  An integer is rounded (`rounds_ofInt`), and one within range stays as
it is exactly if it has no more than 53 bits but for zeros at its end (`value_ofInt_eq_iff`).  What
an integer is rounded to is an integer again (`Rounds.exists_int_value`).
-/

namespace ArrayLiteral

namespace Binary64

/-! ### Words -/

theorem toBits_ofBits (word : UInt64) : (ofBits word).toBits = word := by
  have hword : word.toNat < 2 ^ 64 := word.toNat_lt
  have hrank : (ofBits word).rank.val = word.toNat % 2 ^ 63 := rfl
  have hnegative : (ofBits word).negative = decide (2 ^ 63 ≤ word.toNat) := rfl
  apply UInt64.toNat_inj.mp
  rw [toBits, hrank, hnegative, UInt64.toNat_ofNat']
  by_cases h : 2 ^ 63 ≤ word.toNat
  · rw [if_pos (decide_eq_true h)]
    omega
  · rw [if_neg (by simpa using h)]
    omega

/-! ### Integers as values -/

theorem signed_natAbs (i : ℤ) : signed (decide (i < 0)) i.natAbs = i := by
  rw [signed, ← Int.cast_natCast, ← Int.cast_neg]
  split
  · rename_i h
    rw [decide_eq_true_eq] at h
    rw [Int.ofNat_natAbs_of_nonpos h.le, neg_neg]
  · rename_i h
    rw [decide_eq_true_eq, not_lt] at h
    rw [Int.natAbs_of_nonneg h]

/-- **An integer is rounded.** -/
theorem rounds_ofInt (i : ℤ) : Rounds (decide (i < 0)) i (ofInt i) := by
  have h := rounds_ofRatio (decide (i < 0)) i.natAbs Nat.one_pos
  rwa [Nat.cast_one, div_one, signed_natAbs] at h

theorem rounds_ofNat (n : Nat) : Rounds false n (ofInt n) := by
  have hsign : ¬(n : ℤ) < 0 := by omega
  have h := rounds_ofInt n
  rwa [decide_eq_false hsign, Int.cast_natCast] at h

theorem two_pow_lt_overflow : (2 : ℚ) ^ 64 < overflow := by
  have htop : (2 : ℚ) ^ (1024 : ℤ) = 2 ^ (970 : ℤ) * 2 ^ (54 : ℤ) := zpow_add₀ two_ne_zero 970 54
  have hlow : (2 : ℚ) ^ (64 : ℤ) ≤ 2 ^ (970 : ℤ) := zpow_le_zpow_right₀ one_le_two (by decide)
  rw [overflow, htop]
  generalize (2 : ℚ) ^ (970 : ℤ) = p at hlow ⊢
  norm_num at hlow ⊢
  linarith

theorem abs_cast (i : ℤ) : |(i : ℚ)| = i.natAbs := by
  rw [Nat.cast_natAbs, Int.cast_abs]

theorem natAbs_lt_overflow {i : ℤ} (hi : i.natAbs ≤ 2 ^ 64) : (i.natAbs : ℚ) < overflow :=
  lt_of_le_of_lt (by exact_mod_cast hi) two_pow_lt_overflow

theorem isFinite_ofInt {i : ℤ} (hi : i.natAbs ≤ 2 ^ 64) : (ofInt i).isFinite = true := by
  rw [(rounds_ofInt i).isFinite_iff, abs_cast]
  exact natAbs_lt_overflow hi

/-- A magnitude below the bound is finite. -/
theorem lt_infinityRank_of_lt_overflow {k : Nat} (h : magnitude k < overflow) :
    k < infinityRank := by
  have hpos : 0 < infinityRank := by decide
  have hbound := two_mul_overflow
  have hlast := magnitude_strictMono (Nat.lt_add_one (infinityRank - 1))
  rw [Nat.sub_add_cancel hpos] at hbound hlast
  exact magnitude_strictMono.lt_iff_lt.mp (by linarith)

/-- An integer of 53 bits, shifted, is a value. -/
theorem exists_value {i : ℤ} {m s : Nat} (hm : m ≤ 2 ^ 53) (hi : i.natAbs = m * 2 ^ s)
    (hbound : i.natAbs ≤ 2 ^ 64) : ∃ x : Binary64, x.isFinite = true ∧ x.value = i := by
  obtain ⟨n, hone⟩ := exists_one_eq
  obtain ⟨k, hk⟩ := exists_rank hm (s + n)
  have hmagnitude : magnitude k = i.natAbs := by
    rw [magnitude_eq_cast_iff, hk, hi, hone, Nat.pow_add, Nat.mul_assoc]
  have hfinite : k < infinityRank :=
    lt_infinityRank_of_lt_overflow (hmagnitude ▸ natAbs_lt_overflow hbound)
  have hrank := val_rank_ofRank (decide (i < 0)) hfinite.le
  refine ⟨ofRank (decide (i < 0)) k, ?_, ?_⟩
  · rw [isFinite, hrank]
    exact decide_eq_true hfinite
  · rw [value, hrank, hmagnitude]
    exact signed_natAbs i

/-- What a power of two is taken off from stays below the other factor, or has a power of two
itself. -/
theorem exists_pow_of_mul_pow {a m t n : Nat} (h : m * 2 ^ t = a * 2 ^ n) :
    ∃ k s, k ≤ m ∧ a = k * 2 ^ s := by
  rcases Nat.le_total n t with hle | hle
  · obtain ⟨s, rfl⟩ := Nat.exists_eq_add_of_le' hle
    refine ⟨m, s, Nat.le_refl m, ?_⟩
    rw [Nat.pow_add, ← Nat.mul_assoc] at h
    exact (Nat.eq_of_mul_eq_mul_right (Nat.two_pow_pos n) h).symm
  · obtain ⟨s, rfl⟩ := Nat.exists_eq_add_of_le' hle
    rw [Nat.pow_add, ← Nat.mul_assoc] at h
    have hm := Nat.eq_of_mul_eq_mul_right (Nat.two_pow_pos t) h
    refine ⟨a, 0, ?_, (Nat.mul_one a).symm⟩
    rw [hm]
    exact Nat.le_mul_of_pos_right a (Nat.two_pow_pos s)

/-- An integer has no more than 53 bits, but for zeros at its end. -/
def Exact (i : ℤ) : Prop := ∃ m s : Nat, m ≤ 2 ^ 53 ∧ i.natAbs = m * 2 ^ s

/-- **Which integers are values**: those of 53 bits, shifted. -/
theorem value_ofInt_eq_iff {i : ℤ} (hbound : i.natAbs ≤ 2 ^ 64) :
    (ofInt i).value = i ↔ Exact i := by
  constructor
  · intro h
    obtain ⟨m, t, hm, hunits⟩ := exists_units (ofInt i).rank
    obtain ⟨n, hone⟩ := exists_one_eq
    have habs : magnitude (ofInt i).rank = i.natAbs := by
      have h := congrArg abs h
      rwa [abs_value, abs_cast] at h
    rw [magnitude_eq_cast_iff, hunits, hone] at habs
    obtain ⟨k, s, hk, hi⟩ := exists_pow_of_mul_pow habs
    exact ⟨k, s, hk.trans hm.le, hi⟩
  · rintro ⟨m, s, hm, hi⟩
    obtain ⟨x, hx, hvalue⟩ := exists_value hm hi hbound
    exact (rounds_ofInt i).value_of_exact (isFinite_ofInt hbound) hx hvalue

/-- Rounding does not go below a power of two. -/
theorem two_pow_le_value_ofInt {e n : Nat} (hlow : 2 ^ e ≤ n) (hhigh : n ≤ 2 ^ 64) :
    2 ^ e ≤ (ofInt n).value := by
  have hbound : ((2 ^ e : ℕ) : ℤ).natAbs ≤ 2 ^ 64 := hlow.trans hhigh
  have hexact : (ofInt (2 ^ e : ℕ)).value = (2 ^ e : ℕ) := by
    have h := (value_ofInt_eq_iff hbound).mpr ⟨1, e, by decide, (Nat.one_mul _).symm⟩
    rwa [Int.cast_natCast] at h
  have hle : (ofInt (2 ^ e : ℕ)).value ≤ ((n : ℤ) : ℚ) := by
    rw [hexact, Int.cast_natCast]
    exact Nat.cast_le.mpr hlow
  have h := (rounds_ofInt n).le_value (isFinite_ofInt hhigh) (isFinite_ofInt hbound) hle
  rwa [hexact, Nat.cast_pow, Nat.cast_ofNat] at h

/-- A magnitude that needs all 53 bits before the point is whole. -/
theorem exists_nat_of_le_magnitude {k : Nat} (h : 2 ^ 53 ≤ magnitude k) :
    ∃ n : Nat, magnitude k = n := by
  obtain ⟨n, hone⟩ := exists_one_eq
  obtain ⟨m, s, hm, hunits⟩ := exists_units k
  have hpos : (0 : ℚ) < (2 ^ n : ℕ) := Nat.cast_pos.mpr (Nat.two_pow_pos n)
  rw [magnitude_eq, hunits, hone, le_div_iff₀ hpos] at h
  have hle : 2 ^ 53 * 2 ^ n ≤ m * 2 ^ s := by exact_mod_cast h
  have hns : n ≤ s := by
    by_contra hlt
    have hpow : m * 2 ^ s ≤ m * 2 ^ n :=
      Nat.mul_le_mul_left m (Nat.pow_le_pow_right (by decide) (Nat.not_le.mp hlt).le)
    have hlt : m * 2 ^ n < 2 ^ 53 * 2 ^ n := Nat.mul_lt_mul_of_pos_right hm (Nat.two_pow_pos n)
    exact absurd (hle.trans hpow) (Nat.not_le.mpr hlt)
  obtain ⟨e, rfl⟩ := Nat.exists_eq_add_of_le' hns
  refine ⟨m * 2 ^ e, magnitude_eq_cast_iff.mpr ?_⟩
  rw [hunits, hone, Nat.pow_add, Nat.mul_assoc]

/-- **What an integer is rounded to is an integer**: the integer has no more than 53 bits, or else
its rounding needs all of them before the point. -/
theorem Rounds.exists_int_value {negative : Bool} {i : ℤ} {x : Binary64}
    (h : Rounds negative i x) (hx : x.isFinite = true) : ∃ n : ℤ, x.value = n := by
  have hvalue : ∀ j : ℤ, j.natAbs ≤ 2 ^ 53 → ∃ y : Binary64, y.isFinite = true ∧ y.value = j :=
    fun j hj => exists_value (s := 0) hj (Nat.mul_one _).symm (hj.trans (by decide))
  by_cases hsmall : i.natAbs ≤ 2 ^ 53
  · obtain ⟨y, hy, hyi⟩ := hvalue i hsmall
    exact ⟨i, h.value_of_exact hx hy hyi⟩
  · have hlarge : 2 ^ 53 ≤ magnitude x.rank := by
      rw [← abs_value, le_abs]
      rcases Int.le_total 0 i with hi | hi
      · obtain ⟨y, hy, hyvalue⟩ := hvalue (2 ^ 53) (by decide)
        have hle : y.value ≤ i := by
          rw [hyvalue, Int.cast_le]
          omega
        have hxy := h.le_value hx hy hle
        rw [hyvalue] at hxy
        exact Or.inl (by exact_mod_cast hxy)
      · obtain ⟨y, hy, hyvalue⟩ := hvalue (-2 ^ 53) (by decide)
        have hle : (i : ℚ) ≤ y.value := by
          rw [hyvalue, Int.cast_le]
          omega
        have hxy := h.value_le hx hy hle
        rw [hyvalue, Int.cast_neg] at hxy
        exact Or.inr (le_neg_of_le_neg (by exact_mod_cast hxy))
    obtain ⟨n, hn⟩ := exists_nat_of_le_magnitude hlarge
    exact ⟨_, by rw [value, hn, signed_natCast]⟩

end Binary64

end ArrayLiteral
