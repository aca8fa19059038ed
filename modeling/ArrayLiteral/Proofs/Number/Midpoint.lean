import ArrayLiteral.Proofs.Number.Magnitude

/-!
# Proofs — Number — Midpoint

Where the ranks meet that quotients are rounded to.  A quotient is rounded to a finite rank or a
lower one exactly if it does not lie beyond the midpoint to the next rank, nor on it if the rank is
odd (`nearest_le_iff`).

The quotient is divided by the spacing of magnitudes at its size, and the result is rounded to a
whole number, a half to the even one (`roundHalfEven_upper`, `roundHalfEven_lower`).  It has 53 bits
(`exists_nearest`), so that next to it the magnitudes have this spacing too, but for the first and
the last one, which the quotient does not reach past.
-/

namespace ArrayLiteral.Binary64

/-! ### A quotient of naturals -/

/-- Half a unit up is still rounded down if the result is even. -/
theorem roundHalfEven_upper (num : Nat) {den : Nat} (hd : 0 < den) :
    2 * num < (2 * roundHalfEven num den + 1) * den ∨
      roundHalfEven num den % 2 = 0 ∧ 2 * num = (2 * roundHalfEven num den + 1) * den := by
  have hdiv := Nat.div_add_mod' num den
  have hmod := Nat.mod_lt num hd
  unfold roundHalfEven
  dsimp only
  generalize num / den = n at hdiv ⊢
  generalize num % den = r at hdiv hmod ⊢
  have hexpand : ∀ k, (2 * k + 1) * den = 2 * (k * den) + den := fun k => by
    rw [Nat.add_mul, Nat.mul_assoc, Nat.one_mul]
  split
  · rw [hexpand]
    omega
  · split
    · rw [hexpand, Nat.add_mul]
      omega
    · rcases Nat.mod_two_eq_zero_or_one n with he | ho
      · simp only [he, Nat.add_zero, true_and, hexpand]
        omega
      · simp only [ho, hexpand, Nat.add_mul]
        omega

/-- Half a unit down is still rounded up if the result is even. -/
theorem roundHalfEven_lower (num : Nat) {den : Nat} (hd : 0 < den) :
    2 * (roundHalfEven num den * den) < 2 * num + den ∨
      roundHalfEven num den % 2 = 0 ∧ 2 * (roundHalfEven num den * den) = 2 * num + den := by
  have hdiv := Nat.div_add_mod' num den
  have hmod := Nat.mod_lt num hd
  unfold roundHalfEven
  dsimp only
  generalize num / den = n at hdiv ⊢
  generalize num % den = r at hdiv hmod ⊢
  split
  · omega
  · split
    · rw [Nat.add_mul]
      omega
    · rcases Nat.mod_two_eq_zero_or_one n with he | ho
      · simp only [he, Nat.add_zero, true_and]
        omega
      · simp only [ho, Nat.add_mul]
        omega

theorem le_roundHalfEven {n num den : Nat} (hd : 0 < den) (h : n * den ≤ num) :
    n ≤ roundHalfEven num den := by
  by_contra hlt
  have hmul : (roundHalfEven num den + 1) * den ≤ n * den :=
    Nat.mul_le_mul_right den (Nat.not_le.mp hlt)
  have hnear := (roundHalfEven_near num hd).2
  rw [Nat.add_mul] at hmul
  omega

theorem roundHalfEven_le {n num den : Nat} (hd : 0 < den) (h : num ≤ n * den) :
    roundHalfEven num den ≤ n := by
  by_contra hlt
  have hmul : (n + 1) * den ≤ roundHalfEven num den * den :=
    Nat.mul_le_mul_right den (Nat.not_le.mp hlt)
  have hnear := (roundHalfEven_near num hd).1
  rw [Nat.add_mul] at hmul
  omega

/-! ### Ranks and midpoints -/

/-- A quotient of units is rounded to this rank or a lower one: it does not lie beyond the midpoint
to the next rank, and on it only if the rank is even. -/
def Covers (num den k : Nat) : Prop :=
  2 * num < (units k + units (k + 1)) * den ∨
    k % 2 = 0 ∧ 2 * num = (units k + units (k + 1)) * den

theorem Covers.le {num den k : Nat} (h : Covers num den k) :
    2 * num ≤ (units k + units (k + 1)) * den := by
  rcases h with h | ⟨-, h⟩
  · exact h.le
  · exact h.le

theorem Covers.mono {num den j k : Nat} (hd : 0 < den) (h : Covers num den j) (hjk : j ≤ k) :
    Covers num den k := by
  rcases Nat.lt_or_eq_of_le hjk with hlt | rfl
  · have hlow := units_strictMono hlt
    have hhigh := units_strictMono (Nat.succ_lt_succ hlt)
    refine Or.inl (Nat.lt_of_le_of_lt h.le ?_)
    exact Nat.mul_lt_mul_of_pos_right (Nat.add_lt_add hlow hhigh) hd
  · exact h

/-- The spacing of magnitudes fits the quotient: in its units the quotient has 53 bits, or else they
are the smallest units. -/
theorem spacing_bounds (num : Nat) {den : Nat} (hd : 0 < den) {s : Nat}
    (hs : s = (num / den).log2 - 52) :
    num < 2 ^ 53 * (den * 2 ^ s) ∧ (s = 0 ∨ 2 ^ 52 * (den * 2 ^ s) ≤ num) := by
  have hcomm : ∀ b, 2 ^ b * (den * 2 ^ s) = 2 ^ (b + s) * den := fun b => by
    rw [Nat.pow_add, Nat.mul_comm den, Nat.mul_assoc]
  constructor
  · have hlt : num / den < 2 ^ (53 + s) :=
      Nat.lt_of_lt_of_le Nat.lt_log2_self (Nat.pow_le_pow_right (by decide) (by omega))
    rw [hcomm]
    exact (Nat.div_lt_iff_lt_mul hd).mp hlt
  · rcases Nat.eq_zero_or_pos s with h | h
    · exact Or.inl h
    · right
      have hne : num / den ≠ 0 := fun h0 => by
        rw [h0, Nat.log2_zero] at hs
        omega
      have hle : 2 ^ (52 + s) ≤ num / den :=
        Nat.le_trans (Nat.pow_le_pow_right (by decide) (by omega)) (Nat.log2_self_le hne)
      rw [hcomm]
      exact (Nat.le_div_iff_mul_le hd).mp hle

/-- The rank that a quotient is rounded to, without the bound at infinity: a multiple of the
spacing. -/
theorem exists_nearest (num : Nat) {den : Nat} (hd : 0 < den) :
    ∃ s m, nearest num den = min (s * 2 ^ 52 + m) infinityRank ∧
      m = roundHalfEven num (den * 2 ^ s) ∧ m ≤ 2 ^ 53 ∧ (s = 0 ∨ 2 ^ 52 ≤ m) ∧
      num < 2 ^ 53 * (den * 2 ^ s) ∧ (s = 0 ∨ 2 ^ 52 * (den * 2 ^ s) ≤ num) := by
  obtain ⟨hhigh, hlow⟩ := spacing_bounds num hd rfl
  have hpos : 0 < den * 2 ^ ((num / den).log2 - 52) := Nat.mul_pos hd (Nat.two_pow_pos _)
  refine ⟨_, _, ?_, rfl, roundHalfEven_le hpos hhigh.le, hlow.imp_right (le_roundHalfEven hpos),
    hhigh, hlow⟩
  rw [nearest, Nat.shiftLeft_eq, Nat.shiftLeft_eq]

variable {num den s m : Nat}

/-- The sum of two neighbouring magnitudes of one spacing. -/
theorem units_add_units_succ (hm : m < 2 ^ 53) (hs : s = 0 ∨ 2 ^ 52 ≤ m) (den : Nat) :
    (units (s * 2 ^ 52 + m) + units (s * 2 ^ 52 + m + 1)) * den = (2 * m + 1) * (den * 2 ^ s) := by
  rw [units_succ hm hs, units_grid hm.le hs]
  ring

/-- A quotient does not lie beyond the midpoint behind its rank. -/
theorem covers_rank (hd : 0 < den) (hround : m = roundHalfEven num (den * 2 ^ s))
    (hm : m ≤ 2 ^ 53) (hs : s = 0 ∨ 2 ^ 52 ≤ m) (hhigh : num < 2 ^ 53 * (den * 2 ^ s)) :
    Covers num den (s * 2 ^ 52 + m) := by
  have hparity : (s * 2 ^ 52 + m) % 2 = m % 2 := by omega
  rcases Nat.lt_or_eq_of_le hm with hlt | rfl
  · rw [Covers, units_add_units_succ hlt hs, hparity, hround]
    exact roundHalfEven_upper num (Nat.mul_pos hd (Nat.two_pow_pos s))
  · -- at the end of a spacing the quotient has not even reached the rank
    have hnext : units (s * 2 ^ 52 + 2 ^ 53) < units (s * 2 ^ 52 + 2 ^ 53 + 1) :=
      units_strictMono (Nat.lt_add_one _)
    have hmul := Nat.mul_lt_mul_of_pos_right hnext hd
    have hunits : units (s * 2 ^ 52 + 2 ^ 53) * den = 2 ^ 53 * (den * 2 ^ s) := by
      rw [units_grid (Nat.le_refl _) hs]
      ring
    left
    rw [Nat.add_mul]
    omega

/-- A quotient lies beyond the midpoint before its rank, or on it if the rank is even. -/
theorem not_covers_of_rank (hd : 0 < den) (hround : m = roundHalfEven num (den * 2 ^ s))
    (hm : m ≤ 2 ^ 53) (hs : s = 0 ∨ 2 ^ 52 ≤ m) (hlow : s = 0 ∨ 2 ^ 52 * (den * 2 ^ s) ≤ num)
    {k : Nat} (hk : k + 1 = s * 2 ^ 52 + m) : ¬ Covers num den k := by
  by_cases hfirst : s ≠ 0 ∧ m = 2 ^ 52
  · -- at the beginning of a spacing the quotient has reached the rank
    obtain ⟨hne, rfl⟩ := hfirst
    have hunits : units (k + 1) * den = 2 ^ 52 * (den * 2 ^ s) := by
      rw [hk, units_grid hm hs]
      ring
    have hmul := Nat.mul_lt_mul_of_pos_right (units_strictMono (Nat.lt_add_one k)) hd
    have hle := hlow.resolve_left hne
    intro hcovers
    have h := hcovers.le
    rw [Nat.add_mul] at h
    omega
  · obtain ⟨n, rfl⟩ : ∃ n, m = n + 1 := ⟨m - 1, by omega⟩
    have hn : s = 0 ∨ 2 ^ 52 ≤ n := by omega
    obtain rfl : k = s * 2 ^ 52 + n := by omega
    have hparity : (s * 2 ^ 52 + n) % 2 = n % 2 := by omega
    have hlower := roundHalfEven_lower num (Nat.mul_pos hd (Nat.two_pow_pos s))
    rw [← hround, Nat.add_mul, Nat.one_mul] at hlower
    rw [Covers, units_add_units_succ (by omega) hn, hparity, Nat.add_mul, Nat.mul_assoc,
      Nat.one_mul]
    omega

/-- **Ranks and midpoints.**  A quotient is rounded to a finite rank or a lower one exactly if it
does not lie beyond the midpoint to the next rank, nor on it if the rank is odd. -/
theorem nearest_le_iff (num : Nat) (hd : 0 < den) {k : Nat} (hk : k < infinityRank) :
    nearest num den ≤ k ↔ Covers num den k := by
  obtain ⟨s, m, hnearest, hround, hm, hs, hhigh, hlow⟩ := exists_nearest num hd
  rw [hnearest, min_le_iff, or_iff_left (Nat.not_le.mpr hk)]
  constructor
  · exact (covers_rank hd hround hm hs hhigh).mono hd
  · intro hcovers
    by_contra hlt
    obtain ⟨j, hj⟩ : ∃ j, j + 1 = s * 2 ^ 52 + m := ⟨s * 2 ^ 52 + m - 1, by omega⟩
    exact not_covers_of_rank hd hround hm hs hlow hj (hcovers.mono hd (by omega))

end ArrayLiteral.Binary64
