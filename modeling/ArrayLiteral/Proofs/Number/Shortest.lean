import ArrayLiteral.Proofs.Number.Decimal
import ArrayLiteral.Proofs.Number.Rounding

/-!
# Proofs — Number — Shortest

The decimal that stands for a magnitude.

* **What rounds to a rank** lies between the midpoints to its two neighbours, and on one of them
  only if the rank is even (`rounds_iff_between`).  The interval that is searched says this in
  natural numbers (`holds_iff_between`).
* **It is found**: on the finest grid the multiple below the magnitude lies in the interval
  (`multiple?_unit_ne_none`).  So the decimal rounds to the magnitude (`between_value_ofRank`).
* **It is the shortest**: no decimal with a greater exponent rounds to the magnitude
  (`exponent_le_of_between`), and none with fewer digits (`length_digits_le_of_between`).
* **It is the nearest** of those with its exponent (`near_of_between`).
-/

namespace ArrayLiteral

namespace Binary64

/-! ### What rounds to a rank -/

/-- A rational lies between the midpoints to the two neighbours of a positive rank, and on one of
them only if the rank is even. -/
@[mk_iff]
structure Between (rank : Nat) (q : ℚ) : Prop where
  low : magnitude (rank - 1) + magnitude rank < 2 * q ∨
    rank % 2 = 0 ∧ magnitude (rank - 1) + magnitude rank = 2 * q
  high : 2 * q < magnitude rank + magnitude (rank + 1) ∨
    rank % 2 = 0 ∧ 2 * q = magnitude rank + magnitude (rank + 1)

variable {rank : Nat}

theorem between_magnitude (h : 0 < rank) : Between rank (magnitude rank) := by
  have hlow : magnitude (rank - 1) < magnitude rank := magnitude_strictMono (by omega)
  have hhigh : magnitude rank < magnitude (rank + 1) := magnitude_strictMono (Nat.lt_add_one _)
  exact ⟨Or.inl (by linarith), Or.inl (by linarith)⟩

/-- Between two rationals that round to a rank all others do. -/
theorem Between.of_le {a b q : ℚ} (ha : Between rank a) (hb : Between rank b) (haq : a ≤ q)
    (hqb : q ≤ b) : Between rank q where
  low := by
    rcases lt_or_eq_of_le haq with hlt | rfl
    · left
      rcases ha.low with h | ⟨-, h⟩ <;> linarith
    · exact ha.low
  high := by
    rcases lt_or_eq_of_le hqb with hlt | rfl
    · left
      rcases hb.high with h | ⟨-, h⟩ <;> linarith
    · exact hb.high

theorem Between.pos {q : ℚ} (h : Between rank q) (hrank : 0 < rank) : 0 < q := by
  have hmagnitude : magnitude 0 < magnitude rank := magnitude_strictMono hrank
  have hprevious := magnitude_nonneg (rank - 1)
  rw [magnitude_zero] at hmagnitude
  rcases h.low with h | ⟨-, h⟩ <;> linarith

theorem nearest_eq_iff (num : Nat) {den : Nat} (hd : 0 < den) (hpos : 0 < rank)
    (hfinite : rank < infinityRank) :
    Binary64.nearest (num * one) den = rank ↔ Between rank (num / den) := by
  obtain ⟨i, rfl⟩ : ∃ i, rank = i + 1 := ⟨rank - 1, by omega⟩
  have hhigh := (nearest_le_iff (num * one) hd hfinite).trans (covers_iff num hd (i + 1))
  have hlow := (nearest_le_iff (num * one) hd (Nat.lt_of_succ_lt hfinite)).trans
    (covers_iff num hd i)
  have hparity : (i + 1) % 2 = 0 ↔ ¬ i % 2 = 0 := by omega
  have hsplit : Binary64.nearest (num * one) den = i + 1 ↔
      ¬ Binary64.nearest (num * one) den ≤ i ∧ Binary64.nearest (num * one) den ≤ i + 1 := by
    omega
  rw [hsplit, hlow, hhigh, not_or, not_and, not_lt]
  constructor
  · rintro ⟨⟨hle, hne⟩, hcovers⟩
    refine ⟨?_, hcovers⟩
    rcases lt_or_eq_of_le hle with hlt | heq
    · exact Or.inl hlt
    · exact Or.inr ⟨hparity.mpr fun heven => hne heven heq.symm, heq⟩
  · rintro ⟨hlt | ⟨heven, heq⟩, hcovers⟩
    · exact ⟨⟨hlt.le, fun _ h => hlt.ne' h⟩, hcovers⟩
    · exact ⟨⟨heq.le, fun hodd => absurd hodd (hparity.mp heven)⟩, hcovers⟩

/-- **What rounds to a number** lies between the midpoints to its two neighbours. -/
theorem rounds_iff_between {x : Binary64} (hx : x.isFinite = true) (hpos : 0 < x.rank.val) {q : ℚ}
    (hq : 0 ≤ q) :
    Rounds x.negative (signed x.negative q) x ↔ Between x.rank q := by
  have hfinite : x.rank.val < infinityRank := of_decide_eq_true hx
  obtain ⟨num, den, hd, rfl⟩ : ∃ num den : ℕ, 0 < den ∧ q = num / den := by
    refine ⟨q.num.toNat, q.den, q.den_pos, ?_⟩
    have hnum : ((q.num.toNat : ℤ) : ℚ) = q.num := by
      rw [Int.toNat_of_nonneg (Rat.num_nonneg.mpr hq)]
    rw [← Int.cast_natCast, hnum, Rat.num_div_den]
  rw [← nearest_eq_iff num hd hpos hfinite]
  have hrounds := rounds_ofRatio x.negative num hd
  have hrank : (ofRatio x.negative num den).rank.val = Binary64.nearest (num * one) den :=
    val_rank_ofRank x.negative (nearest_le _ _)
  constructor
  · intro h
    rw [← hrank, hrounds.unique h]
  · intro h
    have heq : ofRatio x.negative num den = x := by
      rw [ofRatio, h]
      exact eq_of_value_eq rfl (by rw [value, val_rank_ofRank _ hfinite.le]; rfl)
    rwa [heq] at hrounds

end Binary64

namespace Decimal

open Binary64

/-! ### Decimals as rationals -/

/-- The value of a decimal. -/
def value (x : Decimal) : ℚ := x.coefficient * 10 ^ x.exponent

theorem value_nonneg (x : Decimal) : 0 ≤ x.value :=
  mul_nonneg (Nat.cast_nonneg _) (zpow_nonneg (by norm_num) _)

theorem value_of_le {x : Decimal} (h : 0 ≤ x.exponent) :
    x.value = (x.coefficient * 10 ^ x.exponent.toNat : ℕ) := by
  obtain ⟨n, hn⟩ := Int.eq_ofNat_of_zero_le h
  rw [value, hn, zpow_natCast, Int.toNat_natCast, Nat.cast_mul, Nat.cast_pow, Nat.cast_ofNat]

theorem value_of_lt {x : Decimal} (h : x.exponent < 0) :
    x.value = x.coefficient / 10 ^ x.exponent.natAbs := by
  have hexponent : x.exponent = -(x.exponent.natAbs : ℤ) := by omega
  rw [value, hexponent, zpow_neg, zpow_natCast, Int.natAbs_neg, Int.natAbs_natCast, div_eq_mul_inv]

variable {rank : Nat} {tie : Tie}

/-! ### The interval -/

namespace Interval

/-- The denominator of the interval's units: they are 10⁻³²⁴ over twice the units of a magnitude. -/
def scale : Nat := Nat.pow 10 324

theorem scale_eq : scale = 10 ^ 324 := by decide +kernel

theorem unit_lt_scale : unit < scale := by decide +kernel

theorem scale_pos : 0 < scale := Nat.zero_lt_of_lt unit_lt_scale

theorem scale_cast_pos : (0 : ℚ) < scale := Nat.cast_pos.mpr scale_pos

theorem unit_pos : 0 < unit := by
  have h := one_pos
  rw [unit]
  omega

theorem low_ofRank : (ofRank rank).low = (units (rank - 1) + units rank) * scale := by
  unfold scale ofRank
  rfl

theorem value_ofRank : (ofRank rank).value = (units rank + units rank) * scale := by
  rw [← Nat.two_mul]
  unfold scale ofRank
  rfl

theorem high_ofRank : (ofRank rank).high = (units rank + units (rank + 1)) * scale := by
  unfold scale ofRank
  rfl

/-- A number of the interval's units, as a rational. -/
def scaled (n : Nat) : ℚ := n / (unit * scale)

theorem denominator_pos : (0 : ℚ) < unit * scale :=
  mul_pos (Nat.cast_pos.mpr unit_pos) scale_cast_pos

theorem abs_scaled_sub (m n : Nat) :
    |scaled m - scaled n| = (|(m : ℤ) - n| : ℤ) / (unit * scale) := by
  rw [scaled, scaled, ← sub_div, abs_div, abs_of_pos denominator_pos, Int.cast_abs, Int.cast_sub,
    Int.cast_natCast, Int.cast_natCast]

/-- A multiple of a grid is a decimal. -/
theorem scaled_grid (n k : Nat) :
    scaled (n * (Nat.pow 10 k * unit)) = (⟨n, (k : ℤ) - 324⟩ : Decimal).value := by
  have hunit : (unit : ℚ) ≠ 0 := Nat.cast_ne_zero.mpr unit_pos.ne'
  have hexponent : (10 : ℚ) ^ ((k : ℤ) - 324) = (Nat.pow 10 k : ℕ) / scale := by
    rw [zpow_sub₀ (by norm_num), zpow_natCast, zpow_ofNat, scale_eq, Nat.pow_eq, Nat.cast_pow,
      Nat.cast_pow, Nat.cast_ofNat]
  rw [scaled, Decimal.value, hexponent, Nat.cast_mul, Nat.cast_mul, ← mul_assoc,
    mul_comm _ (unit : ℚ), mul_div_mul_left _ _ hunit, mul_div_assoc]

theorem two_mul_scaled (n : Nat) : 2 * scaled n = n / (one * scale) := by
  rw [scaled, unit, Nat.cast_mul, Nat.cast_ofNat, mul_assoc, ← mul_div_assoc,
    mul_div_mul_left _ _ two_ne_zero]

theorem magnitude_add (j k : Nat) :
    Binary64.magnitude j + Binary64.magnitude k =
      ((units j + units k) * scale : ℕ) / (one * scale) := by
  rw [magnitude_eq, magnitude_eq, ← add_div, Nat.cast_mul, Nat.cast_add,
    mul_div_mul_right _ _ scale_cast_pos.ne']

/-- **The interval** holds what lies between the midpoints. -/
theorem holds_iff_between (n : Nat) :
    (ofRank rank).holds n = true ↔ Between rank (scaled n) := by
  have hpos : (0 : ℚ) < one * scale := mul_pos one_cast_pos scale_cast_pos
  have hlt : ∀ a b : ℕ, (a : ℚ) / (one * scale) < b / (one * scale) ↔ a < b := fun a b =>
    (div_lt_div_iff_of_pos_right hpos).trans Nat.cast_lt
  have heq : ∀ a b : ℕ, (a : ℚ) / (one * scale) = b / (one * scale) ↔ a = b := fun a b =>
    (div_left_inj' hpos.ne').trans Nat.cast_inj
  have hbetween : Between rank (scaled n) ↔
      ((ofRank rank).low < n ∨ rank % 2 = 0 ∧ (ofRank rank).low = n) ∧
        (n < (ofRank rank).high ∨ rank % 2 = 0 ∧ n = (ofRank rank).high) := by
    rw [between_iff, two_mul_scaled, magnitude_add, magnitude_add, hlt, hlt, heq, heq,
      low_ofRank, high_ofRank]
  rw [hbetween, holds]
  by_cases heven : rank % 2 = 0
  · have hclosed : (ofRank rank).closed = true := beq_iff_eq.mpr heven
    rw [if_pos hclosed, Bool.and_eq_true, decide_eq_true_eq, decide_eq_true_eq]
    simp only [heven, true_and, Nat.le_iff_lt_or_eq]
  · have hclosed : (ofRank rank).closed = false := beq_eq_false_iff_ne.mpr heven
    rw [hclosed, if_neg Bool.false_ne_true, Bool.and_eq_true, decide_eq_true_eq, decide_eq_true_eq]
    simp only [heven, false_and, or_false]

/-! ### The search -/

theorem holds_of_lt {i : Interval} {n : Nat} (hlow : i.low < n) (hhigh : n < i.high) :
    i.holds n = true := by
  unfold holds
  split <;> simp only [Bool.and_eq_true, decide_eq_true_eq] <;> omega

theorem holds_of_le {i : Interval} {a b n : Nat} (ha : i.holds a = true) (hb : i.holds b = true)
    (han : a ≤ n) (hnb : n ≤ b) : i.holds n = true := by
  rw [holds] at ha hb ⊢
  generalize i.closed = closed at ha hb ⊢
  cases closed with
  | true =>
      simp only [↓reduceIte, Bool.and_eq_true, decide_eq_true_eq] at ha hb ⊢
      omega
  | false =>
      simp only [Bool.false_eq_true, ↓reduceIte, Bool.and_eq_true, decide_eq_true_eq] at ha hb ⊢
      omega

/-- The value of the interval is the magnitude. -/
theorem scaled_value : scaled (ofRank rank).value = Binary64.magnitude rank := by
  have h : 2 * scaled (ofRank rank).value = Binary64.magnitude rank + Binary64.magnitude rank := by
    rw [two_mul_scaled, magnitude_add, value_ofRank]
  linarith

theorem holds_value (h : 0 < rank) : (ofRank rank).holds (ofRank rank).value = true := by
  rw [holds_iff_between, scaled_value]
  exact between_magnitude h

variable {i : Interval} {step m n : Nat}

/-- If an interval around its value holds a multiple of the grid, one is found. -/
theorem multiple?_ne_none (hvalue : i.holds i.value = true) (hstep : 0 < step)
    (hm : i.holds (m * step) = true) : i.multiple? tie step ≠ none := by
  rw [ne_eq, multiple?_eq_none_iff, not_and_or]
  have hbelow : i.value / step * step ≤ i.value := Nat.div_mul_le_self _ _
  have habove : i.value < (i.value / step + 1) * step :=
    (Nat.div_lt_iff_lt_mul hstep).mp (Nat.lt_add_one _)
  rcases Nat.lt_or_ge (i.value / step) m with hlt | hge
  · right
    rw [holds_of_le hvalue hm habove.le (Nat.mul_le_mul_right step hlt)]
    exact Bool.true_eq_false_eq_False
  · left
    rw [holds_of_le hm hvalue (Nat.mul_le_mul_right step hge) hbelow]
    exact Bool.true_eq_false_eq_False

/-- What is found is the nearest multiple in the interval. -/
theorem near_of_multiple? (hvalue : i.holds i.value = true) (hstep : 0 < step)
    (hn : i.multiple? tie step = some n) (hm : i.holds (m * step) = true) :
    |((n * step : ℕ) : ℤ) - i.value| ≤ |((m * step : ℕ) : ℤ) - i.value| := by
  have hsplit := Nat.div_add_mod' i.value step
  have hmod := Nat.mod_lt i.value hstep
  have hnext : (i.value / step + 1) * step = i.value / step * step + step := Nat.succ_mul _ _
  rw [Int.abs_eq_natAbs, Int.abs_eq_natAbs]
  rcases Nat.lt_or_ge (i.value / step) m with hlt | hge
  · have hmul : (i.value / step + 1) * step ≤ m * step := Nat.mul_le_mul_right step hlt
    have habove := holds_of_le hvalue hm (by omega) hmul
    rcases multiple?_cases hn with ⟨rfl, -, hnear⟩ | ⟨rfl, -, -⟩
    · have hnear := hnear habove
      omega
    · omega
  · have hmul : m * step ≤ i.value / step * step := Nat.mul_le_mul_right step hge
    have hbelow := holds_of_le hm hvalue hmul (by omega)
    rcases multiple?_cases hn with ⟨rfl, -, -⟩ | ⟨rfl, -, hnear⟩
    · omega
    · have hnear := hnear hbelow
      omega

/-- **On the finest grid** a multiple is found: the interval is wider than the grid. -/
theorem multiple?_unit_ne_none (tie : Tie) (h : 0 < rank) :
    (ofRank rank).multiple? tie unit ≠ none := by
  have hunits : units (rank - 1) < units rank := units_strictMono (by omega)
  have hnext : units rank < units (rank + 1) := units_strictMono (Nat.lt_add_one _)
  have hlow : (ofRank rank).low + scale ≤ (ofRank rank).value := by
    rw [low_ofRank, value_ofRank, ← Nat.succ_mul]
    exact Nat.mul_le_mul_right scale (by omega)
  have hhigh : (ofRank rank).value < (ofRank rank).high := by
    rw [value_ofRank, high_ofRank]
    exact Nat.mul_lt_mul_of_pos_right (by omega) scale_pos
  have hsplit := Nat.div_add_mod' (ofRank rank).value unit
  have hmod := Nat.mod_lt (ofRank rank).value unit_pos
  have hscale := unit_lt_scale
  have hbelow : (ofRank rank).holds ((ofRank rank).value / unit * unit) = true :=
    holds_of_lt (by omega) (by omega)
  exact multiple?_ne_none (holds_value h) unit_pos hbelow

/-- The search ends with the coarsest grid on which a multiple is found. -/
theorem exists_shortest {i : Interval} (hunit : i.multiple? tie unit ≠ none) (k : Nat) :
    ∃ n j : ℕ, i.shortest tie k = ⟨n, (j : ℤ) - 324⟩ ∧
      i.multiple? tie (Nat.pow 10 j * unit) = some n ∧
      ∀ l, j < l → l ≤ k → i.multiple? tie (Nat.pow 10 l * unit) = none := by
  induction k with
  | zero =>
      obtain ⟨n, hn⟩ := Option.ne_none_iff_exists'.mp hunit
      have hone : Nat.pow 10 0 * unit = unit := Nat.one_mul unit
      refine ⟨n, 0, ?_, by rw [hone, hn], fun l hl hle => absurd hl (Nat.not_lt.mpr hle)⟩
      rw [shortest, hn]
      rfl
  | succ k ih =>
      rw [shortest]
      cases hk : i.multiple? tie (Nat.pow 10 (k + 1) * unit) with
      | some n => exact ⟨n, k + 1, rfl, hk, fun l hl hle => absurd hl (Nat.not_lt.mpr hle)⟩
      | none =>
          obtain ⟨n, j, hshortest, hfound, hnone⟩ := ih
          refine ⟨n, j, hshortest, hfound, fun l hl hle => ?_⟩
          rcases Nat.lt_or_eq_of_le hle with hlt | rfl
          · exact hnone l hl (Nat.le_of_lt_succ hlt)
          · exact hk

/-- A binary digit is worth less than 0.31 decimal ones. -/
theorem two_pow_le_ten_pow (n : Nat) : 2 ^ (n + 1) ≤ 10 ^ (n * 31 / 100 + 2) := by
  have hpow : (2 ^ (n + 1)) ^ 31 ≤ (10 ^ (n * 31 / 100 + 2)) ^ 31 := by
    calc (2 ^ (n + 1)) ^ 31 = 2 ^ ((n + 1) * 31) := (pow_mul 2 (n + 1) 31).symm
      _ ≤ 2 ^ (100 * (n * 31 / 100 + 2)) := Nat.pow_le_pow_right two_pos (by omega)
      _ = (2 ^ 100) ^ (n * 31 / 100 + 2) := pow_mul 2 100 _
      _ ≤ (10 ^ 31) ^ (n * 31 / 100 + 2) := Nat.pow_le_pow_left (by norm_num) _
      _ = (10 ^ (n * 31 / 100 + 2)) ^ 31 := by rw [← pow_mul, ← pow_mul, Nat.mul_comm]
  exact (Nat.pow_le_pow_iff_left (by decide)).mp hpow

/-- The search begins where the grid is too coarse. -/
theorem high_lt (i : Interval) {l : Nat} (hl : i.coarse < l) : i.high < Nat.pow 10 l * unit := by
  have hlog : i.high / unit < 2 ^ ((i.high / unit).log2 + 1) := Nat.lt_log2_self
  have hten : 10 ^ ((i.high / unit).log2 * 31 / 100 + 2) ≤ 10 ^ l :=
    Nat.pow_le_pow_right (by decide) hl
  rw [Nat.pow_eq]
  exact (Nat.div_lt_iff_lt_mul unit_pos).mp
    (hlog.trans_le ((two_pow_le_ten_pow _).trans hten))

theorem le_high_of_holds {i : Interval} {n : Nat} (h : i.holds n = true) : n ≤ i.high := by
  unfold holds at h
  split at h <;> simp only [Bool.and_eq_true, decide_eq_true_eq] at h <;> omega

end Interval

/-! ### The decimal -/

/-- The decimal is a multiple of its grid that is found, and no multiple of a coarser grid lies in
the interval. -/
theorem exists_ofRank (tie : Tie) (h : 0 < rank) :
    ∃ n j : ℕ, ofRank tie rank = ⟨n, (j : ℤ) - 324⟩ ∧
      (Interval.ofRank rank).multiple? tie (Nat.pow 10 j * Interval.unit) = some n ∧
      ∀ l, j < l → ∀ m,
        (Interval.ofRank rank).holds (m * (Nat.pow 10 l * Interval.unit)) = false := by
  obtain ⟨n, j, hdecimal, hfound, hnone⟩ := Interval.exists_shortest
    (Interval.multiple?_unit_ne_none tie h) (Interval.ofRank rank).coarse
  refine ⟨n, j, hdecimal, hfound, fun l hl m => Bool.eq_false_iff.mpr fun hm => ?_⟩
  rcases Nat.lt_or_ge (Interval.ofRank rank).coarse l with hcoarse | hle
  · -- one step of such a grid already leads beyond the interval
    have hm1 : 1 ≤ m := Interval.pos_of_holds (Interval.low_pos h) hm
    have hstep := Nat.mul_le_mul_right (Nat.pow 10 l * Interval.unit) hm1
    have hhigh := Interval.high_lt _ hcoarse
    have hmhigh := Interval.le_high_of_holds hm
    omega
  · have hstep : 0 < Nat.pow 10 l * Interval.unit :=
      Nat.mul_pos (Nat.pow_pos (by decide)) Interval.unit_pos
    exact Interval.multiple?_ne_none (Interval.holds_value h) hstep hm (hnone l hl hle)

/-- **The decimal rounds to the magnitude.** -/
theorem between_value_ofRank (tie : Tie) (h : 0 < rank) : Between rank (ofRank tie rank).value := by
  obtain ⟨n, j, hdecimal, hfound, -⟩ := exists_ofRank tie h
  rw [hdecimal, ← Interval.scaled_grid, ← Interval.holds_iff_between]
  exact Interval.holds_of_multiple? hfound

/-- **The decimal is the coarsest** of those that round to the magnitude. -/
theorem exponent_le_of_between (tie : Tie) (h : 0 < rank) {d : Decimal}
    (hd : Between rank d.value) :
    d.exponent ≤ (ofRank tie rank).exponent := by
  obtain ⟨n, j, hdecimal, -, hnone⟩ := exists_ofRank tie h
  rw [hdecimal]
  dsimp only
  by_contra hlt
  obtain ⟨l, hl⟩ : ∃ l : ℕ, d = ⟨d.coefficient, (l : ℤ) - 324⟩ := by
    refine ⟨(d.exponent + 324).toNat, ?_⟩
    have hexponent : ((d.exponent + 324).toNat : ℤ) - 324 = d.exponent := by omega
    rw [hexponent]
  have hjl : j < l := by
    rw [hl] at hlt
    dsimp only at hlt
    omega
  rw [hl, ← Interval.scaled_grid, ← Interval.holds_iff_between, hnone l hjl] at hd
  exact Bool.false_ne_true hd

/-- **The decimal has the fewest digits** of those that round to the magnitude. -/
theorem length_digits_le_of_between (tie : Tie) (h : 0 < rank) {d : Decimal}
    (hd : Between rank d.value) :
    (digits (ofRank tie rank).coefficient).length ≤ (digits d.coefficient).length := by
  have hpos : 0 < (digits d.coefficient).length := Nat.length_toDigits_pos
  generalize hp : (digits d.coefficient).length = p at hpos ⊢
  have hlt : d.coefficient < 10 ^ p := (Nat.length_toDigits_le_iff (by decide) hpos).mp hp.le
  refine (Nat.length_toDigits_le_iff (by decide) hpos).mpr ?_
  by_contra hge
  -- with more digits, a power of ten between the two decimals would be coarser than both
  have hexponent := exponent_le_of_between tie h hd
  have hpower : Between rank (⟨1, p + (ofRank tie rank).exponent⟩ : Decimal).value := by
    have hvalue : (⟨1, p + (ofRank tie rank).exponent⟩ : Decimal).value =
        (10 ^ p : ℕ) * 10 ^ (ofRank tie rank).exponent := by
      rw [value, zpow_add₀ (by norm_num), zpow_natCast, Nat.cast_one, one_mul, Nat.cast_pow,
        Nat.cast_ofNat]
    rw [hvalue]
    refine hd.of_le (between_value_ofRank tie h) ?_ ?_
    · exact mul_le_mul (Nat.cast_le.mpr hlt.le) (zpow_le_zpow_right₀ (by norm_num) hexponent)
        (zpow_nonneg (by norm_num) _) (Nat.cast_nonneg _)
    · exact mul_le_mul_of_nonneg_right (Nat.cast_le.mpr (Nat.not_lt.mp hge))
        (zpow_nonneg (by norm_num) _)
  have hle := exponent_le_of_between tie h hpower
  dsimp only at hle
  omega

/-- **The decimal is the nearest** with its exponent, of those that round to the magnitude. -/
theorem near_of_between (tie : Tie) (h : 0 < rank) {d : Decimal} (hd : Between rank d.value)
    (hexponent : d.exponent = (ofRank tie rank).exponent) :
    |(ofRank tie rank).value - Binary64.magnitude rank| ≤ |d.value - Binary64.magnitude rank| := by
  obtain ⟨n, j, hdecimal, hfound, -⟩ := exists_ofRank tie h
  obtain ⟨m, rfl⟩ : ∃ m : ℕ, d = ⟨m, (j : ℤ) - 324⟩ := by
    refine ⟨d.coefficient, ?_⟩
    rw [hdecimal] at hexponent
    dsimp only at hexponent
    rw [← hexponent]
  rw [← Interval.scaled_grid, ← Interval.holds_iff_between] at hd
  have hstep : 0 < Nat.pow 10 j * Interval.unit :=
    Nat.mul_pos (Nat.pow_pos (by decide)) Interval.unit_pos
  rw [hdecimal, ← Interval.scaled_grid, ← Interval.scaled_grid, ← Interval.scaled_value,
    Interval.abs_scaled_sub, Interval.abs_scaled_sub]
  have hnear := Interval.near_of_multiple? (Interval.holds_value h) hstep hfound hd
  exact div_le_div_of_nonneg_right (Int.cast_le.mpr hnear) Interval.denominator_pos.le

end Decimal

end ArrayLiteral
