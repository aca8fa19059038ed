import ArrayLiteral.Proofs.Number.Literal
import ArrayLiteral.Proofs.Number.Shortest

/-!
# Proofs — Number — RoundTrip

Numbers as they are written, read again.

* **A decimal is written as a literal** (`toText_literal`), with a point exactly if it needs one,
  and the literal has its value (`value_literal`).  So a finite float is written with digits
  (`toText_floatLiteral`), and its literal is rounded to it (`toBinary64_floatLiteral`).
* **The point** tells the fractional floats from the whole ones
  (`fraction_floatLiteral_eq_none_iff`).  A whole one that is too large for 64 bits is written as a
  decimal that is too large as well (`int64?_integer_floatLiteral`).
* **A number in normal form is read as itself** (`ofLiteral?_floatText`).
-/

namespace ArrayLiteral

open Binary64

namespace Decimal

open Number

variable {x : Decimal} {negative : Bool}

/-! ### How a decimal is written -/

/-- The literal that a decimal is written as. -/
def literal (negative : Bool) (x : Decimal) : Literal :=
  let ds := digits x.coefficient
  if 0 ≤ x.exponent then ⟨negative, ds ++ zeros x.exponent.toNat, none⟩
  else
    let places := x.exponent.natAbs
    if places < ds.length then
      ⟨negative, ds.take (ds.length - places), some (ds.drop (ds.length - places))⟩
    else ⟨negative, ['0'], some (zeros (places - ds.length) ++ ds)⟩

theorem negative_literal : (x.literal negative).negative = negative := by
  unfold literal
  dsimp only
  split
  · rfl
  · split <;> rfl

theorem toText_literal :
    (x.literal negative).toText = (if negative then ['-'] else []) ++ x.positional := by
  unfold literal positional
  dsimp only
  split
  · simp [Literal.toText]
  · split <;> simp [Literal.toText]

theorem fraction_literal_eq_none_iff :
    (x.literal negative).fraction = none ↔ 0 ≤ x.exponent := by
  unfold literal
  dsimp only
  split
  · rename_i h
    exact iff_of_true rfl h
  · rename_i h
    split <;> exact iff_of_false (Option.some_ne_none _) h

/-- **A decimal is written with digits.** -/
theorem isDecimal_literal : (x.literal negative).IsDecimal := by
  have hds : ∀ c ∈ digits x.coefficient, c.isDigit = true := fun _ => isDigit_of_mem_digits
  have hne := digits_ne_nil x.coefficient
  unfold literal
  dsimp only
  split
  · refine ⟨isDigits_of_forall (List.append_ne_nil_of_left_ne_nil hne _) ?_, nofun⟩
    exact List.forall_mem_append.mpr ⟨hds, fun _ => isDigit_of_mem_zeros⟩
  · rename_i hexponent
    split
    · rename_i hplaces
      refine ⟨isDigits_of_forall ?_ fun c hc => hds c (List.mem_of_mem_take hc), ?_⟩
      · simp only [ne_eq, List.take_eq_nil_iff, not_or]
        exact ⟨by omega, hne⟩
      · rintro _ ⟨⟩
        refine isDigits_of_forall ?_ fun c hc => hds c (List.mem_of_mem_drop hc)
        simp only [ne_eq, List.drop_eq_nil_iff]
        omega
    · refine ⟨rfl, ?_⟩
      rintro _ ⟨⟩
      refine isDigits_of_forall (List.append_ne_nil_of_right_ne_nil _ hne) ?_
      exact List.forall_mem_append.mpr ⟨fun _ => isDigit_of_mem_zeros, hds⟩

/-- **The literal has the value of the decimal.** -/
theorem value_literal : (x.literal negative).value = signed negative x.value := by
  rw [Literal.value_eq_ratio, negative_literal, signed_inj]
  unfold literal
  dsimp only
  split
  · rename_i hwhole
    rw [value_of_le hwhole, Option.getD_none, List.append_nil, List.length_nil, pow_zero, div_one,
      Literal.digitsValue_append, digitsValue_digits, digitsValue_zeros, zeros,
      List.length_replicate, Nat.add_zero]
  · rename_i hexponent
    rw [value_of_lt (Int.not_le.mp hexponent)]
    split
    · rename_i hplaces
      rw [Option.getD_some, List.take_append_drop, digitsValue_digits, List.length_drop,
        Nat.sub_sub_self hplaces.le]
    · rename_i hplaces
      have hzero : digitsValue ['0'] = 0 := rfl
      rw [Option.getD_some, Literal.digitsValue_append, Literal.digitsValue_append, hzero,
        digitsValue_zeros, digitsValue_digits, Nat.zero_mul, Nat.zero_mul, Nat.zero_add,
        Nat.zero_add, List.length_append, zeros, List.length_replicate,
        Nat.sub_add_cancel (Nat.not_lt.mp hplaces)]

/-! ### Whole magnitudes -/

variable {rank : Nat}

/-- **A whole magnitude** has a whole decimal, since it is one itself. -/
theorem exponent_nonneg_of_whole (tie : Tie) (h : 0 < rank) {n : Nat}
    (hn : Binary64.magnitude rank = n) : 0 ≤ (ofRank tie rank).exponent := by
  have hvalue : (⟨n, 0⟩ : Decimal).value = Binary64.magnitude rank := by
    rw [value, zpow_zero, mul_one, hn]
  exact exponent_le_of_between tie h (d := ⟨n, 0⟩) (hvalue ▸ between_magnitude h)

/-- The rank of 2⁶³. -/
def rankOfBound : Nat := 1086 <<< 52

theorem magnitude_rankOfBound : Binary64.magnitude rankOfBound = 2 ^ 63 := by
  have hexponent : rankOfBound / 2 ^ 52 = 1086 := by decide
  have hfraction : rankOfBound % 2 ^ 52 = 0 := by decide
  rw [Binary64.magnitude, hexponent, hfraction]
  norm_num

/-- **From 2⁶³ on** decimals lie beyond 2⁶³.  The one of 2⁶³ itself does because it is rounded
up. -/
theorem two_pow_lt_value_ofRank (h : 2 ^ 63 ≤ Binary64.magnitude rank) :
    2 ^ 63 < (ofRank .up rank).value := by
  rw [← magnitude_rankOfBound] at h ⊢
  rcases Nat.lt_or_eq_of_le (magnitude_strictMono.le_iff_le.mp h) with hlt | rfl
  · -- the midpoint to the rank before is not smaller than 2⁶³
    have hprevious : Binary64.magnitude rankOfBound ≤ Binary64.magnitude (rank - 1) :=
      magnitude_strictMono.monotone (Nat.le_sub_one_of_lt hlt)
    have hself := magnitude_strictMono hlt
    have hbetween : Between rank (ofRank .up rank).value :=
      between_value_ofRank .up (Nat.zero_lt_of_lt hlt)
    rcases hbetween.low with hlow | ⟨-, hlow⟩ <;> linarith
  · have hdecimal : ofRank .up rankOfBound = ⟨9223372036854776, 3⟩ := by decide +kernel
    rw [hdecimal, value, magnitude_rankOfBound]
    norm_num

end Decimal

namespace Number

open Literal

variable {x : Binary64}

/-! ### How a float is written -/

/-- The literal that a finite float is written as. -/
def floatLiteral (x : Binary64) : Literal :=
  (if x.isZero then ⟨0, 0⟩ else Decimal.ofRank .up x.rank : Decimal).literal x.negative

theorem rank_pos (h : x.isZero = false) : 0 < x.rank.val :=
  Nat.pos_of_ne_zero (by simpa [isZero] using h)

theorem floatLiteral_of_not_isZero (h : x.isZero = false) :
    floatLiteral x = (Decimal.ofRank .up x.rank).literal x.negative := by
  rw [floatLiteral, h, if_neg Bool.false_ne_true]

theorem isDecimal_floatLiteral (x : Binary64) : (floatLiteral x).IsDecimal :=
  Decimal.isDecimal_literal

theorem isNaN_of_isFinite (hx : x.isFinite = true) : x.isNaN = false := by
  rw [isFinite, decide_eq_true_eq] at hx
  rw [isNaN]
  exact decide_eq_false (Nat.not_lt.mpr hx.le)

theorem positional_floatLiteral (x : Binary64) :
    (if x.isZero then ⟨0, 0⟩ else Decimal.ofRank .up x.rank : Decimal).positional =
      if x.isZero then ['0'] else (Decimal.ofRank .up x.rank).positional := by
  split
  · rfl
  · rfl

theorem toText_floatLiteral (hx : x.isFinite = true) : (floatLiteral x).toText = floatText x := by
  rw [floatLiteral, Decimal.toText_literal, positional_floatLiteral]
  simp only [floatText, isNaN_of_isFinite hx, hx, Bool.not_true, Bool.false_eq_true, if_false]
  generalize (if x.isZero = true then ['0'] else (Decimal.ofRank .up x.rank).positional) = t
  cases x.negative with
  | false => rfl
  | true => rfl

/-- **The decimal of a float is rounded to it.** -/
theorem rounds_decimal (hx : x.isFinite = true) (hzero : x.isZero = false) :
    Rounds x.negative (signed x.negative (Decimal.ofRank .up x.rank).value) x := by
  have hbetween := Decimal.between_value_ofRank .up (rank_pos hzero)
  exact (rounds_iff_between hx (rank_pos hzero) (hbetween.pos (rank_pos hzero)).le).mpr hbetween

theorem toBinary64_floatLiteral (hx : x.isFinite = true) (hzero : x.isZero = false) :
    (floatLiteral x).toBinary64 = x := by
  have hrounds := rounds_toBinary64 (floatLiteral x)
  rw [floatLiteral_of_not_isZero hzero, Decimal.value_literal, Decimal.negative_literal] at hrounds
  rw [floatLiteral_of_not_isZero hzero]
  exact hrounds.unique (rounds_decimal hx hzero)

/-! ### The point -/

/-- **The point** stands in the text of a float exactly if the float is not whole. -/
theorem fraction_floatLiteral_eq_none_iff (hx : x.isFinite = true) :
    (floatLiteral x).fraction = none ↔ ∃ n : ℤ, x.value = n := by
  cases hzero : x.isZero with
  | true =>
      refine iff_of_true ?_ ⟨0, by rw [isZero_iff.mp hzero, Int.cast_zero]⟩
      rw [floatLiteral, hzero, if_pos rfl, Decimal.fraction_literal_eq_none_iff]
  | false =>
      rw [floatLiteral_of_not_isZero hzero, Decimal.fraction_literal_eq_none_iff]
      constructor
      · intro hwhole
        have hrounds := rounds_decimal hx hzero
        rw [Decimal.value_of_le hwhole, signed_natCast] at hrounds
        exact hrounds.exists_int_value hx
      · rintro ⟨n, hn⟩
        refine Decimal.exponent_nonneg_of_whole .up (rank_pos hzero) (n := n.natAbs) ?_
        rw [← abs_value, hn, abs_cast]

/-- **A float that is too large** for 64 bits is written as an integer that is too large as well. -/
theorem int64?_integer_floatLiteral (hlarge : 2 ^ 63 ≤ |x.value|) :
    (floatLiteral x).fraction = none ∧ int64? (floatLiteral x).integer = none := by
  rw [abs_value] at hlarge
  have hzero : x.isZero = false := by
    rw [Bool.eq_false_iff]
    intro hzero
    rw [← abs_value, isZero_iff.mp hzero, abs_zero] at hlarge
    norm_num at hlarge
  have hdecimal := Decimal.two_pow_lt_value_ofRank hlarge
  have hpoint : (floatLiteral x).fraction = none := by
    obtain ⟨n, hn⟩ := exists_nat_of_le_magnitude (le_trans (by norm_num) hlarge)
    rw [floatLiteral_of_not_isZero hzero, Decimal.fraction_literal_eq_none_iff]
    exact Decimal.exponent_nonneg_of_whole .up (rank_pos hzero) hn
  refine ⟨hpoint, Option.eq_none_iff_forall_ne_some.mpr fun i hi => ?_⟩
  have hvalue : |((floatLiteral x).integer : ℚ)| = (Decimal.ofRank .up x.rank).value := by
    rw [integer_cast hpoint, floatLiteral_of_not_isZero hzero, Decimal.value_literal, abs_signed]
    exact abs_of_pos (lt_trans (by norm_num) hdecimal)
  rw [← hvalue, ← int64?_eq_some_iff.mp hi, ← Int.cast_abs] at hdecimal
  have hlt : 2 ^ 63 < |i.toInt| := by exact_mod_cast hdecimal
  have hmin := i.le_toInt
  have hmax := i.toInt_lt
  rcases abs_cases i.toInt with ⟨habs, -⟩ | ⟨habs, -⟩ <;> omega

/-! ### Reading back -/

/-- **A float that is kept is read as itself.** -/
theorem ofLiteral?_floatText (hx : x.isFinite = true) (hnormal : Number.Normal (.float x)) :
    ofLiteral? (floatText x) = some (.float x) := by
  have hkept : ∀ i : Int64, x.value ≠ i.toInt := fun i hi =>
    (ofBinary64_eq_float_iff.mp hnormal).2 i ⟨hx, hi⟩
  have hzero : x.isZero = false := by
    rw [Bool.eq_false_iff]
    exact fun hzero => hkept 0 (by rw [isZero_iff.mp hzero, Int64.toInt_zero, Int.cast_zero])
  -- an integer of 64 bits without a point would be a whole float within range
  have hinteger : ¬(floatLiteral x).IsInteger := fun h => by
    obtain ⟨hpoint, i, hi⟩ := isInteger_iff.mp h
    obtain ⟨n, hn⟩ := (fraction_floatLiteral_eq_none_iff hx).mp hpoint
    have hsmall : |x.value| < 2 ^ 63 := by
      by_contra hlarge
      rw [(int64?_integer_floatLiteral (not_lt.mp hlarge)).2] at hi
      cases hi
    rw [hn, ← Int.cast_abs] at hsmall
    have hlt : |n| < 2 ^ 63 := by exact_mod_cast hsmall
    obtain ⟨hlow, hhigh⟩ := abs_lt.mp hlt
    refine hkept (Int64.ofInt n) ?_
    rw [hn, Int64.toInt_ofInt_of_le hlow.le hhigh]
  rw [← toText_floatLiteral hx, ofLiteral?_toText (isDecimal_floatLiteral x),
    number?_of_not_isInteger hinteger, rounded?_eq_some_iff, toBinary64_floatLiteral hx hzero]
  exact ⟨hx, hnormal⟩

/-- **A number in normal form is read as itself**, if it is finite. -/
theorem ofLiteral?_text {n : Number} (hnormal : n.Normal) (hfinite : n.Finite) :
    ofLiteral? n.text = some n := by
  cases n with
  | integer i => exact ofLiteral?_text_integer i
  | float x => exact ofLiteral?_floatText hfinite hnormal

/-! ### The text of a float -/

/-- **No decimal that is rounded to a float has fewer digits** than the one that is written. -/
theorem fewest_digits (hx : x.isFinite = true) (hzero : x.isZero = false) {d : Decimal}
    (hd : Rounds x.negative (signed x.negative d.value) x) :
    (Decimal.digits (Decimal.ofRank .up x.rank).coefficient).length ≤
      (Decimal.digits d.coefficient).length := by
  have hrank := rank_pos hzero
  exact Decimal.length_digits_le_of_between .up hrank
    ((rounds_iff_between hx hrank d.value_nonneg).mp hd)

theorem floatText_eq_positional (hx : x.isFinite = true) (hzero : x.isZero = false) :
    floatText x = (if x.negative then ['-'] else []) ++ (Decimal.ofRank .up x.rank).positional := by
  rw [← toText_floatLiteral hx, floatLiteral_of_not_isZero hzero, Decimal.toText_literal]

theorem floatText_of_not_isFinite (hx : x.isFinite = false) :
    floatText x = ['N', 'a', 'N'] ∨ floatText x = ['-', 'i', 'n', 'f'] ∨
      floatText x = ['i', 'n', 'f'] := by
  simp only [floatText, hx, Bool.not_false, if_true]
  split
  · exact Or.inl rfl
  · split
    · exact Or.inr (Or.inl rfl)
    · exact Or.inr (Or.inr rfl)

/-- **No float is written with an exponent.** -/
theorem not_mem_floatText {c : Char} (hc : c = 'e' ∨ c = 'E') (x : Binary64) :
    c ∉ floatText x := by
  intro hmem
  cases hx : x.isFinite with
  | true =>
      rw [← toText_floatLiteral hx] at hmem
      have hform := mem_toText (isDecimal_floatLiteral x) hmem
      rcases hc with rfl | rfl
      · exact absurd hform (by decide)
      · exact absurd hform (by decide)
  | false =>
      rcases floatText_of_not_isFinite hx with h | h | h
      all_goals
        rw [h] at hmem
        rcases hc with rfl | rfl
        · exact absurd hmem (by decide)
        · exact absurd hmem (by decide)

/-- **Written numbers read back.**  A number in normal form that is finite is read as itself, a
float with the same bits.  Every finite float is written with digits and no exponent, with a point
exactly if it is not whole; one beyond 64 bits is written as an integer that does not fit them
either.  The decimal that is written is rounded to the float, and has the fewest digits of all that
are. -/
theorem text_reads_back :
    (∀ n : Number, n.Normal → n.Finite → ofLiteral? n.text = some n) ∧
    (∀ word : UInt64, (Binary64.ofBits word).isFinite = true →
      Number.Normal (.float (.ofBits word)) →
      ∃ x, ofLiteral? (floatText (.ofBits word)) = some (.float x) ∧ x.toBits = word) ∧
    (∀ x : Binary64, x.isFinite = true → ∃ l : Literal, l.IsDecimal ∧ l.toText = floatText x ∧
      (l.fraction = none ↔ ∃ n : ℤ, x.value = n) ∧
      (2 ^ 63 ≤ |x.value| → l.fraction = none ∧ int64? l.integer = none)) ∧
    (∀ x : Binary64, x.isFinite = true → x.isZero = false → ∃ d : Decimal,
      floatText x = (if x.negative then ['-'] else []) ++ d.positional ∧
      Rounds x.negative (signed x.negative d.value) x ∧
      ∀ d' : Decimal, Rounds x.negative (signed x.negative d'.value) x →
        (Decimal.digits d.coefficient).length ≤ (Decimal.digits d'.coefficient).length) ∧
    ∀ x : Binary64, 'e' ∉ floatText x ∧ 'E' ∉ floatText x := by
  refine ⟨fun n => ofLiteral?_text, fun word hx hnormal => ?_, fun x hx => ?_,
    fun x hx hzero => ?_, fun x => ?_⟩
  · exact ⟨_, ofLiteral?_floatText hx hnormal, toBits_ofBits word⟩
  · exact ⟨floatLiteral x, isDecimal_floatLiteral x, toText_floatLiteral hx,
      fraction_floatLiteral_eq_none_iff hx, int64?_integer_floatLiteral⟩
  · exact ⟨_, floatText_eq_positional hx hzero, rounds_decimal hx hzero,
      fun d => fewest_digits hx hzero⟩
  · exact ⟨not_mem_floatText (Or.inl rfl) x, not_mem_floatText (Or.inr rfl) x⟩

/-- The least float beyond 64 bits, 2⁶³, and one tenth. -/
theorem text_reads_back_bound :
    let x := Binary64.ofBits 0x43E0000000000000
    (Number.Normal (.float x) ∧ Number.Finite (.float x) ∧
      text (.float x) = "9223372036854776000".toList ∧
      ofLiteral? (text (.float x)) = some (.float x)) ∧
    ((Binary64.ofBits 0x3FB999999999999A).isFinite = true ∧
      Number.Normal (.float (.ofBits 0x3FB999999999999A)) ∧
      ∃ y, ofLiteral? (floatText (.ofBits 0x3FB999999999999A)) = some (.float y) ∧
        y.toBits = 0x3FB999999999999A) ∧
    (x.isFinite = true ∧ 2 ^ 63 ≤ |x.value| ∧ ∃ l : Literal, l.IsDecimal ∧
      l.toText = floatText x ∧ l.fraction = none ∧ int64? l.integer = none) ∧
    (x.isZero = false ∧
      Rounds x.negative (signed x.negative (⟨9223372036854775808, 0⟩ : Decimal).value) x ∧
      ∃ d : Decimal, floatText x = (if x.negative then ['-'] else []) ++ d.positional ∧
        (Decimal.digits d.coefficient).length ≤ 19) := by
  intro x
  have hfinite : x.isFinite = true := by decide +kernel
  have hzero : x.isZero = false := by decide +kernel
  have hnormal : Number.Normal (.float x) := show ofBinary64 x = .float x by decide +kernel
  have htext : text (.float x) = "9223372036854776000".toList := by decide +kernel
  have hmagnitude : Binary64.magnitude x.rank = 2 ^ 63 := by
    have hrank : x.rank.val = Decimal.rankOfBound := by decide +kernel
    rw [hrank, Decimal.magnitude_rankOfBound]
  have hlarge : 2 ^ 63 ≤ |x.value| := by rw [abs_value, hmagnitude]
  have hexact : (⟨9223372036854775808, 0⟩ : Decimal).value = Binary64.magnitude x.rank := by
    rw [hmagnitude, Decimal.value]
    norm_num
  have hrounds : Rounds x.negative
      (signed x.negative (⟨9223372036854775808, 0⟩ : Decimal).value) x :=
    (rounds_iff_between hfinite (rank_pos hzero) (Decimal.value_nonneg _)).mpr
      (hexact ▸ between_magnitude (rank_pos hzero))
  have htenth : (Binary64.ofBits 0x3FB999999999999A).isFinite = true := by decide +kernel
  have hkept : Number.Normal (.float (.ofBits 0x3FB999999999999A)) :=
    show ofBinary64 _ = .float _ by decide +kernel
  obtain ⟨hread, hbits, hform, hshortest, -⟩ := text_reads_back
  obtain ⟨l, hdecimal, hl, -, hbeyond⟩ := hform x hfinite
  obtain ⟨d, hd, -, hfewest⟩ := hshortest x hfinite hzero
  exact ⟨⟨hnormal, hfinite, htext, hread (.float x) hnormal hfinite⟩,
    ⟨htenth, hkept, hbits _ htenth hkept⟩,
    ⟨hfinite, hlarge, l, hdecimal, hl, hbeyond hlarge⟩, hzero, hrounds, d, hd, hfewest _ hrounds⟩

end Number

end ArrayLiteral
