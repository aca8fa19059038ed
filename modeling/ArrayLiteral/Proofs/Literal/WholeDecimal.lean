import ArrayLiteral.Proofs.Literal.Scalar
import ArrayLiteral.Proofs.Number.Literal

/-!
# Proofs — Literal — WholeDecimal

An integer that is written with a point and zeros behind it.  It is read by way of binary64, as the
rounding of the integer (`ofLiteral?_wholeDecimal`).  So it is the same number, the same value and
the same key as without the point exactly if the integer has no more than 53 bits but for zeros at
its end (`wholeDecimal_alike_iff`); the least one that is not is 2⁵³ + 1 (`not_wholeDecimal_alike`).
-/

namespace ArrayLiteral

open Binary64

/-- An integer with a point and so many zeros behind it. -/
def wholeDecimal (i : ℤ) (places : Nat) : Text :=
  Decimal.integerText i ++ '.' :: Decimal.zeros places

namespace Number

open Literal

/-! ### The number -/

/-- **An integer with zeros behind the point** is read as its rounding. -/
theorem ofLiteral?_wholeDecimal {i : ℤ} (hi : i.natAbs ≤ 2 ^ 64) {places : Nat}
    (hplaces : 0 < places) :
    ofLiteral? (wholeDecimal i places) = some (ofBinary64 (.ofInt i)) := by
  let l : Literal := ⟨decide (i < 0), Decimal.digits i.natAbs, some (Decimal.zeros places)⟩
  have hl : l.IsDecimal := by
    refine ⟨isDigits_digits _, fun ds hds => ?_⟩
    cases hds
    exact isDigits_zeros hplaces
  have htext : l.toText = wholeDecimal i places := by
    rw [toText, wholeDecimal, Decimal.integerText]
    by_cases hneg : i < 0 <;> simp [l, hneg]
  have hvalue : l.value = i := by
    rw [Literal.value, Option.map_some, Option.getD_some, fractionValue, digitsValue_zeros,
      Nat.cast_zero, zero_div, add_zero, Decimal.digitsValue_digits]
    exact signed_natAbs i
  have hfloat : l.toBinary64 = .ofInt i := by
    have h := rounds_toBinary64 l
    rw [hvalue] at h
    exact h.unique (rounds_ofInt i)
  have hpoint : ¬l.IsInteger := fun h => Option.some_ne_none _ h.1
  rw [← htext, ofLiteral?_toText hl, number?_of_not_isInteger hpoint, rounded?_eq_some_iff, hfloat]
  exact ⟨isFinite_ofInt hi, rfl⟩

theorem natAbs_toInt_le (i : Int64) : i.toInt.natAbs ≤ 2 ^ 64 := by
  have hlow := i.le_toInt
  have hhigh := i.toInt_lt
  omega

/-- The rounding of an integer is that integer exactly if nothing is lost. -/
theorem ofBinary64_ofInt_eq_integer_iff (i : Int64) :
    ofBinary64 (.ofInt i.toInt) = .integer i ↔ Exact i.toInt := by
  rw [ofBinary64_eq_integer_iff, and_iff_right (isFinite_ofInt (natAbs_toInt_le i)),
    value_ofInt_eq_iff (natAbs_toInt_le i)]

/-! ### The text -/

/-- The bound of the integers of 64 bits, as a float. -/
def bound : Binary64 := .ofInt (2 ^ 63)

theorem value_power {i : ℤ} {e : Nat} (he : e ≤ 64) (hi : i.natAbs = 2 ^ e) :
    (Binary64.ofInt i).value = i :=
  (value_ofInt_eq_iff (hi ▸ Nat.pow_le_pow_right (by decide) he)).mpr
    ⟨1, e, by decide, by rw [hi, Nat.one_mul]⟩

/-- The rounding of an integer of 64 bits is one again, or else it is the bound. -/
theorem ofBinary64_ofInt_cases (i : Int64) :
    (∃ j : Int64, ofBinary64 (.ofInt i.toInt) = .integer j) ∨ Binary64.ofInt i.toInt = bound := by
  have hi := natAbs_toInt_le i
  have hfinite := isFinite_ofInt hi
  have hrounds := rounds_ofInt i.toInt
  have hbound : bound.value = (2 ^ 63 : ℤ) := value_power (e := 63) (by decide) (by decide)
  have hboundFinite : bound.isFinite = true := isFinite_ofInt (by decide)
  have hleast : (Binary64.ofInt (-2 ^ 63)).value = (-2 ^ 63 : ℤ) :=
    value_power (e := 63) (by decide) (by decide)
  have hleastFinite : (Binary64.ofInt (-2 ^ 63)).isFinite = true := isFinite_ofInt (by decide)
  obtain ⟨n, hn⟩ := hrounds.exists_int_value hfinite
  have hlow : -2 ^ 63 ≤ n := by
    have h := hrounds.le_value hfinite hleastFinite (hleast ▸ Int.cast_le.mpr i.le_toInt)
    rwa [hleast, hn, Int.cast_le] at h
  have hhigh : n ≤ 2 ^ 63 := by
    have h := hrounds.value_le hfinite hboundFinite (hbound ▸ Int.cast_le.mpr i.toInt_lt.le)
    rwa [hbound, hn, Int.cast_le] at h
  rcases Int.lt_or_eq_of_le hhigh with hlt | rfl
  · left
    refine ⟨Int64.ofInt n, ofBinary64_eq_integer_iff.mpr ⟨hfinite, ?_⟩⟩
    rw [hn, Int64.toInt_ofInt_of_le hlow hlt]
  · right
    have hpos : (0 : ℚ) < (2 ^ 63 : ℤ) := Int.cast_pos.mpr (by decide)
    have hsign : (Binary64.ofInt i.toInt).negative = bound.negative := by
      rw [negative_of_value_pos (hn ▸ hpos), negative_of_value_pos (hbound ▸ hpos)]
    exact eq_of_value_eq hsign (hn.trans hbound.symm)

/-- The bound is not written like an integer of 64 bits. -/
theorem floatText_bound_ne (i : Int64) : floatText bound ≠ Decimal.integerText i.toInt := by
  intro h
  have hread : ofLiteral? (floatText bound) = some (.float bound) := by decide +kernel
  have hinteger : ofLiteral? (Decimal.integerText i.toInt) = some (.integer i) :=
    ofLiteral?_text_integer i
  rw [h, hinteger] at hread
  cases hread

/-- **The text tells** whether something is lost. -/
theorem text_ofBinary64_ofInt_iff (i : Int64) :
    (ofBinary64 (.ofInt i.toInt)).text = (integer i).text ↔
      ofBinary64 (.ofInt i.toInt) = .integer i := by
  refine ⟨fun h => ?_, congrArg text⟩
  rcases ofBinary64_ofInt_cases i with ⟨j, hj⟩ | hbound
  · rw [hj] at h ⊢
    have hread := ofLiteral?_text_integer j
    rw [h, ofLiteral?_text_integer i] at hread
    exact (Option.some.inj hread).symm
  · have hkept : ofBinary64 bound = .float bound := by decide +kernel
    rw [hbound, hkept] at h
    exact absurd h (floatText_bound_ne i)

end Number

namespace Value

/-! ### Values and keys -/

/-- A literal begins with a minus sign or a digit. -/
theorem head?_toText_ne {l : Number.Literal} (hl : l.IsDecimal) {c : Char} (hminus : c ≠ '-')
    (hdigit : c.isDigit = false) : l.toText.head? ≠ some c := by
  obtain ⟨negative, whole, fraction⟩ := l
  have hwhole : Number.Literal.isDigits whole = true := hl.whole
  cases whole with
  | nil => cases hwhole
  | cons d ds =>
      rw [Number.Literal.isDigits, Bool.and_eq_true, List.all_eq_true] at hwhole
      have hd := hwhole.2 d List.mem_cons_self
      cases negative with
      | true => exact fun h => hminus (Option.some.inj h).symm
      | false =>
          intro h
          obtain rfl : d = c := Option.some.inj h
          rw [hdigit] at hd
          cases hd

/-- **A literal is read as its number**, as a value and as a key. -/
theorem read_of_ofLiteral? {t : Text} {n : Number} (h : Number.ofLiteral? t = some n) :
    (∀ mode levels, read mode levels t = .number n) ∧ readKey t = n.text := by
  obtain ⟨l, hl, -⟩ := Option.bind_eq_some_iff.mp h
  obtain ⟨hdecimal, rfl⟩ := Number.Literal.ofText?_eq_some_iff.mp hl
  have hhead : ∀ c, c ≠ '-' → c.isDigit = false → l.toText.head? ≠ some c := fun c =>
    head?_toText_ne hdecimal
  have hbracketed := Text.isBracketed_eq_false (hhead '[' (by decide) (by decide))
  have hscalar : readScalar l.toText = .number n := by
    rw [readScalar, Text.unquote?_eq_none (hhead '\'' (by decide) (by decide)),
      Text.unquote?_eq_none (hhead '"' (by decide) (by decide)), Option.none_or, h]
  constructor
  · intro mode levels
    rw [read_of_not_bracketed hbracketed, hscalar]
  · rw [readKey, if_neg (by simp [hbracketed]), hscalar, toKey]

/-- **An integer with zeros behind the point** is read as its rounding.  It is the same number as
the integer, the same value at every depth and the same key exactly if the integer is exact. -/
theorem wholeDecimal_alike_iff (i : Int64) {places : Nat} (h : 0 < places) :
    Number.ofLiteral? (Decimal.integerText i.toInt) = some (.integer i) ∧
    Number.ofLiteral? (wholeDecimal i.toInt places) = some (.ofBinary64 (.ofInt i.toInt)) ∧
    (Number.ofLiteral? (wholeDecimal i.toInt places) =
      Number.ofLiteral? (Decimal.integerText i.toInt) ↔ Exact i.toInt) ∧
    (∀ mode levels, read mode levels (wholeDecimal i.toInt places) =
      read mode levels (Decimal.integerText i.toInt) ↔ Exact i.toInt) ∧
    (readKey (wholeDecimal i.toInt places) =
      readKey (Decimal.integerText i.toInt) ↔ Exact i.toInt) := by
  have hinteger : Number.ofLiteral? (Decimal.integerText i.toInt) = some (.integer i) :=
    Number.ofLiteral?_text_integer i
  have hdecimal := Number.ofLiteral?_wholeDecimal (Number.natAbs_toInt_le i) h
  obtain ⟨hread, hkey⟩ := read_of_ofLiteral? hinteger
  obtain ⟨hread', hkey'⟩ := read_of_ofLiteral? hdecimal
  have hexact := Number.ofBinary64_ofInt_eq_integer_iff i
  refine ⟨hinteger, hdecimal, ?_, fun mode levels => ?_, ?_⟩
  · rw [hinteger, hdecimal, Option.some.injEq, hexact]
  · rw [hread, hread', number.injEq, hexact]
  · rw [hkey, hkey', Number.text_ofBinary64_ofInt_iff, hexact]

/-- 2⁵³ has one bit, and zeros behind it. -/
theorem wholeDecimal_alike_iff_exact :
    0 < 3 ∧ Exact (9007199254740992 : Int64).toInt ∧
      readKey (wholeDecimal (9007199254740992 : Int64).toInt 3) =
        readKey (Decimal.integerText (9007199254740992 : Int64).toInt) := by
  have hplaces : 0 < 3 := by decide
  have hexact : Exact (9007199254740992 : Int64).toInt := ⟨1, 53, by decide, by decide⟩
  obtain ⟨-, -, -, -, hkey⟩ := wholeDecimal_alike_iff 9007199254740992 hplaces
  exact ⟨hplaces, hexact, hkey.mpr hexact⟩

/-- 2⁵³ + 1 is not exact: with a zero behind the point it is read as 2⁵³. -/
theorem not_wholeDecimal_alike :
    ¬∀ (i : Int64) (places : Nat), 0 < places →
      Number.ofLiteral? (wholeDecimal i.toInt places) =
        Number.ofLiteral? (Decimal.integerText i.toInt) := by
  intro h
  have hread : Number.ofLiteral? (wholeDecimal (9007199254740993 : Int64).toInt 1) ≠
      Number.ofLiteral? (Decimal.integerText (9007199254740993 : Int64).toInt) := by decide +kernel
  exact hread (h 9007199254740993 1 (by decide))

end Value

end ArrayLiteral
