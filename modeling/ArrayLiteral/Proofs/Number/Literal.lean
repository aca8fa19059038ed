import ArrayLiteral.Proofs.Number.Whole

/-!
# Proofs — Number — Literal

What a number literal denotes, and what it is read as.

* **The form**: a text is read exactly if it is written with digits, and then by the parts that it
  is written with (`ofText?_eq_some_iff`).
* **The value** of the parts is a rational.  Without a point it is the integer of the digits
  (`integer_cast`), and in any case the literal is rounded to the nearest float
  (`rounds_toBinary64`).
* **The number** (`ofLiteral?_spec`) is the integer itself, if there is no point and it has 64 bits,
  and otherwise the rounding, as an integer if it is one of 64 bits, unless it is infinite.
-/

namespace ArrayLiteral.Number

open Binary64

namespace Literal

variable {l : Literal} {t : Text}

/-! ### The form -/

/-- The parts are digits. -/
structure IsDecimal (l : Literal) : Prop where
  whole : isDigits l.whole = true
  fraction : ∀ ds ∈ l.fraction, isDigits ds = true

theorem isDecimal_of_ofText? (h : ofText? t = some l) : l.IsDecimal := by
  rw [ofText?] at h
  dsimp only at h
  split at h
  · split at h
    · rename_i hwhole
      cases h
      exact ⟨hwhole, fun ds hds => by cases hds⟩
    · cases h
  · split at h
    · rename_i hdigits
      rw [Bool.and_eq_true] at hdigits
      cases h
      refine ⟨hdigits.1, fun ds hds => ?_⟩
      cases hds
      exact hdigits.2
    · cases h

theorem ne_point_of_isDigits (h : isDigits t = true) : ∀ c ∈ t, decide (c ≠ '.') = true := by
  intro c hc
  rw [isDigits, Bool.and_eq_true, List.all_eq_true] at h
  refine decide_eq_true fun hpoint => ?_
  rw [hpoint] at hc
  exact absurd (h.2 '.' hc) (by decide)

/-- Digits are taken apart as they are put together. -/
theorem ofText?_toText (h : l.IsDecimal) : ofText? l.toText = some l := by
  obtain ⟨negative, whole, fraction⟩ := l
  obtain ⟨hwhole, hfraction⟩ := h
  dsimp only at hwhole hfraction
  have hpoint := ne_point_of_isDigits hwhole
  have hne : whole ≠ [] := by
    rintro rfl
    cases hwhole
  rw [ofText?, toText]
  dsimp only
  rw [List.append_assoc, unsign_of_head? negative (by
    rw [List.head?_append_of_ne_nil _ hne]
    exact head?_ne_minus_of_isDigits hwhole)]
  dsimp only
  rw [List.takeWhile_append_of_pos hpoint, List.dropWhile_append_of_pos hpoint]
  cases fraction with
  | none => simp [hwhole]
  | some ds => simp [hwhole, hfraction ds rfl]

/-- **A text is read** exactly if it is written with digits. -/
theorem ofText?_eq_some_iff : ofText? t = some l ↔ l.IsDecimal ∧ l.toText = t := by
  constructor
  · exact fun h => ⟨isDecimal_of_ofText? h, toText_of_ofText? h⟩
  · rintro ⟨hl, rfl⟩
    exact ofText?_toText hl

/-- A literal has digits, and at most a minus sign and a point. -/
theorem mem_toText (h : l.IsDecimal) {c : Char} (hc : c ∈ l.toText) :
    c.isDigit = true ∨ c = '-' ∨ c = '.' := by
  have hdigit : ∀ {ds : Text}, isDigits ds = true → c ∈ ds → c.isDigit = true := fun hds hmem => by
    rw [isDigits, Bool.and_eq_true, List.all_eq_true] at hds
    exact hds.2 c hmem
  rw [toText] at hc
  rcases List.mem_append.mp hc with hc | hc
  · rcases List.mem_append.mp hc with hc | hc
    · split at hc
      · exact Or.inr (Or.inl (List.mem_singleton.mp hc))
      · exact absurd hc List.not_mem_nil
    · exact Or.inl (hdigit h.whole hc)
  · split at hc
    · exact absurd hc List.not_mem_nil
    · rename_i ds hds
      rcases List.mem_cons.mp hc with rfl | hc
      · exact Or.inr (Or.inr rfl)
      · exact Or.inl (hdigit (h.fraction ds hds) hc)

/-! ### The value -/

/-- The value of digits behind a point. -/
def fractionValue (ds : Text) : ℚ := Decimal.digitsValue ds / 10 ^ ds.length

/-- The rational that a literal denotes. -/
def value (l : Literal) : ℚ :=
  signed l.negative (Decimal.digitsValue l.whole + (l.fraction.map fractionValue).getD 0)

theorem digitsValue_append (ds es : Text) :
    Decimal.digitsValue (ds ++ es) =
      Decimal.digitsValue ds * 10 ^ es.length + Decimal.digitsValue es := by
  rw [Decimal.digitsValue, Nat.ofDigitChars_append, Nat.ofDigitChars_eq_ofDigitChars_zero,
    Nat.mul_comm]
  rfl

theorem integer_cast (h : l.fraction = none) : (l.integer : ℚ) = l.value := by
  rw [integer, value, h, Option.map_none, Option.getD_none, add_zero, signed_natCast]

/-- The value is the quotient of all digits and the power of ten behind the point. -/
theorem value_eq_ratio (l : Literal) :
    l.value = signed l.negative (Decimal.digitsValue (l.whole ++ l.fraction.getD []) /
      10 ^ (l.fraction.getD []).length) := by
  rw [value]
  cases l.fraction with
  | none => simp
  | some ds =>
      rw [Option.map_some, Option.getD_some, Option.getD_some, digitsValue_append, fractionValue]
      push_cast
      field_simp

/-- **A literal is rounded** to the nearest float. -/
theorem rounds_toBinary64 (l : Literal) : Rounds l.negative l.value l.toBinary64 := by
  have hpow : 0 < Nat.pow 10 (l.fraction.getD []).length := Nat.pow_pos (by decide)
  have hratio :=
    rounds_ofRatio l.negative (Decimal.digitsValue (l.whole ++ l.fraction.getD [])) hpow
  rw [Nat.pow_eq, Nat.cast_pow, Nat.cast_ofNat, ← value_eq_ratio] at hratio
  exact hratio

/-! ### The number -/

/-- There is no point, and the value has 64 bits. -/
def IsInteger (l : Literal) : Prop := l.fraction = none ∧ -2 ^ 63 ≤ l.value ∧ l.value ≤ 2 ^ 63 - 1

theorem isInteger_iff :
    l.IsInteger ↔ l.fraction = none ∧ ∃ i : Int64, int64? l.integer = some i := by
  refine and_congr_right fun hpoint => ?_
  rw [← integer_cast hpoint]
  constructor
  · rintro ⟨hlow, hhigh⟩
    have hlow : -2 ^ 63 ≤ l.integer := by exact_mod_cast hlow
    have hhigh : l.integer ≤ 2 ^ 63 - 1 := by exact_mod_cast hhigh
    exact ⟨_, if_pos ⟨hlow, hhigh⟩⟩
  · rintro ⟨i, hi⟩
    rw [← int64?_eq_some_iff.mp hi]
    have hhigh := Int.le_sub_one_of_lt i.toInt_lt
    exact ⟨by exact_mod_cast i.le_toInt, by exact_mod_cast hhigh⟩

/-- **An integer of 64 bits** is read exactly. -/
theorem number?_of_isInteger (h : l.IsInteger) :
    ∃ i : Int64, l.number? = some (.integer i) ∧ l.value = i.toInt := by
  obtain ⟨hpoint, i, hi⟩ := isInteger_iff.mp h
  refine ⟨i, ?_, ?_⟩
  · rw [number?, hpoint, hi]
  · rw [← integer_cast hpoint, int64?_eq_some_iff.mp hi]

/-- **Any other literal** is read as its rounding. -/
theorem number?_of_not_isInteger (h : ¬l.IsInteger) : l.number? = l.rounded? := by
  rw [number?]
  split
  · rename_i i hpoint hi
    exact absurd (isInteger_iff.mpr ⟨hpoint, i, hi⟩) h
  · rfl

theorem rounded?_eq_none_iff : l.rounded? = none ↔ l.toBinary64.isFinite = false := by
  rw [rounded?]
  cases l.toBinary64.isFinite <;> simp

theorem rounded?_eq_some_iff {n : Number} :
    l.rounded? = some n ↔ l.toBinary64.isFinite = true ∧ ofBinary64 l.toBinary64 = n := by
  rw [rounded?]
  cases l.toBinary64.isFinite <;> simp

end Literal

open Literal

theorem ofLiteral?_toText {l : Literal} (h : l.IsDecimal) : ofLiteral? l.toText = l.number? := by
  rw [ofLiteral?, ofText?_toText h, Option.bind_some]

/-- **Number literals.**  A text that is not written with digits is no number.  A literal without a
point whose value is an integer of 64 bits is that integer.  Any other is the float `r` that its
value is rounded to, and only that one: no number if `r` is infinite, an integer if that is the
value of `r`, and else `r` itself. -/
theorem ofLiteral?_spec (t : Text) :
    ((¬∃ l : Literal, l.IsDecimal ∧ l.toText = t) → ofLiteral? t = none) ∧
    ∀ l : Literal, l.IsDecimal → l.toText = t →
      (l.IsInteger → ∃ i : Int64, ofLiteral? t = some (.integer i) ∧ l.value = i.toInt) ∧
      (¬l.IsInteger → ∃ r, (∀ x, Rounds l.negative l.value x ↔ x = r) ∧
        (ofLiteral? t = none ↔ r.isFinite = false) ∧
        (∀ i : Int64, ofLiteral? t = some (.integer i) ↔ r.isFinite = true ∧ r.value = i.toInt) ∧
        ∀ x, ofLiteral? t = some (.float x) ↔
          x = r ∧ r.isFinite = true ∧ ∀ i : Int64, r.value ≠ i.toInt) := by
  constructor
  · intro hform
    have hnone : ofText? t = none := Option.eq_none_iff_forall_ne_some.mpr fun l hl =>
      hform ⟨l, ofText?_eq_some_iff.mp hl⟩
    rw [ofLiteral?, hnone, Option.bind_none]
  · rintro l hl rfl
    rw [ofLiteral?_toText hl]
    refine ⟨number?_of_isInteger, fun hinteger => ?_⟩
    rw [number?_of_not_isInteger hinteger]
    have hrounds := rounds_toBinary64 l
    refine ⟨l.toBinary64, fun x => ⟨fun hx => hx.unique hrounds, ?_⟩, rounded?_eq_none_iff,
      fun i => ?_, fun x => ?_⟩
    · rintro rfl
      exact hrounds
    · rw [rounded?_eq_some_iff, ofBinary64_eq_integer_iff, ← and_assoc, and_self]
    · rw [rounded?_eq_some_iff, ofBinary64_eq_float_iff]
      constructor
      · rintro ⟨hfinite, rfl, hno⟩
        exact ⟨rfl, hfinite, fun i hi => hno i ⟨hfinite, hi⟩⟩
      · rintro ⟨rfl, hfinite, hno⟩
        exact ⟨hfinite, rfl, fun i hi => hno i hi.2⟩

/-- An exponent is no digit.  With leading zeros the least integer of 64 bits is read exactly, and
the one below it is rounded to it. -/
theorem ofLiteral?_spec_least :
    ((¬∃ l : Literal, l.IsDecimal ∧ l.toText = "1e3".toList) ∧
        ofLiteral? "1e3".toList = none) ∧
      (∃ l : Literal, l.IsDecimal ∧ l.toText = "-009223372036854775808".toList ∧ l.IsInteger ∧
        ∃ i : Int64, ofLiteral? "-009223372036854775808".toList = some (.integer i) ∧
          l.value = i.toInt) ∧
      ∃ l : Literal, l.IsDecimal ∧ l.toText = "-9223372036854775809".toList ∧ ¬l.IsInteger ∧
        ∃ r, (∀ x, Rounds l.negative l.value x ↔ x = r) ∧
          ofLiteral? "-9223372036854775809".toList = some (.integer Int64.minValue) ∧
          r.isFinite = true ∧ r.value = Int64.minValue.toInt := by
  have hform : ¬∃ l : Literal, l.IsDecimal ∧ l.toText = "1e3".toList := by
    rintro ⟨l, hl⟩
    have h : ofText? "1e3".toList = some l := ofText?_eq_some_iff.mpr hl
    cases h
  have hdecimal : ∀ {t l}, ofText? t = some l → l.IsDecimal := isDecimal_of_ofText?
  have hleast : ofText? "-009223372036854775808".toList =
      some ⟨true, "009223372036854775808".toList, none⟩ := by decide +kernel
  have hbelow : ofText? "-9223372036854775809".toList =
      some ⟨true, "9223372036854775809".toList, none⟩ := by decide +kernel
  have hinteger : IsInteger ⟨true, "009223372036854775808".toList, none⟩ :=
    isInteger_iff.mpr ⟨rfl, Int64.minValue, by decide +kernel⟩
  have hnot : ¬IsInteger ⟨true, "9223372036854775809".toList, none⟩ := fun h => by
    obtain ⟨-, i, hi⟩ := isInteger_iff.mp h
    have hnone : int64? (Literal.integer ⟨true, "9223372036854775809".toList, none⟩) = none := by
      decide +kernel
    rw [hnone] at hi
    cases hi
  have hread : ofLiteral? "-9223372036854775809".toList = some (.integer Int64.minValue) := by
    decide +kernel
  obtain ⟨r, hr, -, hint, -⟩ := ((ofLiteral?_spec "-9223372036854775809".toList).2 _
    (hdecimal hbelow) (toText_of_ofText? hbelow)).2 hnot
  exact ⟨⟨hform, (ofLiteral?_spec _).1 hform⟩,
    ⟨_, hdecimal hleast, toText_of_ofText? hleast, hinteger,
      ((ofLiteral?_spec _).2 _ (hdecimal hleast) (toText_of_ofText? hleast)).1 hinteger⟩,
    _, hdecimal hbelow, toText_of_ofText? hbelow, hnot, r, hr, hread, (hint _).mp hread⟩

end ArrayLiteral.Number
