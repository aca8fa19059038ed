import ArrayLiteral.Json.Token
import ArrayLiteral.Json.Writer
import ArrayLiteral.Proofs.Number.Decimal
import ArrayLiteral.Proofs.Number.Text

/-!
# Proofs — Json — Numeral

How a number is written as JSON, and what its text is read as.

* **Before the point** stands no needless zero (`isWhole_of_prefix_digits`,
  `isWhole_digits_append`).
* **The form**: a sign, digits, and optionally a fraction and an exponent are taken apart again
  (`ofText?_parts`).  The text of a finite float has a fraction or an exponent
  (`ofText?_floatText`), so it is never taken for an integer.
* **The number**: an integer is read as itself (`readNumber?_integerText`).  A float is read as what
  is computed from its text, and `ReadsBack` says that this is the float again.

Together, a number is written as one word (`isWordChar_of_mem_numberText`), whose token is `reread`
(`ofWord?_numberText`).
-/

namespace ArrayLiteral.Json

open Decimal

namespace Numeral

/-! ### Before the point -/

theorem isWhole_cons {d : Char} (h : d ≠ '0') (ds : Text) : isWhole (d :: ds) = true := by
  cases ds <;> simp [isWhole, h]

theorem isWhole_of_head? {w : Text} (hne : w ≠ []) (h : w.head? ≠ some '0') :
    isWhole w = true := by
  obtain ⟨d, ds, rfl⟩ := List.exists_cons_of_ne_nil hne
  exact isWhole_cons (by simpa using h) ds

theorem isWhole_of_prefix_digits {w : Text} {n : Nat} (hne : w ≠ []) (h : w <+: digits n) :
    isWhole w = true := by
  rcases Nat.eq_zero_or_pos n with rfl | hn
  · -- the one digit of zero
    rcases List.prefix_cons_iff.mp h with rfl | ⟨u, rfl, hu⟩
    · exact absurd rfl hne
    · rw [List.prefix_nil.mp hu]
      rfl
  · refine isWhole_of_head? hne ?_
    obtain ⟨t, ht⟩ := h
    rw [← List.head?_append_of_ne_nil w hne, ht]
    exact head?_digits hn

theorem isWhole_digits (n : Nat) : isWhole (digits n) = true :=
  isWhole_of_prefix_digits (digits_ne_nil n) List.prefix_rfl

theorem isWhole_digits_append {n : Nat} (hn : 0 < n) (t : Text) :
    isWhole (digits n ++ t) = true := by
  refine isWhole_of_head? (List.append_ne_nil_of_left_ne_nil (digits_ne_nil n) t) ?_
  rw [List.head?_append_of_ne_nil _ (digits_ne_nil n)]
  exact head?_digits hn

/-! ### The form -/

/-- Digits end where something else begins. -/
theorem span_digits {ds rest : Text} (hds : ∀ c ∈ ds, c.isDigit = true)
    (hrest : ∀ c ∈ rest.head?, c.isDigit = false) :
    (ds ++ rest).takeWhile Char.isDigit = ds ∧ (ds ++ rest).dropWhile Char.isDigit = rest := by
  rw [List.takeWhile_append_of_pos hds, List.dropWhile_append_of_pos hds]
  cases rest with
  | nil => simp
  | cons c rest =>
      have hc : c.isDigit = false := hrest c rfl
      simp [hc]

/-- An exponent begins with its letter. -/
theorem head?_of_exponent? {t : Text} {e : Option Int} (h : exponent? t = some e) :
    ∀ c ∈ t.head?, c = 'e' ∨ c = 'E' := by
  intro c hc
  cases t with
  | nil => cases hc
  | cons d rest =>
      obtain rfl : d = c := by simpa using hc
      by_contra hne
      simp [exponent?, hne] at h

theorem ne_of_exponent? {t : Text} {e : Option Int} (h : exponent? t = some e) :
    ∀ c ∈ t.head?, c.isDigit = false ∧ c ≠ '.' := by
  intro c hc
  rcases head?_of_exponent? h c hc with rfl | rfl <;> decide

theorem exponent?_nil : exponent? [] = some none := rfl

theorem exponent?_plus (n : Nat) : exponent? ('e' :: '+' :: digits n) = some (some (n : Int)) := by
  simp [exponent?, Number.isDigits_digits, digitsValue_digits]

theorem exponent?_minus (n : Nat) :
    exponent? ('e' :: '-' :: digits n) = some (some (-n : Int)) := by
  simp [exponent?, Number.isDigits_digits, digitsValue_digits]

/-- A fraction as it is written. -/
def fractionText : Option Text → Text
  | none => []
  | some ds => '.' :: ds

theorem fraction?_fractionText {fraction : Option Text}
    (hfraction : ∀ ds ∈ fraction, ds ≠ [] ∧ ∀ c ∈ ds, c.isDigit = true) {rest : Text}
    (hrest : ∀ c ∈ rest.head?, c.isDigit = false ∧ c ≠ '.') :
    fraction? (fractionText fraction ++ rest) = some (fraction, rest) := by
  cases fraction with
  | none =>
      rw [fractionText, List.nil_append]
      unfold fraction?
      split
      · exact absurd rfl (hrest '.' rfl).2
      · rfl
  | some ds =>
      obtain ⟨hne, hds⟩ := hfraction ds rfl
      obtain ⟨htake, hdrop⟩ := span_digits hds fun c hc => (hrest c hc).1
      obtain ⟨d, ds, rfl⟩ := List.exists_cons_of_ne_nil hne
      rw [fractionText, List.cons_append, fraction?, htake, hdrop]

/-- A number with its sign. -/
def signed (negative : Bool) (t : Text) : Text := if negative then '-' :: t else t

theorem unsign_signed (negative : Bool) {t : Text} (h : t.head? ≠ some '-') :
    Number.Literal.unsign (signed negative t) = (negative, t) := by
  have hsigned : signed negative t = (if negative then ['-'] else []) ++ t := by
    cases negative <;> rfl
  rw [hsigned, Number.unsign_of_head? negative h]

/-- **The parts of a number** are found again: a sign, digits, and what may follow them. -/
theorem ofText?_parts (negative : Bool) (fraction : Option Text) {whole : Text}
    (hwhole : isWhole whole = true) (hdigits : ∀ c ∈ whole, c.isDigit = true)
    (hfraction : ∀ ds ∈ fraction, ds ≠ [] ∧ ∀ c ∈ ds, c.isDigit = true) {rest : Text}
    {exponent : Option Int} (hexponent : exponent? rest = some exponent) :
    ofText? (signed negative (whole ++ (fractionText fraction ++ rest))) =
      some ⟨negative, whole, fraction, exponent⟩ := by
  -- each part begins with a character that the part before it cannot take
  have hrest := ne_of_exponent? hexponent
  have hafter : ∀ c ∈ (fractionText fraction ++ rest).head?, c.isDigit = false := by
    cases fraction with
    | none => exact fun c hc => (hrest c hc).1
    | some ds => simp [fractionText]
  have hsign : (whole ++ (fractionText fraction ++ rest)).head? ≠ some '-' := by
    cases whole with
    | nil => cases hwhole
    | cons d ds =>
        have hd : d.isDigit = true := hdigits d List.mem_cons_self
        intro h
        obtain rfl : d = '-' := by simpa using h
        cases hd
  obtain ⟨htake, hdrop⟩ := span_digits hdigits hafter
  rw [ofText?, unsign_signed negative hsign]
  dsimp only
  rw [htake, hdrop, if_pos hwhole, fraction?_fractionText hfraction hrest]
  simp [hexponent]

/-- Digits, with a sign or without. -/
theorem ofText?_integerText (i : Int) :
    ofText? (integerText i) = some ⟨decide (i < 0), digits i.natAbs, none, none⟩ := by
  have htext : integerText i =
      signed (decide (i < 0)) (digits i.natAbs ++ (fractionText none ++ [])) := by
    simp [integerText, signed, fractionText]
  rw [htext]
  exact ofText?_parts _ none (isWhole_digits _) (fun _ => isDigit_of_mem_digits) nofun rfl

/-! ### The form of a float -/

/-- With either sign, the text has the form of a number with a fraction or an exponent. -/
def FloatForm (t : Text) : Prop :=
  ∃ whole fraction exponent, (fraction.isSome ∨ exponent.isSome) ∧
    ∀ negative, ofText? (signed negative t) = some ⟨negative, whole, fraction, exponent⟩

theorem floatForm_point {whole ds rest : Text} (hwhole : isWhole whole = true)
    (hdigits : ∀ c ∈ whole, c.isDigit = true) (hne : ds ≠ [])
    (hds : ∀ c ∈ ds, c.isDigit = true) {exponent : Option Int}
    (hexponent : exponent? rest = some exponent) : FloatForm (whole ++ '.' :: (ds ++ rest)) := by
  refine ⟨whole, some ds, exponent, Or.inl rfl, fun negative => ?_⟩
  refine ofText?_parts negative (some ds) hwhole hdigits ?_ hexponent
  rintro _ ⟨⟩
  exact ⟨hne, hds⟩

theorem floatForm_zero : FloatForm ['0', '.', '0'] :=
  floatForm_point (isWhole_digits 0) (fun _ => isDigit_of_mem_digits)
    (List.cons_ne_nil '0' []) (by simp) exponent?_nil

/-- A decimal with digits behind the point. -/
theorem floatForm_positional {x : Decimal} (h : x.exponent < 0) : FloatForm x.positional := by
  have hdigit : ∀ c ∈ digits x.coefficient, c.isDigit = true := fun _ => isDigit_of_mem_digits
  unfold positional
  dsimp only
  rw [if_neg (Int.not_le.mpr h)]
  split
  · rename_i hplaces
    obtain ⟨k, hk⟩ : ∃ k, k = (digits x.coefficient).length - x.exponent.natAbs := ⟨_, rfl⟩
    have hbefore : (digits x.coefficient).take k ≠ [] := by
      simp only [ne_eq, List.take_eq_nil_iff, not_or]
      exact ⟨by omega, digits_ne_nil _⟩
    have hbehind : (digits x.coefficient).drop k ≠ [] := by
      simp only [ne_eq, List.drop_eq_nil_iff]
      omega
    rw [← hk, ← List.append_nil ((digits x.coefficient).drop k)]
    exact floatForm_point (isWhole_of_prefix_digits hbefore (List.take_prefix _ _))
      (fun c hc => hdigit c (List.mem_of_mem_take hc)) hbehind
      (fun c hc => hdigit c (List.mem_of_mem_drop hc)) exponent?_nil
  · have hall : ∀ c ∈ zeros (x.exponent.natAbs - (digits x.coefficient).length) ++
        digits x.coefficient, c.isDigit = true :=
      List.forall_mem_append.mpr ⟨fun _ => isDigit_of_mem_zeros, hdigit⟩
    have hform := floatForm_point (isWhole_digits 0) (fun _ => isDigit_of_mem_digits)
      (List.append_ne_nil_of_right_ne_nil _ (digits_ne_nil _)) hall exponent?_nil
    simpa [digits] using hform

/-- A whole decimal with a zero behind the point. -/
theorem floatForm_positional_point {x : Decimal} (h : 0 ≤ x.exponent) (hx : 0 < x.coefficient) :
    FloatForm (x.positional ++ ['.', '0']) := by
  have hdigit : ∀ c ∈ digits x.coefficient ++ zeros x.exponent.toNat, c.isDigit = true :=
    List.forall_mem_append.mpr ⟨fun _ => isDigit_of_mem_digits, fun _ => isDigit_of_mem_zeros⟩
  unfold positional
  dsimp only
  rw [if_pos h]
  exact floatForm_point (isWhole_digits_append hx _) hdigit (List.cons_ne_nil '0' [])
    (by simp) exponent?_nil

/-- A decimal with an exponent. -/
theorem floatForm_scientific (x : Decimal) : FloatForm x.scientific := by
  have hdigit : ∀ c ∈ digits x.coefficient, c.isDigit = true := fun _ => isDigit_of_mem_digits
  obtain ⟨text, e, htext, hexponent⟩ : ∃ text e, text =
      (if 0 ≤ x.magnitude then '+' :: digits x.magnitude.toNat else integerText x.magnitude) ∧
        exponent? ('e' :: text) = some (some e) := by
    by_cases h : 0 ≤ x.magnitude
    · exact ⟨_, _, (if_pos h).symm, exponent?_plus _⟩
    · rw [if_neg h, integerText, if_pos (Int.not_le.mp h)]
      exact ⟨_, _, rfl, exponent?_minus _⟩
  unfold scientific
  dsimp only
  rw [← htext]
  cases hds : digits x.coefficient with
  | nil => exact absurd hds (digits_ne_nil _)
  | cons d ds =>
      rw [hds] at hdigit
      have hprefix : [d] <+: digits x.coefficient := ⟨ds, hds.symm⟩
      have hwhole : isWhole [d] = true := isWhole_of_prefix_digits (List.cons_ne_nil d []) hprefix
      have hd : ∀ c ∈ [d], c.isDigit = true := by simpa using hdigit d List.mem_cons_self
      cases ds with
      | nil =>
          refine ⟨[d], none, some e, Or.inr rfl, fun negative => ?_⟩
          exact ofText?_parts negative none hwhole hd nofun hexponent
      | cons d' ds =>
          exact floatForm_point hwhole hd (List.cons_ne_nil d' ds)
            (fun c hc => hdigit c (List.mem_cons_of_mem d hc)) hexponent

end Numeral

/-! ### What is read -/

/-- What is computed from the text of a float is that float.  The text says which float is meant,
but reading it rounds more than once. -/
def ReadsBack : Number → Prop
  | .integer _ => True
  | .float x => ∀ l, Numeral.ofText? (floatText x) = some l → l.float? = some x

instance : ∀ n : Number, Decidable (ReadsBack n)
  | .integer _ => .isTrue trivial
  | .float x => decidable_of_iff
      ((Numeral.ofText? (floatText x)).all (fun l => l.float? == some x) = true)
      (by simp [ReadsBack, Option.all_eq_true])

/-- What the text of a number is read as. -/
def reread : Number → Value
  | .integer i => .number (.integer i)
  | .float x => if x.isFinite then .ofBinary64 x else .null

/-- **An integer is read as itself**, the least and the greatest one too. -/
theorem readNumber?_integerText (i : Int64) :
    readNumber? (integerText i.toInt) = some (.integer i) := by
  have hmin := i.minValue_le_toInt
  have hmax := i.toInt_le
  have hi : Number.int64? i.toInt = some i := Number.int64?_toInt i
  have hsize : i.toInt.natAbs < UInt64.size := by
    rw [Int64.toInt_minValue] at hmin
    rw [Int64.toInt_maxValue] at hmax
    rw [UInt64.size]
    omega
  rw [readNumber?, Numeral.ofText?_integerText, Option.bind_some, Numeral.number?]
  dsimp only
  rw [digitsValue_digits, if_pos hsize, Numeral.integer]
  by_cases hneg : i.toInt < 0
  · have habs : (-(i.toInt.natAbs : Int)) = i.toInt := by omega
    simp only [hneg, decide_true, if_true, habs, hi]
  · have habs : (i.toInt.natAbs : Int) = i.toInt := by omega
    simp only [hneg, decide_false, Bool.false_eq_true, if_false, Number.ofNat, habs, hi]

/-- The text of a finite float without its sign. -/
def magnitudeText (x : Binary64) : Text :=
  if x.isZero then ['0', '.', '0']
  else
    let d := ofRank .even x.rank
    if -5 ≤ d.magnitude ∧ d.magnitude ≤ 15 then
      if d.exponent < 0 then d.positional else d.positional ++ ['.', '0']
    else d.scientific

theorem floatText_of_isFinite {x : Binary64} (hx : x.isFinite = true) :
    floatText x = Numeral.signed x.negative (magnitudeText x) := by
  simp only [floatText, hx, Numeral.signed, magnitudeText, Bool.not_true, Bool.false_eq_true,
    if_false]

theorem floatText_of_not_isFinite {x : Binary64} (hx : x.isFinite = false) :
    floatText x = ['n', 'u', 'l', 'l'] := by
  simp [floatText, hx]

theorem floatForm_magnitudeText (x : Binary64) : Numeral.FloatForm (magnitudeText x) := by
  unfold magnitudeText
  dsimp only
  split
  · exact Numeral.floatForm_zero
  · rename_i hzero
    have hrank : 0 < x.rank.val := Nat.pos_of_ne_zero (by simpa [Binary64.isZero] using hzero)
    split
    · split
      · exact Numeral.floatForm_positional ‹_›
      · rename_i hexponent
        have hwhole := Int.not_lt.mp hexponent
        exact Numeral.floatForm_positional_point hwhole (coefficient_ofRank_pos hrank hwhole)
    · exact Numeral.floatForm_scientific _

/-- The text of a finite float has the form of a number, and is not that of an integer. -/
theorem ofText?_floatText {x : Binary64} (hx : x.isFinite = true) :
    ∃ l, Numeral.ofText? (floatText x) = some l ∧ (l.fraction.isSome ∨ l.exponent.isSome) := by
  obtain ⟨whole, fraction, exponent, hsome, hparts⟩ := floatForm_magnitudeText x
  rw [floatText_of_isFinite hx]
  exact ⟨_, hparts x.negative, hsome⟩

/-- **A finite float is read as the number of its value.** -/
theorem readNumber?_floatText {x : Binary64} (hx : x.isFinite = true)
    (hread : ReadsBack (.float x)) : readNumber? (floatText x) = some (.ofBinary64 x) := by
  obtain ⟨l, htext, hsome⟩ := ofText?_floatText hx
  have hnumber : l.number? = l.scaled? := by
    unfold Numeral.number?
    split
    · rename_i hfraction hexponent
      simp [hfraction, hexponent] at hsome
    · rfl
  rw [readNumber?, htext, Option.bind_some, hnumber, Numeral.scaled?, hread l htext,
    Option.map_some]

/-- No name has the form of a number. -/
theorem ofWord?_of_readNumber? {w : Text} {n : Number} (h : readNumber? w = some n) :
    Token.ofWord? w = some (.scalar (.number n)) := by
  have hname : ∀ name, readNumber? name = none → w ≠ name := by
    rintro name hnone rfl
    rw [hnone] at h
    cases h
  rw [Token.ofWord?, if_neg (hname _ rfl), if_neg (hname _ rfl), if_neg (hname _ rfl), h,
    Option.map_some]

/-- **The word of a number** is the token of what it is read as. -/
theorem ofWord?_numberText {n : Number} (h : ReadsBack n) :
    Token.ofWord? (numberText n) = some (.scalar (reread n)) := by
  cases n with
  | integer i => exact ofWord?_of_readNumber? (readNumber?_integerText i)
  | float x =>
      cases hx : x.isFinite with
      | true =>
          rw [numberText, ofWord?_of_readNumber? (readNumber?_floatText hx h), reread, if_pos hx]
          rfl
      | false =>
          rw [numberText, floatText_of_not_isFinite hx, reread, hx]
          rfl

/-! ### Characters -/

theorem isWordChar_of_isNumeral {c : Char} (h : isNumeral c = true) :
    Token.isWordChar c = true := by
  have hne : ∀ d, isNumeral d = false → c ≠ d := by
    rintro d hd rfl
    rw [h] at hd
    cases hd
  simp [Token.isWordChar, Token.isBlank, Token.punctuation?, hne ' ' rfl, hne '\t' rfl,
    hne '\n' rfl, hne '\r' rfl, hne '"' rfl, hne '[' rfl, hne ']' rfl, hne '\x7b' rfl,
    hne '\x7d' rfl, hne ':' rfl, hne ',' rfl]

theorem isWordChar_of_mem_digits {n : Nat} {c : Char} (h : c ∈ digits n) :
    Token.isWordChar c = true :=
  isWordChar_of_isNumeral (isNumeral_of_mem_digits h)

theorem isWordChar_of_mem_scientific {x : Decimal} {c : Char} (h : c ∈ x.scientific) :
    Token.isWordChar c = true := by
  have hexponent : ∀ c ∈ 'e' :: (if 0 ≤ x.magnitude then '+' :: digits x.magnitude.toNat
      else integerText x.magnitude), Token.isWordChar c = true := by
    refine List.forall_mem_cons.mpr ⟨rfl, fun c hc => ?_⟩
    split at hc
    · rcases List.mem_cons.mp hc with rfl | hc
      · rfl
      · exact isWordChar_of_mem_digits hc
    · exact isWordChar_of_isNumeral (isNumeral_of_mem_integerText hc)
  have hdigit : ∀ c ∈ digits x.coefficient, Token.isWordChar c = true := fun c hc =>
    isWordChar_of_mem_digits hc
  unfold scientific at h
  dsimp only at h
  cases hds : digits x.coefficient with
  | nil => exact absurd hds (digits_ne_nil _)
  | cons d ds =>
      rw [hds] at h hdigit
      cases ds with
      | nil =>
          rcases List.mem_cons.mp h with rfl | h
          · exact hdigit c List.mem_cons_self
          · exact hexponent c h
      | cons d' ds =>
          rcases List.mem_append.mp h with h | h
          · rcases List.mem_cons.mp h with rfl | h
            · exact hdigit c List.mem_cons_self
            · rcases List.mem_cons.mp h with rfl | h
              · rfl
              · exact hdigit c (List.mem_cons_of_mem _ h)
          · exact hexponent c h

theorem isWordChar_of_mem_magnitudeText {x : Binary64} {c : Char} (h : c ∈ magnitudeText x) :
    Token.isWordChar c = true := by
  have hpositional : ∀ d : Decimal, ∀ c ∈ d.positional, Token.isWordChar c = true :=
    fun d c hc => isWordChar_of_isNumeral (isNumeral_of_mem_positional hc)
  have hzero : ∀ c ∈ ['0', '.', '0'], Token.isWordChar c = true := List.all_eq_true.mp rfl
  unfold magnitudeText at h
  dsimp only at h
  split at h
  · exact hzero c h
  · split at h
    · split at h
      · exact hpositional _ c h
      · exact List.forall_mem_append.mpr ⟨hpositional _, fun c hc =>
          hzero c (List.mem_cons_of_mem '0' hc)⟩ c h
    · exact isWordChar_of_mem_scientific h

/-- **A number is written as one word.** -/
theorem isWordChar_of_mem_numberText {n : Number} {c : Char} (h : c ∈ numberText n) :
    Token.isWordChar c = true := by
  cases n with
  | integer i => exact isWordChar_of_isNumeral (isNumeral_of_mem_integerText h)
  | float x =>
      rw [numberText] at h
      cases hx : x.isFinite with
      | true =>
          rw [floatText_of_isFinite hx, Numeral.signed] at h
          split at h
          · rcases List.mem_cons.mp h with rfl | h
            · rfl
            · exact isWordChar_of_mem_magnitudeText h
          · exact isWordChar_of_mem_magnitudeText h
      | false =>
          have hnull : ∀ c ∈ ['n', 'u', 'l', 'l'], Token.isWordChar c = true :=
            List.all_eq_true.mp rfl
          rw [floatText_of_not_isFinite hx] at h
          exact hnull c h

end ArrayLiteral.Json
