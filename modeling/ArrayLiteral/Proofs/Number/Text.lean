import Mathlib.Data.List.TakeWhile
import ArrayLiteral.Number.Literal

/-!
# Proofs — Number — Text

A number is written with digits, letters, a minus sign and a point, and nothing else
(`isNumeral_of_mem_text`).  An integer reads back from its decimal digits
(`ofLiteral?_text_integer`).
-/

namespace ArrayLiteral

/-- A character that can stand in a number as it is written. -/
def isNumeral (c : Char) : Bool := c.isAlphanum || c == '-' || c == '.'

theorem isNumeral_of_isDigit {c : Char} (h : c.isDigit = true) : isNumeral c = true := by
  rw [isNumeral, Char.isAlphanum, h]
  simp

namespace Decimal

theorem isNumeral_of_mem_digits {n : Nat} {c : Char} (h : c ∈ digits n) : isNumeral c = true :=
  isNumeral_of_isDigit (isDigit_of_mem_digits h)

theorem isDigit_of_mem_zeros {n : Nat} {c : Char} (h : c ∈ zeros n) : c.isDigit = true := by
  obtain rfl := List.eq_of_mem_replicate h
  rfl

theorem isNumeral_of_mem_zeros {n : Nat} {c : Char} (h : c ∈ zeros n) : isNumeral c = true :=
  isNumeral_of_isDigit (isDigit_of_mem_zeros h)

theorem isNumeral_of_mem_positional {x : Decimal} {c : Char} (h : c ∈ x.positional) :
    isNumeral c = true := by
  unfold positional at h
  dsimp only at h
  split at h
  · rcases List.mem_append.mp h with h | h
    · exact isNumeral_of_mem_digits h
    · exact isNumeral_of_mem_zeros h
  · split at h
    · rcases List.mem_append.mp h with h | h
      · exact isNumeral_of_mem_digits (List.mem_of_mem_take h)
      · rcases List.mem_cons.mp h with rfl | h
        · decide
        · exact isNumeral_of_mem_digits (List.mem_of_mem_drop h)
    · rcases List.mem_append.mp h with h | h
      · rcases List.mem_cons.mp h with rfl | h
        · decide
        · rcases List.mem_cons.mp h with rfl | h
          · decide
          · exact isNumeral_of_mem_zeros h
      · exact isNumeral_of_mem_digits h

theorem isNumeral_of_mem_integerText {i : Int} {c : Char} (h : c ∈ integerText i) :
    isNumeral c = true := by
  unfold integerText at h
  split at h
  · rcases List.mem_cons.mp h with rfl | h
    · decide
    · exact isNumeral_of_mem_digits h
  · exact isNumeral_of_mem_digits h

end Decimal

namespace Number

theorem isNumeral_of_mem_floatText {x : Binary64} {c : Char} (h : c ∈ floatText x) :
    isNumeral c = true := by
  have hmagnitude : ∀ c ∈ (if !x.isFinite then ['i', 'n', 'f'] else if x.isZero then ['0']
      else (Decimal.ofRank .up x.rank).positional), isNumeral c = true := by
    split
    · exact List.all_eq_true.mp (by decide)
    · split
      · exact List.all_eq_true.mp (by decide)
      · exact fun c hc => Decimal.isNumeral_of_mem_positional hc
  unfold floatText at h
  dsimp only at h
  split at h
  · have hnan : ['N', 'a', 'N'].all isNumeral = true := by decide
    exact List.all_eq_true.mp hnan c h
  · split at h
    · rcases List.mem_cons.mp h with rfl | h
      · decide
      · exact hmagnitude c h
    · exact hmagnitude c h

/-- **A number is written with numerals only.** -/
theorem isNumeral_of_mem_text {n : Number} {c : Char} (h : c ∈ n.text) : isNumeral c = true := by
  cases n with
  | integer i => exact Decimal.isNumeral_of_mem_integerText h
  | float x => exact isNumeral_of_mem_floatText h

theorem not_mem_text {c : Char} (h : isNumeral c = false) (n : Number) : c ∉ n.text := by
  intro hc
  rw [isNumeral_of_mem_text hc] at h
  exact Bool.noConfusion h

/-! ### Integers -/

theorem isDigits_of_forall {t : Text} (hne : t ≠ []) (h : ∀ c ∈ t, c.isDigit = true) :
    Literal.isDigits t = true := by
  rw [Literal.isDigits, List.isEmpty_eq_false_iff.mpr hne, Bool.not_false, Bool.true_and]
  exact List.all_eq_true.mpr h

theorem isDigits_digits (n : Nat) : Literal.isDigits (Decimal.digits n) = true :=
  isDigits_of_forall Nat.toDigits_ne_nil fun _ => Decimal.isDigit_of_mem_digits

theorem ne_point_of_mem_digits {n : Nat} {c : Char} (h : c ∈ Decimal.digits n) : c ≠ '.' := by
  rintro rfl
  exact absurd (Decimal.isDigit_of_mem_digits h) (by decide)

theorem isDigits_zeros {n : Nat} (h : 0 < n) : Literal.isDigits (Decimal.zeros n) = true :=
  isDigits_of_forall (by simpa [Decimal.zeros] using Nat.pos_iff_ne_zero.mp h)
    fun _ => Decimal.isDigit_of_mem_zeros

theorem digitsValue_zeros (n : Nat) : Decimal.digitsValue (Decimal.zeros n) = 0 :=
  Nat.ofDigitChars_replicate_zero.trans (Nat.mul_zero _)

/-- A minus sign is taken off, and nothing else. -/
theorem unsign_of_head? (negative : Bool) {t : Text} (h : t.head? ≠ some '-') :
    Literal.unsign ((if negative then ['-'] else []) ++ t) = (negative, t) := by
  cases negative with
  | true => rfl
  | false =>
      rw [if_neg Bool.false_ne_true, List.nil_append]
      unfold Literal.unsign
      split
      · exact absurd rfl h
      · rfl

theorem head?_ne_minus_of_isDigits {t : Text} (h : Literal.isDigits t = true) :
    t.head? ≠ some '-' := by
  intro hminus
  rw [Literal.isDigits, Bool.and_eq_true, List.all_eq_true] at h
  exact absurd (h.2 '-' (List.mem_of_head? hminus)) (by decide)

theorem unsign_digits (n : Nat) :
    Literal.unsign (Decimal.digits n) = (false, Decimal.digits n) :=
  unsign_of_head? false (head?_ne_minus_of_isDigits (isDigits_digits n))

/-- Decimal digits, with a sign or without, have the form of a literal. -/
theorem ofText?_integerText (i : Int) :
    Literal.ofText? (Decimal.integerText i) =
      some ⟨decide (i < 0), Decimal.digits i.natAbs, none⟩ := by
  have hu : Literal.unsign (Decimal.integerText i) = (decide (i < 0), Decimal.digits i.natAbs) := by
    unfold Decimal.integerText
    split
    · rename_i h
      rw [decide_eq_true h]
      rfl
    · rename_i h
      rw [decide_eq_false h, unsign_digits]
  have hp : ∀ c ∈ Decimal.digits i.natAbs, decide (c ≠ '.') = true := fun c hc =>
    decide_eq_true (ne_point_of_mem_digits hc)
  rw [Literal.ofText?, hu]
  dsimp only
  rw [List.dropWhile_eq_nil_iff.mpr hp, List.takeWhile_eq_self_iff.mpr hp,
    if_pos (isDigits_digits _)]

theorem int64?_toInt (i : Int64) : int64? i.toInt = some i := by
  rw [int64?, if_pos ⟨i.minValue_le_toInt, i.toInt_le⟩, Int64.ofInt_toInt]

/-- **An integer reads back** from its decimal digits. -/
theorem ofLiteral?_text_integer (i : Int64) :
    ofLiteral? (text (.integer i)) = some (.integer i) := by
  have hv : Literal.integer ⟨decide (i.toInt < 0), Decimal.digits i.toInt.natAbs, none⟩ =
      i.toInt := by
    simp only [Literal.integer, Decimal.digitsValue_digits, decide_eq_true_eq]
    omega
  rw [ofLiteral?, text, ofText?_integerText, Option.bind_some, Literal.number?, hv,
    int64?_toInt]

end Number

end ArrayLiteral
