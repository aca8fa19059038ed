import ArrayLiteral.Literal.Canonical
import ArrayLiteral.Proofs.Literal.Elements
import ArrayLiteral.Proofs.Value.Identity
import ArrayLiteral.Proofs.Walker.Agreement

/-!
# Proofs — Literal — Agreement

Where no quote stands behind a backslash, it makes no difference how quotes are followed: a text is
read as the same value either way (`read_agree`), and everything that is made of the value is the
same (`quoteScan_agree`).

The walker starts anew in each array, at every depth.  But it only ever goes through parts of the
text, and no quote in a part is escaped either.
-/

namespace ArrayLiteral

open Text

variable {t : Text}

namespace Value

/-- Both ways find the same elements. -/
theorem readArray_agree (h : NoEscapedQuote t) (read : Text → Value) :
    readArray .naive read t = readArray .escapes read t := by
  have hkeyed : ∀ p ∈ (t.pieces .escapes).map trim,
      keyed? .naive read p = keyed? .escapes read p := fun p hp => by
    obtain ⟨q, hq, rfl⟩ := List.mem_map.mp hp
    have hpart : NoEscapedQuote q.trim :=
      h.of_isInfix ((trim_isInfix q).trans (isInfix_of_mem_pieces hq))
    rw [keyed?, keyed?, hpart.arrow?_agree]
  rw [readArray, readArray, h.pieces_agree, h.arrow?_agree, List.filterMap_congr hkeyed]

/-- **Both ways read the same value.** -/
theorem read_agree (h : NoEscapedQuote t) (levels : Nat) :
    read .naive levels t = read .escapes levels t := by
  induction levels generalizing t with
  | zero => rfl
  | succ levels ih =>
      have hinner : NoEscapedQuote t.inner := h.of_isInfix (inner_isInfix t)
      rw [read, read, readArray_agree hinner, readArray_congr fun u hu =>
        ih (hinner.of_isInfix (isInfix_of_mem_elements hu))]

theorem ofText_agree (h : NoEscapedQuote t) : ofText .naive t = ofText .escapes t :=
  read_agree (h.of_isInfix (trim_isInfix t)) maxLevels

theorem parse_agree (h : NoEscapedQuote t) : parse .naive t = parse .escapes t := by
  rw [parse, parse, ofText_agree h]

end Value

open Value

/-- **How quotes are followed does not matter** where no quote stands behind a backslash: neither
for the value of a text or a literal, nor for the output, nor for whether a literal is canonical. -/
theorem quoteScan_agree (h : NoEscapedQuote t) (indent : Nat) (keyOrder : KeyOrder) :
    let naive : Options := ⟨indent, keyOrder, .naive⟩
    let escapes : Options := ⟨indent, keyOrder, .escapes⟩
    ofText .naive t = ofText .escapes t ∧ parse .naive t = parse .escapes t ∧
      sortLiteral naive t = sortLiteral escapes t ∧
      isCanonical naive t = isCanonical escapes t := by
  intro naive escapes
  have hsort : sortLiteral naive t = sortLiteral escapes t := by
    rw [sortLiteral, sortLiteral, parse_agree h]
  refine ⟨ofText_agree h, parse_agree h, hsort, ?_⟩
  rw [isCanonical, hsort, isCanonical]

/-- Backslashes in strings, also two in a row, and in an expression. -/
theorem quoteScan_agree_path :
    let t : Text := "['dir' => 'C:\\\\tmp\\x', \"b\" => [A\\B::f(1, '\\\\, \\n'), 2]]".toList
    NoEscapedQuote t ∧
      let naive : Options := ⟨4, .locale, .naive⟩
      let escapes : Options := ⟨4, .locale, .escapes⟩
      ofText .naive t = ofText .escapes t ∧ parse .naive t = parse .escapes t ∧
        sortLiteral naive t = sortLiteral escapes t ∧
        isCanonical naive t = isCanonical escapes t := by
  intro t
  have h : NoEscapedQuote t := by decide
  exact ⟨h, quoteScan_agree h 4 .locale⟩

end ArrayLiteral
