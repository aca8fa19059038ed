import ArrayLiteral.Literal.Printer
import ArrayLiteral.Literal.Reader
import ArrayLiteral.Proofs.Number.Text
import ArrayLiteral.Proofs.Text.Quoting

/-!
# Proofs — Literal — Scalar

What is read from a text without brackets (`readScalar_cases`), and what is read from the scalars
that are written: a quoted text is the string with its escapes (`readScalar_quoted`), as a key too
(`readKey_quoted`), and a number is itself if its digits read back (`readScalar_text`).
-/

namespace ArrayLiteral

open Walker

variable {mode : QuoteScan}

namespace Value

theorem read_of_not_bracketed {t : Text} (h : t.isBracketed = false) (levels : Nat) :
    read mode levels t = readScalar t := by
  cases levels with
  | zero => rw [read, if_neg (by simp [h])]
  | succ levels => rw [read, if_neg (by simp [h])]

/-- **What a text without brackets can be.** -/
theorem readScalar_cases (t : Text) :
    (∃ quote s, t.unquote? quote = some s ∧ readScalar t = .string s) ∨
      (∃ n, Number.ofLiteral? t = some n ∧ readScalar t = .number n) ∨
      (∃ b, readScalar t = .bool b) ∨ readScalar t = .null ∨ readScalar t = .raw t := by
  unfold readScalar
  split
  · rename_i s h
    rcases Option.or_eq_some_iff.mp h with h | h
    · exact Or.inl ⟨_, s, h, rfl⟩
    · exact Or.inl ⟨_, s, h.2, rfl⟩
  · right
    split
    · rename_i n h
      exact Or.inl ⟨n, h, rfl⟩
    · right
      split
      · exact Or.inl ⟨true, rfl⟩
      · split
        · exact Or.inl ⟨false, rfl⟩
        · split
          · exact Or.inr (Or.inl rfl)
          · exact Or.inr (Or.inr rfl)

end Value

namespace Text

theorem isBracketed_eq_false {t : Text} (h : t.head? ≠ some '[') : t.isBracketed = false := by
  rw [isBracketed, beq_false_of_ne h, Bool.false_and]

theorem unquote?_eq_none {quote : Char} {t : Text} (h : t.head? ≠ some quote) :
    t.unquote? quote = none := by
  cases t with
  | nil => rfl
  | cons c t =>
      rw [unquote?, if_neg]
      rintro ⟨rfl, -⟩
      exact h rfl

/-- A text between two quotes is what stands between them. -/
theorem eq_of_unquote? {quote : Char} {t s : Text} (h : t.unquote? quote = some s) :
    t = quote :: s ++ [quote] := by
  cases t with
  | nil => cases h
  | cons c t =>
      rw [unquote?] at h
      split at h
      · rename_i hc
        obtain ⟨rfl, hl⟩ := hc
        cases h
        rw [List.cons_append, List.dropLast_append_getLast? _ hl]
      · cases h

theorem unquote?_quoted (s : Text) : s.quoted.unquote? '\'' = some (escape false s) := by
  rw [quoted, List.cons_append, unquote?, if_pos ⟨rfl, List.getLast?_concat⟩, List.dropLast_concat]

theorem isBracketed_quoted (s : Text) : s.quoted.isBracketed = false :=
  isBracketed_eq_false fun h => absurd (Option.some.inj h) (by decide)

end Text

namespace Number

theorem head?_text_ne {c : Char} (h : isNumeral c = false) (n : Number) : n.text.head? ≠ some c :=
  fun hc => not_mem_text h n (List.mem_of_head? hc)

theorem isBracketed_text (n : Number) : n.text.isBracketed = false :=
  Text.isBracketed_eq_false (head?_text_ne (by decide) n)

/-- Numerals are visible characters of ASCII. -/
theorem isBlank_of_isNumeral {c : Char} (h : isNumeral c = true) : isBlank c = false := by
  have hn : 0x20 < c.toNat ∧ c.toNat < 0x7F := by
    rw [isNumeral, Bool.or_eq_true, Bool.or_eq_true, beq_iff_eq, beq_iff_eq] at h
    rcases h with (h | rfl) | rfl
    · rcases Bool.or_eq_true_iff.mp h with h | hdigit
      · rcases Bool.or_eq_true_iff.mp h with hupper | hlower
        · have hc : 65 ≤ c.toNat ∧ c.toNat ≤ 90 := of_decide_eq_true hupper
          omega
        · obtain ⟨hlow, hhigh⟩ := Bool.and_eq_true_iff.mp hlower
          have hc : 97 ≤ c.toNat ∧ c.toNat ≤ 122 :=
            ⟨of_decide_eq_true hlow, of_decide_eq_true hhigh⟩
          omega
      · obtain ⟨hlow, hhigh⟩ := Bool.and_eq_true_iff.mp hdigit
        have hc : 48 ≤ c.toNat ∧ c.toNat ≤ 57 :=
          ⟨of_decide_eq_true hlow, of_decide_eq_true hhigh⟩
        omega
    · decide
    · decide
  rw [Bool.eq_false_iff]
  intro hb
  obtain ⟨row, hr, hlow, hhigh⟩ := Unicode.exists_range_of_covers hb
  have hout : ∀ row ∈ blankRanges, row.2 ≤ 0x20 ∨ 0x7F ≤ row.1 := by decide
  have := hout row hr
  omega

theorem trim_text (n : Number) : n.text.trim = n.text :=
  Text.trim_of_forall fun _ hc => isBlank_of_isNumeral (isNumeral_of_mem_text hc)

/-- Nothing that separates stands in a number. -/
theorem not_meets_text (n : Number) {c : Char} (h : isNumeral c = false) (w : Walker) :
    meets mode c w n.text = false :=
  not_meets_of_not_mem (not_mem_text h n) w

theorem run_text (n : Number) (d : Int) : run mode (.code d) n.text = .code d :=
  run_code_of_plain (fun c hc => isPlain_of_class (by decide) (isNumeral_of_mem_text hc)) d

end Number

namespace Value

/-- **A quoted text** is read as the string with its escapes. -/
theorem readScalar_quoted (s : Text) : readScalar s.quoted = .string (s.escape false) := by
  rw [readScalar, Text.unquote?_quoted, Option.some_or]

/-- **A quoted key** is read as the key with its escapes. -/
theorem readKey_quoted (s : Text) : readKey s.quoted = s.escape false := by
  rw [readKey, if_neg (by simp [Text.isBracketed_quoted]), readScalar_quoted, toKey]

/-- **A number is read as itself** if its digits read back. -/
theorem readScalar_text {n : Number} (h : Number.ofLiteral? n.text = some n) :
    readScalar n.text = .number n := by
  rw [readScalar, Text.unquote?_eq_none (n.head?_text_ne (by decide)),
    Text.unquote?_eq_none (n.head?_text_ne (by decide)), Option.none_or, h]

end Value

end ArrayLiteral
