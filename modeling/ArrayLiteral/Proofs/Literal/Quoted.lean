import ArrayLiteral.Proofs.Literal.Delimited

/-!
# Proofs — Literal — Quoted

A quoted text, as the walker that follows escapes and the reader find it.  The walker counts the
backslashes of what is written; the writer counted those of the text, without the ones that it put
in.  The two agree all the same.

* Nothing is put into a text exactly if each quote in it is escaped already, behind an odd number of
  backslashes (`escape_eq_self_iff`).  What was escaped is such a text, so that no quote inside ends
  the string (`run_prefix_quoted`); the last one ends it unless it comes behind an odd number of
  backslashes of the text (`oneString_quoted_iff`).
* The reader takes the outer quotes off and keeps the escapes.  `pushes` says of each character that
  is written whether it was put in; without those the text is left (`filterMap_copied?_pushes`).
-/

namespace ArrayLiteral

open Walker

variable {s : Text}

namespace Text

/-! ### Escaped quotes -/

/-- What comes before a character of a text with one more character in front. -/
theorem forall_before_cons_iff {p : Text → Prop} {c d : Char} :
    (∀ a b, c :: s = a ++ d :: b → p a) ↔
      (c = d → p []) ∧ ∀ a b, s = a ++ d :: b → p (c :: a) := by
  constructor
  · intro h
    refine ⟨?_, fun a b hs => h (c :: a) b (congrArg (c :: ·) hs)⟩
    rintro rfl
    exact h [] s rfl
  · rintro ⟨hhead, htail⟩ (_ | ⟨e, a⟩) b hs
    · exact hhead (List.cons.inj hs).1
    · obtain ⟨rfl, hrest⟩ := List.cons.inj hs
      exact htail a b hrest

/-- **Nothing is put in** exactly if each quote is escaped already. -/
theorem escape_eq_self_iff {odd : Bool} :
    escape odd s = s ↔ ∀ a b, s = a ++ '\'' :: b → oddAfter odd a = true := by
  induction s generalizing odd with
  | nil => simp [escape]
  | cons c s ih =>
      rw [forall_before_cons_iff]
      by_cases hc : c = '\''
      · subst hc
        cases odd with
        | true =>
            rw [escape_escaped_quote, List.cons.injEq, and_iff_right rfl, ih]
            exact (and_iff_right fun _ => rfl).symm
        | false =>
            rw [escape_quote]
            refine iff_of_false (fun h => ?_) fun h => absurd (h.1 rfl) Bool.false_ne_true
            exact absurd (List.cons.inj h).1 (by decide)
      · rw [escape_cons_of_ne hc, List.cons.injEq, and_iff_right rfl, ih,
          and_iff_right fun h => absurd h hc]
        exact Iff.rfl

theorem escape_false_eq_self_iff :
    escape false s = s ↔ ∀ a b, s = a ++ '\'' :: b → a.finalBackslashes % 2 = 1 := by
  simp only [escape_eq_self_iff, oddAfter_false, decide_eq_true_iff]

/-! ### The walker in a quoted text -/

/-- **No quote inside ends the string.** -/
theorem run_prefix_quoted : ∀ p, p <+: s.quoted → p ≠ [] → p ≠ s.quoted →
    ∃ odd, start.run .escapes p = .quoted 0 '\'' odd := by
  have hguarded : ∀ a b, escape false s = a ++ '\'' :: b → oddAfter false a = true :=
    escape_eq_self_iff.mp (escape_escape false s)
  rw [quoted, forall_inner_prefix_iff]
  rintro a ⟨rest, ha⟩
  refine ⟨oddAfter false a, ?_⟩
  rw [run_cons, start, step_quote]
  refine run_quoted_of_guarded 0 fun b c hbc => hguarded b (c ++ rest) ?_
  rw [← ha, hbc, List.append_assoc, List.cons_append]

/-- **The last quote ends the string** unless an odd number of backslashes ends the text. -/
theorem oneString_quoted_iff : OneString .escapes s.quoted ↔ s.finalBackslashes % 2 = 0 := by
  have hguarded : ∀ a b, escape false s = a ++ '\'' :: b → a.finalBackslashes % 2 = 1 :=
    escape_false_eq_self_iff.mp (escape_escape false s)
  -- a backslash is put in before a quote only, so that those at the end stay as they are
  have hend : Quotable .escapes (escape false s) ↔ Quotable .escapes s := by
    rw [quotable_escapes_iff, quotable_escapes_iff, oddAfter_escape]
  rw [quoted, oneString_iff rfl, Guarded, and_iff_right hguarded]
  exact hend

/-! ### What is put in -/

/-- What is written for a text, character by character. -/
inductive Push where
  /-- A backslash that is put in. -/
  | added
  /-- A character of the text. -/
  | copied (c : Char)

/-- The character that is written. -/
def Push.char : Push → Char
  | .added => '\\'
  | .copied c => c

/-- The character of the text. -/
def Push.copied? : Push → Option Char
  | .added => none
  | .copied c => some c

/-- What `escape` writes. -/
def pushes (odd : Bool) : Text → List Push
  | [] => []
  | c :: rest =>
    if c = '\'' then
      if odd then .copied c :: pushes false rest
      else .added :: .copied c :: pushes false rest
    else .copied c :: pushes (c == '\\' && !odd) rest

theorem map_char_pushes (odd : Bool) (t : Text) : (pushes odd t).map Push.char = escape odd t := by
  induction t generalizing odd with
  | nil => rfl
  | cons c t ih =>
      rw [pushes, escape]
      split
      · split
        · rw [List.map_cons, ih, Push.char]
        · rw [List.map_cons, List.map_cons, ih, Push.char, Push.char]
      · rw [List.map_cons, ih, Push.char]

/-- **Without what was put in** the text is left. -/
theorem filterMap_copied?_pushes (odd : Bool) (t : Text) :
    (pushes odd t).filterMap Push.copied? = t := by
  induction t generalizing odd with
  | nil => rfl
  | cons c t ih =>
      have hcopied : ∀ rest, (Push.copied c :: rest).filterMap Push.copied? =
          c :: rest.filterMap Push.copied? := fun rest => List.filterMap_cons_some rfl
      rw [pushes]
      split
      · split
        · rw [hcopied, ih]
        · rw [List.filterMap_cons_none rfl, hcopied, ih]
      · rw [hcopied, ih]

end Text

open Text

namespace Value

/-- **A quoted text is one string** for the walker that follows escapes exactly if an even number of
backslashes ends the text, and in any case no character before the last one ends the string.

Either reader takes it for a string that is written in the same way: the text with the backslashes
that were put in.  These are none exactly if each quote of the text stands behind an odd number of
backslashes. -/
theorem quoted_walked_and_read (s : Text) :
    (OneString .escapes s.quoted ↔ s.finalBackslashes % 2 = 0) ∧
      (∀ p, p <+: s.quoted → p ≠ [] → p ≠ s.quoted →
        ∃ odd, start.run .escapes p = .quoted 0 '\'' odd) ∧
      ∃ t : Text, (∀ mode, ofText mode s.quoted = .string t) ∧ t.quoted = s.quoted ∧
        (pushes false s).map Push.char = t ∧ (pushes false s).filterMap Push.copied? = s ∧
        (t = s ↔ ∀ a b, s = a ++ '\'' :: b → a.finalBackslashes % 2 = 1) := by
  refine ⟨oneString_quoted_iff, run_prefix_quoted, escape false s, fun mode => ?_,
    quoted_escape s, map_char_pushes false s, filterMap_copied?_pushes false s,
    escape_false_eq_self_iff⟩
  rw [ofText, trim_quoted, read_of_not_bracketed (isBracketed_quoted s), readScalar_quoted]

/-- A bare quote, an escaped one, and a backslash at the end. -/
theorem quoted_walked_and_read_backslash :
    let s : Text := "it's \\'s\\".toList
    let p : Text := "'it\\'".toList
    (p <+: s.quoted ∧ p ≠ [] ∧ p ≠ s.quoted ∧
        ∃ odd, start.run .escapes p = .quoted 0 '\'' odd) ∧
      ¬OneString .escapes s.quoted ∧
      ∃ t : Text, (∀ mode, ofText mode s.quoted = .string t) ∧
        t = "it\\'s \\'s\\".toList ∧ t ≠ s := by
  intro s p
  have hinitial : p <+: s.quoted := by decide
  have hne : p ≠ [] := by decide
  have hnt : p ≠ s.quoted := by decide
  obtain ⟨hone, hinside, t, hread, -, hpushes, -⟩ := quoted_walked_and_read s
  have ht : t = "it\\'s \\'s\\".toList := hpushes.symm.trans (by decide)
  refine ⟨⟨hinitial, hne, hnt, hinside p hinitial hne hnt⟩, fun h => absurd (hone.mp h) (by decide),
    t, hread, ht, ?_⟩
  rw [ht]
  decide

end Value

end ArrayLiteral
