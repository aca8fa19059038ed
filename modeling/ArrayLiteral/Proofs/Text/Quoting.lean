import ArrayLiteral.Literal.Quoted
import ArrayLiteral.Proofs.Walker.Arrow

/-!
# Proofs — Text — Quoting

A walker that follows escapes goes through an escaped text as `escape` does: both know whether an
odd number of backslashes came just before, and `oddAfter` is what they know behind the text.  So it
stays in the string, and the quote at the end closes it unless the text ends with an odd number of
backslashes.

`Quotable mode s` says that a walker finds the end of `s` between quotes where it is.  It then goes
past the quoted text from code to code and meets nothing (`Quotable.run_quoted`,
`Quotable.not_meets_quoted`).

What was escaped is not escaped again (`escape_escape`).
-/

namespace ArrayLiteral

namespace Text

/-- Whether an odd number of backslashes stands at the end of a text, if `odd` tells so of what
came before it. -/
def oddAfter (odd : Bool) : Text → Bool
  | [] => odd
  | c :: t => oddAfter (c == '\\' && !odd) t

/-- The number of backslashes at the end of a text. -/
def finalBackslashes (t : Text) : Nat := (t.reverse.takeWhile (· == '\\')).length

/-- A text that ends between quotes where it should. -/
def Quotable : QuoteScan → Text → Prop
  | .naive, s => '\'' ∉ s
  | .escapes, s => s.finalBackslashes % 2 = 0

instance : ∀ (mode : QuoteScan) (s : Text), Decidable (Quotable mode s)
  | .naive, s => inferInstanceAs (Decidable ('\'' ∉ s))
  | .escapes, s => inferInstanceAs (Decidable (s.finalBackslashes % 2 = 0))

/-! ### Backslashes at the end -/

theorem oddAfter_concat (odd : Bool) (t : Text) (c : Char) :
    oddAfter odd (t ++ [c]) = (c == '\\' && !oddAfter odd t) := by
  induction t generalizing odd with
  | nil => rfl
  | cons d t ih => exact ih _

theorem finalBackslashes_concat (t : Text) (c : Char) :
    finalBackslashes (t ++ [c]) = if c = '\\' then finalBackslashes t + 1 else 0 := by
  by_cases hc : c = '\\' <;> simp [finalBackslashes, hc]

theorem oddAfter_false (t : Text) : oddAfter false t = decide (t.finalBackslashes % 2 = 1) := by
  induction t using List.reverseRecOn with
  | nil => rfl
  | append_singleton t c ih =>
      rw [oddAfter_concat, ih, finalBackslashes_concat]
      by_cases hc : c = '\\'
      · have hp : finalBackslashes t % 2 = 1 ↔ ¬(finalBackslashes t + 1) % 2 = 1 := by omega
        rw [if_pos hc, hc, decide_eq_decide.mpr hp, decide_not]
        simp
      · simp [hc]

theorem quotable_escapes_iff {s : Text} : Quotable .escapes s ↔ oddAfter false s = false := by
  rw [oddAfter_false, decide_eq_false_iff_not]
  show s.finalBackslashes % 2 = 0 ↔ _
  omega

/-- A text that does not end with a backslash ends between quotes where it should. -/
theorem quotable_escapes_of_getLast? {s : Text} (h : s.getLast? ≠ some '\\') :
    Quotable .escapes s := by
  induction s using List.reverseRecOn with
  | nil => rfl
  | append_singleton s c =>
      have hc : c ≠ '\\' := fun he => h (by rw [List.getLast?_concat, he])
      show finalBackslashes (s ++ [c]) % 2 = 0
      rw [finalBackslashes_concat, if_neg hc]

/-! ### Escaping -/

theorem escape_quote (t : Text) : escape false ('\'' :: t) = '\\' :: '\'' :: escape false t := rfl

theorem escape_escaped_quote (t : Text) : escape true ('\'' :: t) = '\'' :: escape false t := rfl

theorem escape_cons_of_ne {c : Char} (h : c ≠ '\'') (odd : Bool) (t : Text) :
    escape odd (c :: t) = c :: escape (c == '\\' && !odd) t := by
  rw [escape, if_neg h]

/-- What was escaped is not escaped again. -/
@[simp] theorem escape_escape (odd : Bool) (t : Text) :
    escape odd (escape odd t) = escape odd t := by
  induction t generalizing odd with
  | nil => rfl
  | cons c t ih =>
      by_cases hc : c = '\''
      · subst hc
        cases odd with
        | true => rw [escape_escaped_quote, escape_escaped_quote, ih]
        | false =>
            rw [escape_quote, escape_cons_of_ne (by decide)]
            show _ :: escape true _ = _
            rw [escape_escaped_quote, ih]
      · rw [escape_cons_of_ne hc, escape_cons_of_ne hc, ih]

@[simp] theorem quoted_escape (t : Text) : (escape false t).quoted = t.quoted := by
  rw [quoted, quoted, escape_escape]

theorem quoted_eq_quoted_iff {s t : Text} :
    s.quoted = t.quoted ↔ escape false s = escape false t := by
  rw [quoted, quoted, List.append_cancel_right_eq, List.cons.injEq, and_iff_right rfl]

theorem oddAfter_escape (odd : Bool) (t : Text) : oddAfter odd (escape odd t) = oddAfter odd t := by
  induction t generalizing odd with
  | nil => rfl
  | cons c t ih =>
      by_cases hc : c = '\''
      · subst hc
        cases odd with
        | true => exact ih false
        | false => exact ih false
      · rw [escape_cons_of_ne hc]
        exact ih _

/-- Escaping puts in backslashes only. -/
theorem count_escape {c : Char} (hc : c ≠ '\\') (odd : Bool) (t : Text) :
    (escape odd t).count c = t.count c := by
  induction t generalizing odd with
  | nil => rfl
  | cons d t ih =>
      by_cases hd : d = '\''
      · subst hd
        cases odd with
        | true => rw [escape_escaped_quote, List.count_cons, ih, List.count_cons]
        | false =>
            rw [escape_quote, List.count_cons_of_ne (Ne.symm hc), List.count_cons, ih,
              List.count_cons]
      · rw [escape_cons_of_ne hd, List.count_cons, ih, List.count_cons]

theorem Quotable.escape {mode : QuoteScan} {s : Text} (h : Quotable mode s) :
    Quotable mode (escape false s) := by
  cases mode with
  | naive => rw [escape_of_not_mem h]; exact h
  | escapes => rw [quotable_escapes_iff, oddAfter_escape, ← quotable_escapes_iff]; exact h

theorem trim_quoted (s : Text) : trim s.quoted = s.quoted :=
  trim_cons_append (by decide) (by decide) _

end Text

namespace Walker

open Text

variable {mode : QuoteScan}

/-! ### A walker in a quoted text -/

/-- A quote that is not escaped takes the walker into a string, and one like it closes that. -/
theorem step_quote (d : Int) : step mode (.code d) '\'' = .quoted d '\'' false := rfl

theorem step_closing_quote {quote : Char} {odd : Bool} (h : mode = .escapes → odd = false)
    (d : Int) : step mode (.quoted d quote odd) quote = .code d := by
  rw [step, if_pos]
  refine ⟨rfl, ?_⟩
  rintro ⟨hm, ho⟩
  rw [h hm] at ho
  exact Bool.false_ne_true ho

theorem step_quoted_of_ne {c quote : Char} (h : c ≠ quote) (d : Int) (odd : Bool) :
    step mode (.quoted d quote odd) c = .quoted d quote (c == '\\' && !odd) := by
  rw [step, if_neg fun hc => h hc.1]

theorem free_quoted (d : Int) (quote : Char) (odd : Bool) (c : Char) :
    free (.quoted d quote odd) c = false := rfl

/-- A walker that follows escapes does not leave the string in an escaped text. -/
theorem run_escape (d : Int) (odd : Bool) (t : Text) :
    run .escapes (.quoted d '\'' odd) (escape odd t) = .quoted d '\'' (oddAfter odd t) ∧
      ∀ c, meets .escapes c (.quoted d '\'' odd) (escape odd t) = false := by
  induction t generalizing odd with
  | nil => exact ⟨rfl, fun _ => rfl⟩
  | cons c t ih =>
      by_cases hc : c = '\''
      · subst hc
        have hs : step .escapes (.quoted d '\'' true) '\'' = .quoted d '\'' false := rfl
        cases odd with
        | true =>
            rw [escape_escaped_quote]
            refine ⟨?_, fun e => ?_⟩
            · rw [run_cons, hs]
              exact (ih false).1
            · rw [meets_cons, hs, free_quoted, (ih false).2]
              rfl
        -- the quote gets a backslash, which keeps it from closing the string
        | false =>
            have hb : step .escapes (.quoted d '\'' false) '\\' = .quoted d '\'' true := rfl
            rw [escape_quote]
            refine ⟨?_, fun e => ?_⟩
            · rw [run_cons, hb, run_cons, hs]
              exact (ih false).1
            · rw [meets_cons, hb, meets_cons, hs, free_quoted, free_quoted, (ih false).2]
              rfl
      · rw [escape_cons_of_ne hc]
        refine ⟨?_, fun e => ?_⟩
        · rw [run_cons, step_quoted_of_ne hc]
          exact (ih _).1
        · rw [meets_cons, step_quoted_of_ne hc, free_quoted, (ih _).2]
          rfl

/-- A walker does not leave the string in a text without its quote. -/
theorem run_of_not_mem_quote {quote : Char} {t : Text} (h : quote ∉ t) (d : Int) (odd : Bool) :
    run mode (.quoted d quote odd) t = .quoted d quote (oddAfter odd t) ∧
      ∀ c, meets mode c (.quoted d quote odd) t = false := by
  induction t generalizing odd with
  | nil => exact ⟨rfl, fun _ => rfl⟩
  | cons c t ih =>
      simp only [List.mem_cons, not_or] at h
      have hs : step mode (.quoted d quote odd) c = .quoted d quote (c == '\\' && !odd) :=
        step_quoted_of_ne (Ne.symm h.1) d odd
      refine ⟨?_, fun e => ?_⟩
      · rw [run_cons, hs]
        exact (ih h.2 _).1
      · rw [meets_cons, hs, free_quoted, (ih h.2 _).2]
        rfl

/-- Behind its opening quote a quotable text keeps the walker in the string, which the closing
quote ends. -/
theorem exists_run_escape {s : Text} (h : Quotable mode s) (d : Int) :
    ∃ odd, (mode = .escapes → odd = false) ∧
      run mode (.quoted d '\'' false) (escape false s) = .quoted d '\'' odd ∧
      ∀ c, meets mode c (.quoted d '\'' false) (escape false s) = false := by
  cases mode with
  | naive =>
      rw [escape_of_not_mem h]
      exact ⟨_, fun hm => QuoteScan.noConfusion hm, run_of_not_mem_quote h d false⟩
  | escapes =>
      exact ⟨_, fun _ => quotable_escapes_iff.mp h, run_escape d false s⟩

end Walker

namespace Text

open Walker

variable {mode : QuoteScan} {s : Text}

/-- **A quoted text leads from code to code.** -/
theorem Quotable.run_quoted (h : Quotable mode s) (d : Int) :
    run mode (.code d) s.quoted = .code d := by
  obtain ⟨odd, ho, hr, -⟩ := exists_run_escape h d
  rw [quoted, List.cons_append, run_cons, step_quote, run_append, hr, run_cons,
    step_closing_quote ho]
  rfl

/-- **Nothing is met in a quoted text.** -/
theorem Quotable.not_meets_quoted (h : Quotable mode s) (d : Int) (c : Char) :
    meets mode c (.code d) s.quoted = false := by
  obtain ⟨odd, -, hr, hm⟩ := exists_run_escape h d
  rw [quoted, List.cons_append, meets_cons, step_quote, meets_append, hm, hr, meets_cons,
    not_free_of_not_plain (by decide), not_free_of_not_plain (by decide)]
  rfl

end Text

end ArrayLiteral
