import ArrayLiteral.Proofs.Walker.Run

/-!
# Proofs — Walker — Agreement

The two ways to follow quotes differ at a quote behind a backslash, and nowhere else.  In a text
where no quote stands behind a backslash both walkers take the same steps, so that they find the
same pieces and the same arrow (`pieces_agree`, `arrow?_agree`).

The walker that follows escapes remembers the backslashes of a string while the other does not look
at them.  What carries the agreement through a text is that they never matter (`Clear`): where an
odd number of backslashes came just before, no quote comes next.
-/

namespace ArrayLiteral

namespace Text

/-- No quote stands right behind a backslash. -/
def NoEscapedQuote (t : Text) : Prop := ¬['\\', '\''] <:+: t ∧ ¬['\\', '"'] <:+: t

instance (t : Text) : Decidable (NoEscapedQuote t) := inferInstanceAs (Decidable (_ ∧ _))

/-- What holds of a text holds of its parts. -/
theorem NoEscapedQuote.of_isInfix {s t : Text} (h : NoEscapedQuote t) (hs : s <:+: t) :
    NoEscapedQuote s :=
  ⟨fun hq => h.1 (hq.trans hs), fun hq => h.2 (hq.trans hs)⟩

theorem NoEscapedQuote.head?_ne {quote : Char} {t : Text} (h : NoEscapedQuote ('\\' :: t))
    (hq : Walker.isQuote quote = true) : t.head? ≠ some quote := by
  intro hhead
  obtain ⟨rest, rfl⟩ := List.head?_eq_some_iff.mp hhead
  have hinfix : ['\\', quote] <:+: '\\' :: quote :: rest := ⟨[], rest, rfl⟩
  rcases Bool.or_eq_true_iff.mp hq with hq | hq
  · obtain rfl := beq_iff_eq.mp hq
    exact h.1 hinfix
  · obtain rfl := beq_iff_eq.mp hq
    exact h.2 hinfix

end Text

namespace Walker

open Text

/-- No quote of the rest of the text is escaped for the walker. -/
def Clear : Walker → Text → Prop
  | .code _, t => NoEscapedQuote t
  | .quoted _ quote odd, t =>
    NoEscapedQuote t ∧ isQuote quote = true ∧ (odd = true → t.head? ≠ some quote)

theorem Clear.noEscapedQuote {w : Walker} {t : Text} (h : w.Clear t) : NoEscapedQuote t := by
  cases w with
  | code d => exact h
  | quoted d quote odd => exact h.1

/-- **Both ways take the same step**, and the rest of the text stays clear. -/
theorem Clear.step {w : Walker} {c : Char} {t : Text} (h : w.Clear (c :: t)) :
    w.step .naive c = w.step .escapes c ∧ (w.step .escapes c).Clear t := by
  have htail : NoEscapedQuote t := h.noEscapedQuote.of_isInfix (List.suffix_cons c t).isInfix
  cases w with
  | code d =>
      refine ⟨rfl, ?_⟩
      rw [Walker.step]
      split
      · exact ⟨htail, ‹_›, fun hodd => absurd hodd Bool.false_ne_true⟩
      · split
        · exact htail
        · split <;> exact htail
  | quoted d quote odd =>
      obtain ⟨hall, hq, hodd⟩ := h
      by_cases hc : c = quote
      · subst hc
        have heven : ¬(QuoteScan.escapes = .escapes ∧ odd = true) := fun ho => hodd ho.2 rfl
        have hnaive : ¬(QuoteScan.naive = .escapes ∧ odd = true) := fun ho =>
          QuoteScan.noConfusion ho.1
        rw [Walker.step, Walker.step, if_pos ⟨rfl, hnaive⟩, if_pos ⟨rfl, heven⟩]
        exact ⟨rfl, htail⟩
      · rw [Walker.step, Walker.step, if_neg fun hclose => hc hclose.1,
          if_neg fun hclose => hc hclose.1]
        refine ⟨rfl, htail, hq, fun hslash => ?_⟩
        obtain ⟨hslash, -⟩ := Bool.and_eq_true_iff.mp hslash
        obtain rfl := beq_iff_eq.mp hslash
        exact hall.head?_ne hq

theorem Clear.split_eq {w : Walker} {t : Text} (h : w.Clear t) :
    w.split .naive t = w.split .escapes t := by
  induction t generalizing w with
  | nil => rfl
  | cons c t ih =>
      obtain ⟨hstep, hclear⟩ := h.step
      rw [split, split, hstep, ih hclear]

theorem Clear.arrow?_eq {w : Walker} {t : Text} (h : w.Clear t) :
    w.arrow? .naive t = w.arrow? .escapes t := by
  induction t generalizing w with
  | nil => rfl
  | cons c t ih =>
      obtain ⟨hstep, hclear⟩ := h.step
      rw [arrow?, arrow?, hstep, ih hclear]

end Walker

namespace Text

/-- **Both ways find the same pieces.** -/
theorem NoEscapedQuote.pieces_agree {t : Text} (h : NoEscapedQuote t) :
    t.pieces .naive = t.pieces .escapes :=
  Walker.Clear.split_eq (w := .start) h

/-- **Both ways find the same arrow.** -/
theorem NoEscapedQuote.arrow?_agree {t : Text} (h : NoEscapedQuote t) :
    t.arrow? .naive = t.arrow? .escapes :=
  Walker.Clear.arrow?_eq (w := .start) h

end Text

end ArrayLiteral
