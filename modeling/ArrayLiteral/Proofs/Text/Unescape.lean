import ArrayLiteral.Proofs.Text.Quoting

/-!
# Proofs — Text — Unescape

`unescape` takes the backslash away from each quote that is escaped, where `escape` gives one to
each quote that is bare.  Each undoes what the other did (`escape_unescape`, `unescape_escape`), so
that two texts are escaped alike exactly if they are the same without escapes
(`quoted_eq_quoted_iff_unescape`).
-/

namespace ArrayLiteral.Text

/-- Takes the backslash before each escaped quote away; `odd` tells whether an odd number of
backslashes came just before. -/
def unescape (odd : Bool) : Text → Text
  | [] => []
  | c :: t =>
    if c = '\\' ∧ odd = false ∧ t.head? = some '\'' then unescape true t
    else c :: unescape (c == '\\' && !odd) t

theorem unescape_backslash_quote (t : Text) :
    unescape false ('\\' :: '\'' :: t) = '\'' :: unescape false t := rfl

theorem unescape_quote (odd : Bool) (t : Text) :
    unescape odd ('\'' :: t) = '\'' :: unescape false t := by
  rw [unescape, if_neg fun h => absurd h.1 (by decide)]
  rfl

theorem unescape_cons_of_not {c : Char} {odd : Bool} {t : Text}
    (h : ¬(c = '\\' ∧ odd = false ∧ t.head? = some '\'')) :
    unescape odd (c :: t) = c :: unescape (c == '\\' && !odd) t := if_neg h

/-- Behind an odd number of backslashes nothing is put before the first character. -/
theorem head?_escape_true (t : Text) : (escape true t).head? = t.head? := by
  cases t with
  | nil => rfl
  | cons c t =>
      by_cases hc : c = '\''
      · subst hc
        rfl
      · rw [escape_cons_of_ne hc]
        rfl

/-- **Escaping leaves nothing else behind.** -/
theorem unescape_escape (odd : Bool) (t : Text) : unescape odd (escape odd t) = unescape odd t := by
  induction t generalizing odd with
  | nil => rfl
  | cons c t ih =>
      by_cases hc : c = '\''
      · subst hc
        cases odd with
        | true => rw [escape_escaped_quote, unescape_quote, unescape_quote, ih]
        | false => rw [escape_quote, unescape_backslash_quote, unescape_quote, ih]
      · rw [escape_cons_of_ne hc]
        by_cases hdrop : c = '\\' ∧ odd = false ∧ t.head? = some '\''
        -- the backslash goes in both, because the quote behind it is escaped in both
        · obtain ⟨rfl, rfl, hhead⟩ := hdrop
          have hhead' : (escape true t).head? = some '\'' := (head?_escape_true t).trans hhead
          have hboth : ∀ s : Text, s.head? = some '\'' →
              unescape false ('\\' :: s) = unescape true s := fun s hs => if_pos ⟨rfl, rfl, hs⟩
          show unescape false ('\\' :: escape true t) = _
          rw [hboth _ hhead', hboth _ hhead, ih]
        · rw [unescape_cons_of_not hdrop, unescape_cons_of_not, ih]
          rintro ⟨rfl, rfl, hhead⟩
          exact hdrop ⟨rfl, rfl, (head?_escape_true t).symm.trans hhead⟩

/-- **Escaping puts every backslash back** that was taken away. -/
theorem escape_unescape (odd : Bool) (t : Text) : escape odd (unescape odd t) = escape odd t := by
  induction t generalizing odd with
  | nil => rfl
  | cons c t ih =>
      by_cases hdrop : c = '\\' ∧ odd = false ∧ t.head? = some '\''
      · obtain ⟨rfl, rfl, hhead⟩ := hdrop
        obtain ⟨rest, rfl⟩ := List.head?_eq_some_iff.mp hhead
        have hrest := ih true
        rw [unescape_quote, escape_escaped_quote, escape_escaped_quote, List.cons.injEq] at hrest
        rw [unescape_backslash_quote, escape_quote, hrest.2]
        rfl
      · rw [unescape_cons_of_not hdrop]
        by_cases hc : c = '\''
        · subst hc
          cases odd with
          | true => exact congrArg ('\'' :: ·) (ih false)
          | false => exact congrArg (fun s => '\\' :: '\'' :: s) (ih false)
        · rw [escape_cons_of_ne hc, escape_cons_of_ne hc, ih]

/-- **Written alike** are texts that are the same without escapes. -/
theorem quoted_eq_quoted_iff_unescape {s t : Text} :
    s.quoted = t.quoted ↔ unescape false s = unescape false t := by
  rw [quoted_eq_quoted_iff]
  constructor
  · intro h
    rw [← unescape_escape, h, unescape_escape]
  · intro h
    rw [← escape_unescape, h, escape_unescape]

end ArrayLiteral.Text
