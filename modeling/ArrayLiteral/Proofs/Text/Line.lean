import ArrayLiteral.Proofs.Text.Trim
import ArrayLiteral.Text.Line

/-!
# Proofs — Text — Line

Line ends.  What `chomp` takes off the end of a text is one line end (`chomp_cases`).  What
`firstLine` keeps of its beginning is its `FirstLine`, which is told by how the text goes on: not at
all, with a line feed, or with a carriage return and a line feed (`firstLine_eq_iff`).
-/

namespace ArrayLiteral.Text

variable {t : Text}

/-! ### The end of a text -/

theorem dropFinal?_concat (c : Char) (s : Text) : dropFinal? c (s ++ [c]) = some s := by
  simp [dropFinal?]

theorem eq_of_dropFinal? {c : Char} {s : Text} (h : dropFinal? c t = some s) : t = s ++ [c] := by
  unfold dropFinal? at h
  split at h
  · rename_i hlast
    obtain ⟨u, rfl⟩ := List.getLast?_eq_some_iff.mp hlast
    simpa using h
  · cases h

theorem dropFinal?_eq_none {c : Char} (h : t.getLast? ≠ some c) : dropFinal? c t = none :=
  if_neg h

theorem dropReturn_concat (s : Text) : dropReturn (s ++ ['\r']) = s := by
  rw [dropReturn, dropFinal?_concat, Option.getD_some]

theorem dropReturn_cases (t : Text) : t = t.dropReturn ∨ t = t.dropReturn ++ ['\r'] := by
  unfold dropReturn
  cases h : dropFinal? '\r' t with
  | none => exact Or.inl rfl
  | some s => exact Or.inr (eq_of_dropFinal? h)

theorem dropReturn_of_getLast? (h : t.getLast? ≠ some '\r') : t.dropReturn = t := by
  rw [dropReturn, dropFinal?_eq_none h, Option.getD_none]

/-- What `chomp` takes off is one line end. -/
theorem chomp_cases (t : Text) :
    t = t.chomp ∨ t = t.chomp ++ ['\n'] ∨ t = t.chomp ++ ['\r', '\n'] := by
  cases h : dropFinal? '\n' t with
  | none => exact Or.inl (by rw [chomp, h])
  | some s =>
      obtain rfl := eq_of_dropFinal? h
      rw [chomp_append_lineFeed]
      rcases dropReturn_cases s with hs | hs
      · exact Or.inr (Or.inl (by rw [← hs]))
      · refine Or.inr (Or.inr ?_)
        calc s ++ ['\n'] = s.dropReturn ++ ['\r'] ++ ['\n'] := by rw [← hs]
          _ = s.dropReturn ++ ['\r', '\n'] := List.append_assoc _ _ _

theorem chomp_of_getLast? (h : t.getLast? ≠ some '\n') : t.chomp = t := by
  rw [chomp, dropFinal?_eq_none h]

/-! ### The first line -/

/-- `FirstLine t line`: a text begins with a line, and the line ends with the text or with the first
line feed.  A carriage return right before a line feed is part of the line end. -/
inductive FirstLine : Text → Text → Prop where
  | whole {line : Text} (h : '\n' ∉ line) : FirstLine line line
  | lineFeed {line : Text} (rest : Text) (h : '\n' ∉ line) (hr : line.getLast? ≠ some '\r') :
      FirstLine (line ++ '\n' :: rest) line
  | returned {line : Text} (rest : Text) (h : '\n' ∉ line) :
      FirstLine (line ++ '\r' :: '\n' :: rest) line

theorem firstLine_append {s : Text} (h : '\n' ∉ s) (rest : Text) :
    firstLine (s ++ '\n' :: rest) = s.dropReturn := by
  have hs : ∀ c ∈ s, decide (c ≠ '\n') = true := fun c hc =>
    decide_eq_true fun hn => h (hn ▸ hc)
  have hline : (s ++ '\n' :: rest).takeWhile (· ≠ '\n') = s := by
    rw [List.takeWhile_append_of_pos hs, List.takeWhile_cons_of_neg (by decide), List.append_nil]
  rw [firstLine, if_pos (by simp), hline]

/-- **The first line** is what `firstLine` keeps. -/
theorem firstLine_eq_iff {line : Text} : t.firstLine = line ↔ FirstLine t line := by
  constructor
  · rintro rfl
    by_cases hn : '\n' ∈ t
    · obtain ⟨s, rest, rfl, hs⟩ := List.eq_append_cons_of_mem hn
      rw [firstLine_append hs]
      by_cases hr : s.getLast? = some '\r'
      · obtain ⟨line, rfl⟩ := List.getLast?_eq_some_iff.mp hr
        rw [dropReturn_concat, List.append_assoc]
        exact .returned rest fun h => hs (List.mem_append_left _ h)
      · rw [dropReturn_of_getLast? hr]
        exact .lineFeed rest hs hr
    · rw [firstLine, if_neg hn]
      exact .whole hn
  · intro h
    cases h with
    | whole h => rw [firstLine, if_neg h]
    | lineFeed rest h hr => rw [firstLine_append h, dropReturn_of_getLast? hr]
    | returned rest h =>
        have hs : '\n' ∉ line ++ ['\r'] := by simpa using h
        rw [List.append_cons, firstLine_append hs, dropReturn_concat]

/-- A text that begins with no blank has a first line that is not empty. -/
theorem FirstLine.ne_nil {line : Text} (h : FirstLine t line) (ht : t ≠ [])
    (hhead : ∀ c, t.head? = some c → isBlank c = false) : line ≠ [] := by
  rintro rfl
  cases h with
  | whole => exact ht rfl
  | lineFeed rest => exact absurd (hhead '\n' rfl) (by decide)
  | returned rest => exact absurd (hhead '\r' rfl) (by decide)

end ArrayLiteral.Text
