import ArrayLiteral.Text.Blank

/-!
# Text — Line

Lines end with a line feed, and a carriage return right before that belongs to the line end.  In
a layout by levels a line begins with a number of spaces per level.
-/

namespace ArrayLiteral.Text

/-- The text without `c` at its end, if that is how it ends. -/
def dropFinal? (c : Char) (t : Text) : Option Text :=
  if t.getLast? = some c then some t.dropLast else none

/-- The text without one carriage return at its end. -/
def dropReturn (t : Text) : Text := (t.dropFinal? '\r').getD t

/-- The text without one line end at its end. -/
def chomp (t : Text) : Text :=
  match t.dropFinal? '\n' with
  | some line => line.dropReturn
  | none => t

/-- The text up to its first line end. -/
def firstLine (t : Text) : Text :=
  if '\n' ∈ t then dropReturn (t.takeWhile (· ≠ '\n')) else t

/-- A line feed, and the spaces of a level. -/
def lineBreak (indent level : Nat) : Text := '\n' :: List.replicate (indent * level) ' '

/-- A line feed is taken off, and so is a carriage return before it. -/
theorem chomp_append_lineFeed (t : Text) : chomp (t ++ ['\n']) = t.dropReturn := by
  simp [chomp, dropFinal?]

/-- No line feed is left in a first line. -/
theorem lineFeed_not_mem_firstLine (t : Text) : '\n' ∉ t.firstLine := by
  unfold firstLine
  split
  · intro h
    have hs : dropReturn (t.takeWhile (· ≠ '\n')) ⊆ t.takeWhile (· ≠ '\n') := by
      intro x hx
      unfold dropReturn dropFinal? at hx
      split at hx
      · exact List.dropLast_subset _ hx
      · exact hx
    have := List.all_takeWhile (p := fun c : Char => decide (c ≠ '\n')) (l := t)
    simpa using List.all_eq_true.1 this _ (hs h)
  · assumption

end ArrayLiteral.Text
