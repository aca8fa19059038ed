import ArrayLiteral.Text.Blank

/-!
# Literal — Quoted

Strings and keys are written between single quotes.  A quote inside gets a backslash, unless an odd
number of backslashes stands before it already; nothing else changes.
-/

namespace ArrayLiteral.Text

/-- Puts a backslash before each bare quote; `odd` tells whether an odd number of backslashes came
just before. -/
def escape (odd : Bool) : Text → Text
  | [] => []
  | c :: rest =>
    if c = '\'' then
      if odd then c :: escape false rest else '\\' :: c :: escape false rest
    else c :: escape (c == '\\' && !odd) rest

/-- A text between single quotes. -/
def quoted (t : Text) : Text := '\'' :: escape false t ++ ['\'']

/-- A text without quotes stays as it is. -/
theorem escape_of_not_mem {t : Text} (h : '\'' ∉ t) (odd : Bool) : escape odd t = t := by
  induction t generalizing odd with
  | nil => rfl
  | cons c rest ih =>
    simp only [List.mem_cons, not_or] at h
    simp [escape, Ne.symm h.1, ih h.2]

end ArrayLiteral.Text
