/-!
# Unicode — Table

A property of characters is a table over code points in ascending order.  A search can therefore
stop at the first row that begins beyond the character in question, so that the common characters,
which come first, are found at once.
-/

namespace ArrayLiteral.Unicode

/-- Whether one of the ranges `first … last` holds the code point. -/
def covers : List (Nat × Nat) → Nat → Bool
  | [], _ => false
  | (first, last) :: rows, n => if n < first then false else n ≤ last || covers rows n

/-- The row whose range holds the code point: how far into the range it lies, and the entry. -/
def rowAt {α : Type} : List (Nat × Nat × α) → Nat → Option (Nat × α)
  | [], _ => none
  | (first, last, entry) :: rows, n =>
    if n < first then none else if n ≤ last then some (n - first, entry) else rowAt rows n

/-- The entry of the code point. -/
def entryAt {α : Type} : List (Nat × α) → Nat → Option α
  | [], _ => none
  | (code, entry) :: rows, n =>
    if n < code then none else if n = code then some entry else entryAt rows n

/-- What a range table covers lies in one of its ranges. -/
theorem exists_range_of_covers {rows : List (Nat × Nat)} {n : Nat} (h : covers rows n = true) :
    ∃ row ∈ rows, row.1 ≤ n ∧ n ≤ row.2 := by
  induction rows with
  | nil => simp [covers] at h
  | cons row rows ih =>
    obtain ⟨first, last⟩ := row
    by_cases hn : n < first
    · simp [covers, hn] at h
    · simp only [covers, hn, if_false, Bool.or_eq_true, decide_eq_true_eq] at h
      rcases h with h | h
      · exact ⟨(first, last), by simp, Nat.le_of_not_lt hn, h⟩
      · obtain ⟨row, hr, hb⟩ := ih h
        exact ⟨row, List.mem_cons_of_mem _ hr, hb⟩

end ArrayLiteral.Unicode
