import ArrayLiteral.Proofs.Value.Everywhere

/-!
# Proofs — Value — Height

The height of a value is the number of arrays that lie in each other in it: a scalar has none, and
an empty array has one.  A bound on the height of an array is a bound on the heights of its elements
(`height_list_le_iff`, `height_map_le_iff`).
-/

namespace ArrayLiteral.Value

mutual

/-- How many arrays lie in each other. -/
def height : Value → Nat
  | .list items => heightItems items + 1
  | .map entries => heightEntries entries + 1
  | _ => 0

/-- The greatest height of the elements of a list. -/
def heightItems : List Value → Nat
  | [] => 0
  | v :: rest => max (height v) (heightItems rest)

/-- The greatest height of the values of the entries of a map. -/
def heightEntries : List (Text × Value) → Nat
  | [] => 0
  | (_, v) :: rest => max (height v) (heightEntries rest)

end

variable {n : Nat}

theorem height_list_le_iff {items : List Value} :
    (Value.list items).height ≤ n + 1 ↔ ∀ v ∈ items, v.height ≤ n := by
  rw [height, Nat.add_le_add_iff_right]
  induction items with
  | nil => simp [heightItems]
  | cons v rest ih => rw [heightItems, Nat.max_le, ih, List.forall_mem_cons]

theorem height_map_le_iff {entries : Entries Value} :
    (Value.map entries).height ≤ n + 1 ↔ ∀ e ∈ entries, e.2.height ≤ n := by
  rw [height, Nat.add_le_add_iff_right]
  induction entries with
  | nil => simp [heightEntries]
  | cons e rest ih =>
      obtain ⟨k, v⟩ := e
      rw [heightEntries, Nat.max_le, ih, List.forall_mem_cons]

end ArrayLiteral.Value
