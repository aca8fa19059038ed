import ArrayLiteral.Value.Basic

/-!
# Value — Sort

Sorting a value sorts the entries of every map in it by key, at every depth.  Lists keep the order
of their elements, and scalars stay as they are.
-/

namespace ArrayLiteral.Value

mutual

/-- Sorts every map of a value by key. -/
def sortKeys (order : KeyOrder) : Value → Value
  | .list items => .list (sortItems order items)
  | .map entries => .map (Entries.sort (sortValues order entries) order)
  | v => v

/-- Sorts every map of each element. -/
def sortItems (order : KeyOrder) : List Value → List Value
  | [] => []
  | item :: rest => sortKeys order item :: sortItems order rest

/-- Sorts every map of the value of each entry. -/
def sortValues (order : KeyOrder) : List (Text × Value) → List (Text × Value)
  | [] => []
  | (key, value) :: rest => (key, sortKeys order value) :: sortValues order rest

end

theorem sortItems_eq_map (order : KeyOrder) (items : List Value) :
    sortItems order items = items.map (sortKeys order) := by
  induction items with
  | nil => rfl
  | cons item rest ih => simp [sortItems, ih]

theorem sortValues_eq_map (order : KeyOrder) (entries : List (Text × Value)) :
    sortValues order entries = entries.map fun (key, value) => (key, sortKeys order value) := by
  induction entries with
  | nil => rfl
  | cons entry rest ih => simp [sortValues, ih]

end ArrayLiteral.Value
