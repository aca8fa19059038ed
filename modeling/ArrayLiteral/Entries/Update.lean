import ArrayLiteral.Entries.Basic

/-!
# Entries — Update

Everything that can be done to the entries of a map, and runs of it.
-/

namespace ArrayLiteral.Entries

variable {α : Type}

/-- A change of the entries. -/
inductive Update (α : Type) where
  /-- Start again without entries; the room foreseen for them cannot be seen. -/
  | fresh (room : Nat)
  /-- Start again with the entries of these pairs. -/
  | collect (pairs : List (Text × α))
  | insert (key : Text) (value : α)
  | sort (order : KeyOrder)
  /-- Change every value. -/
  | mapValues (f : Text → α → α)
  /-- Turn the order of the entries around. -/
  | reverse

namespace Update

/-- The entries after a change. -/
def apply (m : Entries α) : Update α → Entries α
  | .fresh _ => []
  | .collect pairs => Entries.collect pairs
  | .insert key value => m.insert key value
  | .sort order => Entries.sort m order
  | .mapValues f => Entries.mapValues f m
  | .reverse => Entries.collect (List.reverse m)

/-- The entries after a run of changes. -/
def run (m : Entries α) (updates : List (Update α)) : Entries α := updates.foldl apply m

end Update

end ArrayLiteral.Entries
