import ArrayLiteral.Collation.KeyOrder

/-!
# Entries — Basic

The entries of a map in their order.  A key occurs once: a new key goes to the end, and a key that
is present keeps its place and takes the new value.  Sorting changes places only.
-/

namespace ArrayLiteral

/-- Keys with their values, in map order. -/
abbrev Entries (α : Type) := List (Text × α)

namespace Entries

variable {α : Type}

/-- The keys, in map order. -/
def keys (m : Entries α) : List Text := m.map Prod.fst

/-- The values, in map order. -/
def values (m : Entries α) : List α := m.map Prod.snd

/-- The value of a key. -/
def get? (m : Entries α) (key : Text) : Option α :=
  match m with
  | [] => none
  | (k, v) :: rest => if k = key then some v else get? rest key

/-- Whether a key is present. -/
def contains (m : Entries α) (key : Text) : Bool := m.keys.contains key

/-- Gives a key a value, and answers the value that the key had. -/
def put (m : Entries α) (key : Text) (value : α) : Option α × Entries α :=
  match m with
  | [] => (none, [(key, value)])
  | (k, v) :: rest =>
    if k = key then (some v, (k, value) :: rest)
    else
      let (old, rest) := put rest key value
      (old, (k, v) :: rest)

/-- Gives a key a value. -/
def insert (m : Entries α) (key : Text) (value : α) : Entries α := (m.put key value).2

/-- The entries of a sequence of pairs, where the last value of a key counts. -/
def collect (pairs : List (Text × α)) : Entries α :=
  pairs.foldl (fun m pair => m.insert pair.1 pair.2) []

/-- Changes every value. -/
def mapValues (f : Text → α → α) (m : Entries α) : Entries α := m.map fun (k, v) => (k, f k v)

/-- The entries sorted by key. -/
def sort (m : Entries α) (order : KeyOrder) : Entries α :=
  m.mergeSort fun a b => order.le a.1 b.1

/-- No key occurs twice. -/
def Distinct (m : Entries α) : Prop := m.keys.Nodup

/-- The answer of `put` is what the key had. -/
theorem put_fst (m : Entries α) (key : Text) (value : α) :
    (m.put key value).1 = m.get? key := by
  induction m with
  | nil => rfl
  | cons entry rest ih =>
    obtain ⟨k, v⟩ := entry
    by_cases h : k = key <;> simp [put, get?, h, ih]

@[simp] theorem insert_nil (key : Text) (value : α) :
    insert [] key value = [(key, value)] := rfl

theorem insert_cons_self (key : Text) (v value : α) (rest : Entries α) :
    insert ((key, v) :: rest) key value = (key, value) :: rest := by
  simp [insert, put]

theorem insert_cons_of_ne {k key : Text} (h : k ≠ key) (v value : α) (rest : Entries α) :
    insert ((k, v) :: rest) key value = (k, v) :: insert rest key value := by
  simp [insert, put, h]

/-- Sorting keeps the entries. -/
theorem sort_perm (m : Entries α) (order : KeyOrder) : (m.sort order).Perm m :=
  List.mergeSort_perm m _

end Entries

end ArrayLiteral
