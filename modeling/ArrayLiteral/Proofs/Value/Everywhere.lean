import Mathlib.Logic.Basic
import ArrayLiteral.Value.Sort

/-!
# Proofs — Value — Everywhere

`v.Everywhere p around` says that `p` holds of `v` and of every value in it.  Each time `p` is told
which arrays lie around: their kinds, the innermost first.  So a property of whole values is given
by what it asks of one node.

Such a property goes up and down the value by `everywhere_list` and `everywhere_map`, and what it
says of a sorted value it says of the nodes, each sorted (`everywhere_sortKeys`).
-/

namespace ArrayLiteral.Value

/-- Induction on a value: a list by its elements, a map by the values of its entries. -/
@[elab_as_elim, induction_eliminator]
theorem induction {motive : Value → Prop} (null : motive .null) (bool : ∀ b, motive (.bool b))
    (number : ∀ n, motive (.number n)) (string : ∀ s, motive (.string s))
    (list : ∀ items, (∀ v ∈ items, motive v) → motive (.list items))
    (map : ∀ entries : Entries Value, (∀ e ∈ entries, motive e.2) → motive (.map entries))
    (raw : ∀ r, motive (.raw r)) : ∀ v, motive v
  | .null => null
  | .bool b => bool b
  | .number n => number n
  | .string s => string s
  | .list items => list items fun v _ =>
      induction null bool number string list map raw v
  | .map entries => map entries fun e _ =>
      induction null bool number string list map raw e.2
  | .raw r => raw r
termination_by v => sizeOf v
decreasing_by
  · have := List.sizeOf_lt_of_mem ‹v ∈ items›
    simp only [Value.list.sizeOf_spec]
    omega
  · have := List.sizeOf_lt_of_mem ‹e ∈ entries›
    have he : sizeOf e = 1 + sizeOf e.1 + sizeOf e.2 := by cases e; rfl
    simp only [Value.map.sizeOf_spec]
    omega

mutual

/-- A property of a value and of every value in it, which is told the kinds of the arrays around,
the innermost first. -/
def Everywhere (p : List Kind → Value → Prop) (around : List Kind) : Value → Prop
  | .list items => p around (.list items) ∧ EverywhereItems p (.list :: around) items
  | .map entries => p around (.map entries) ∧ EverywhereEntries p (.map :: around) entries
  | v => p around v

/-- A property of every value in the elements of a list. -/
def EverywhereItems (p : List Kind → Value → Prop) (around : List Kind) : List Value → Prop
  | [] => True
  | v :: rest => Everywhere p around v ∧ EverywhereItems p around rest

/-- A property of every value in the entries of a map. -/
def EverywhereEntries (p : List Kind → Value → Prop) (around : List Kind) :
    List (Text × Value) → Prop
  | [] => True
  | (_, v) :: rest => Everywhere p around v ∧ EverywhereEntries p around rest

end

variable {p q : List Kind → Value → Prop} {around : List Kind} {v : Value}

theorem everywhereItems_iff {items : List Value} :
    EverywhereItems p around items ↔ ∀ v ∈ items, v.Everywhere p around := by
  induction items with
  | nil => simp [EverywhereItems]
  | cons v rest ih => simp [EverywhereItems, ih]

theorem everywhereEntries_iff {entries : Entries Value} :
    EverywhereEntries p around entries ↔ ∀ e ∈ entries, e.2.Everywhere p around := by
  induction entries with
  | nil => simp [EverywhereEntries]
  | cons e rest ih =>
      obtain ⟨k, v⟩ := e
      simp only [EverywhereEntries, ih, List.forall_mem_cons]

theorem everywhere_list {items : List Value} :
    (Value.list items).Everywhere p around ↔
      p around (.list items) ∧ ∀ v ∈ items, v.Everywhere p (.list :: around) := by
  rw [Everywhere, everywhereItems_iff]

theorem everywhere_map {entries : Entries Value} :
    (Value.map entries).Everywhere p around ↔
      p around (.map entries) ∧ ∀ e ∈ entries, e.2.Everywhere p (.map :: around) := by
  rw [Everywhere, everywhereEntries_iff]

theorem Everywhere.here (h : v.Everywhere p around) : p around v := by
  cases v with
  | list items => exact (everywhere_list.mp h).1
  | map entries => exact (everywhere_map.mp h).1
  | _ => exact h

/-- What holds of all values holds everywhere. -/
theorem everywhere_of_forall (h : ∀ around u, p around u) (v : Value) (around : List Kind) :
    v.Everywhere p around := by
  induction v generalizing around with
  | list items ih => exact everywhere_list.mpr ⟨h _ _, fun u hu => ih u hu _⟩
  | map entries ih => exact everywhere_map.mpr ⟨h _ _, fun e he => ih e he _⟩
  | _ => exact h around _

/-- What follows at each node follows everywhere. -/
theorem Everywhere.imp (h : v.Everywhere p around) (hpq : ∀ around u, p around u → q around u) :
    v.Everywhere q around := by
  induction v generalizing around with
  | list items ih =>
      obtain ⟨hp, hi⟩ := everywhere_list.mp h
      exact everywhere_list.mpr ⟨hpq _ _ hp, fun u hu => ih u hu (hi u hu)⟩
  | map entries ih =>
      obtain ⟨hp, he⟩ := everywhere_map.mp h
      exact everywhere_map.mpr ⟨hpq _ _ hp, fun e hm => ih e hm (he e hm)⟩
  | _ => exact hpq _ _ h

theorem Everywhere.and (hp : v.Everywhere p around) (hq : v.Everywhere q around) :
    v.Everywhere (fun around u => p around u ∧ q around u) around := by
  induction v generalizing around with
  | list items ih =>
      obtain ⟨hp, hi⟩ := everywhere_list.mp hp
      obtain ⟨hq, hj⟩ := everywhere_list.mp hq
      exact everywhere_list.mpr ⟨⟨hp, hq⟩, fun u hu => ih u hu (hi u hu) (hj u hu)⟩
  | map entries ih =>
      obtain ⟨hp, he⟩ := everywhere_map.mp hp
      obtain ⟨hq, hf⟩ := everywhere_map.mp hq
      exact everywhere_map.mpr ⟨⟨hp, hq⟩, fun e hm => ih e hm (he e hm) (hf e hm)⟩
  | _ => exact ⟨hp, hq⟩

/-- Properties that agree at each node agree everywhere. -/
theorem Everywhere.congr (h : v.Everywhere (fun around u => p around u ↔ q around u) around) :
    v.Everywhere p around ↔ v.Everywhere q around := by
  constructor
  · intro hp
    exact (h.and hp).imp fun _ _ ⟨hiff, hnode⟩ => hiff.mp hnode
  · intro hq
    exact (h.and hq).imp fun _ _ ⟨hiff, hnode⟩ => hiff.mpr hnode

mutual

/-- A property that can be decided at each node can be decided everywhere. -/
instance decidableEverywhere [∀ around u, Decidable (p around u)] (around : List Kind) :
    ∀ v : Value, Decidable (v.Everywhere p around)
  | .list items =>
      have := decidableEverywhereItems (.list :: around) items
      inferInstanceAs (Decidable (_ ∧ _))
  | .map entries =>
      have := decidableEverywhereEntries (.map :: around) entries
      inferInstanceAs (Decidable (_ ∧ _))
  | .null | .bool _ | .number _ | .string _ | .raw _ => inferInstanceAs (Decidable (p around _))

instance decidableEverywhereItems [∀ around u, Decidable (p around u)] (around : List Kind) :
    ∀ items : List Value, Decidable (EverywhereItems p around items)
  | [] => .isTrue trivial
  | v :: rest =>
      have := decidableEverywhere around v
      have := decidableEverywhereItems around rest
      inferInstanceAs (Decidable (_ ∧ _))

instance decidableEverywhereEntries [∀ around u, Decidable (p around u)] (around : List Kind) :
    ∀ entries : List (Text × Value), Decidable (EverywhereEntries p around entries)
  | [] => .isTrue trivial
  | (_, v) :: rest =>
      have := decidableEverywhere around v
      have := decidableEverywhereEntries around rest
      inferInstanceAs (Decidable (_ ∧ _))

end

/-! ### Sorting -/

theorem sortKeys_list (order : KeyOrder) (items : List Value) :
    (Value.list items).sortKeys order = .list (items.map (sortKeys order)) := by
  rw [sortKeys, sortItems_eq_map]

theorem sortKeys_map (order : KeyOrder) (entries : Entries Value) :
    (Value.map entries).sortKeys order =
      .map (Entries.sort (entries.map fun e => (e.1, e.2.sortKeys order)) order) := by
  rw [sortKeys, sortValues_eq_map]

/-- **A property of a sorted value** is a property of its nodes, each sorted. -/
theorem everywhere_sortKeys {order : KeyOrder} :
    (v.sortKeys order).Everywhere p around ↔
      v.Everywhere (fun around u => p around (u.sortKeys order)) around := by
  induction v generalizing around with
  | list items ih =>
      rw [everywhere_list, sortKeys_list, everywhere_list, List.forall_mem_map]
      exact and_congr_right fun _ => forall₂_congr fun u hu => ih u hu
  | map entries ih =>
      have hmem : ∀ e, e ∈ Entries.sort (entries.map fun e => (e.1, e.2.sortKeys order)) order ↔
          e ∈ entries.map fun e => (e.1, e.2.sortKeys order) := fun e =>
        (Entries.sort_perm _ order).mem_iff
      rw [everywhere_map, sortKeys_map, everywhere_map]
      simp only [hmem, List.forall_mem_map]
      exact and_congr_right fun _ => forall₂_congr fun e he => ih e he
  | _ => exact Iff.rfl

end ArrayLiteral.Value
