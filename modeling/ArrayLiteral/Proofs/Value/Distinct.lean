import ArrayLiteral.Proofs.Entries.Lookup
import ArrayLiteral.Proofs.Value.Reordered

/-!
# Proofs — Value — Distinct

Values in which no map has a key twice, at any depth (`Unrepeated`).  Sorting, taking out and
putting in keep that (`Unrepeated.sortKeys`, `Unrepeated.get?`, `Unrepeated.insert`).
-/

namespace ArrayLiteral.Value

variable {around : List Kind} {v : Value} {items : List Value} {entries : Entries Value}
  {key : Text}

/-- What does not ask for the arrays around holds in all others too. -/
theorem Everywhere.anywhere {node : Value → Prop} (h : v.Everywhere (fun _ => node) around)
    (others : List Kind) : v.Everywhere (fun _ => node) others := by
  induction v generalizing around others with
  | list items ih =>
      obtain ⟨hhere, hi⟩ := everywhere_list.mp h
      exact everywhere_list.mpr ⟨hhere, fun u hu => ih u hu (hi u hu) _⟩
  | map entries ih =>
      obtain ⟨hhere, he⟩ := everywhere_map.mp h
      exact everywhere_map.mpr ⟨hhere, fun e hm => ih e hm (he e hm) _⟩
  | _ => exact h

/-- No map of the value has a key twice, at any depth. -/
def Unrepeated (v : Value) : Prop := v.Everywhere (fun _ => DistinctKeys) []

theorem unrepeated_list_iff : (Value.list items).Unrepeated ↔ ∀ v ∈ items, v.Unrepeated := by
  rw [Unrepeated, everywhere_list]
  constructor
  · rintro ⟨-, h⟩ v hv
    exact (h v hv).anywhere []
  · intro h
    exact ⟨trivial, fun v hv => (h v hv).anywhere _⟩

theorem unrepeated_map_iff :
    (Value.map entries).Unrepeated ↔
      Entries.Distinct entries ∧ ∀ e ∈ entries, e.2.Unrepeated := by
  rw [Unrepeated, everywhere_map]
  refine and_congr_right fun _ => forall₂_congr fun e he => ?_
  exact ⟨fun h => h.anywhere [], fun h => h.anywhere _⟩

/-- A value that is no array has no keys. -/
theorem unrepeated_of_scalar (hlist : v.kind ≠ .list) (hmap : v.kind ≠ .map) : v.Unrepeated := by
  cases v with
  | list items => exact absurd rfl hlist
  | map entries => exact absurd rfl hmap
  | _ => trivial

theorem Unrepeated.sortKeys (h : v.Unrepeated) (order : KeyOrder) :
    (v.sortKeys order).Unrepeated :=
  (sortedForm_of_distinctKeys h).distinctKeys h

theorem Unrepeated.get? (h : (Value.map entries).Unrepeated) (hv : entries.get? key = some v) :
    v.Unrepeated := by
  obtain ⟨hdistinct, hvalues⟩ := unrepeated_map_iff.mp h
  exact hvalues (key, v) ((Entries.get?_eq_some_iff hdistinct).mp hv)

theorem Unrepeated.insert (h : (Value.map entries).Unrepeated) (key : Text) (hv : v.Unrepeated) :
    (Value.map (Entries.insert entries key v)).Unrepeated := by
  obtain ⟨hdistinct, hvalues⟩ := unrepeated_map_iff.mp h
  refine unrepeated_map_iff.mpr ⟨Entries.distinct_insert hdistinct key v, fun e he => ?_⟩
  rcases Entries.mem_insert he with rfl | hm
  · exact hv
  · exact hvalues e hm

end ArrayLiteral.Value
