import ArrayLiteral.Proofs.Collation.KeyOrder
import ArrayLiteral.Proofs.Value.Everywhere

/-!
# Proofs — Value — Sorted

A sorted value has the entries of every map in key order (`sorted_sortKeys`), and such a value is
not changed by sorting (`sortKeys_eq_self_iff`).  So sorting twice is sorting once.

Distinct keys ascend once they are sorted (`Entries.ascending_sort`), and it does not matter where
the entries stood before (`Entries.sort_eq_of_perm`).
-/

namespace ArrayLiteral

variable {order : KeyOrder}

namespace Entries

variable {α : Type}

/-- The entries are in key order. -/
def Ordered (order : KeyOrder) (m : Entries α) : Prop :=
  m.Pairwise fun a b => order.le a.1 b.1 = true

/-- **Sorted entries are in key order.** -/
theorem ordered_sort (order : KeyOrder) (m : Entries α) : Ordered order (m.sort order) :=
  @List.pairwise_mergeSort (Text × α) (fun a b => order.le a.1 b.1)
    (fun _ _ _ => KeyOrder.le_trans) (fun a b => order.le_total a.1 b.1) m

/-- Entries in key order keep their places. -/
theorem sort_of_ordered {m : Entries α} (h : Ordered order m) : m.sort order = m :=
  List.mergeSort_of_pairwise h

/-- Two entries are sorted by one comparison. -/
theorem sort_pair (order : KeyOrder) (a b : Text × α) :
    sort [a, b] order = if order.le a.1 b.1 then [a, b] else [b, a] := by
  simp [sort, List.mergeSort, List.MergeSort.Internal.splitInTwo, List.merge]

/-- **Where the entries stood before sorting does not matter**, if their keys are distinct. -/
theorem sort_eq_of_perm {m n : Entries α} (h : m.Perm n) (hm : m.Distinct) (order : KeyOrder) :
    m.sort order = n.sort order := by
  have hmem : ∀ {e}, e ∈ m.sort order → e ∈ m := (m.sort_perm order).mem_iff.mp
  have hmem' : ∀ {e}, e ∈ n.sort order → e ∈ m := fun he =>
    h.mem_iff.mpr ((n.sort_perm order).mem_iff.mp he)
  have hsame : ∀ a b, a ∈ m.sort order → b ∈ n.sort order →
      order.le a.1 b.1 = true → order.le b.1 a.1 = true → a = b := fun a b ha hb hab hba =>
    List.inj_on_of_nodup_map hm (hmem ha) (hmem' hb) (KeyOrder.le_antisymm hab hba)
  exact List.Perm.eq_of_pairwise hsame (ordered_sort order m) (ordered_sort order n)
    ((m.sort_perm order).trans (h.trans (n.sort_perm order).symm))

/-- The keys come in order, each only once. -/
def Ascending (order : KeyOrder) (m : Entries α) : Prop :=
  m.keys.Pairwise fun a b => order.compare a b = .lt

/-- Distinct keys that are sorted ascend. -/
theorem ascending_sort {m : Entries α} (hm : m.Distinct) (order : KeyOrder) :
    Ascending order (m.sort order) := by
  have hdistinct : (m.sort order).keys.Nodup :=
    ((m.sort_perm order).map Prod.fst).nodup_iff.mpr hm
  have hordered : (m.sort order).keys.Pairwise fun a b => order.le a b = true :=
    List.pairwise_map.mpr (ordered_sort order m)
  exact hordered.imp₂ (fun _ _ => KeyOrder.compare_eq_lt_of_le) hdistinct

theorem Ascending.ordered {m : Entries α} (h : Ascending order m) : Ordered order m :=
  List.pairwise_map.mp (h.imp fun hlt => KeyOrder.le_iff.mpr (Or.inl hlt))

theorem ordered_iff_keys {m : Entries α} :
    Ordered order m ↔ m.keys.Pairwise fun a b => order.le a b = true := by
  rw [keys, List.pairwise_map]
  rfl

theorem keys_sort_perm (order : KeyOrder) (m : Entries α) : (m.sort order).keys.Perm m.keys :=
  (m.sort_perm order).map Prod.fst

end Entries

namespace Value

variable {around : List Kind} {v : Value}

/-- The entries of a map are in key order. -/
def Sorted (order : KeyOrder) : Value → Prop
  | .map entries => Entries.Ordered order entries
  | _ => True

/-- **Sorting sorts every map.** -/
theorem sorted_sortKeys (order : KeyOrder) (v : Value) (around : List Kind) :
    (v.sortKeys order).Everywhere (fun _ => Sorted order) around := by
  refine everywhere_sortKeys.mpr (everywhere_of_forall (fun _ u => ?_) v around)
  cases u with
  | list items =>
      rw [sortKeys_list]
      trivial
  | map entries =>
      rw [sortKeys_map]
      exact Entries.ordered_sort order _
  | _ => trivial

/-- **Sorting changes only what is not sorted.** -/
theorem sortKeys_eq_self_iff (around : List Kind) :
    v.sortKeys order = v ↔ v.Everywhere (fun _ => Sorted order) around := by
  refine ⟨fun h => h ▸ sorted_sortKeys order v around, fun h => ?_⟩
  induction v generalizing around with
  | list items ih =>
      obtain ⟨-, hi⟩ := everywhere_list.mp h
      rw [sortKeys_list, List.map_congr_left fun u hu => ih u hu _ (hi u hu), List.map_id']
  | map entries ih =>
      obtain ⟨hnode, he⟩ := everywhere_map.mp h
      have hentry : ∀ e ∈ entries, (e.1, e.2.sortKeys order) = id e := fun e hm =>
        congrArg (Prod.mk e.1) (ih e hm _ (he e hm))
      have hmap : (entries.map fun e => (e.1, e.2.sortKeys order)) = entries :=
        (List.map_congr_left hentry).trans (List.map_id entries)
      rw [sortKeys_map, hmap, Entries.sort_of_ordered hnode]
  | _ => rfl

theorem keys_map_sortKeys (order : KeyOrder) (entries : Entries Value) :
    Entries.keys (entries.map fun e => (e.1, e.2.sortKeys order)) = entries.keys := by
  rw [Entries.keys, Entries.keys, List.map_map]
  rfl

theorem distinct_map_sortKeys {entries : Entries Value} :
    Entries.Distinct (entries.map fun e => (e.1, e.2.sortKeys order)) ↔
      Entries.Distinct entries := by
  rw [Entries.Distinct, keys_map_sortKeys]
  rfl

theorem keys_sortKeys_perm (order : KeyOrder) (entries : Entries Value) :
    (Entries.sort (entries.map fun e => (e.1, e.2.sortKeys order)) order).keys.Perm
      entries.keys :=
  (Entries.keys_sort_perm order _).trans (List.Perm.of_eq (keys_map_sortKeys order entries))

/-- The entries of a map may be given in any order. -/
theorem sortKeys_map_eq_of_perm {entries others : Entries Value} (h : entries.Perm others)
    (hdistinct : Entries.Distinct entries) (order : KeyOrder) :
    (Value.map entries).sortKeys order = (Value.map others).sortKeys order := by
  rw [sortKeys_map, sortKeys_map,
    Entries.sort_eq_of_perm (h.map _) (distinct_map_sortKeys.mpr hdistinct)]

theorem kind_sortKeys (order : KeyOrder) (v : Value) : (v.sortKeys order).kind = v.kind := by
  cases v <;> rfl

/-- Sorting twice is sorting once. -/
theorem sortKeys_sortKeys (order : KeyOrder) (v : Value) :
    (v.sortKeys order).sortKeys order = v.sortKeys order :=
  (sortKeys_eq_self_iff []).mpr (sorted_sortKeys order v [])

end Value

end ArrayLiteral
