import Mathlib.Algebra.Ring.Nat
import ArrayLiteral.Proofs.Entries.Collect

/-!
# Proofs — Entries — Weight

A reader that drops pieces, and entries that take the place of earlier ones, can only lose weight
(`sum_filterMap_le`, `Entries.sum_collect_le`).  Where no weight is lost nothing was dropped
(`map_eq_of_sum_le`) and no key came twice (`Entries.distinct_of_sum_le`).
-/

namespace ArrayLiteral

/-! ### What is kept of a list -/

section Kept

variable {α β : Type} {g : α → Option β} {f : α → Nat} {w : β → Nat}

theorem sum_filterMap_le (hg : ∀ a b, g a = some b → w b ≤ f a) (l : List α) :
    ((l.filterMap g).map w).sum ≤ (l.map f).sum := by
  induction l with
  | nil => exact Nat.le_refl 0
  | cons a l ih =>
      rw [List.map_cons, List.sum_cons]
      cases ha : g a with
      | none =>
          rw [List.filterMap_cons_none ha]
          omega
      | some b =>
          have hb := hg a b ha
          rw [List.filterMap_cons_some ha, List.map_cons, List.sum_cons]
          omega

/-- Where nothing is lost in the sum, nothing was dropped, and each part is as large as it can
be. -/
theorem map_eq_of_sum_le (hg : ∀ a b, g a = some b → w b ≤ f a) (hf : ∀ a, 0 < f a) {l : List α}
    (h : (l.map f).sum ≤ ((l.filterMap g).map w).sum) :
    l.map g = (l.filterMap g).map some ∧ (l.filterMap g).map w = l.map f := by
  induction l with
  | nil => exact ⟨rfl, rfl⟩
  | cons a l ih =>
      have hrest := sum_filterMap_le hg l
      rw [List.map_cons, List.sum_cons] at h
      cases ha : g a with
      | none =>
          have hpos := hf a
          rw [List.filterMap_cons_none ha] at h
          omega
      | some b =>
          have hb := hg a b ha
          rw [List.filterMap_cons_some ha, List.map_cons, List.sum_cons] at h
          obtain ⟨hmap, hweights⟩ := ih (by omega)
          have hba : w b = f a := by omega
          rw [List.filterMap_cons_some ha, List.map_cons, List.map_cons, List.map_cons,
            List.map_cons, ha, hmap, hweights, hba]
          exact ⟨rfl, rfl⟩

end Kept

/-! ### What is kept of pairs -/

namespace Entries

variable {α : Type}

theorem sum_insert (w : Text × α → Nat) (m : Entries α) (key : Text) (value : α) :
    ((m.insert key value).map w).sum ≤ (m.map w).sum + w (key, value) ∧
      ((∀ e, 0 < w e) → key ∈ m.keys →
        ((m.insert key value).map w).sum < (m.map w).sum + w (key, value)) := by
  induction m with
  | nil => exact ⟨by simp, fun _ h => absurd h List.not_mem_nil⟩
  | cons e m ih =>
      obtain ⟨k, v⟩ := e
      by_cases hk : k = key
      · subst hk
        rw [insert_cons_self, List.map_cons, List.map_cons, List.sum_cons, List.sum_cons]
        refine ⟨by omega, fun hpos _ => ?_⟩
        have hold := hpos (k, v)
        omega
      · rw [insert_cons_of_ne hk, List.map_cons, List.map_cons, List.sum_cons, List.sum_cons]
        refine ⟨by omega, fun hpos h => ?_⟩
        have hm : key ∈ keys m := by
          rcases List.mem_cons.mp h with he | hm
          · exact absurd he.symm hk
          · exact hm
        have hlt := ih.2 hpos hm
        omega

theorem sum_putAll_le (w : Text × α → Nat) (m : Entries α) (pairs : List (Text × α)) :
    ((m.putAll pairs).map w).sum ≤ (m.map w).sum + (pairs.map w).sum := by
  induction pairs generalizing m with
  | nil => exact Nat.le_add_right _ _
  | cons pair pairs ih =>
      obtain ⟨key, value⟩ := pair
      have hrest := ih (m.insert key value)
      have hfirst := (sum_insert w m key value).1
      rw [putAll_cons, List.map_cons, List.sum_cons]
      dsimp only
      omega

/-- Collecting makes no sum larger. -/
theorem sum_collect_le (w : Text × α → Nat) (pairs : List (Text × α)) :
    ((collect pairs).map w).sum ≤ (pairs.map w).sum :=
  Nat.le_trans (sum_putAll_le w [] pairs) (by simp)

theorem distinct_append_of_sum_le {w : Text × α → Nat} (hw : ∀ e, 0 < w e) {m : Entries α}
    {pairs : List (Text × α)} (hm : m.Distinct)
    (h : (m.map w).sum + (pairs.map w).sum ≤ ((m.putAll pairs).map w).sum) :
    Distinct (m ++ pairs) := by
  induction pairs generalizing m with
  | nil => rwa [List.append_nil]
  | cons pair pairs ih =>
      obtain ⟨key, value⟩ := pair
      have hrest := sum_putAll_le w (m.insert key value) pairs
      rw [putAll_cons, List.map_cons, List.sum_cons] at h
      dsimp only at h
      -- a key that is present would lose the weight of its old value
      have hk : key ∉ m.keys := fun hk => by
        have hlt := (sum_insert w m key value).2 hw hk
        omega
      have hsum := (sum_insert w m key value).1
      have hdistinct := ih (distinct_insert hm key value) (by omega)
      rw [insert_of_not_mem hk, List.append_assoc] at hdistinct
      exact hdistinct

/-- **Where collecting makes a sum no smaller**, the keys were distinct. -/
theorem distinct_of_sum_le {w : Text × α → Nat} (hw : ∀ e, 0 < w e) {pairs : List (Text × α)}
    (h : (pairs.map w).sum ≤ ((collect pairs).map w).sum) : Distinct pairs :=
  distinct_append_of_sum_le hw (m := []) List.nodup_nil (by simpa [collect_eq_putAll] using h)

end Entries

end ArrayLiteral
