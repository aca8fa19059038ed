import Mathlib.Data.List.Nodup
import ArrayLiteral.Entries.Basic

/-!
# Proofs — Entries — Collect

Collecting pairs makes entries whose keys are distinct (`distinct_collect`) and are the keys of the
pairs (`mem_keys_collect`); each entry is one of the pairs (`mem_of_mem_collect`).  Pairs whose keys
are distinct are collected as they are (`collect_of_distinct`).

Distinct keys and the value of each are all there is to entries, but for their places
(`perm_of_keys_perm`).

Values are only carried along: they can be changed before or after they are collected
(`collect_map`).
-/

namespace ArrayLiteral.Entries

variable {α : Type}

theorem keys_cons (e : Text × α) (m : Entries α) : keys (e :: m) = e.1 :: m.keys := rfl

theorem mem_keys_of_mem {m : Entries α} {e : Text × α} (h : e ∈ m) : e.1 ∈ m.keys :=
  List.mem_map_of_mem h

theorem exists_of_mem_keys {m : Entries α} {k : Text} (h : k ∈ m.keys) : ∃ v, (k, v) ∈ m := by
  obtain ⟨⟨l, v⟩, hv, rfl⟩ := List.mem_map.mp h
  exact ⟨v, hv⟩

/-- A key has one value. -/
theorem eq_of_mem_of_mem {m : Entries α} (hm : m.Distinct) {k : Text} {v w : α}
    (hv : (k, v) ∈ m) (hw : (k, w) ∈ m) : v = w :=
  congrArg Prod.snd (List.inj_on_of_nodup_map hm hv hw rfl)

/-! ### The same entries -/

theorem mem_of_keys_perm {m n : Entries α} (hkeys : n.keys.Perm m.keys)
    (hvalue : ∀ k v w, (k, v) ∈ m → (k, w) ∈ n → v = w) {e : Text × α} (he : e ∈ m) : e ∈ n := by
  obtain ⟨k, v⟩ := e
  obtain ⟨w, hw⟩ := exists_of_mem_keys (hkeys.mem_iff.mpr (mem_keys_of_mem he))
  obtain rfl := hvalue k v w he hw
  exact hw

/-- Entries with the same distinct keys are the same entries if each key has the same value. -/
theorem perm_of_keys_perm {m n : Entries α} (hm : m.Distinct) (hkeys : n.keys.Perm m.keys)
    (hvalue : ∀ k v w, (k, v) ∈ m → (k, w) ∈ n → v = w) : m.Perm n := by
  have hn : n.Distinct := hkeys.nodup_iff.mpr hm
  refine (List.perm_ext_iff_of_nodup (.of_map _ hm) (.of_map _ hn)).mpr fun e => ?_
  exact ⟨mem_of_keys_perm hkeys hvalue,
    mem_of_keys_perm hkeys.symm fun k w v hw hv => (hvalue k v w hv hw).symm⟩

/-! ### One entry -/

/-- A new key goes to the end. -/
theorem insert_of_not_mem {m : Entries α} {key : Text} (h : key ∉ m.keys) (value : α) :
    m.insert key value = m ++ [(key, value)] := by
  induction m with
  | nil => rfl
  | cons e m ih =>
      obtain ⟨k, v⟩ := e
      rw [keys_cons, List.mem_cons, not_or] at h
      rw [insert_cons_of_ne (Ne.symm h.1), ih h.2]
      rfl

/-- A key that is present keeps its place. -/
theorem keys_insert_of_mem {m : Entries α} {key : Text} (h : key ∈ m.keys) (value : α) :
    (m.insert key value).keys = m.keys := by
  induction m with
  | nil => cases h
  | cons e m ih =>
      obtain ⟨k, v⟩ := e
      by_cases hk : k = key
      · subst hk
        rw [insert_cons_self, keys_cons, keys_cons]
      · have hm : key ∈ keys m := by
          rcases List.mem_cons.mp h with he | hm
          · exact absurd he.symm hk
          · exact hm
        rw [insert_cons_of_ne hk, keys_cons, keys_cons, ih hm]

theorem mem_keys_insert {m : Entries α} {key : Text} {value : α} {k : Text} :
    k ∈ (m.insert key value).keys ↔ k = key ∨ k ∈ m.keys := by
  by_cases hk : key ∈ m.keys
  · rw [keys_insert_of_mem hk, or_iff_right_of_imp]
    rintro rfl
    exact hk
  · rw [insert_of_not_mem hk, keys, List.map_append, List.mem_append, or_comm]
    exact or_congr List.mem_singleton Iff.rfl

theorem mem_insert {m : Entries α} {key : Text} {value : α} {e : Text × α}
    (h : e ∈ m.insert key value) : e = (key, value) ∨ e ∈ m := by
  induction m with
  | nil => exact Or.inl (List.mem_singleton.mp h)
  | cons f m ih =>
      obtain ⟨k, v⟩ := f
      by_cases hk : k = key
      · subst hk
        rw [insert_cons_self] at h
        rcases List.mem_cons.mp h with he | hm
        · exact Or.inl he
        · exact Or.inr (List.mem_cons_of_mem _ hm)
      · rw [insert_cons_of_ne hk] at h
        rcases List.mem_cons.mp h with he | hm
        · exact Or.inr (he ▸ List.mem_cons_self)
        · exact (ih hm).imp_right (List.mem_cons_of_mem _)

theorem distinct_insert {m : Entries α} (h : m.Distinct) (key : Text) (value : α) :
    (m.insert key value).Distinct := by
  by_cases hk : key ∈ m.keys
  · rw [Distinct, keys_insert_of_mem hk]
    exact h
  · rw [Distinct, insert_of_not_mem hk, keys, List.map_append]
    exact List.nodup_append.mpr ⟨h, List.nodup_singleton _, by
      intro a ha b hb hab
      obtain rfl := List.mem_singleton.mp hb
      exact hk (hab ▸ ha)⟩

/-! ### Pairs in turn -/

/-- The entries after pairs were put in. -/
def putAll (m : Entries α) (pairs : List (Text × α)) : Entries α :=
  pairs.foldl (fun m pair => m.insert pair.1 pair.2) m

theorem collect_eq_putAll (pairs : List (Text × α)) : collect pairs = putAll [] pairs := rfl

theorem putAll_cons (m : Entries α) (pair : Text × α) (pairs : List (Text × α)) :
    m.putAll (pair :: pairs) = (m.insert pair.1 pair.2).putAll pairs := rfl

theorem distinct_putAll {m : Entries α} (h : m.Distinct) (pairs : List (Text × α)) :
    (m.putAll pairs).Distinct := by
  induction pairs generalizing m with
  | nil => exact h
  | cons pair pairs ih => exact ih (distinct_insert h _ _)

/-- **Collected keys are distinct.** -/
theorem distinct_collect (pairs : List (Text × α)) : (collect pairs).Distinct :=
  distinct_putAll (m := []) List.nodup_nil pairs

theorem mem_putAll {m : Entries α} {pairs : List (Text × α)} {e : Text × α}
    (h : e ∈ m.putAll pairs) : e ∈ pairs ∨ e ∈ m := by
  induction pairs generalizing m with
  | nil => exact Or.inr h
  | cons pair pairs ih =>
      rcases ih h with hp | hm
      · exact Or.inl (List.mem_cons_of_mem _ hp)
      · rcases mem_insert hm with he | hm
        · exact Or.inl (he ▸ List.mem_cons_self)
        · exact Or.inr hm

/-- **Each entry that is collected is one of the pairs.** -/
theorem mem_of_mem_collect {pairs : List (Text × α)} {e : Text × α} (h : e ∈ collect pairs) :
    e ∈ pairs :=
  (mem_putAll (m := []) h).resolve_right List.not_mem_nil

theorem mem_keys_putAll {m : Entries α} {pairs : List (Text × α)} {k : Text} :
    k ∈ (m.putAll pairs).keys ↔ k ∈ m.keys ∨ k ∈ keys pairs := by
  induction pairs generalizing m with
  | nil => exact (or_iff_left List.not_mem_nil).symm
  | cons pair pairs ih =>
      rw [putAll_cons, ih, mem_keys_insert, keys_cons, List.mem_cons, or_assoc, or_left_comm]

/-- **Every key is collected.** -/
theorem mem_keys_collect {pairs : List (Text × α)} {k : Text} :
    k ∈ (collect pairs).keys ↔ k ∈ keys pairs :=
  (mem_keys_putAll (m := [])).trans (or_iff_right List.not_mem_nil)

theorem collect_ne_nil {pairs : List (Text × α)} (h : pairs ≠ []) : collect pairs ≠ [] := by
  obtain ⟨pair, rest, rfl⟩ := List.exists_cons_of_ne_nil h
  intro hnil
  have hk : pair.1 ∈ (collect (pair :: rest)).keys := mem_keys_collect.mpr List.mem_cons_self
  rw [hnil] at hk
  exact List.not_mem_nil hk

theorem putAll_of_distinct {m pairs : Entries α} (h : (m ++ pairs).Distinct) :
    m.putAll pairs = m ++ pairs := by
  induction pairs generalizing m with
  | nil => exact (List.append_nil m).symm
  | cons pair pairs ih =>
      have hk : pair.1 ∉ keys m := by
        intro hm
        have hn : (keys m ++ pair.1 :: keys pairs).Nodup := by simpa [Distinct, keys] using h
        exact (List.nodup_append.mp hn).2.2 _ hm _ List.mem_cons_self rfl
      -- the pair joins the entries that the rest is put into
      have he : m ++ pair :: pairs = m ++ [pair] ++ pairs := by simp
      rw [putAll_cons, insert_of_not_mem hk, ih (by rw [← he]; exact h), he]

/-- **Pairs with distinct keys** are collected as they are. -/
theorem collect_of_distinct {pairs : Entries α} (h : pairs.Distinct) : collect pairs = pairs :=
  putAll_of_distinct (m := []) h

/-! ### Values carried along -/

section Map

variable {β : Type} (f : α → β)

theorem insert_map (m : Entries α) (key : Text) (value : α) :
    insert (m.map fun e => (e.1, f e.2)) key (f value) =
      (m.insert key value).map fun e => (e.1, f e.2) := by
  induction m with
  | nil => rfl
  | cons e m ih =>
      obtain ⟨k, v⟩ := e
      by_cases hk : k = key
      · subst hk
        rw [insert_cons_self, List.map_cons, List.map_cons, insert_cons_self]
      · rw [insert_cons_of_ne hk, List.map_cons, List.map_cons, insert_cons_of_ne hk, ih]

theorem putAll_map (m : Entries α) (pairs : List (Text × α)) :
    putAll (m.map fun e => (e.1, f e.2)) (pairs.map fun e => (e.1, f e.2)) =
      (m.putAll pairs).map fun e => (e.1, f e.2) := by
  induction pairs generalizing m with
  | nil => rfl
  | cons pair pairs ih => rw [List.map_cons, putAll_cons, insert_map, ih, putAll_cons]

/-- **Which values are collected** does not depend on what they are. -/
theorem collect_map (pairs : List (Text × α)) :
    collect (pairs.map fun e => (e.1, f e.2)) = (collect pairs).map fun e => (e.1, f e.2) :=
  putAll_map f [] pairs

end Map

end ArrayLiteral.Entries
