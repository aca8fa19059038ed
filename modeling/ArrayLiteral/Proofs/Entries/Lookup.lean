import ArrayLiteral.Proofs.Entries.Collect

/-!
# Proofs — Entries — Lookup

What is found under a key after each operation.  A key has a value exactly if it is among the keys
(`get?_eq_none_iff`); giving a key a value changes what is found under this key only
(`get?_insert`); and of collected pairs the last one with a key is found (`get?_collect`), at the
place of the first one (`keys_collect`).

What is found does not depend on the places of entries whose keys are distinct (`get?_eq_of_perm`),
and with the keys in order it is all there is to them (`eq_of_keys_eq`).
-/

namespace ArrayLiteral.Entries

variable {α : Type} {m n : Entries α} {key : Text}

theorem get?_nil (key : Text) : get? ([] : Entries α) key = none := rfl

theorem get?_cons (e : Text × α) (m : Entries α) (key : Text) :
    get? (e :: m) key = if e.1 = key then some e.2 else m.get? key := rfl

theorem get?_append (m n : Entries α) (key : Text) :
    get? (m ++ n) key = (m.get? key).or (n.get? key) := by
  induction m with
  | nil => rfl
  | cons e m ih =>
      rw [List.cons_append, get?_cons, get?_cons, ih]
      by_cases he : e.1 = key <;> simp [he]

/-! ### Keys that are found -/

theorem get?_eq_none_iff : m.get? key = none ↔ key ∉ m.keys := by
  induction m with
  | nil => simp [get?, keys]
  | cons e m ih =>
      rw [get?_cons, keys_cons, List.mem_cons, not_or, ← ih]
      by_cases he : e.1 = key
      · simp [he]
      · simp [he, Ne.symm he]

theorem contains_eq_false_iff : m.contains key = false ↔ m.get? key = none := by
  rw [get?_eq_none_iff, contains]
  simp

/-- What is found under a key is its one value. -/
theorem get?_eq_some_iff (hm : m.Distinct) {value : α} :
    m.get? key = some value ↔ (key, value) ∈ m := by
  induction m with
  | nil => simp [get?]
  | cons e m ih =>
      obtain ⟨k, v⟩ := e
      obtain ⟨hk, hrest⟩ : k ∉ keys m ∧ Distinct m := List.nodup_cons.mp hm
      rw [get?_cons, List.mem_cons, Prod.mk.injEq, ← ih hrest]
      by_cases he : k = key
      · subst he
        have hnone : get? m k = none := get?_eq_none_iff.mpr hk
        simp [hnone, eq_comm]
      · simp [he, Ne.symm he]

/-- **Places do not matter** to what is found. -/
theorem get?_eq_of_perm (hm : m.Distinct) (h : m.Perm n) (key : Text) :
    n.get? key = m.get? key := by
  have hn : n.Distinct := (h.map Prod.fst).nodup_iff.mp hm
  refine Option.ext fun value => ?_
  rw [get?_eq_some_iff hm, get?_eq_some_iff hn, h.mem_iff]

/-- **Keys in order and what is found** under them is all there is to entries. -/
theorem eq_of_keys_eq (hn : n.Distinct) (hkeys : m.keys = n.keys)
    (hvalue : ∀ key, m.get? key = n.get? key) : m = n := by
  induction m generalizing n with
  | nil =>
      cases n with
      | nil => rfl
      | cons e n => cases hkeys
  | cons e m ih =>
      cases n with
      | nil => cases hkeys
      | cons f n =>
          obtain ⟨k, v⟩ := e
          obtain ⟨l, w⟩ := f
          rw [keys_cons, keys_cons] at hkeys
          obtain ⟨rfl, hrest⟩ : k = l ∧ keys m = keys n := List.cons.inj hkeys
          obtain ⟨hk, hdistinct⟩ : k ∉ keys n ∧ Distinct n := List.nodup_cons.mp hn
          obtain rfl : v = w := by simpa [get?_cons] using hvalue k
          refine congrArg _ (ih hdistinct hrest fun key => ?_)
          by_cases he : k = key
          · -- the key occurs nowhere behind this entry, on either side
            subst he
            rw [get?_eq_none_iff.mpr hk, get?_eq_none_iff.mpr (hrest ▸ hk)]
          · simpa [get?_cons, he] using hvalue key

/-! ### After an operation -/

/-- **Giving a key a value** changes what is found under this key, and nothing else. -/
theorem get?_insert (m : Entries α) (k key : Text) (value : α) :
    (m.insert k value).get? key = if k = key then some value else m.get? key := by
  induction m with
  | nil => rfl
  | cons e m ih =>
      obtain ⟨l, v⟩ := e
      by_cases hl : l = k
      · subst hl
        rw [insert_cons_self, get?_cons, get?_cons]
        by_cases hk : l = key <;> simp [hk]
      · rw [insert_cons_of_ne hl, get?_cons, get?_cons, ih]
        by_cases hk : l = key
        · subst hk
          simp [Ne.symm hl]
        · simp [hk]

theorem get?_mapValues (f : Text → α → α) (m : Entries α) (key : Text) :
    (m.mapValues f).get? key = (m.get? key).map (f key) := by
  induction m with
  | nil => rfl
  | cons e m ih =>
      obtain ⟨k, v⟩ := e
      have hcons : mapValues f ((k, v) :: m) = (k, f k v) :: mapValues f m := rfl
      rw [hcons, get?_cons, get?_cons, ih]
      by_cases hk : k = key
      · subst hk
        simp
      · simp [hk]

theorem keys_mapValues (f : Text → α → α) (m : Entries α) : (m.mapValues f).keys = m.keys := by
  simp [keys, mapValues, Function.comp_def]

/-- A value of a key that is present takes the place of the old one, and all else stays. -/
theorem insert_eq_map (hm : m.Distinct) (h : key ∈ m.keys) (value : α) :
    m.insert key value = m.map fun e => if e.1 = key then (key, value) else e := by
  induction m with
  | nil => cases h
  | cons e m ih =>
      obtain ⟨k, v⟩ := e
      obtain ⟨hk, hrest⟩ : k ∉ keys m ∧ Distinct m := List.nodup_cons.mp hm
      by_cases he : k = key
      · subst he
        -- the key occurs nowhere behind this entry
        have hsame : m.map (fun e => if e.1 = k then (k, value) else e) = m := by
          refine (List.map_congr_left fun e he => ?_).trans (List.map_id m)
          have hne : e.1 ≠ k := by
            rintro rfl
            exact hk (mem_keys_of_mem he)
          rw [if_neg hne, id]
        simp [insert_cons_self, hsame]
      · have hm : key ∈ keys m := by
          simpa [keys_cons, Ne.symm he] using h
        simp [insert_cons_of_ne he, ih hrest hm, he]

/-! ### After pairs in turn -/

theorem get?_putAll (m : Entries α) (pairs : List (Text × α)) (key : Text) :
    (m.putAll pairs).get? key = (get? pairs.reverse key).or (m.get? key) := by
  induction pairs generalizing m with
  | nil => rfl
  | cons pair pairs ih =>
      rw [putAll_cons, ih, get?_insert, List.reverse_cons, get?_append, Option.or_assoc, get?_cons]
      by_cases hk : pair.1 = key <;> simp [hk, get?]

/-- **Of the pairs with a key** the last one is found. -/
theorem get?_collect (pairs : List (Text × α)) (key : Text) :
    (collect pairs).get? key = get? pairs.reverse key := by
  rw [collect_eq_putAll, get?_putAll, get?_nil, Option.or_none]

theorem keys_putAll (m : Entries α) (pairs : List (Text × α)) :
    (m.putAll pairs).keys = m.keys ++ ((keys pairs).removeAll m.keys).eraseDups := by
  induction pairs generalizing m with
  | nil => simp [putAll, keys]
  | cons pair pairs ih =>
      rw [putAll_cons, ih, keys_cons]
      by_cases hk : pair.1 ∈ m.keys
      · rw [keys_insert_of_mem hk]
        simp [List.removeAll, hk]
      · have hkeys : (m.insert pair.1 pair.2).keys = m.keys ++ [pair.1] := by
          rw [insert_of_not_mem hk, keys, List.map_append]
          rfl
        rw [hkeys]
        simp [List.removeAll, hk, List.eraseDups_cons, Bool.and_comm, beq_eq_decide]

/-- **Keys are collected** in the order in which they first occur. -/
theorem keys_collect (pairs : List (Text × α)) : (collect pairs).keys = (keys pairs).eraseDups := by
  rw [collect_eq_putAll, keys_putAll]
  simp [keys, List.removeAll]

end ArrayLiteral.Entries
