import ArrayLiteral.Literal.Printer
import ArrayLiteral.Proofs.Entries.Collect
import ArrayLiteral.Proofs.Value.Sorted

/-!
# Proofs — Value — Reordered

Two values are *reordered* forms of each other when only the entries of their maps stand in other
places, at whatever depth: the lists keep their elements in place, the maps keep their keys, each
with its value, and all else is the same (`Reordered`).  The *sorted form* of a value is a reordered
one in which the keys of every map ascend (`SortedForm`).

Sorting needs the keys of every map to be distinct, and nothing else.

* What `sortKeys` yields is the sorted form, and there is only one (`sortedForm_sortKeys`).
* Values that are reordered forms of each other sort to the same value, so that what was sorted
  before, in whichever order, leaves no trace (`sortKeys_reordered`).
-/

namespace ArrayLiteral

variable {order : KeyOrder}

namespace Value

variable {around : List Kind} {v w : Value}

/-! ### Other places for the entries -/

/-- The second value is the first with the entries of each map in some places, of which `p`
holds. -/
inductive Rearranged (p : Entries Value → Prop) : Value → Value → Prop where
  /-- What is neither a list nor a map stays as it is. -/
  | scalar {v : Value} (hlist : v.kind ≠ .list) (hmap : v.kind ≠ .map) : Rearranged p v v
  /-- The elements of a list stay in their places. -/
  | list {items others : List Value} (length : others.length = items.length)
      (item : ∀ i (hi : i < items.length) (ho : i < others.length),
        Rearranged p items[i] others[i]) : Rearranged p (.list items) (.list others)
  /-- The keys of a map stay, and each stays with its value. -/
  | map {entries others : Entries Value} (places : p others)
      (keys : (Entries.keys others).Perm (Entries.keys entries))
      (value : ∀ k v w, (k, v) ∈ entries → (k, w) ∈ others → Rearranged p v w) :
      Rearranged p (.map entries) (.map others)

/-- The values differ at most in the order of the entries of their maps. -/
def Reordered : Value → Value → Prop := Rearranged fun _ => True

/-- The second value is the first with the entries of each map in key order. -/
def SortedForm (order : KeyOrder) : Value → Value → Prop := Rearranged (Entries.Ascending order)

/-- No map has a key twice. -/
def DistinctKeys : Value → Prop
  | .map entries => Entries.Distinct entries
  | _ => True

instance : ∀ v : Value, Decidable v.DistinctKeys
  | .map entries => inferInstanceAs (Decidable (Entries.keys entries).Nodup)
  | .null | .bool _ | .number _ | .string _ | .list _ | .raw _ => .isTrue trivial

namespace Rearranged

variable {p q : Entries Value → Prop}

theorem mono (hpq : ∀ m, p m → q m) (h : Rearranged p v w) : Rearranged q v w := by
  induction h with
  | scalar hlist hmap => exact .scalar hlist hmap
  | list length _ ih => exact .list length ih
  | map places keys _ ih => exact .map (hpq _ places) keys ih

/-- What each node hands on to its rearranged form holds everywhere in the rearranged value. -/
theorem everywhere {node image : Value → Prop}
    (hnode : ∀ u t, Rearranged p u t → node u → image t) (h : Rearranged p v w)
    (hv : v.Everywhere (fun _ => node) around) : w.Everywhere (fun _ => image) around := by
  induction h generalizing around with
  | @scalar v hlist hmap =>
      cases v with
      | list items => exact absurd rfl hlist
      | map entries => exact absurd rfl hmap
      | _ => exact hnode _ _ (.scalar hlist hmap) hv
  | @list items others length item ih =>
      obtain ⟨hhere, hi⟩ := everywhere_list.mp hv
      refine everywhere_list.mpr ⟨hnode _ _ (.list length item) hhere, fun u hu => ?_⟩
      obtain ⟨i, ho, rfl⟩ := List.mem_iff_getElem.mp hu
      exact ih i (length ▸ ho) ho (hi _ (List.getElem_mem _))
  | @map entries others places keys value ih =>
      obtain ⟨hhere, he⟩ := everywhere_map.mp hv
      refine everywhere_map.mpr ⟨hnode _ _ (.map places keys value) hhere, ?_⟩
      rintro ⟨k, w⟩ hw
      obtain ⟨v, hv⟩ := Entries.exists_of_mem_keys (keys.mem_iff.mp (Entries.mem_keys_of_mem hw))
      exact ih k v w hv hw (he (k, v) hv)

/-- Rearranging keeps the keys distinct. -/
theorem distinctKeys (h : Rearranged p v w) (hv : v.Everywhere (fun _ => DistinctKeys) around) :
    w.Everywhere (fun _ => DistinctKeys) around := by
  refine h.everywhere (fun u t ht hu => ?_) hv
  cases ht with
  | scalar => exact hu
  | list => trivial
  | map _ keys _ => exact keys.nodup_iff.mpr hu

end Rearranged

theorem SortedForm.reordered (h : SortedForm order v w) : Reordered v w :=
  Rearranged.mono (fun _ _ => trivial) h

/-- A sorted form is sorted. -/
theorem SortedForm.sortKeys_eq (h : SortedForm order v w) : w.sortKeys order = w := by
  have hall : v.Everywhere (fun _ _ => True) [] := everywhere_of_forall (fun _ _ => trivial) v []
  refine (sortKeys_eq_self_iff []).mpr (Rearranged.everywhere (fun u t ht _ => ?_) h hall)
  cases ht with
  | scalar _ hmap =>
      cases u with
      | map entries => exact absurd rfl hmap
      | _ => trivial
  | list => trivial
  | map places => exact Entries.Ascending.ordered places

/-! ### Sorting -/

/-- Sorting puts the entries of each map in key order and changes nothing else. -/
theorem sortedForm_of_distinctKeys (h : v.Everywhere (fun _ => DistinctKeys) around) :
    SortedForm order v (v.sortKeys order) := by
  induction v generalizing around with
  | list items ih =>
      obtain ⟨-, hi⟩ := everywhere_list.mp h
      rw [sortKeys_list]
      refine .list (List.length_map _) fun i hlt _ => ?_
      have hm : items[i] ∈ items := List.getElem_mem hlt
      rw [List.getElem_map]
      exact ih _ hm (hi _ hm)
  | map entries ih =>
      obtain ⟨hdistinct, he⟩ := everywhere_map.mp h
      rw [sortKeys_map]
      refine .map (Entries.ascending_sort (distinct_map_sortKeys.mpr hdistinct) order)
        (keys_sortKeys_perm order entries) ?_
      -- a sorted entry is the image of an entry, which is the one with its key
      intro k v w hv hw
      obtain ⟨e, hm, heq⟩ := List.mem_map.mp ((Entries.sort_perm _ order).mem_iff.mp hw)
      cases heq
      obtain rfl := Entries.eq_of_mem_of_mem hdistinct hv hm
      exact ih e hm (he e hm)
  | _ => exact .scalar nofun nofun

/-- Where the entries stood before sorting does not matter, at any depth. -/
theorem Reordered.sortKeys_eq (h : Reordered v w) (hv : v.Everywhere (fun _ => DistinctKeys) around)
    (order : KeyOrder) : v.sortKeys order = w.sortKeys order := by
  unfold Reordered at h
  -- by the way in which `w` was rearranged: the values of a map sort alike, and then its entries do
  induction h generalizing around with
  | scalar => rfl
  | @list items others length _ ih =>
      obtain ⟨-, hi⟩ := everywhere_list.mp hv
      rw [sortKeys_list, sortKeys_list]
      refine congrArg _ (List.ext_getElem (by simp [length]) fun i h₁ h₂ => ?_)
      rw [List.length_map] at h₁ h₂
      rw [List.getElem_map, List.getElem_map]
      exact ih i h₁ h₂ (hi _ (List.getElem_mem h₁))
  | @map entries others _ keys _ ih =>
      obtain ⟨hdistinct, he⟩ := everywhere_map.mp hv
      have hmap : Entries.Distinct (entries.map fun e => (e.1, e.2.sortKeys order)) :=
        distinct_map_sortKeys.mpr hdistinct
      have hperm : (entries.map fun e => (e.1, e.2.sortKeys order)).Perm
          (others.map fun e => (e.1, e.2.sortKeys order)) := by
        refine Entries.perm_of_keys_perm hmap ?_ ?_
        · rw [keys_map_sortKeys, keys_map_sortKeys]
          exact keys
        · intro k v w hv hw
          obtain ⟨⟨k, v⟩, hm, heq⟩ := List.mem_map.mp hv
          cases heq
          obtain ⟨⟨k, w⟩, hf, heq⟩ := List.mem_map.mp hw
          cases heq
          exact ih k v w hm hf (he (k, v) hm)
      rw [sortKeys_map, sortKeys_map, Entries.sort_eq_of_perm hperm hmap]

/-! ### Main results -/

/-- **Sorting yields the sorted form**, and a value has no other. -/
theorem sortedForm_sortKeys (order : KeyOrder) (h : v.Everywhere (fun _ => DistinctKeys) []) :
    SortedForm order v (v.sortKeys order) ∧
      ∀ w, SortedForm order v w → w = v.sortKeys order := by
  refine ⟨sortedForm_of_distinctKeys h, fun w hw => ?_⟩
  calc w = w.sortKeys order := hw.sortKeys_eq.symm
    _ = v.sortKeys order := (hw.reordered.sortKeys_eq h order).symm

/-- A map in a list in a map. -/
theorem sortedForm_sortKeys_nested :
    let v : Value := .map [(['b'], .list [.map [(['y'], .null), (['x'], .bool true)], .raw ['f']]),
      (['B'], .string ['s']), (['a'], .map [])]
    v.Everywhere (fun _ => DistinctKeys) [] ∧
      SortedForm .locale v (v.sortKeys .locale) ∧
        ∀ w, SortedForm .locale v w → w = v.sortKeys .locale := by
  intro v
  have hdistinct : v.Everywhere (fun _ => DistinctKeys) [] := by decide
  exact ⟨hdistinct, sortedForm_sortKeys .locale hdistinct⟩

/-- **Sorting is canonical.**  Values that differ only in the order of the entries of their maps
sort to one value, with one literal at every level and indent; sorting again changes nothing, and
of two sorts the last one counts. -/
theorem sortKeys_reordered (h : Reordered v w) (hv : v.Everywhere (fun _ => DistinctKeys) [])
    (order : KeyOrder) :
    v.sortKeys order = w.sortKeys order ∧
      (∀ indent level,
        (v.sortKeys order).render indent level = (w.sortKeys order).render indent level) ∧
      (v.sortKeys order).sortKeys order = v.sortKeys order ∧
      ∀ before, (v.sortKeys before).sortKeys order = v.sortKeys order := by
  have hsame : v.sortKeys order = w.sortKeys order := h.sortKeys_eq hv order
  have hlast : ∀ before, (v.sortKeys before).sortKeys order = v.sortKeys order := fun before =>
    ((sortedForm_of_distinctKeys hv).reordered.sortKeys_eq hv order).symm
  refine ⟨hsame, fun indent level => ?_, hlast order, hlast⟩
  rw [hsame]

/-- Entries change places in a map and in a map in a list of it. -/
theorem sortKeys_reordered_nested :
    let pair : Entries Value := [(['y'], .null), (['x'], .bool true)]
    let v : Value := .map [(['b'], .list [.map pair, .raw ['f']]), (['a'], .string ['s'])]
    let w : Value := .map [(['a'], .string ['s']), (['b'], .list [.map pair.reverse, .raw ['f']])]
    (Reordered v w ∧ v.Everywhere (fun _ => DistinctKeys) []) ∧
      v.sortKeys .locale = w.sortKeys .locale ∧
        (∀ indent level,
          (v.sortKeys .locale).render indent level = (w.sortKeys .locale).render indent level) ∧
        (v.sortKeys .locale).sortKeys .locale = v.sortKeys .locale ∧
        ∀ before, (v.sortKeys before).sortKeys .locale = v.sortKeys .locale := by
  intro pair v w
  have hpair : Reordered (.map pair) (.map pair.reverse) := by
    refine .map trivial (by decide) fun k v w hv hw => ?_
    simp only [pair, List.reverse_cons, List.reverse_nil, List.nil_append, List.cons_append,
      List.mem_cons, Prod.mk.injEq, List.not_mem_nil, or_false] at hv hw
    rcases hv with ⟨rfl, rfl⟩ | ⟨rfl, rfl⟩ <;> rcases hw with ⟨hk, rfl⟩ | ⟨hk, rfl⟩
    · cases hk
    · exact .scalar nofun nofun
    · exact .scalar nofun nofun
    · cases hk
  have hlist : Reordered (.list [.map pair, .raw ['f']]) (.list [.map pair.reverse, .raw ['f']]) :=
    .list rfl fun
      | 0, _, _ => hpair
      | 1, _, _ => .scalar nofun nofun
  have hreordered : Reordered v w := by
    refine .map trivial (by decide) fun k v w hv hw => ?_
    simp only [List.mem_cons, Prod.mk.injEq, List.not_mem_nil, or_false] at hv hw
    rcases hv with ⟨rfl, rfl⟩ | ⟨rfl, rfl⟩ <;> rcases hw with ⟨hk, rfl⟩ | ⟨hk, rfl⟩
    · cases hk
    · exact hlist
    · exact .scalar nofun nofun
    · cases hk
  have hdistinct : v.Everywhere (fun _ => DistinctKeys) [] := by decide
  exact ⟨⟨hreordered, hdistinct⟩, sortKeys_reordered hreordered hdistinct .locale⟩

end Value

end ArrayLiteral
