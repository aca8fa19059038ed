import Mathlib.Data.List.Perm.Subperm
import ArrayLiteral.Proofs.Entries.Lookup
import ArrayLiteral.Proofs.Value.Reordered
import ArrayLiteral.Value.Equality

/-!
# Proofs — Value — Equality

Equality looks at maps from one side: it counts the entries of both and looks up the keys of the
first in the second.  Since keys are distinct this is the same as to ask for the same keys with
equal values (`equal_map_iff`).  So two values are equal exactly if, once sorted, they are
*aligned*, that is, agree position by position (`equal_iff_aligned`).

Alignment has no sides, it is transitive, and a value without NaNs is aligned with itself.  Equality
has the same laws for that reason (`equal_iff_sorted_agree`).
-/

namespace ArrayLiteral

/-! ### Numbers -/

namespace Binary64

variable {x y z : Binary64}

theorem equal_iff : x.equal y = true ↔
    x.isNaN = false ∧ y.isNaN = false ∧ (x = y ∨ x.isZero = true ∧ y.isZero = true) := by
  simp [equal, and_assoc]

theorem equal_self (h : x.isNaN = false) : x.equal x = true := equal_iff.mpr ⟨h, h, Or.inl rfl⟩

theorem equal_symm (h : x.equal y = true) : y.equal x = true := by
  obtain ⟨hx, hy, hsame⟩ := equal_iff.mp h
  exact equal_iff.mpr ⟨hy, hx, hsame.imp Eq.symm And.symm⟩

theorem equal_trans (hxy : x.equal y = true) (hyz : y.equal z = true) : x.equal z = true := by
  obtain ⟨hx, -, hsame⟩ := equal_iff.mp hxy
  obtain ⟨-, hz, hsame'⟩ := equal_iff.mp hyz
  refine equal_iff.mpr ⟨hx, hz, ?_⟩
  rcases hsame with rfl | ⟨hx0, hy0⟩
  · exact hsame'
  · rcases hsame' with rfl | ⟨-, hz0⟩
    · exact Or.inr ⟨hx0, hy0⟩
    · exact Or.inr ⟨hx0, hz0⟩

end Binary64

variable {order : KeyOrder}

/-! ### Entries with the same keys -/

namespace Entries

variable {α : Type} {m n : Entries α}

/-- Sorted entries have the same keys in the same places if they have the same keys at all. -/
theorem keys_sort_eq_iff :
    (m.sort order).keys = (n.sort order).keys ↔ n.keys.Perm m.keys := by
  constructor
  · intro h
    exact (keys_sort_perm order n).symm.trans (h ▸ keys_sort_perm order m)
  · intro h
    have hsame : ∀ a b, a ∈ (m.sort order).keys → b ∈ (n.sort order).keys →
        order.le a b = true → order.le b a = true → a = b := fun a b _ _ => KeyOrder.le_antisymm
    exact List.Perm.eq_of_pairwise hsame (ordered_iff_keys.mp (ordered_sort order m))
      (ordered_iff_keys.mp (ordered_sort order n))
      ((keys_sort_perm order m).trans (h.symm.trans (keys_sort_perm order n).symm))

/-- Where the keys are the same, what holds place by place holds key by key. -/
theorem forall_getElem_iff {r : α → α → Prop} (hm : m.Distinct) (hkeys : m.keys = n.keys) :
    (∀ i (hi : i < m.length) (hj : i < n.length), r m[i].2 n[i].2) ↔
      ∀ k v w, (k, v) ∈ m → (k, w) ∈ n → r v w := by
  have hkey : ∀ i (hi : i < m.length) (hj : i < n.length), m[i].1 = n[i].1 := fun i hi hj => by
    have hi' : i < m.keys.length := by rwa [keys, List.length_map]
    have hj' : i < n.keys.length := by rwa [keys, List.length_map]
    have hget : m.keys[i] = n.keys[i] := by simp only [hkeys]
    simpa [keys] using hget
  constructor
  · intro h k v w hv hw
    obtain ⟨i, hi, he⟩ := List.mem_iff_getElem.mp hv
    have hj : i < n.length := by
      have hlength := congrArg List.length hkeys
      rw [keys, keys, List.length_map, List.length_map] at hlength
      omega
    -- the key stands in this place on both sides, and only once
    have hn : n.Distinct := by rwa [Distinct, ← hkeys]
    have hplace : (k, n[i].2) ∈ n := by
      have hk : n[i].1 = k := by rw [← hkey i hi hj, he]
      exact hk ▸ List.getElem_mem hj
    obtain rfl := eq_of_mem_of_mem hn hw hplace
    have hr := h i hi hj
    rwa [he] at hr
  · intro h i hi hj
    refine h m[i].1 _ _ (List.getElem_mem hi) ?_
    rw [hkey i hi hj]
    exact List.getElem_mem hj

end Entries

namespace Value

variable {around : List Kind} {u v w : Value}

/-! ### Position by position -/

/-- The values agree position by position.  Floats agree by value, and all other scalars only with
themselves. -/
inductive Aligned : Value → Value → Prop where
  | null : Aligned .null .null
  | bool (b : Bool) : Aligned (.bool b) (.bool b)
  | integer (i : Int64) : Aligned (.number (.integer i)) (.number (.integer i))
  | float {x y : Binary64} (h : x.equal y = true) :
      Aligned (.number (.float x)) (.number (.float y))
  | string (s : Text) : Aligned (.string s) (.string s)
  | list {items others : List Value} (length : items.length = others.length)
      (item : ∀ i (hi : i < items.length) (hj : i < others.length), Aligned items[i] others[i]) :
      Aligned (.list items) (.list others)
  | map {entries others : Entries Value} (keys : Entries.keys entries = Entries.keys others)
      (value : ∀ i (hi : i < entries.length) (hj : i < others.length),
        Aligned entries[i].2 others[i].2) : Aligned (.map entries) (.map others)
  | raw (r : Text) : Aligned (.raw r) (.raw r)

/-- A number is not a NaN. -/
def NaNFree : Value → Prop
  | .number (.float x) => x.isNaN = false
  | _ => True

instance : ∀ v : Value, Decidable v.NaNFree
  | .number (.float x) => inferInstanceAs (Decidable (x.isNaN = false))
  | .number (.integer _) => .isTrue trivial
  | .null | .bool _ | .string _ | .list _ | .map _ | .raw _ => .isTrue trivial

theorem aligned_number_iff {m n : Number} :
    Aligned (.number m) (.number n) ↔ m.equal n = true := by
  constructor
  · intro h
    cases h with
    | integer i => exact beq_self_eq_true i
    | float h => exact h
  · intro h
    cases m with
    | integer i =>
        cases n with
        | integer j =>
            obtain rfl : i = j := eq_of_beq h
            exact .integer i
        | float y => cases h
    | float x =>
        cases n with
        | integer j => cases h
        | float y => exact .float h

theorem aligned_list_iff {items others : List Value} :
    Aligned (.list items) (.list others) ↔ items.length = others.length ∧
      ∀ i (hi : i < items.length) (hj : i < others.length), Aligned items[i] others[i] := by
  refine ⟨fun h => ?_, fun ⟨length, item⟩ => .list length item⟩
  cases h with
  | list length item => exact ⟨length, item⟩

theorem aligned_map_iff {entries others : Entries Value} :
    Aligned (.map entries) (.map others) ↔ Entries.keys entries = Entries.keys others ∧
      ∀ i (hi : i < entries.length) (hj : i < others.length),
        Aligned entries[i].2 others[i].2 := by
  refine ⟨fun h => ?_, fun ⟨keys, value⟩ => .map keys value⟩
  cases h with
  | map keys value => exact ⟨keys, value⟩

theorem Aligned.kind_eq (h : Aligned v w) : v.kind = w.kind := by
  cases h <;> rfl

theorem Aligned.symm (h : Aligned v w) : Aligned w v := by
  induction h with
  | float h => exact .float (Binary64.equal_symm h)
  | list length _ ih => exact .list length.symm fun i hj hi => ih i hi hj
  | map keys _ ih => exact .map keys.symm fun i hj hi => ih i hi hj
  | null => exact .null
  | bool b => exact .bool b
  | integer i => exact .integer i
  | string s => exact .string s
  | raw r => exact .raw r

theorem Aligned.trans (hvw : Aligned v w) (hwu : Aligned w u) : Aligned v u := by
  induction hvw generalizing u with
  | float h =>
      cases hwu with
      | float h' => exact .float (Binary64.equal_trans h h')
  | list length _ ih =>
      cases hwu with
      | list length' item' =>
          exact .list (length.trans length') fun i hi hk =>
            ih i hi (length ▸ hi) (item' i (length ▸ hi) hk)
  | @map entries others keys _ ih =>
      cases hwu with
      | map keys' value' =>
          have hlength : entries.length = others.length := by
            simpa [Entries.keys] using congrArg List.length keys
          exact .map (keys.trans keys') fun i hi hk =>
            ih i hi (hlength ▸ hi) (value' i (hlength ▸ hi) hk)
  | null | bool | integer | string | raw => exact hwu

/-- Without NaNs, a value agrees with itself. -/
theorem aligned_self (h : v.Everywhere (fun _ => NaNFree) around) : Aligned v v := by
  induction v generalizing around with
  | null => exact .null
  | bool b => exact .bool b
  | number n =>
      cases n with
      | integer i => exact .integer i
      | float x => exact .float (Binary64.equal_self h)
  | string s => exact .string s
  | list items ih =>
      obtain ⟨-, hi⟩ := everywhere_list.mp h
      refine .list rfl fun i hlt _ => ?_
      have hm : items[i] ∈ items := List.getElem_mem hlt
      exact ih _ hm (hi _ hm)
  | map entries ih =>
      obtain ⟨-, he⟩ := everywhere_map.mp h
      refine .map rfl fun i hlt _ => ?_
      have hm : entries[i] ∈ entries := List.getElem_mem hlt
      exact ih _ hm (he _ hm)
  | raw r => exact .raw r

/-! ### Equality -/

theorem kind_eq_of_equal (h : v.equal w = true) : v.kind = w.kind := by
  cases v <;> cases w <;> first | rfl | exact absurd h Bool.false_ne_true

theorem equalItems_iff {items others : List Value} :
    equalItems items others = true ↔ items.length = others.length ∧
      ∀ i (hi : i < items.length) (hj : i < others.length), items[i].equal others[i] = true := by
  induction items generalizing others with
  | nil => cases others <;> simp [equalItems]
  | cons v items ih =>
      cases others with
      | nil => simp [equalItems]
      | cons w others =>
          rw [equalItems, Bool.and_eq_true, ih]
          constructor
          · rintro ⟨hhead, hlength, htail⟩
            refine ⟨congrArg (· + 1) hlength, fun i hi hj => ?_⟩
            cases i with
            | zero => exact hhead
            | succ i => exact htail i (Nat.lt_of_succ_lt_succ hi) (Nat.lt_of_succ_lt_succ hj)
          · rintro ⟨hlength, h⟩
            exact ⟨h 0 (Nat.zero_lt_succ _) (Nat.zero_lt_succ _), Nat.succ.inj hlength,
              fun i hi hj => h (i + 1) (Nat.succ_lt_succ hi) (Nat.succ_lt_succ hj)⟩

theorem includes_iff {entries others : Entries Value} :
    includes entries others = true ↔
      ∀ e ∈ entries, ∃ w, others.get? e.1 = some w ∧ e.2.equal w = true := by
  induction entries with
  | nil => simp [includes]
  | cons e entries ih =>
      obtain ⟨k, v⟩ := e
      rw [includes, Bool.and_eq_true, ih, List.forall_mem_cons]
      refine and_congr_left fun _ => ?_
      cases others.get? k with
      | none => simp
      | some w => simp

/-- **Maps are equal** if they have the same keys with equal values. -/
theorem equal_map_iff {entries others : Entries Value} (hm : Entries.Distinct entries)
    (hn : Entries.Distinct others) :
    (Value.map entries).equal (.map others) = true ↔
      (Entries.keys others).Perm (Entries.keys entries) ∧
        ∀ k v w, (k, v) ∈ entries → (k, w) ∈ others → v.equal w = true := by
  rw [equal, Bool.and_eq_true, beq_iff_eq, includes_iff]
  constructor
  · rintro ⟨hlength, hlookup⟩
    have hsubset : Entries.keys entries ⊆ Entries.keys others := fun k hk => by
      obtain ⟨v, hv⟩ := Entries.exists_of_mem_keys hk
      obtain ⟨w, hw, -⟩ := hlookup (k, v) hv
      exact Entries.mem_keys_of_mem ((Entries.get?_eq_some_iff hn).mp hw)
    refine ⟨?_, fun k v w hv hw => ?_⟩
    · -- as many distinct keys, all of them found
      refine ((List.subperm_of_subset hm hsubset).perm_of_length_le ?_).symm
      simp [Entries.keys, hlength]
    · obtain ⟨w', hw', hequal⟩ := hlookup (k, v) hv
      obtain rfl := Entries.eq_of_mem_of_mem hn hw ((Entries.get?_eq_some_iff hn).mp hw')
      exact hequal
  · rintro ⟨hkeys, hvalue⟩
    refine ⟨by simpa [Entries.keys] using hkeys.length_eq.symm, ?_⟩
    rintro ⟨k, v⟩ hv
    obtain ⟨w, hw⟩ := Entries.exists_of_mem_keys
      (hkeys.mem_iff.mpr (Entries.mem_keys_of_mem hv))
    exact ⟨w, (Entries.get?_eq_some_iff hn).mpr hw, hvalue k v w hv hw⟩

theorem distinct_sorted {entries : Entries Value} (h : Entries.Distinct entries) :
    Entries.Distinct (Entries.sort (entries.map fun e => (e.1, e.2.sortKeys order)) order) :=
  (keys_sortKeys_perm order entries).nodup_iff.mpr h

/-- The entries of a sorted map are those of the map, sorted. -/
theorem mem_sorted_iff {entries : Entries Value} {k : Text} :
    (k, u) ∈ Entries.sort (entries.map fun e => (e.1, e.2.sortKeys order)) order ↔
      ∃ v, (k, v) ∈ entries ∧ v.sortKeys order = u := by
  rw [(Entries.sort_perm _ order).mem_iff, List.mem_map]
  constructor
  · rintro ⟨⟨l, v⟩, hv, he⟩
    cases he
    exact ⟨v, hv, rfl⟩
  · rintro ⟨v, hv, rfl⟩
    exact ⟨(k, v), hv, rfl⟩

/-- Values of two kinds are neither equal nor aligned. -/
theorem equal_iff_aligned_of_kind_ne (h : v.kind ≠ w.kind) :
    v.equal w = true ↔ Aligned (v.sortKeys order) (w.sortKeys order) := by
  refine iff_of_false (mt kind_eq_of_equal h) fun ha => h ?_
  have hkind := ha.kind_eq
  rwa [kind_sortKeys, kind_sortKeys] at hkind

/-- **Equality is alignment** of the sorted values. -/
theorem equal_iff_aligned (order : KeyOrder) (hv : v.Everywhere (fun _ => DistinctKeys) around)
    (hw : w.Everywhere (fun _ => DistinctKeys) around) :
    v.equal w = true ↔ Aligned (v.sortKeys order) (w.sortKeys order) := by
  induction v generalizing w around with
  | null =>
      cases w with
      | null => exact iff_of_true rfl .null
      | _ => exact equal_iff_aligned_of_kind_ne nofun
  | bool b =>
      cases w with
      | bool c =>
          exact beq_iff_eq.trans ⟨fun h => h ▸ .bool b, fun h => by cases h; rfl⟩
      | _ => exact equal_iff_aligned_of_kind_ne nofun
  | number m =>
      cases w with
      | number n => exact aligned_number_iff.symm
      | _ => exact equal_iff_aligned_of_kind_ne nofun
  | string s =>
      cases w with
      | string t =>
          exact beq_iff_eq.trans ⟨fun h => h ▸ .string s, fun h => by cases h; rfl⟩
      | _ => exact equal_iff_aligned_of_kind_ne nofun
  | list items ih =>
      cases w with
      | list others =>
          obtain ⟨-, hi⟩ := everywhere_list.mp hv
          obtain ⟨-, hj⟩ := everywhere_list.mp hw
          rw [equal, equalItems_iff, sortKeys_list, sortKeys_list, aligned_list_iff]
          simp only [List.length_map, List.getElem_map]
          refine and_congr_right fun _ => forall₃_congr fun i hi' hj' => ?_
          exact ih _ (List.getElem_mem hi') (hi _ (List.getElem_mem hi'))
            (hj _ (List.getElem_mem hj'))
      | _ => exact equal_iff_aligned_of_kind_ne nofun
  | map entries ih =>
      cases w with
      | map others =>
          obtain ⟨hm, he⟩ := everywhere_map.mp hv
          obtain ⟨hn, hf⟩ := everywhere_map.mp hw
          rw [equal_map_iff hm hn, sortKeys_map, sortKeys_map, aligned_map_iff,
            Entries.keys_sort_eq_iff, keys_map_sortKeys, keys_map_sortKeys]
          refine and_congr_right fun hkeys => ?_
          rw [Entries.forall_getElem_iff (distinct_sorted hm)
            (Entries.keys_sort_eq_iff.mpr (by rwa [keys_map_sortKeys, keys_map_sortKeys]))]
          constructor
          · intro h k v' w' hv' hw'
            obtain ⟨v, hv, rfl⟩ := mem_sorted_iff.mp hv'
            obtain ⟨w, hw, rfl⟩ := mem_sorted_iff.mp hw'
            exact (ih (k, v) hv (he _ hv) (hf _ hw)).mp (h k v w hv hw)
          · intro h k v w hv hw
            exact (ih (k, v) hv (he _ hv) (hf _ hw)).mpr
              (h k _ _ (mem_sorted_iff.mpr ⟨v, hv, rfl⟩) (mem_sorted_iff.mpr ⟨w, hw, rfl⟩))
      | _ => exact equal_iff_aligned_of_kind_ne nofun
  | raw r =>
      cases w with
      | raw t =>
          exact beq_iff_eq.trans ⟨fun h => h ▸ .raw r, fun h => by cases h; rfl⟩
      | _ => exact equal_iff_aligned_of_kind_ne nofun

/-! ### Laws -/

theorem equal_symm (hv : v.Everywhere (fun _ => DistinctKeys) around)
    (hw : w.Everywhere (fun _ => DistinctKeys) around) (h : v.equal w = true) :
    w.equal v = true :=
  (equal_iff_aligned .bytewise hw hv).mpr ((equal_iff_aligned .bytewise hv hw).mp h).symm

theorem equal_trans (hv : v.Everywhere (fun _ => DistinctKeys) around)
    (hw : w.Everywhere (fun _ => DistinctKeys) around)
    (hu : u.Everywhere (fun _ => DistinctKeys) around) (hvw : v.equal w = true)
    (hwu : w.equal u = true) : v.equal u = true :=
  (equal_iff_aligned .bytewise hv hu).mpr
    (((equal_iff_aligned .bytewise hv hw).mp hvw).trans
      ((equal_iff_aligned .bytewise hw hu).mp hwu))

/-- Values that sort to the same value are equal, if it has no NaN. -/
theorem equal_of_sortKeys_eq (hv : v.Everywhere (fun _ => DistinctKeys) around)
    (hw : w.Everywhere (fun _ => DistinctKeys) around)
    (hnan : v.Everywhere (fun _ => NaNFree) around) (h : v.sortKeys order = w.sortKeys order) :
    v.equal w = true := by
  refine (equal_iff_aligned order hv hw).mpr (h ▸ ?_)
  refine aligned_self (everywhere_sortKeys.mpr (hnan.imp fun _ u hu => ?_))
  cases u with
  | list items => trivial
  | map entries => trivial
  | _ => exact hu

/-- A value whose maps have distinct keys and whose numbers are no NaNs. -/
abbrev Comparable : Type :=
  { v : Value // v.Everywhere (fun _ => DistinctKeys) [] ∧ v.Everywhere (fun _ => NaNFree) [] }

theorem equivalence_equal : Equivalence fun v w : Comparable => v.val.equal w.val = true where
  refl v := equal_of_sortKeys_eq v.property.1 v.property.1 v.property.2
    (rfl : v.val.sortKeys .bytewise = v.val.sortKeys .bytewise)
  symm {v w} h := equal_symm v.property.1 w.property.1 h
  trans {v w u} hvw hwu := equal_trans v.property.1 w.property.1 u.property.1 hvw hwu

/-- **Equality agrees with sorting.**  Two values whose maps have distinct keys are equal exactly
if, sorted in either order, they agree position by position.

Hence equality has no sides, and it does not depend on the order of the entries of any map.  Without
NaNs a value is equal to its sorted form, and equality is an equivalence. -/
theorem equal_iff_sorted_agree (hv : v.Everywhere (fun _ => DistinctKeys) [])
    (hw : w.Everywhere (fun _ => DistinctKeys) []) :
    (∀ order, v.equal w = true ↔ Aligned (v.sortKeys order) (w.sortKeys order)) ∧
      v.equal w = w.equal v ∧
      (∀ u, Reordered v u → u.equal w = v.equal w ∧ w.equal u = w.equal v) ∧
      (v.Everywhere (fun _ => NaNFree) [] → ∀ order, v.equal (v.sortKeys order) = true) ∧
      Equivalence fun a b : Comparable => a.val.equal b.val = true := by
  have hcomm : ∀ {a b : Value}, a.Everywhere (fun _ => DistinctKeys) [] →
      b.Everywhere (fun _ => DistinctKeys) [] → a.equal b = b.equal a := fun ha hb =>
    Bool.eq_iff_iff.mpr ⟨equal_symm ha hb, equal_symm hb ha⟩
  refine ⟨fun order => equal_iff_aligned order hv hw, hcomm hv hw, fun u hvu => ?_,
    fun hnan order => ?_, equivalence_equal⟩
  · have hu : u.Everywhere (fun _ => DistinctKeys) [] := Rearranged.distinctKeys hvu hv
    have huw : u.equal w = v.equal w := by
      rw [Bool.eq_iff_iff, equal_iff_aligned .bytewise hu hw, equal_iff_aligned .bytewise hv hw,
        hvu.sortKeys_eq hv]
    exact ⟨huw, by rw [hcomm hw hu, huw, hcomm hv hw]⟩
  · have hsorted : Reordered v (v.sortKeys order) := (sortedForm_of_distinctKeys hv).reordered
    exact equal_of_sortKeys_eq hv (Rearranged.distinctKeys hsorted hv) hnan
      (sortKeys_sortKeys order v).symm

/-- Entries in other places, in a map and in a map in a list of it, and the two zeros. -/
theorem equal_iff_sorted_agree_zeros :
    let zero (negative : Bool) : Value := .number (.float (.ofRank negative 0))
    let v : Value := .map [(['b'], .list [.map [(['y'], .null), (['x'], zero true)], .raw ['f']]),
      (['B'], .string ['s'])]
    let w : Value := .map [(['B'], .string ['s']),
      (['b'], .list [.map [(['x'], zero false), (['y'], .null)], .raw ['f']])]
    (v.Everywhere (fun _ => DistinctKeys) [] ∧ w.Everywhere (fun _ => DistinctKeys) [] ∧
        v.equal w = true) ∧
      (∀ order, Aligned (v.sortKeys order) (w.sortKeys order)) ∧ w.equal v = true := by
  intro zero v w
  have hv : v.Everywhere (fun _ => DistinctKeys) [] := by decide
  have hw : w.Everywhere (fun _ => DistinctKeys) [] := by decide
  have hequal : v.equal w = true := by decide
  obtain ⟨haligned, hcomm, -⟩ := equal_iff_sorted_agree hv hw
  exact ⟨⟨hv, hw, hequal⟩, fun order => (haligned order).mp hequal, hcomm ▸ hequal⟩

end Value

end ArrayLiteral
