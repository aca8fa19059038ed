import ArrayLiteral.Proofs.Literal.Built
import ArrayLiteral.Proofs.Value.Height

/-!
# Proofs — Literal — Elements

The texts whose values an array holds.  Reading an array is to find these texts, which has nothing
to do with how their values are read, and then to read each of them (`readArray_congr`).  A piece
that is blank or has no key is not among them, and neither is a value that a later one replaced.

The texts stand in the contents of the array (`isInfix_of_mem_elements`), so that whatever holds of
all parts of a text holds of them.
-/

namespace ArrayLiteral

open Walker

variable {mode : QuoteScan}

/-! ### Parts of a text -/

namespace Text

theorem trim_isInfix (t : Text) : t.trim <:+: t := by
  obtain ⟨a, b, -, -, ht⟩ := exists_trim t
  exact ⟨a, b, ht.symm⟩

theorem inner_isInfix (t : Text) : t.inner <:+: t :=
  (trim_isInfix _).trans ((List.dropLast_prefix _).isInfix.trans (List.tail_suffix t).isInfix)

theorem isInfix_of_mem_pieces {t p : Text} (h : p ∈ t.pieces mode) : p <:+: t := by
  have hcut := cut_pieces mode t
  generalize t.pieces mode = ps at h hcut
  induction hcut with
  | last =>
      obtain rfl := List.mem_singleton.mp h
      exact List.infix_rfl
  | @comma q s ps _ _ _ ih =>
      rcases List.mem_cons.mp h with rfl | h
      · exact (List.prefix_append _ _).isInfix
      · have hrest : s <:+ q ++ ',' :: s := ⟨q ++ [','], by simp⟩
        exact (ih h).trans hrest.isInfix

theorem isInfix_of_arrow? {t key value : Text} (h : t.arrow? mode = some (key, value)) :
    value <:+: t := by
  obtain ⟨rfl, -, -⟩ := arrow?_eq_some_iff.mp h
  exact ⟨key ++ ['=', '>'], [], by simp⟩

end Text

open Text

namespace Value

/-! ### The texts of the elements -/

/-- The key of a piece that has an arrow, and the text of its value. -/
def keyedText? (mode : QuoteScan) (piece : Text) : Option (Text × Text) :=
  (piece.arrow? mode).map fun (key, value) => (readKey key.trim, value.trim)

/-- The entries of a map, with the texts of their values. -/
def entryTexts (mode : QuoteScan) (t : Text) : Entries Text :=
  Entries.collect ((t.pieces mode).filterMap (keyedText? mode))

/-- The texts of the elements of a list. -/
def itemTexts (mode : QuoteScan) (t : Text) : List Text :=
  ((t.pieces mode).map trim).filter (· ≠ [])

/-- The texts whose values the array with these contents holds. -/
def elements (mode : QuoteScan) (t : Text) : List Text :=
  if (t.arrow? mode).isSome then (entryTexts mode t).values else itemTexts mode t

theorem elements_of_arrow {t : Text} (h : t.arrow? mode ≠ none) :
    elements mode t = (entryTexts mode t).values := by
  rw [elements, if_pos (Option.isSome_iff_ne_none.mpr h)]

theorem elements_of_no_arrow {t : Text} (h : t.arrow? mode = none) :
    elements mode t = itemTexts mode t := by
  rw [elements, if_neg (by simp [h])]

/-- A map has the values of the texts of its entries. -/
theorem readArray_eq_map {t : Text} (h : t.arrow? mode ≠ none) (read : Text → Value) :
    readArray mode read t = .map ((entryTexts mode t).map fun e => (e.1, read e.2)) := by
  rw [readArray_of_arrow h, entryTexts, ← Entries.collect_map, List.map_filterMap]
  congr 3
  funext p
  rw [keyed?, keyedText?, Option.map_map]
  rfl

/-- An array is a map or a list of its elements, whatever their values are. -/
theorem readArray_cases (mode : QuoteScan) (t : Text) :
    (∃ entries : Entries Text, elements mode t = entries.values ∧
      ∀ read, readArray mode read t = .map (entries.map fun e => (e.1, read e.2))) ∨
    ∀ read, readArray mode read t = .list ((elements mode t).map read) := by
  by_cases harrow : t.arrow? mode = none
  · rw [elements_of_no_arrow harrow]
    exact Or.inr (readArray_of_no_arrow harrow)
  · exact Or.inl ⟨_, elements_of_arrow harrow, readArray_eq_map harrow⟩

/-- **An array is read by its elements.** -/
theorem readArray_congr {t : Text} {f g : Text → Value} (h : ∀ u ∈ elements mode t, f u = g u) :
    readArray mode f t = readArray mode g t := by
  rcases readArray_cases mode t with ⟨entries, helements, hread⟩ | hread
  · rw [helements] at h
    have hentry : ∀ e ∈ entries, (e.1, f e.2) = (e.1, g e.2) := fun e he =>
      congrArg (Prod.mk e.1) (h e.2 (List.mem_map_of_mem he))
    rw [hread, hread, List.map_congr_left hentry]
  · rw [hread, hread, List.map_congr_left h]

/-- **The texts stand in the contents** of the array. -/
theorem isInfix_of_mem_elements {t u : Text} (h : u ∈ elements mode t) : u <:+: t := by
  by_cases harrow : t.arrow? mode = none
  · rw [elements_of_no_arrow harrow] at h
    obtain ⟨p, hp, rfl⟩ := List.mem_map.mp (List.mem_filter.mp h).1
    exact (trim_isInfix p).trans (isInfix_of_mem_pieces hp)
  · rw [elements_of_arrow harrow] at h
    obtain ⟨e, he, rfl⟩ := List.mem_map.mp h
    obtain ⟨p, hp, hkeyed⟩ := List.mem_filterMap.mp (Entries.mem_of_mem_collect he)
    obtain ⟨⟨key, value⟩, hkv, rfl⟩ := Option.map_eq_some_iff.mp hkeyed
    exact (trim_isInfix value).trans ((isInfix_of_arrow? hkv).trans (isInfix_of_mem_pieces hp))

/-! ### What holds of an array by its elements -/

/-- An array is one level higher than its elements. -/
theorem height_readArray_le_iff {t : Text} {read : Text → Value} {n : Nat} :
    (readArray mode read t).height ≤ n + 1 ↔ ∀ u ∈ elements mode t, (read u).height ≤ n := by
  rcases readArray_cases mode t with ⟨entries, helements, hread⟩ | hread
  · rw [hread, helements, height_map_le_iff, Entries.values, List.forall_mem_map,
      List.forall_mem_map]
  · rw [hread, height_list_le_iff, List.forall_mem_map]

/-- An array has at least one level. -/
theorem height_readArray_pos (read : Text → Value) (t : Text) :
    0 < (readArray mode read t).height := by
  rcases readArray_cases mode t with ⟨entries, -, hread⟩ | hread <;> rw [hread]
  · exact Nat.succ_pos _
  · exact Nat.succ_pos _

/-- A property of an array and of its elements, wherever these lie. -/
theorem everywhere_readArray {p : List Kind → Value → Prop} {around : List Kind} {t : Text}
    {read : Text → Value} (harray : p around (readArray mode read t))
    (h : ∀ u ∈ elements mode t, ∀ kind, (read u).Everywhere p (kind :: around)) :
    (readArray mode read t).Everywhere p around := by
  rcases readArray_cases mode t with ⟨entries, helements, hread⟩ | hread
  · rw [helements] at h
    rw [hread] at harray ⊢
    exact everywhere_map.mpr ⟨harray, List.forall_mem_map.mpr fun e he =>
      h e.2 (List.mem_map_of_mem he) _⟩
  · rw [hread] at harray ⊢
    exact everywhere_list.mpr ⟨harray, List.forall_mem_map.mpr fun u hu => h u hu _⟩

end Value

end ArrayLiteral
