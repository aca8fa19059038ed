import Mathlib.Data.List.Chain
import Mathlib.Data.List.TakeWhile
import ArrayLiteral.Collation.Weights

/-!
# Proofs — Unicode — Tables

What the tables say of whole classes of characters.  A fact about a table is checked row by row, and
carried over to characters by what a look-up finds.

* Only marks have a combining class (`isMark_of_combiningClass`).
* Control characters stay as they are in a decomposition, and no other character yields one
  (`decompose_of_isControl`, `isControl_of_mem_decompose`).
-/

namespace ArrayLiteral.Unicode

open Collation.Element (isControl)

/-! ### Looking up -/

section Lookup

variable {α : Type} {n : Nat}

/-- In an ascending table every range is found. -/
theorem covers_of_mem {rows : List (Nat × Nat)} (h : rows.Pairwise fun r s => r.1 ≤ s.1)
    {row : Nat × Nat} (hrow : row ∈ rows) (hfirst : row.1 ≤ n) (hlast : n ≤ row.2) :
    covers rows n = true := by
  induction rows with
  | nil => cases hrow
  | cons r rows ih =>
      obtain ⟨hr, hrows⟩ := List.pairwise_cons.mp h
      rcases List.mem_cons.mp hrow with rfl | hrow
      · rw [covers, if_neg (Nat.not_lt.mpr hfirst), decide_eq_true hlast, Bool.true_or]
      · have hle : r.1 ≤ n := Nat.le_trans (hr row hrow) hfirst
        rw [covers, if_neg (Nat.not_lt.mpr hle), ih hrows hrow, Bool.or_true]

theorem exists_row_of_rowAt {rows : List (Nat × Nat × α)} {k : Nat} {x : α}
    (h : rowAt rows n = some (k, x)) : ∃ row ∈ rows, row.1 ≤ n ∧ n ≤ row.2.1 := by
  induction rows with
  | nil => cases h
  | cons r rows ih =>
      obtain ⟨first, last, entry⟩ := r
      rw [rowAt] at h
      split at h
      · cases h
      · rename_i hfirst
        split at h
        · rename_i hlast
          exact ⟨_, List.mem_cons_self, Nat.not_lt.mp hfirst, hlast⟩
        · obtain ⟨row, hrow, hn⟩ := ih h
          exact ⟨row, List.mem_cons_of_mem _ hrow, hn⟩

theorem mem_of_entryAt {rows : List (Nat × α)} {x : α} (h : entryAt rows n = some x) :
    (n, x) ∈ rows := by
  induction rows with
  | nil => cases h
  | cons r rows ih =>
      obtain ⟨code, entry⟩ := r
      rw [entryAt] at h
      split at h
      · cases h
      · split at h
        · rename_i hcode
          cases h
          exact hcode ▸ List.mem_cons_self
        · exact List.mem_cons_of_mem _ (ih h)

/-- The codes of a row lie in a range. -/
def within (range : Nat × Nat) (row : Nat × Nat × α) : Bool :=
  row.2.1.ble range.2 && range.1.ble row.1

/-- A row lies in one of the ranges, if none is left once each range has dropped the rows in it. -/
theorem exists_range_of_dropped {ranges : List (Nat × Nat)} {rows : List (Nat × Nat × α)}
    (h : (ranges.foldl (fun left range => left.dropWhile (within range)) rows).isEmpty = true)
    {row : Nat × Nat × α} (hrow : row ∈ rows) : ∃ range ∈ ranges, within range row = true := by
  induction ranges generalizing rows with
  | nil =>
      obtain rfl := List.isEmpty_iff.mp h
      cases hrow
  | cons range ranges ih =>
      rw [← List.takeWhile_append_dropWhile (p := within range) (l := rows),
        List.mem_append] at hrow
      obtain hdropped | hleft := hrow
      · exact ⟨range, List.mem_cons_self, List.mem_takeWhile_imp hdropped⟩
      · obtain ⟨r, hr, hwithin⟩ := ih h hleft
        exact ⟨r, List.mem_cons_of_mem _ hr, hwithin⟩

end Lookup

/-! ### Row by row -/

/-- The ranges of marks ascend, from U+0300 on. -/
theorem markRanges_ascending :
    (markRanges.IsChain fun r s => r.1 ≤ s.1) ∧ ∀ range ∈ markRanges, 0x300 ≤ range.1 := by
  decide +kernel

/-- The ranges of combining classes lie in ranges of marks.  Both tables ascend, so the rows are
dropped in one pass; a search for each row's range would run through the marks again and again. -/
theorem combiningRanges_marks :
    (markRanges.foldl (fun left range => left.dropWhile (within range)) combiningRanges).isEmpty =
      true := by
  decide +kernel

/-- What the table decomposes lies above the control characters, and yields none of them. -/
theorem decompositions_noControl :
    ∀ row ∈ decompositions,
      0xC0 ≤ row.1 ∧ (row.2.all fun n => !isControl (Char.ofNat n)) = true := by
  decide +kernel

/-! ### Marks and control characters -/

variable {c d : Char}

/-- **Only marks have a combining class.** -/
theorem isMark_of_combiningClass (h : combiningClass c ≠ 0) : isMark c = true := by
  rw [combiningClass] at h
  split at h
  · rename_i k n hrow
    obtain ⟨row, hmem, hfirst, hlast⟩ := exists_row_of_rowAt hrow
    obtain ⟨range, hrange, hends⟩ := exists_range_of_dropped combiningRanges_marks hmem
    rw [within, Bool.and_eq_true, Nat.ble_eq, Nat.ble_eq] at hends
    have hascending : markRanges.Pairwise fun r s => r.1 ≤ s.1 :=
      have : IsTrans (Nat × Nat) fun r s => r.1 ≤ s.1 := ⟨fun _ _ _ => Nat.le_trans⟩
      List.isChain_iff_pairwise.mp markRanges_ascending.1
    exact covers_of_mem hascending hrange (hends.2.trans hfirst) (hlast.trans hends.1)
  · exact absurd rfl h

theorem isMark_eq_false_of_lt (h : c.toNat < 0x300) : isMark c = false := by
  rw [Bool.eq_false_iff]
  intro hmark
  obtain ⟨range, hrange, hfirst, -⟩ := exists_range_of_covers hmark
  have hbound := markRanges_ascending.2 range hrange
  omega

theorem combiningClass_of_not_isMark (h : isMark c = false) : combiningClass c = 0 := by
  by_contra hclass
  rw [isMark_of_combiningClass hclass] at h
  cases h

theorem toNat_lt_of_isControl (h : isControl c = true) : c.toNat < 0xA0 := by
  simp only [isControl, Bool.or_eq_true, Bool.and_eq_true, decide_eq_true_eq] at h
  omega

theorem isMark_of_isControl (h : isControl c = true) : isMark c = false :=
  isMark_eq_false_of_lt ((toNat_lt_of_isControl h).trans (by decide))

/-- **A control character** has no decomposition. -/
theorem decompose_of_isControl (h : isControl c = true) : decompose c = [c] := by
  have hlt := toNat_lt_of_isControl h
  have hsyllable : ¬(firstSyllable ≤ c.toNat ∧ c.toNat < firstSyllable + syllableCount) := by
    rw [firstSyllable]
    omega
  have hentry : entryAt decompositions c.toNat = none := by
    rw [Option.eq_none_iff_forall_not_mem]
    intro codes hcodes
    have hbound := (decompositions_noControl _ (mem_of_entryAt hcodes)).1
    dsimp only at hbound
    omega
  rw [decompose]
  simp only [if_neg hsyllable, hentry]

theorem isControl_ofNat {n : Nat} (hlow : 0xA0 ≤ n) (hhigh : n < 0xD800) :
    isControl (Char.ofNat n) = false := by
  have htoNat : (Char.ofNat n).toNat = n := by
    rw [Char.ofNat, dif_pos (Or.inl hhigh : n.isValidChar)]
    rfl
  rw [isControl, htoNat]
  simp only [Bool.or_eq_false_iff, Bool.and_eq_false_iff, decide_eq_false_iff_not]
  omega

theorem isControl_of_mem_jamo {index n : Nat} (hindex : index < syllableCount)
    (hn : n ∈ jamo index) : isControl (Char.ofNat n) = false := by
  have hbounds : 0xA0 ≤ n ∧ n < 0xD800 := by
    rw [syllableCount] at hindex
    simp only [jamo] at hn
    split at hn <;> simp only [List.mem_cons, List.not_mem_nil, or_false] at hn <;> omega
  exact isControl_ofNat hbounds.1 hbounds.2

/-- **No other character** yields a control character. -/
theorem isControl_of_mem_decompose (hc : isControl c = false) (hd : d ∈ decompose c) :
    isControl d = false := by
  rw [decompose] at hd
  split at hd
  · rename_i hsyllable
    obtain ⟨n, hn, rfl⟩ := List.mem_map.mp hd
    exact isControl_of_mem_jamo (by omega) hn
  · split at hd
    · rename_i codes hcodes
      obtain ⟨n, hn, rfl⟩ := List.mem_map.mp hd
      have hrow := (decompositions_noControl _ (mem_of_entryAt hcodes)).2
      simpa using List.all_eq_true.mp hrow n hn
    · obtain rfl := List.mem_singleton.mp hd
      exact hc

end ArrayLiteral.Unicode
