import ArrayLiteral.Proofs.Literal.Commas
import ArrayLiteral.Proofs.Literal.FixedPoint

/-!
# Proofs — Literal — Swallow

An expression may open a string or a group and never close it.  At the end of its array that does
no harm; but sorting can move it in front of other entries, and then they are swallowed when the
output is read again.

A value that is read back from its own literal is settled (`settled_of_read_render`).  With the
naive scanner, and without quotes in strings and keys, the output is therefore read back as the
sorted value exactly if that value is settled (`parse_sortLiteral_iff`).  It is not always
(`sortLiteral_swallows`).
-/

namespace ArrayLiteral

open Walker Text

variable {mode : QuoteScan}

namespace Value

variable {around : List Kind} {v : Value}

/-- Entries that are collected from their own joined texts have distinct keys there: a later piece
with the key of an earlier one would have taken its commas away. -/
theorem distinct_of_collect_joined {read : Text → Value} (hread : ∀ t, (read t).slots ≤ t.slots)
    {entries : Entries Value} (hne : entries ≠ []) {indent level : Nat}
    (h : Entries.collect ((Text.pieces mode (joined indent level
      (entries.map fun e => entryText e.1 (e.2.render indent level)))).filterMap
      (keyed? mode read)) = entries) :
    Entries.Distinct ((Text.pieces mode (joined indent level
      (entries.map fun e => entryText e.1 (e.2.render indent level)))).filterMap
      (keyed? mode read)) := by
  have hslots : ∀ e ∈ entries, entrySlots e = (entryText e.1 (e.2.render indent level)).slots :=
    fun e _ => (slots_entry indent level e).symm
  refine Entries.distinct_of_sum_le entrySlots_pos ?_
  rw [h, List.map_congr_left hslots, ← Function.comp_def, ← List.map_map,
    ← slots_joined (by simpa using hne), (cut_pieces mode _).slots_eq]
  exact sum_filterMap_le (entrySlots_keyed?_le hread) _

/-- **A value that is read back from its literal is settled.**  The reader cannot make up for a
comma that did not separate. -/
theorem settled_of_read_render (h : v.Everywhere (Legible mode) around)
    (hescaped : v.Everywhere (fun _ => Escaped) around) {indent level : Nat}
    (hread : read mode (maxLevels - around.length) (v.render indent level) = v) :
    v.Everywhere (fun _ => Settled mode) around := by
  -- each entry is read back from its own literal too, one level deeper
  induction v generalizing around level with
  | list items ih =>
      have hdeep : around.length < maxLevels := h.here
      obtain ⟨-, hi⟩ := everywhere_list.mp h
      obtain ⟨-, hei⟩ := everywhere_list.mp hescaped
      by_cases hne : items = []
      · subst hne
        exact everywhere_list.mpr ⟨nofun, nofun⟩
      rw [render_list, sub_levels hdeep .list, read_block (by simpa using hne)] at hread
      have harrow : (joined indent (level + 1) (items.map (render indent (level + 1)))).arrow?
          mode = none := by
        by_contra harrow
        rw [readArray_of_arrow harrow] at hread
        cases hread
      rw [readArray_of_no_arrow harrow, map_filter_trim, list.injEq] at hread
      obtain ⟨hkept, htop⟩ := kept_of_joined hne (slots_kept?_le (slots_read_le _)) hread
        fun u _ => (slots_render indent (level + 1) u).symm
      have hsettled : ∀ u ∈ items, u.Everywhere (fun _ => Settled mode) (.list :: around) := by
        intro u hu
        have hline := hkept u hu
        rw [kept?, trim_blanks_append (blanks_lineBreak _ _), trim_render (hi u hu).here,
          if_neg (render_ne_nil (hi u hu).here _ _)] at hline
        exact ih u hu (hi u hu) (hei u hu) (Option.some.inj hline)
      refine everywhere_list.mpr ⟨fun u hu => ?_, hsettled⟩
      have hm := List.dropLast_subset _ hu
      exact (run_render (hi u hm) (hsettled u hm) _ _).mp (htop u hu)
  | map entries ih =>
      obtain ⟨⟨hdeep, hkey, -⟩, he⟩ := everywhere_map.mp h
      obtain ⟨⟨hne, hesc⟩, hee⟩ := everywhere_map.mp hescaped
      rw [render_map, sub_levels hdeep .map, read_block (by simpa using hne)] at hread
      have harrow : (joined indent (level + 1)
          (entries.map fun e => entryText e.1 (e.2.render indent (level + 1)))).arrow?
          mode ≠ none := by
        intro harrow
        rw [readArray_of_no_arrow harrow] at hread
        cases hread
      rw [readArray_of_arrow harrow, map.injEq] at hread
      rw [Entries.collect_of_distinct (distinct_of_collect_joined (slots_read_le _) hne hread)]
        at hread
      obtain ⟨hkept, htop⟩ := kept_of_joined hne (entrySlots_keyed?_le (slots_read_le _)) hread
        fun e _ => (slots_entry indent (level + 1) e).symm
      have hsettled : ∀ e ∈ entries, e.2.Everywhere (fun _ => Settled mode) (.map :: around) := by
        intro e hm
        have hline := hkept e hm
        rw [← keyed?_trim, trim_blanks_append (blanks_lineBreak _ _), keyed?_trim,
          keyed?_entryText (hkey e hm) _ (trim_render (he e hm).here _ _), hesc e hm] at hline
        exact ih e hm (he e hm) (hee e hm) (congrArg Prod.snd (Option.some.inj hline))
      refine everywhere_map.mpr ⟨fun e hm => ?_, hsettled⟩
      have hd := List.dropLast_subset _ hm
      have hrun := htop e hm
      rw [start, run_entryText (hkey e hd)] at hrun
      exact (run_render (he e hd) (hsettled e hd) _ _).mp hrun
  | _ => trivial

end Value

open Value

variable {options : Options} {t : Text} {v : Value}

/-- **The output is read back as the sorted value** exactly if that value is settled, with the
naive scanner and without quotes in strings and keys. -/
theorem parse_sortLiteral_iff (hmode : options.quoteScan = .naive)
    (hparse : parse options.quoteScan t = .ok v)
    (hquote : v.Everywhere (fun _ u => ∀ s ∈ u.texts, '\'' ∉ s) []) :
    ∃ out, sortLiteral options t = .ok out ∧
      (parse options.quoteScan out = .ok (v.sortKeys options.keyOrder) ↔
        (v.sortKeys options.keyOrder).Everywhere (fun _ => Settled options.quoteScan) []) := by
  obtain ⟨harray, hlegible, hescaped⟩ := sorted_of_parse hmode hparse hquote
  refine ⟨_, sortLiteral_of_parse hparse, fun hread => ?_, fun hsettled => ?_⟩
  · rw [parse_render_of_array harray, Except.ok.injEq] at hread
    exact settled_of_read_render hlegible hescaped hread
  · rw [parse_render_of_legible harray hlegible hsettled, written_eq_self hescaped]

/-- A group that is left open at the end of an array does no harm. -/
theorem parse_sortLiteral_iff_open :
    let options : Options := ⟨4, .locale, .naive⟩
    let t : Text := "['a' => [2.5, null], 'b' => f(]".toList
    ∃ v, parse options.quoteScan t = .ok v ∧
      v.Everywhere (fun _ u => ∀ s ∈ u.texts, '\'' ∉ s) [] ∧
      ∃ out, sortLiteral options t = .ok out ∧
        (parse options.quoteScan out = .ok (v.sortKeys options.keyOrder) ↔
          (v.sortKeys options.keyOrder).Everywhere (fun _ => Settled options.quoteScan) []) := by
  intro options t
  let v : Value := .map [(['a'], .list [.number (.float ⟨false, 4612811918334230528⟩), .null]),
    (['b'], .raw ['f', '('])]
  have hparse : parse options.quoteScan t = .ok v := by decide +kernel
  have hquote : v.Everywhere (fun _ u => ∀ s ∈ u.texts, '\'' ∉ s) [] := by decide
  exact ⟨v, hparse, hquote, parse_sortLiteral_iff rfl hparse hquote⟩

/-- **An entry can be swallowed.**  Sorting moves the open group to the front, where it takes the
other entry in. -/
theorem sortLiteral_swallows :
    let options : Options := ⟨4, .locale, .naive⟩
    let t : Text := "['b' => 1, 'a' => (]".toList
    ∃ v out, parse options.quoteScan t = .ok v ∧
      v.Everywhere (fun _ u => ∀ s ∈ u.texts, '\'' ∉ s) [] ∧
      sortLiteral options t = .ok out ∧
      parse options.quoteScan out ≠ .ok (v.sortKeys options.keyOrder) := by
  intro options t
  let v : Value := .map [(['b'], .number (.integer 1)), (['a'], .raw ['('])]
  let out : Text := "[\n    'a' => (,\n    'b' => 1\n]".toList
  have hparse : parse options.quoteScan t = .ok v := by decide +kernel
  have hsort : v.sortKeys options.keyOrder =
      .map [(['a'], .raw ['(']), (['b'], .number (.integer 1))] := by
    rw [sortKeys_map, List.map_cons, List.map_cons, List.map_nil, Entries.sort_pair,
      if_neg (by decide)]
    rfl
  have hout : sortLiteral options t = .ok out := by
    rw [sortLiteral_of_parse hparse, hsort]
    rfl
  have hread : parse options.quoteScan out =
      .ok (.map [(['a'], .raw "(,\n    'b' => 1".toList)]) := by decide +kernel
  refine ⟨v, out, hparse, by decide, hout, ?_⟩
  rw [hread, hsort]
  decide

end ArrayLiteral
