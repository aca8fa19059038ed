import ArrayLiteral.Proofs.Entries.Collect
import ArrayLiteral.Proofs.Literal.Legible

/-!
# Proofs — Literal — Built

What the reader builds.  Every text between the brackets has a value, so that the reader promises
little of the strings and the keys; but it promises everything else of a legible value.

* An expression is `Kept`: it is trimmed, it is read as itself again at its depth, and none of the
  arrays around it finds a separator in it.
* Arrays do not lie too deep, a map has an entry, and its keys are distinct.

The invariant behind this is that a piece of an array is `Whole` for the array and for all arrays
around it, because each of them was cut at all of its separators (`Whole.piece`, `Whole.value`).
So what is built from a whole text is `Built` everywhere (`built_read`, `built_parse`).
-/

namespace ArrayLiteral

open Walker

variable {mode : QuoteScan} {around : List Value.Kind}

/-! ### Pieces of a whole text -/

namespace Text

theorem exists_of_isBracketed {t : Text} (h : t.isBracketed = true) :
    ∃ u, t = '[' :: u ++ [']'] := by
  rw [isBracketed, Bool.and_eq_true, beq_iff_eq, beq_iff_eq] at h
  obtain ⟨u, rfl⟩ := List.getLast?_eq_some_iff.mp h.2
  cases u with
  | nil => exact absurd (Option.some.inj h.1) (by decide)
  | cons c u =>
      obtain rfl := Option.some.inj h.1
      exact ⟨u, rfl⟩

theorem whole_trim {t : Text} : Whole mode around t.trim ↔ Whole mode around t := by
  refine forall_congr' fun i => forall_congr' fun k => imp_congr_right fun _ => ?_
  rw [Unbroken, Unbroken, meets_trim (by decide), arrow?_trim_eq_none]

/-- **A piece of a whole text is whole**, also for the array that it is a piece of. -/
theorem Whole.piece {t p : Text} {kind : Value.Kind} (h : Whole mode around ('[' :: t ++ [']']))
    (hlist : kind = .list → t.arrow? mode = none) (hp : p ∈ t.pieces mode) :
    Whole mode (kind :: around) p := by
  have hcut := cut_pieces mode t
  refine whole_cons ⟨hcut.not_meets_comma p hp, fun hk => ?_⟩ fun i k hi => ?_
  · exact hcut.arrow?_eq_none (hlist hk) p hp
  -- the array around sees the piece with one more bracket open, as it saw it in the text
  · obtain ⟨hmeets, harrow⟩ := h i k hi
    rw [List.cons_append, meets_cons_eq_false, step_bracket, meets_append,
      Bool.or_eq_false_iff] at hmeets
    refine ⟨hcut.not_meets hmeets.2.1 p hp, fun hk => ?_⟩
    have hnone := harrow hk
    rw [List.cons_append, arrow?_cons_eq_none, step_bracket] at hnone
    exact hcut.arrow?_eq_none (arrow?_eq_none_of_append hnone.2).1 p hp

/-- **The value of a whole piece is whole.** -/
theorem Whole.value {p key value : Text} (h : Whole mode (.map :: around) p)
    (harrow : p.arrow? mode = some (key, value)) : Whole mode (.map :: around) value := by
  obtain ⟨rfl, htop, -⟩ := arrow?_eq_some_iff.mp harrow
  have hrun : ∀ d : Int, run mode (.code d) (key ++ ['=', '>']) = .code d := fun d => by
    rw [run_append, run_code_of_run_start htop]
    rfl
  have hsplit : key ++ '=' :: '>' :: value = key ++ ['=', '>'] ++ value := by simp
  rw [hsplit] at h
  intro i k hi
  obtain ⟨hmeets, hnone⟩ := h i k hi
  rw [meets_append, hrun, Bool.or_eq_false_iff] at hmeets
  refine ⟨hmeets.2, fun hk => ?_⟩
  have hvalue := (arrow?_eq_none_of_append (hnone hk)).2
  rwa [hrun] at hvalue

end Text

open Text

namespace Value

/-! ### What is built -/

/-- What the reader promises of a node. -/
def Built (mode : QuoteScan) (around : List Kind) : Value → Prop
  | .null | .bool _ | .string _ => True
  | .number n => ∃ t, Number.ofLiteral? t = some n
  | .list _ => around.length < maxLevels
  | .map entries => around.length < maxLevels ∧ entries ≠ [] ∧ Entries.Distinct entries
  | .raw r => Kept mode around r

theorem built_readScalar {t : Text} (hb : t.isBracketed = false) (htrim : t.trim = t)
    (hw : Whole mode around t) (hne : around.head? = some .list → t ≠ []) :
    (readScalar t).Everywhere (Built mode) around := by
  rcases readScalar_cases t with ⟨quote, s, -, h⟩ | ⟨n, hn, h⟩ | ⟨b, h⟩ | h | h <;> rw [h]
  · trivial
  · exact ⟨t, hn⟩
  · trivial
  · trivial
  · exact ⟨htrim, (read_of_not_bracketed hb _).trans h, hw, hne⟩

/-- A text with an arrow has an entry. -/
theorem filterMap_keyed?_ne_nil {t : Text} (h : t.arrow? mode ≠ none) (read : Text → Value) :
    (t.pieces mode).filterMap (keyed? mode read) ≠ [] := by
  intro hnil
  refine h ((cut_pieces mode t).arrow?_eq_none_of_forall fun p hp => ?_)
  have hnone := List.filterMap_eq_nil_iff.mp hnil p hp
  rw [keyed?, Option.map_eq_none_iff] at hnone
  exact hnone

/-- **What is read is built** by the rules, in whatever arrays the text lies. -/
theorem built_read {t : Text} (htrim : t.trim = t) (hw : Whole mode around t)
    (hne : around.head? = some .list → t ≠ []) :
    (read mode (maxLevels - around.length) t).Everywhere (Built mode) around := by
  -- by the levels that are left: at the last one an array is kept as an expression
  induction hl : maxLevels - around.length generalizing around t with
  | zero =>
      cases hb : t.isBracketed with
      | true =>
          have hread : read mode 0 t = .raw t := if_pos hb
          rw [hread]
          exact ⟨htrim, by rw [hl, hread], hw, hne⟩
      | false =>
          rw [read_of_not_bracketed hb]
          exact built_readScalar hb htrim hw hne
  | succ levels ih =>
      have hdeep : around.length < maxLevels := by omega
      have hlevels : ∀ kind : Kind, maxLevels - (kind :: around).length = levels := fun kind => by
        rw [List.length_cons]
        omega
      cases hb : t.isBracketed with
      | false =>
          rw [read_of_not_bracketed hb]
          exact built_readScalar hb htrim hw hne
      | true =>
          obtain ⟨u, rfl⟩ := exists_of_isBracketed hb
          rw [read_brackets]
          by_cases harrow : Text.arrow? mode u = none
          · rw [readArray_of_no_arrow harrow]
            refine everywhere_list.mpr ⟨hdeep, fun v hv => ?_⟩
            obtain ⟨p, hp, rfl⟩ := List.mem_map.mp hv
            obtain ⟨hp, hpne⟩ := List.mem_filter.mp hp
            obtain ⟨q, hq, rfl⟩ := List.mem_map.mp hp
            exact ih (trim_trim q) (whole_trim.mpr (hw.piece (fun _ => harrow) hq))
              (fun _ => of_decide_eq_true hpne) (hlevels .list)
          · rw [readArray_of_arrow harrow]
            refine everywhere_map.mpr ⟨⟨hdeep, ?_, Entries.distinct_collect _⟩, fun e he => ?_⟩
            · exact Entries.collect_ne_nil (filterMap_keyed?_ne_nil harrow _)
            · obtain ⟨p, hp, hkeyed⟩ := List.mem_filterMap.mp (Entries.mem_of_mem_collect he)
              obtain ⟨⟨key, value⟩, hkv, rfl⟩ := Option.map_eq_some_iff.mp hkeyed
              have hpiece : Whole mode (.map :: around) p :=
                hw.piece (fun hk => Kind.noConfusion hk) hp
              exact ih (trim_trim value) (whole_trim.mpr (hpiece.value hkv))
                (fun hh => absurd (Option.some.inj hh) (by decide)) (hlevels .map)

/-- **What is parsed is built** by the rules, and it is an array. -/
theorem built_parse {t : Text} {v : Value} (h : parse mode t = .ok v) :
    v.Everywhere (Built mode) [] ∧ (v.kind = .list ∨ v.kind = .map) := by
  rw [parse] at h
  split at h
  · rename_i hb
    cases h
    refine ⟨built_read (trim_trim t) (whole_nil _) fun hh => ?_, ?_⟩
    · cases hh
    · obtain ⟨u, hu⟩ := exists_of_isBracketed hb
      rw [ofText, hu, maxLevels, read_brackets, readArray]
      split
      · exact Or.inr rfl
      · exact Or.inl rfl
  · cases h

end Value

end ArrayLiteral
