import ArrayLiteral.Proofs.Literal.Block
import ArrayLiteral.Proofs.Literal.Scalar

/-!
# Proofs — Literal — Array

Reading an array.  Only the trimmed pieces of its contents matter (`readArray_trim`), so that the
contents of a block can be taken to be its joined entries (`read_block`).  Separate entries that
are trimmed are read one by one: as the elements of a list (`readArray_joined`), or as the entries
of a map if each is a quoted key with its value (`readArray_joined_entryText`).
-/

namespace ArrayLiteral

open Walker Text

variable {mode : QuoteScan}

namespace Value

/-! ### Contents -/

/-- Outer blanks of an entry do not count. -/
theorem keyed?_trim (read : Text → Value) (p : Text) :
    keyed? mode read p.trim = keyed? mode read p := by
  obtain ⟨a, b, ha, hb, hp⟩ := exists_trim p
  have harrow := arrow?_blanks_append_append mode ha hb 0 p.trim
  rw [← hp] at harrow
  rw [keyed?, keyed?, Text.arrow?, Text.arrow?, start, harrow, Option.map_map]
  congr 1
  funext kv
  obtain ⟨key, value⟩ := kv
  simp only [Function.comp_apply, trim_blanks_append ha, trim_append_blanks _ hb]

theorem readArray_of_arrow {t : Text} (h : t.arrow? mode ≠ none) (read : Text → Value) :
    readArray mode read t =
      .map (Entries.collect ((t.pieces mode).filterMap (keyed? mode read))) := by
  rw [readArray, if_pos (Option.isSome_iff_ne_none.mpr h), List.filterMap_map]
  congr 3
  funext p
  exact keyed?_trim read p

theorem readArray_of_no_arrow {t : Text} (h : t.arrow? mode = none) (read : Text → Value) :
    readArray mode read t =
      .list ((((t.pieces mode).map trim).filter (· ≠ [])).map read) := by
  rw [readArray, if_neg (by simp [h])]

/-- **Outer blanks of the contents do not count.** -/
theorem readArray_trim (read : Text → Value) (t : Text) :
    readArray mode read t.trim = readArray mode read t := by
  have harrow : (t.trim.arrow? mode).isSome = (t.arrow? mode).isSome := by
    rw [Bool.eq_iff_iff, Option.isSome_iff_ne_none, Option.isSome_iff_ne_none, not_iff_not]
    exact arrow?_trim_eq_none
  rw [readArray, readArray, map_trim_pieces_trim, harrow]

theorem readArray_append_blanks (read : Text → Value) (t : Text) {b : Text} (hb : Blanks b) :
    readArray mode read (t ++ b) = readArray mode read t := by
  rw [← readArray_trim, trim_append_blanks _ hb, readArray_trim]

/-! ### Blocks -/

theorem isBracketed_append (t : Text) : isBracketed ('[' :: t ++ [']']) = true := by
  rw [isBracketed, List.getLast?_concat]
  rfl

theorem read_brackets (levels : Nat) (t : Text) :
    read mode (levels + 1) ('[' :: t ++ [']']) = readArray mode (read mode levels) t := by
  rw [read, if_pos (isBracketed_append t), Text.inner, List.cons_append, List.tail_cons,
    List.dropLast_concat, readArray_trim]

/-- A block without entries is read as the empty list. -/
theorem read_block_nil (levels indent level : Nat) :
    read mode (levels + 1) (block indent level []) = .list [] :=
  read_brackets levels []

/-- **A block is read as its joined entries.** -/
theorem read_block {entries : List Text} (h : entries ≠ []) (levels indent level : Nat) :
    read mode (levels + 1) (block indent level entries) =
      readArray mode (read mode levels) (joined indent (level + 1) entries) := by
  rw [block_eq h, ← List.cons_append, read_brackets,
    readArray_append_blanks _ _ (blanks_lineBreak indent level)]

theorem isBracketed_block (indent level : Nat) (entries : List Text) :
    (block indent level entries).isBracketed = true := by
  by_cases h : entries = []
  · subst h
    rfl
  · rw [block_eq h, ← List.cons_append]
    exact isBracketed_append _

theorem trim_block (indent level : Nat) (entries : List Text) :
    (block indent level entries).trim = block indent level entries := by
  by_cases h : entries = []
  · subst h
    rfl
  · rw [block_eq h, ← List.cons_append]
    exact trim_cons_append (by decide) (by decide) _

/-! ### Lists -/

theorem map_trim_lines {entries : List Text} (h : ∀ e ∈ entries, e.trim = e)
    (indent level : Nat) : (entries.map (lineBreak indent level ++ ·)).map trim = entries := by
  rw [List.map_map]
  conv_rhs => rw [← List.map_id entries]
  refine List.map_congr_left fun e he => ?_
  rw [Function.comp_apply, trim_blanks_append (blanks_lineBreak indent level), h e he, id]

/-- **The entries of a list are read one by one.** -/
theorem readArray_joined {around : List Kind} {entries : List Text}
    (h : Separate mode .list around entries) (hne : entries ≠ [])
    (htrim : ∀ e ∈ entries, e.trim = e) (hnil : ∀ e ∈ entries, e ≠ []) (read : Text → Value)
    (indent level : Nat) :
    readArray mode read (joined indent level entries) = .list (entries.map read) := by
  have hcut := h.cut_joined hne indent level
  have harrow : (joined indent level entries).arrow? mode = none := by
    refine hcut.arrow?_eq_none_of_forall fun p hp => ?_
    obtain ⟨e, he, rfl⟩ := List.mem_map.mp hp
    have hblank := arrow?_blanks_append_append mode (blanks_lineBreak indent level)
      blanks_nil 0 e
    rw [List.append_nil, (h.whole e he).head.2 rfl] at hblank
    exact hblank
  have hfilter : entries.filter (· ≠ []) = entries :=
    List.filter_eq_self.mpr fun e he => decide_eq_true (hnil e he)
  rw [readArray_of_no_arrow harrow, hcut.pieces_eq, map_trim_lines htrim, hfilter]

/-! ### Maps -/

/-- An entry of a map as it is written. -/
def entryText (key value : Text) : Text := key.quoted ++ [' ', '=', '>', ' '] ++ value

theorem renderEntries_eq_map (indent level : Nat) (entries : Entries Value) :
    renderEntries indent level entries =
      entries.map fun e => entryText e.1 (e.2.render indent level) := by
  induction entries with
  | nil => rfl
  | cons e rest ih =>
      rw [renderEntries, List.map_cons, ih]
      rfl

theorem arrow?_entryText {key : Text} (h : Quotable mode key) (value : Text) :
    (entryText key value).arrow? mode = some (key.quoted ++ [' '], ' ' :: value) := by
  refine arrow?_eq_some_iff.mpr ⟨by simp [entryText], ?_, ?_⟩
  · rw [run_append, start, h.run_quoted]
    rfl
  · refine arrow?_of_not_meets ?_
    rw [meets_append, start, h.not_meets_quoted, h.run_quoted]
    rfl

/-- A quoted key and a value make an entry. -/
theorem keyed?_entryText {key : Text} (h : Quotable mode key) (read : Text → Value)
    {value : Text} (htrim : value.trim = value) :
    keyed? mode read (entryText key value) = some (key.escape false, read value) := by
  have hb : Blanks [' '] := by decide
  have hkey : (key.quoted ++ [' ']).trim = key.quoted := by
    rw [trim_append_blanks _ hb, trim_quoted]
  have hvalue : trim ([' '] ++ value) = value := by rw [trim_blanks_append hb, htrim]
  rw [keyed?, arrow?_entryText h, Option.map_some]
  dsimp only
  rw [hkey, readKey_quoted, ← List.singleton_append, hvalue]

theorem run_entryText {key : Text} (h : Quotable mode key) (value : Text) (d : Int) :
    run mode (.code d) (entryText key value) = run mode (.code d) value := by
  rw [entryText, run_append, run_append, h.run_quoted]
  rfl

/-- An entry of a map is whole if its value is. -/
theorem whole_entryText {around : List Kind} {key value : Text} (h : Quotable mode key)
    (hvalue : Whole mode (.map :: around) value) :
    Whole mode (.map :: around) (entryText key value) := by
  have hcomma : ∀ d : Int, meets mode ',' (.code d) (entryText key value) =
      meets mode ',' (.code d) value := fun d => by
    rw [entryText, List.append_assoc, meets_append, h.not_meets_quoted, h.run_quoted, meets_append,
      not_meets_of_not_mem (by decide), Bool.false_or, Bool.false_or]
    rfl
  refine whole_cons ⟨(hcomma 0).trans hvalue.head.1, fun hk => Kind.noConfusion hk⟩ ?_
  intro i k hi
  obtain ⟨hmeets, harrow⟩ := hvalue.tail hi
  refine ⟨(hcomma _).trans hmeets, fun hk => ?_⟩
  have hplain : ∀ c ∈ [' ', '=', '>', ' '], isPlain c = true := List.all_eq_true.mp (by decide)
  -- the walker has the bracket of the map open, so that the arrow does not divide
  have hsign : Walker.arrow? mode (.code (i + 1)) [' ', '=', '>', ' '] = none := by
    refine arrow?_of_not_meets (not_meets_of_depth_pos (fun s hs => ?_) '=')
    rw [run_code_of_plain fun c hc => hplain c (hs.subset hc), depth]
    omega
  rw [entryText, List.append_assoc, arrow?_append (arrow?_of_not_meets (h.not_meets_quoted _ _))
    fun hl => absurd hl (by rw [Text.quoted, List.getLast?_concat]; decide), h.run_quoted,
    arrow?_append hsign fun hl => absurd hl (by decide),
    run_code_of_plain hplain, harrow hk]
  rfl

/-- **The entries of a map are read one by one.** -/
theorem readArray_joined_entryText {α : Type} {around : List Kind} {entries : List (Text × α)}
    {value : α → Text}
    (h : Separate mode .map around (entries.map fun e => entryText e.1 (value e.2)))
    (hne : entries ≠ []) (hkey : ∀ e ∈ entries, Quotable mode e.1)
    (htrim : ∀ e ∈ entries, (value e.2).trim = value e.2) (read : Text → Value)
    (indent level : Nat) :
    readArray mode read (joined indent level (entries.map fun e => entryText e.1 (value e.2))) =
      .map (Entries.collect (entries.map fun e => (e.1.escape false, read (value e.2)))) := by
  have hcut := h.cut_joined (by simpa using hne) indent level
  have hline : ∀ e ∈ entries,
      keyed? mode read (lineBreak indent level ++ entryText e.1 (value e.2)) =
        some (e.1.escape false, read (value e.2)) := fun e he => by
    rw [← keyed?_trim, trim_blanks_append (blanks_lineBreak indent level), keyed?_trim,
      keyed?_entryText (hkey e he) read (htrim e he)]
  have harrow : (joined indent level
      (entries.map fun e => entryText e.1 (value e.2))).arrow? mode ≠ none := by
    intro hnone
    obtain ⟨e, rest, rfl⟩ := List.exists_cons_of_ne_nil hne
    have hfirst := hline e List.mem_cons_self
    rw [keyed?, Text.arrow?, start, hcut.arrow?_eq_none hnone _ (by simp)] at hfirst
    cases hfirst
  rw [readArray_of_arrow harrow, hcut.pieces_eq, List.map_map, List.filterMap_map]
  congr 2
  rw [← List.filterMap_eq_map]
  exact List.filterMap_congr hline

end Value

end ArrayLiteral
