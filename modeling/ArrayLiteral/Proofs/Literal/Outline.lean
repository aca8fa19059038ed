import Mathlib.Algebra.Ring.Nat
import ArrayLiteral.Proofs.Literal.Legible

/-!
# Proofs — Literal — Outline

A literal is the same at every level and with every indentation, but for the spaces behind its line
breaks.  Its `outline` is what stays the same: the texts that are written and the line breaks
between them, each with the depth of its line.

* Written with an indentation at a level, the outline of a value is its literal (`write_outline`).
* Each entry of an array begins a line, and so does the bracket that closes an array, unless it is
  empty (`length_lines_outline`).  The last line of such an array is its bracket
  (`getLast?_lines_outline`).
* If no text in the value holds a line feed, the line feeds of the literal are those of its line
  breaks, so that a level only adds its spaces behind each of them (`write_eq_indented`).
-/

namespace ArrayLiteral

/-- A part of a literal. -/
inductive Part where
  | text (t : Text)
  /-- A line feed, and the spaces of a depth. -/
  | lineBreak (depth : Nat)

namespace Part

/-- The part with an indentation, in a literal at a level. -/
def write (indent level : Nat) : Part → Text
  | .text t => t
  | .lineBreak depth => Text.lineBreak indent (level + depth)

/-- No line feed stands in the part, unless it is a line break. -/
def OneLine : Part → Prop
  | .text t => '\n' ∉ t
  | .lineBreak _ => True

instance : ∀ part : Part, Decidable part.OneLine
  | .text t => inferInstanceAs (Decidable ('\n' ∉ t))
  | .lineBreak _ => .isTrue trivial

end Part

/-- A literal whose level and indentation are open. -/
abbrev Outline := List Part

namespace Text

/-- The text with so many spaces added behind each line feed. -/
def indented (n : Nat) (t : Text) : Text :=
  t.flatMap fun c => if c = '\n' then '\n' :: List.replicate n ' ' else [c]

theorem indented_append (n : Nat) (s t : Text) :
    indented n (s ++ t) = s.indented n ++ t.indented n := List.flatMap_append

theorem indented_of_not_mem {t : Text} (h : '\n' ∉ t) (n : Nat) : t.indented n = t := by
  induction t with
  | nil => rfl
  | cons c t ih =>
      rw [List.mem_cons, not_or] at h
      rw [indented, List.flatMap_cons, if_neg (Ne.symm h.1), ← indented, ih h.2,
        List.singleton_append]

/-- The spaces of a level come before those of the line. -/
theorem indented_lineBreak (indent level depth : Nat) :
    (lineBreak indent depth).indented (indent * level) = lineBreak indent (level + depth) := by
  have hspaces : '\n' ∉ List.replicate (indent * depth) ' ' := fun h =>
    absurd (List.eq_of_mem_replicate h) (by decide)
  rw [lineBreak, indented, List.flatMap_cons, if_pos rfl, ← indented, indented_of_not_mem hspaces,
    List.cons_append, List.replicate_append_replicate, ← Nat.mul_add, lineBreak]

end Text

namespace Outline

variable {indent level depth : Nat} {l : Outline} {entries : List Outline}

/-- The literal with an indentation, at a level. -/
def write (indent level : Nat) (l : Outline) : Text := l.flatMap (Part.write indent level)

/-- The text before the first line break, and the line behind each line break with its depth. -/
def lines : Outline → Text × List (Nat × Text)
  | [] => ([], [])
  | .text t :: rest => (t ++ (lines rest).1, (lines rest).2)
  | .lineBreak depth :: rest => ([], (depth, (lines rest).1) :: (lines rest).2)

/-- An array with these entries, whose closing bracket stands at a depth. -/
def block (depth : Nat) : List Outline → Outline
  | [] => [.text ['[', ']']]
  | first :: rest =>
    .text ['['] :: .lineBreak (depth + 1) :: first ++
      rest.flatMap (fun entry => .text [','] :: .lineBreak (depth + 1) :: entry) ++
      [.lineBreak depth, .text [']']]

/-! ### Lines -/

/-- **A literal is written line by line.** -/
theorem write_eq_lines (indent level : Nat) (l : Outline) :
    l.write indent level = l.lines.1 ++
      l.lines.2.flatMap fun line => Text.lineBreak indent (level + line.1) ++ line.2 := by
  induction l with
  | nil => rfl
  | cons part rest ih =>
      rw [write, List.flatMap_cons, ← write, ih]
      cases part with
      | text t => exact (List.append_assoc _ _ _).symm
      | lineBreak depth => simp [lines, Part.write]

theorem length_lines_append (l m : Outline) :
    (lines (l ++ m)).2.length = l.lines.2.length + (lines m).2.length := by
  induction l with
  | nil => exact (Nat.zero_add _).symm
  | cons part rest ih =>
      cases part with
      | text t => exact ih
      | lineBreak depth =>
          rw [List.cons_append, lines, lines, List.length_cons, List.length_cons, ih,
            Nat.add_right_comm]

/-- The last line is what is written behind the last line break. -/
theorem getLast?_lines (l : Outline) (depth : Nat) (t : Text) :
    (lines (l ++ [.lineBreak depth, .text t])).2.getLast? = some (depth, t) := by
  induction l with
  | nil => simp [lines]
  | cons part rest ih =>
      cases part with
      | text s => exact ih
      | lineBreak d =>
          rw [List.cons_append, lines, List.getLast?_cons, ih]
          rfl

/-! ### Blocks -/

theorem write_block (indent level depth : Nat) (entries : List Outline) :
    (block depth entries).write indent level =
      Value.block indent (level + depth) (entries.map (write indent level)) := by
  cases entries with
  | nil => rfl
  | cons first rest =>
      rw [Value.block_eq (by simp), joined, List.map_map, List.map_cons, intercalate_cons]
      simp [block, write, Part.write, List.flatMap_assoc, List.flatMap_map, Nat.add_assoc]

/-- The lines of a block are those of its entries, one more for each entry and one for the
bracket. -/
theorem length_lines_block (h : entries ≠ []) :
    (block depth entries).lines.2.length =
      (entries.map fun e => e.lines.2.length).sum + entries.length + 1 := by
  obtain ⟨first, rest, rfl⟩ := List.exists_cons_of_ne_nil h
  -- each entry behind the first has a comma and a line break before it
  have hrest : (lines (rest.flatMap fun e => .text [','] :: .lineBreak (depth + 1) :: e)).2.length =
      (rest.map fun e => e.lines.2.length).sum + rest.length := by
    clear h
    induction rest with
    | nil => rfl
    | cons e rest ih =>
        rw [List.flatMap_cons, length_lines_append, ih, List.map_cons, List.sum_cons,
          List.length_cons, lines, lines, List.length_cons]
        omega
  have hclose : (lines [.lineBreak depth, .text [']']]).2.length = 1 := rfl
  rw [block, length_lines_append, hclose, length_lines_append, hrest, List.map_cons, List.sum_cons,
    List.length_cons, lines, lines, List.length_cons]
  omega

theorem getLast?_lines_block (h : entries ≠ []) (depth : Nat) :
    (block depth entries).lines.2.getLast? = some (depth, [']']) := by
  obtain ⟨first, rest, rfl⟩ := List.exists_cons_of_ne_nil h
  exact getLast?_lines _ depth [']']

theorem oneLine_block (h : ∀ e ∈ entries, ∀ part ∈ e, part.OneLine) (depth : Nat) :
    ∀ part ∈ block depth entries, part.OneLine := by
  have hnil : ∀ part ∈ ([] : Outline), part.OneLine := fun _ h => absurd h List.not_mem_nil
  cases entries with
  | nil => exact List.forall_mem_cons.mpr ⟨by decide, hnil⟩
  | cons first rest =>
      obtain ⟨hfirst, hrest⟩ := List.forall_mem_cons.mp h
      simp only [block, List.cons_append, List.forall_mem_append, List.forall_mem_cons,
        List.forall_mem_flatMap]
      exact ⟨by decide, trivial, ⟨hfirst, fun e he => ⟨by decide, trivial, hrest e he⟩⟩, trivial,
        by decide, hnil⟩

/-! ### Levels -/

/-- **A level adds its spaces** behind each line break. -/
theorem write_eq_indented (h : ∀ part ∈ l, part.OneLine) (indent level : Nat) :
    l.write indent level = (l.write indent 0).indented (indent * level) := by
  induction l with
  | nil => rfl
  | cons part rest ih =>
      obtain ⟨hpart, hrest⟩ := List.forall_mem_cons.mp h
      rw [write, List.flatMap_cons, ← write, ih hrest, write, write, List.flatMap_cons,
        Text.indented_append]
      congr 1
      cases part with
      | text t => exact (Text.indented_of_not_mem hpart _).symm
      | lineBreak depth =>
          rw [Part.write, Part.write, Nat.zero_add, Text.indented_lineBreak]

end Outline

namespace Value

variable {indent level depth : Nat} {around : List Kind} {v : Value}

mutual

/-- The outline of the literal of a value, whose first line belongs to a depth. -/
def outline (depth : Nat) : Value → Outline
  | .list items => Outline.block depth (outlineItems (depth + 1) items)
  | .map entries => Outline.block depth (outlineEntries (depth + 1) entries)
  | v => [.text (v.render 0 0)]

/-- The outlines of the elements of a list. -/
def outlineItems (depth : Nat) : List Value → List Outline
  | [] => []
  | v :: rest => outline depth v :: outlineItems depth rest

/-- The outlines of the entries of a map. -/
def outlineEntries (depth : Nat) : List (Text × Value) → List Outline
  | [] => []
  | (key, v) :: rest =>
    (.text (key.quoted ++ [' ', '=', '>', ' ']) :: outline depth v) :: outlineEntries depth rest

end

mutual

/-- The numbers of entries of the arrays in a value, without the empty arrays. -/
def sizes : Value → List Nat
  | .list (v :: rest) => (rest.length + 1) :: (sizes v ++ sizesItems rest)
  | .map ((_, v) :: rest) => (rest.length + 1) :: (sizes v ++ sizesEntries rest)
  | _ => []

/-- The numbers of entries of the arrays in the elements of a list. -/
def sizesItems : List Value → List Nat
  | [] => []
  | v :: rest => sizes v ++ sizesItems rest

/-- The numbers of entries of the arrays in the entries of a map. -/
def sizesEntries : List (Text × Value) → List Nat
  | [] => []
  | (_, v) :: rest => sizes v ++ sizesEntries rest

end

/-- The value is an array with at least one entry. -/
def IsFilled : Value → Prop
  | .list items => items ≠ []
  | .map entries => entries ≠ []
  | _ => False

/-- No line feed stands in the texts of a node. -/
def OneLine : Value → Prop
  | .string s => '\n' ∉ s
  | .map entries => ∀ e ∈ entries, '\n' ∉ e.1
  | .raw r => '\n' ∉ r
  | _ => True

instance : ∀ v : Value, Decidable v.OneLine
  | .string s => inferInstanceAs (Decidable ('\n' ∉ s))
  | .map entries => inferInstanceAs (Decidable (∀ e ∈ entries, '\n' ∉ e.1))
  | .raw r => inferInstanceAs (Decidable ('\n' ∉ r))
  | .null | .bool _ | .number _ | .list _ => .isTrue trivial

theorem outline_list (depth : Nat) (items : List Value) :
    (Value.list items).outline depth = Outline.block depth (items.map (outline (depth + 1))) := by
  rw [outline]
  congr 1
  induction items with
  | nil => rfl
  | cons v rest ih => rw [outlineItems, ih, List.map_cons]

theorem outline_map (depth : Nat) (entries : Entries Value) :
    (Value.map entries).outline depth = Outline.block depth (entries.map fun e =>
      .text (e.1.quoted ++ [' ', '=', '>', ' ']) :: e.2.outline (depth + 1)) := by
  rw [outline]
  congr 1
  induction entries with
  | nil => rfl
  | cons e rest ih => rw [outlineEntries, ih, List.map_cons]

/-- **The outline is that of the literal.** -/
theorem write_outline (v : Value) (indent level depth : Nat) :
    (v.outline depth).write indent level = v.render indent (level + depth) := by
  induction v generalizing depth with
  | list items ih =>
      rw [outline_list, Outline.write_block, render_list, List.map_map]
      exact congrArg _ (List.map_congr_left fun v hv => ih v hv (depth + 1))
  | map entries ih =>
      rw [outline_map, Outline.write_block, render_map, List.map_map]
      refine congrArg _ (List.map_congr_left fun e he => ?_)
      exact congrArg (entryText e.1) (ih e he (depth + 1))
  | bool b => cases b <;> rfl
  | _ => exact List.append_nil _

/-! ### The number of lines -/

theorem sizes_list {items : List Value} (h : items ≠ []) :
    (Value.list items).sizes = items.length :: items.flatMap sizes := by
  have hitems : ∀ items, sizesItems items = items.flatMap sizes := fun items => by
    induction items with
    | nil => rfl
    | cons v rest ih => rw [sizesItems, ih, List.flatMap_cons]
  obtain ⟨v, rest, rfl⟩ := List.exists_cons_of_ne_nil h
  rw [sizes, hitems, List.length_cons, List.flatMap_cons]

theorem sizes_map {entries : Entries Value} (h : entries ≠ []) :
    (Value.map entries).sizes = entries.length :: entries.flatMap fun e => e.2.sizes := by
  have hentries : ∀ entries, sizesEntries entries = entries.flatMap fun e => e.2.sizes :=
    fun entries => by
      induction entries with
      | nil => rfl
      | cons e rest ih => rw [sizesEntries, ih, List.flatMap_cons]
  obtain ⟨⟨key, v⟩, rest, rfl⟩ := List.exists_cons_of_ne_nil h
  rw [sizes, hentries, List.length_cons, List.flatMap_cons]

/-- A block has a line for each entry in it and for each array that is not empty, if each of its
entries has. -/
theorem length_lines_block_of_sizes {α : Type} {entry : α → Outline} {size : α → List Nat}
    {as : List α} (hne : as ≠ [])
    (h : ∀ a ∈ as, (entry a).lines.2.length = (size a).sum + (size a).length) (depth : Nat) :
    (Outline.block depth (as.map entry)).lines.2.length =
      (as.length :: as.flatMap size).sum + (as.length :: as.flatMap size).length := by
  have hsum : (as.map fun a => (size a).sum + (size a).length).sum =
      (as.flatMap size).sum + (as.flatMap size).length := by
    clear hne h
    induction as with
    | nil => rfl
    | cons a as ih =>
        rw [List.map_cons, List.sum_cons, ih, List.flatMap_cons, List.sum_append,
          List.length_append]
        omega
  rw [Outline.length_lines_block (by simpa using hne), List.map_map, List.length_map,
    List.sum_cons, List.length_cons]
  have hmap : as.map ((fun e : Outline => e.lines.2.length) ∘ entry) =
      as.map fun a => (size a).sum + (size a).length := List.map_congr_left h
  rw [hmap, hsum]
  omega

/-- **The lines of a literal** are those of the entries and those of the closing brackets. -/
theorem length_lines_outline (v : Value) (depth : Nat) :
    (v.outline depth).lines.2.length = v.sizes.sum + v.sizes.length := by
  induction v generalizing depth with
  | list items ih =>
      by_cases hne : items = []
      · subst hne
        rfl
      · rw [outline_list, sizes_list hne]
        refine length_lines_block_of_sizes hne (fun v hv => ?_) depth
        exact ih v hv (depth + 1)
  | map entries ih =>
      by_cases hne : entries = []
      · subst hne
        rfl
      · rw [outline_map, sizes_map hne]
        refine length_lines_block_of_sizes hne (fun e he => ?_) depth
        exact ih e he (depth + 1)
  | _ => rfl

theorem getLast?_lines_outline (h : v.IsFilled) (depth : Nat) :
    (v.outline depth).lines.2.getLast? = some (depth, [']']) := by
  cases v with
  | list items =>
      rw [outline_list]
      exact Outline.getLast?_lines_block (fun hn => h (List.map_eq_nil_iff.mp hn)) depth
  | map entries =>
      rw [outline_map]
      exact Outline.getLast?_lines_block (fun hn => h (List.map_eq_nil_iff.mp hn)) depth
  | _ => cases h

/-! ### Line feeds -/

theorem lineFeed_not_mem_quoted {s : Text} (h : '\n' ∉ s) : '\n' ∉ s.quoted := by
  have hescape : '\n' ∉ Text.escape false s := by
    rw [← List.count_eq_zero, Text.count_escape (by decide), List.count_eq_zero]
    exact h
  rw [Text.quoted, List.cons_append, List.mem_cons, List.mem_append]
  rintro (h | h | h)
  · exact absurd h (by decide)
  · exact hescape h
  · exact absurd h (by decide)

theorem oneLine_outline (h : v.Everywhere (fun _ => OneLine) around) (depth : Nat) :
    ∀ part ∈ v.outline depth, part.OneLine := by
  have hsingle : ∀ t : Text, '\n' ∉ t → ∀ part ∈ [Part.text t], part.OneLine := fun t ht =>
    List.forall_mem_singleton.mpr ht
  induction v generalizing around depth with
  | null => exact hsingle _ (by decide)
  | bool b => cases b <;> exact hsingle _ (by decide)
  | number n => exact hsingle _ (n.not_mem_text (by decide))
  | string s => exact hsingle _ (lineFeed_not_mem_quoted h)
  | raw r => exact hsingle _ h
  | list items ih =>
      obtain ⟨-, hitems⟩ := everywhere_list.mp h
      rw [outline_list]
      refine Outline.oneLine_block (List.forall_mem_map.mpr fun v hv => ?_) depth
      exact ih v hv (hitems v hv) (depth + 1)
  | map entries ih =>
      obtain ⟨hkeys, hentries⟩ := everywhere_map.mp h
      rw [outline_map]
      refine Outline.oneLine_block (List.forall_mem_map.mpr fun e he => ?_) depth
      refine List.forall_mem_cons.mpr ⟨?_, ih e he (hentries e he) (depth + 1)⟩
      intro hn
      rcases List.mem_append.mp hn with hkey | harrow
      · exact lineFeed_not_mem_quoted (hkeys e he) hkey
      · exact absurd harrow (by decide)

/-- **Indentation.**  A literal is a first line and further lines, each with a depth, that depend on
the value alone: at each level and with each indentation every further line begins with a line feed
and the spaces of the level and its depth.  The last line of an array that is not empty is its
bracket, at depth 0, and there are as many further lines as entries in arrays and arrays that are
not empty.

If no text of the value holds a line feed, a level adds its spaces behind each line feed. -/
theorem render_outline (v : Value) :
    ∃ (first : Text) (lines : List (Nat × Text)),
      (∀ indent level, v.render indent level = first ++ lines.flatMap fun line =>
        '\n' :: List.replicate (indent * (level + line.1)) ' ' ++ line.2) ∧
      (v.IsFilled → lines.getLast? = some (0, [']'])) ∧
      lines.length = v.sizes.sum + v.sizes.length ∧
      (v.Everywhere (fun _ => OneLine) [] → ∀ indent level,
        v.render indent level = (v.render indent 0).indented (indent * level)) := by
  have hwrite : ∀ indent level, v.render indent level = (v.outline 0).write indent level :=
    fun indent level => (write_outline v indent level 0).symm
  refine ⟨(v.outline 0).lines.1, (v.outline 0).lines.2, fun indent level => ?_,
    fun h => getLast?_lines_outline h 0, length_lines_outline v 0, fun h indent level => ?_⟩
  · rw [hwrite, Outline.write_eq_lines]
    rfl
  · rw [hwrite, hwrite indent 0]
    exact Outline.write_eq_indented (oneLine_outline h 0) indent level

/-- Lists and maps in each other, one of them empty: five entries in three arrays. -/
theorem render_outline_nested :
    let v : Value := .map [(['a'], .list [.raw ['x'], .list []]), (['b'], .map [(['c'], .null)])]
    (v.IsFilled ∧ v.Everywhere (fun _ => OneLine) []) ∧
      ∃ (first : Text) (lines : List (Nat × Text)),
        (∀ indent level, v.render indent level = first ++ lines.flatMap fun line =>
          '\n' :: List.replicate (indent * (level + line.1)) ' ' ++ line.2) ∧
        lines.getLast? = some (0, [']']) ∧ lines.length = 5 + 3 ∧
        v.render 2 3 = (v.render 2 0).indented (2 * 3) := by
  intro v
  have hfilled : v.IsFilled := List.cons_ne_nil _ _
  have honeLine : v.Everywhere (fun _ => OneLine) [] := by decide
  obtain ⟨first, lines, hrender, hlast, hlength, hlevel⟩ := render_outline v
  exact ⟨⟨hfilled, honeLine⟩, first, lines, hrender, hlast hfilled, hlength, hlevel honeLine 2 3⟩

end Value

end ArrayLiteral
