import ArrayLiteral.Proofs.Literal.Legible

/-!
# Proofs — Literal — Written

`written v` is what the literal of `v` tells of it: the strings and the keys have the escapes that
they are written with, and an empty map is an empty list.  It has the same literal
(`render_written`), and it is `Escaped`, that is, a value that tells everything of itself
(`escaped_written`, `written_eq_self`).
-/

namespace ArrayLiteral.Value

open Text

variable {p : List Kind → Value → Prop} {around : List Kind} {v : Value}

mutual

/-- The value that a literal tells: strings and keys have their escapes, and no map is empty. -/
def written : Value → Value
  | .string s => .string (s.escape false)
  | .list items => .list (writtenItems items)
  | .map entries => if entries.isEmpty then .list [] else .map (writtenEntries entries)
  | v => v

/-- The elements of a list that their literals tell. -/
def writtenItems : List Value → List Value
  | [] => []
  | v :: rest => written v :: writtenItems rest

/-- The entries of a map that their literals tell. -/
def writtenEntries : List (Text × Value) → List (Text × Value)
  | [] => []
  | (key, v) :: rest => (key.escape false, written v) :: writtenEntries rest

end

theorem written_list (items : List Value) :
    (Value.list items).written = .list (items.map written) := by
  rw [written]
  congr 1
  induction items with
  | nil => rfl
  | cons v rest ih => rw [writtenItems, ih, List.map_cons]

theorem written_map_nil : (Value.map []).written = .list [] := rfl

theorem written_map {entries : Entries Value} (h : entries ≠ []) :
    (Value.map entries).written =
      .map (entries.map fun e => (e.1.escape false, e.2.written)) := by
  rw [written, if_neg (by simpa using h)]
  congr 1
  clear h
  induction entries with
  | nil => rfl
  | cons e rest ih => rw [writtenEntries, ih, List.map_cons]

theorem keys_written (entries : Entries Value) :
    Entries.keys (entries.map fun e => (e.1.escape false, e.2.written)) =
      entries.keys.map (escape false) := by
  rw [Entries.keys, Entries.keys, List.map_map, List.map_map]
  rfl

/-- A property of a written value is a property of its nodes, each as it is written. -/
theorem everywhere_written :
    v.written.Everywhere p around ↔
      v.Everywhere (fun around u => p around u.written) around := by
  induction v generalizing around with
  | list items ih =>
      rw [everywhere_list, written_list, everywhere_list, List.forall_mem_map]
      exact and_congr_right fun _ => forall₂_congr fun u hu => ih u hu
  | map entries ih =>
      by_cases hne : entries = []
      · subst hne
        rw [everywhere_map, written_map_nil, everywhere_list]
        simp
      · rw [everywhere_map, written_map hne, everywhere_map, List.forall_mem_map]
        exact and_congr_right fun _ => forall₂_congr fun e he => ih e he
  | _ => exact Iff.rfl

/-- **The written value has the same literal.** -/
theorem render_written (indent level : Nat) (v : Value) :
    v.written.render indent level = v.render indent level := by
  induction v generalizing level with
  | string s => exact quoted_escape s
  | list items ih =>
      rw [written_list, render_list, render_list, List.map_map]
      congr 1
      exact List.map_congr_left fun u hu => ih u hu _
  | map entries ih =>
      by_cases hne : entries = []
      · subst hne
        rfl
      · rw [written_map hne, render_map, render_map, List.map_map]
        congr 1
        refine List.map_congr_left fun e he => ?_
        rw [Function.comp_apply, entryText, entryText, quoted_escape, ih e he]
  | _ => rfl

/-! ### Values that tell everything -/

/-- The strings and the keys have their escapes, and a map is not empty. -/
def Escaped : Value → Prop
  | .string s => s.escape false = s
  | .map entries => entries ≠ [] ∧ ∀ e ∈ entries, e.1.escape false = e.1
  | _ => True

theorem Escaped.written (v : Value) : v.written.Escaped := by
  cases v with
  | string s => exact escape_escape false s
  | list items =>
      rw [written_list]
      trivial
  | map entries =>
      by_cases hne : entries = []
      · subst hne
        trivial
      · rw [written_map hne]
        exact ⟨by simpa using hne, List.forall_mem_map.mpr fun e _ => escape_escape false e.1⟩
  | _ => trivial

/-- **What is written tells everything.** -/
theorem escaped_written (v : Value) (around : List Kind) :
    v.written.Everywhere (fun _ => Escaped) around :=
  everywhere_written.mpr (everywhere_of_forall (fun _ u => Escaped.written u) v around)

/-- **A value that tells everything is as it is written.** -/
theorem written_eq_self (h : v.Everywhere (fun _ => Escaped) around) : v.written = v := by
  induction v generalizing around with
  | string s => exact congrArg Value.string h
  | list items ih =>
      obtain ⟨-, hi⟩ := everywhere_list.mp h
      rw [written_list, List.map_congr_left fun u hu => ih u hu (hi u hu), List.map_id']
  | map entries ih =>
      obtain ⟨⟨hne, hkey⟩, he⟩ := everywhere_map.mp h
      have hentry : ∀ e ∈ entries, (e.1.escape false, e.2.written) = id e := fun e hm => by
        rw [hkey e hm, ih e hm (he e hm)]
        rfl
      rw [written_map hne, List.map_congr_left hentry, List.map_id]
  | _ => rfl

end ArrayLiteral.Value
