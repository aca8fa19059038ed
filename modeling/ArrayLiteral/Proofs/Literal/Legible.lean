import Mathlib.Data.Option.Basic
import ArrayLiteral.Proofs.Literal.Array
import ArrayLiteral.Proofs.Value.Everywhere

/-!
# Proofs — Literal — Legible

When the literal of a value can be read back.  Two things are asked, each at every node.

* `Legible`: what stands at the node can be told from the text of the node alone.  The digits of a
  number read back, a string ends between its quotes where it should, an expression is `Kept`, an
  array does not lie too deep, and no two keys of a map are written alike.
* `Settled`: all entries of an array but the last are `Closed`, so that the comma behind each of
  them separates.  Only an expression can leave a walker in a string or in a group.

The literal of such a value is whole (`whole_render`), and it leads a walker back to the top exactly
when the value is closed (`run_render`).
-/

namespace ArrayLiteral.Value

open Walker Text

variable {mode : QuoteScan} {around : List Kind} {v : Value}

/-! ### Legible and settled values -/

/-- An expression that is read as itself inside these arrays. -/
structure Kept (mode : QuoteScan) (around : List Kind) (r : Text) : Prop where
  trim : r.trim = r
  read : Value.read mode (maxLevels - around.length) r = .raw r
  whole : Whole mode around r
  ne_nil : around.head? = some .list → r ≠ []

/-- What is at a node can be told from the text of the node. -/
def Legible (mode : QuoteScan) (around : List Kind) : Value → Prop
  | .null | .bool _ => True
  | .number n => Number.ofLiteral? n.text = some n
  | .string s => Quotable mode s
  | .list _ => around.length < maxLevels
  | .map entries =>
    around.length < maxLevels ∧ (∀ e ∈ entries, Quotable mode e.1) ∧
      ((Entries.keys entries).map (escape false)).Nodup
  | .raw r => Kept mode around r

mutual

/-- The literal of the value leads a walker back to the top. -/
def Closed (mode : QuoteScan) : Value → Prop
  | .list items => ClosedItems mode items
  | .map entries => ClosedEntries mode entries
  | .raw r => start.run mode r = start
  | _ => True

/-- The last element leads back to the top. -/
def ClosedItems (mode : QuoteScan) : List Value → Prop
  | [] => True
  | [v] => Closed mode v
  | _ :: v :: rest => ClosedItems mode (v :: rest)

/-- The value of the last entry leads back to the top. -/
def ClosedEntries (mode : QuoteScan) : List (Text × Value) → Prop
  | [] => True
  | [(_, v)] => Closed mode v
  | _ :: e :: rest => ClosedEntries mode (e :: rest)

end

/-- All entries but the last are closed. -/
def Settled (mode : QuoteScan) : Value → Prop
  | .list items => ∀ v ∈ items.dropLast, v.Closed mode
  | .map entries => ∀ e ∈ entries.dropLast, e.2.Closed mode
  | _ => True

theorem closed_list {items : List Value} :
    (Value.list items).Closed mode ↔ ∀ v ∈ items.getLast?, v.Closed mode := by
  rw [Closed]
  induction items with
  | nil => simp [ClosedItems]
  | cons v rest ih =>
      cases rest with
      | nil => simp [ClosedItems]
      | cons u rest => rw [ClosedItems, ih, List.getLast?_cons_cons]

theorem closed_map {entries : Entries Value} :
    (Value.map entries).Closed mode ↔ ∀ e ∈ entries.getLast?, e.2.Closed mode := by
  rw [Closed]
  induction entries with
  | nil => simp [ClosedEntries]
  | cons e rest ih =>
      cases rest with
      | nil => simp [ClosedEntries]
      | cons f rest => rw [ClosedEntries, ih, List.getLast?_cons_cons]

/-- An expression is balanced. -/
def BalancedRaw (mode : QuoteScan) : Value → Prop
  | .raw r => Balanced mode r
  | _ => True

instance (mode : QuoteScan) : ∀ v : Value, Decidable (BalancedRaw mode v)
  | .raw r => inferInstanceAs (Decidable (Balanced mode r))
  | .null | .bool _ | .number _ | .string _ | .list _ | .map _ => .isTrue trivial

/-- A value in which every expression is balanced is closed. -/
theorem Everywhere.closed (h : v.Everywhere (fun _ => BalancedRaw mode) around) :
    v.Closed mode := by
  induction v generalizing around with
  | list items ih =>
      exact closed_list.mpr fun u hu =>
        have hu := List.mem_of_getLast? hu
        ih u hu ((everywhere_list.mp h).2 u hu)
  | map entries ih =>
      exact closed_map.mpr fun e he =>
        have he := List.mem_of_getLast? he
        ih e he ((everywhere_map.mp h).2 e he)
  | raw r => exact Balanced.run_start h
  | _ => trivial

/-- A value in which every expression is balanced is settled everywhere. -/
theorem Everywhere.settled (h : v.Everywhere (fun _ => BalancedRaw mode) around) :
    v.Everywhere (fun _ => Settled mode) around := by
  induction v generalizing around with
  | list items ih =>
      have hi := (everywhere_list.mp h).2
      exact everywhere_list.mpr ⟨fun u hu => (hi u (List.dropLast_subset _ hu)).closed,
        fun u hu => ih u hu (hi u hu)⟩
  | map entries ih =>
      have he := (everywhere_map.mp h).2
      exact everywhere_map.mpr ⟨fun e hm => (he e (List.dropLast_subset _ hm)).closed,
        fun e hm => ih e hm (he e hm)⟩
  | _ => trivial

/-! ### Their literals -/

theorem render_list (indent level : Nat) (items : List Value) :
    (Value.list items).render indent level =
      block indent level (items.map (render indent (level + 1))) := by
  rw [render, renderItems_eq_map]

theorem render_map (indent level : Nat) (entries : Entries Value) :
    (Value.map entries).render indent level =
      block indent level (entries.map fun e => entryText e.1 (e.2.render indent (level + 1))) := by
  rw [render, renderEntries_eq_map]

/-- A literal has no outer blanks. -/
theorem trim_render (h : Legible mode around v) (indent level : Nat) :
    (v.render indent level).trim = v.render indent level := by
  cases v with
  | null => rfl
  | bool b => cases b <;> rfl
  | number n => exact n.trim_text
  | string s => exact trim_quoted s
  | list items => exact trim_block _ _ _
  | map entries => exact trim_block _ _ _
  | raw r => exact h.trim

/-- An element of a list is written with at least one character. -/
theorem render_ne_nil (h : Legible mode (.list :: around) v) (indent level : Nat) :
    v.render indent level ≠ [] := by
  have hb : ∀ entries, block indent level entries ≠ [] := fun entries => by
    rw [block]
    split <;> simp
  cases v with
  | null => exact List.cons_ne_nil _ _
  | bool b => cases b <;> exact List.cons_ne_nil _ _
  | number n =>
      intro hn
      rw [Legible, show n.text = [] from hn] at h
      cases h
  | string s => exact List.cons_ne_nil _ _
  | list items => exact hb _
  | map entries => exact hb _
  | raw r => exact h.ne_nil rfl

theorem separate_list {items : List Value} {indent level : Nat}
    (hwhole : ∀ v ∈ items, Whole mode (.list :: around) (v.render indent level))
    (htop : ∀ v ∈ items.dropLast, start.run mode (v.render indent level) = start) :
    Separate mode .list around (items.map (render indent level)) where
  whole := List.forall_mem_map.mpr hwhole
  top := by
    rw [← List.map_dropLast]
    exact List.forall_mem_map.mpr htop

theorem separate_map {entries : Entries Value} {indent level : Nat}
    (hkey : ∀ e ∈ entries, Quotable mode e.1)
    (hwhole : ∀ e ∈ entries, Whole mode (.map :: around) (e.2.render indent level))
    (htop : ∀ e ∈ entries.dropLast, start.run mode (e.2.render indent level) = start) :
    Separate mode .map around (entries.map fun e => entryText e.1 (e.2.render indent level)) where
  whole := List.forall_mem_map.mpr fun e he => whole_entryText (hkey e he) (hwhole e he)
  top := by
    rw [← List.map_dropLast]
    refine List.forall_mem_map.mpr fun e he => ?_
    rw [start, run_entryText (hkey e (List.dropLast_subset _ he))]
    exact htop e he

/-- A word has nothing that separates, and leads from code to code. -/
theorem whole_and_run_word {t : Text} (hplain : t.all isPlain = true) (hcomma : ',' ∉ t)
    (hequals : '=' ∉ t) : Whole mode around t ∧ start.run mode t = start := by
  refine ⟨fun i k _ => ⟨not_meets_of_not_mem hcomma _, fun _ => ?_⟩,
    run_code_of_plain (List.all_eq_true.mp hplain) 0⟩
  exact arrow?_of_not_meets (not_meets_of_not_mem hequals _)

/-- The two facts of a literal go hand in hand: the literal of an array is whole only if its
entries lead back to the top, and it leads there itself only because it is cut into its entries. -/
theorem whole_and_run_render (h : v.Everywhere (Legible mode) around)
    (hs : v.Everywhere (fun _ => Settled mode) around) (indent level : Nat) :
    Whole mode around (v.render indent level) ∧
      (start.run mode (v.render indent level) = start ↔ v.Closed mode) := by
  induction v generalizing around level with
  | null =>
      obtain ⟨hwhole, hrun⟩ :=
        whole_and_run_word (t := ['n', 'u', 'l', 'l']) (by decide) (by decide) (by decide)
      exact ⟨hwhole, iff_of_true hrun trivial⟩
  | bool b =>
      cases b with
      | true =>
          obtain ⟨hwhole, hrun⟩ :=
            whole_and_run_word (t := ['t', 'r', 'u', 'e']) (by decide) (by decide) (by decide)
          exact ⟨hwhole, iff_of_true hrun trivial⟩
      | false =>
          obtain ⟨hwhole, hrun⟩ :=
            whole_and_run_word (t := ['f', 'a', 'l', 's', 'e']) (by decide) (by decide) (by decide)
          exact ⟨hwhole, iff_of_true hrun trivial⟩
  | number n =>
      refine ⟨fun i k _ => ⟨n.not_meets_text (by decide) _, fun _ => ?_⟩,
        iff_of_true (n.run_text 0) trivial⟩
      exact arrow?_of_not_meets (n.not_meets_text (by decide) _)
  | string s =>
      exact ⟨whole_of_not_meets fun c d => h.not_meets_quoted d c,
        iff_of_true (h.run_quoted 0) trivial⟩
  | raw r => exact ⟨h.whole, Iff.rfl⟩
  | list items ih =>
      obtain ⟨-, hi⟩ := everywhere_list.mp h
      obtain ⟨hsettled, hsi⟩ := everywhere_list.mp hs
      have hitem := fun u hu => ih u hu (hi u hu) (hsi u hu) (level + 1)
      have hsep : Separate mode .list around (items.map (render indent (level + 1))) :=
        separate_list (fun u hu => (hitem u hu).1) fun u hu =>
          (hitem u (List.dropLast_subset _ hu)).2.mpr (hsettled u hu)
      rw [render_list, closed_list]
      refine ⟨hsep.whole_block indent level, ?_⟩
      rw [hsep.run_block, List.getLast?_map, Option.forall_mem_map]
      exact forall₂_congr fun u hu => (hitem u (List.mem_of_getLast? hu)).2
  | map entries ih =>
      obtain ⟨hnode, he⟩ := everywhere_map.mp h
      obtain ⟨hsettled, hse⟩ := everywhere_map.mp hs
      have hkey := hnode.2.1
      have hentry := fun e hm => ih e hm (he e hm) (hse e hm) (level + 1)
      have hsep : Separate mode .map around
          (entries.map fun e => entryText e.1 (e.2.render indent (level + 1))) :=
        separate_map hkey (fun e hm => (hentry e hm).1) fun e hm =>
          (hentry e (List.dropLast_subset _ hm)).2.mpr (hsettled e hm)
      rw [render_map, closed_map]
      refine ⟨hsep.whole_block indent level, ?_⟩
      rw [hsep.run_block, List.getLast?_map, Option.forall_mem_map]
      refine forall₂_congr fun e hm => ?_
      have hm := List.mem_of_getLast? hm
      rw [start, run_entryText (hkey e hm)]
      exact (hentry e hm).2

/-- **The literal is whole.** -/
theorem whole_render (h : v.Everywhere (Legible mode) around)
    (hs : v.Everywhere (fun _ => Settled mode) around) (indent level : Nat) :
    Whole mode around (v.render indent level) :=
  (whole_and_run_render h hs indent level).1

/-- **The literal leads back to the top** exactly when the value is closed. -/
theorem run_render (h : v.Everywhere (Legible mode) around)
    (hs : v.Everywhere (fun _ => Settled mode) around) (indent level : Nat) :
    start.run mode (v.render indent level) = start ↔ v.Closed mode :=
  (whole_and_run_render h hs indent level).2

/-- The elements of a list are separate. -/
theorem Everywhere.separate_list {items : List Value}
    (h : (Value.list items).Everywhere (Legible mode) around)
    (hs : (Value.list items).Everywhere (fun _ => Settled mode) around) (indent level : Nat) :
    Separate mode .list around (items.map (render indent level)) := by
  obtain ⟨-, hi⟩ := everywhere_list.mp h
  obtain ⟨hsettled, hsi⟩ := everywhere_list.mp hs
  refine Value.separate_list (fun u hu => whole_render (hi u hu) (hsi u hu) indent level)
    fun u hu => ?_
  have hm := List.dropLast_subset _ hu
  exact (run_render (hi u hm) (hsi u hm) indent level).mpr (hsettled u hu)

/-- The entries of a map are separate. -/
theorem Everywhere.separate_map {entries : Entries Value}
    (h : (Value.map entries).Everywhere (Legible mode) around)
    (hs : (Value.map entries).Everywhere (fun _ => Settled mode) around) (indent level : Nat) :
    Separate mode .map around (entries.map fun e => entryText e.1 (e.2.render indent level)) := by
  obtain ⟨hnode, he⟩ := everywhere_map.mp h
  obtain ⟨hsettled, hse⟩ := everywhere_map.mp hs
  refine Value.separate_map hnode.2.1
    (fun e hm => whole_render (he e hm) (hse e hm) indent level) fun e hm => ?_
  have hd := List.dropLast_subset _ hm
  exact (run_render (he e hd) (hse e hd) indent level).mpr (hsettled e hm)

end ArrayLiteral.Value
