import ArrayLiteral.Proofs.Entries.Collect
import ArrayLiteral.Proofs.Literal.Written
import ArrayLiteral.Proofs.Value.Identity

/-!
# Proofs — Literal — RoundTrip

A legible and settled value is read back from its literal, whatever the indent and the level, up to
what the literal does not tell: strings and keys come back with their escapes, and an empty map
comes back as an empty list, as `written` says (`read_render`).

`Printable` says which values these are without a word on settling: every expression is a fragment,
which is balanced and has no separator of its own.  A printable array is read back as it was
written (`parse_render`).
-/

namespace ArrayLiteral.Value

open Walker Text

variable {mode : QuoteScan} {around : List Kind} {v : Value}

/-! ### The round trip -/

theorem sub_levels (h : around.length < maxLevels) (kind : Kind) :
    maxLevels - around.length = maxLevels - (kind :: around).length + 1 := by
  rw [List.length_cons]
  omega

/-- **A literal is read back** at the depth where it stands. -/
theorem read_render (h : v.Everywhere (Legible mode) around)
    (hs : v.Everywhere (fun _ => Settled mode) around) (indent level : Nat) :
    read mode (maxLevels - around.length) (v.render indent level) = v.written := by
  -- for all levels, because the entries of an array are one level deeper
  induction v generalizing around level with
  | null => exact read_of_not_bracketed rfl _
  | bool b =>
      cases b with
      | true => exact read_of_not_bracketed rfl _
      | false => exact read_of_not_bracketed rfl _
  | number n => exact (read_of_not_bracketed n.isBracketed_text _).trans (readScalar_text h)
  | string s => exact (read_of_not_bracketed (isBracketed_quoted s) _).trans (readScalar_quoted s)
  | raw r => exact h.read
  | list items ih =>
      have hdeep : around.length < maxLevels := h.here
      obtain ⟨-, hi⟩ := everywhere_list.mp h
      obtain ⟨-, hsi⟩ := everywhere_list.mp hs
      rw [render_list, written_list, sub_levels hdeep .list]
      by_cases hne : items = []
      · subst hne
        exact read_block_nil _ indent level
      · rw [read_block (by simpa using hne), readArray_joined (h.separate_list hs _ _)
          (by simpa using hne) (List.forall_mem_map.mpr fun u hu => trim_render (hi u hu).here _ _)
          (List.forall_mem_map.mpr fun u hu => render_ne_nil (hi u hu).here _ _), List.map_map]
        congr 1
        exact List.map_congr_left fun u hu => ih u hu (hi u hu) (hsi u hu) (level + 1)
  | map entries ih =>
      obtain ⟨⟨hdeep, hkey, hdistinct⟩, he⟩ := everywhere_map.mp h
      obtain ⟨-, hse⟩ := everywhere_map.mp hs
      have hsep := h.separate_map hs indent (level + 1)
      rw [render_map, sub_levels hdeep .map]
      by_cases hne : entries = []
      · subst hne
        exact read_block_nil _ indent level
      · have hread : ∀ e ∈ entries, read mode (maxLevels - (Kind.map :: around).length)
            (e.2.render indent (level + 1)) = e.2.written := fun e hm =>
          ih e hm (he e hm) (hse e hm) (level + 1)
        rw [read_block (by simpa using hne), readArray_joined_entryText hsep hne hkey
          (fun e hm => trim_render (he e hm).here _ _), List.map_congr_left fun e hm =>
            congrArg (Prod.mk (e.1.escape false)) (hread e hm), written_map hne,
          Entries.collect_of_distinct]
        rw [Entries.Distinct, keys_written]
        exact hdistinct

/-- Values with one literal are written alike. -/
theorem written_eq_of_render_eq {u : Value} {indent level : Nat}
    (hv : v.Everywhere (Legible mode) around) (hvs : v.Everywhere (fun _ => Settled mode) around)
    (hu : u.Everywhere (Legible mode) around) (hus : u.Everywhere (fun _ => Settled mode) around)
    (h : v.render indent level = u.render indent level) : v.written = u.written := by
  rw [← read_render hv hvs indent level, h, read_render hu hus]

/-! ### Printable values -/

/-- An expression that can stand in these arrays: it is read as itself at its depth, it is balanced,
and it has no separator of its own. -/
structure Fragment (mode : QuoteScan) (around : List Kind) (r : Text) : Prop where
  trim : r.trim = r
  read : Value.read mode (maxLevels - around.length) r = .raw r
  balanced : Balanced mode r
  no_comma : meets mode ',' start r = false
  in_list : around.head? = some .list → r ≠ [] ∧ r.arrow? mode = none

/-- What is asked of one node of a printable value. -/
def PrintableNode (mode : QuoteScan) (around : List Kind) : Value → Prop
  | .raw r => Fragment mode around r
  | v => Legible mode around v

/-- An array that can be written and read back. -/
structure Printable (mode : QuoteScan) (v : Value) : Prop where
  array : v.kind = .list ∨ v.kind = .map
  nodes : v.Everywhere (PrintableNode mode) []

instance (mode : QuoteScan) (around : List Kind) (r : Text) : Decidable (Fragment mode around r) :=
  decidable_of_iff
    (r.trim = r ∧ Value.read mode (maxLevels - around.length) r = .raw r ∧ Balanced mode r ∧
      meets mode ',' start r = false ∧
      (around.head? = some .list → r ≠ [] ∧ r.arrow? mode = none))
    ⟨fun ⟨h₁, h₂, h₃, h₄, h₅⟩ => ⟨h₁, h₂, h₃, h₄, h₅⟩,
      fun ⟨h₁, h₂, h₃, h₄, h₅⟩ => ⟨h₁, h₂, h₃, h₄, h₅⟩⟩

instance (mode : QuoteScan) (around : List Kind) :
    ∀ v : Value, Decidable (PrintableNode mode around v)
  | .null | .bool _ => .isTrue trivial
  | .number n => inferInstanceAs (Decidable (Number.ofLiteral? n.text = some n))
  | .string s => inferInstanceAs (Decidable (Quotable mode s))
  | .list _ => inferInstanceAs (Decidable (_ < _))
  | .map _ => inferInstanceAs (Decidable (_ ∧ _ ∧ _))
  | .raw r => inferInstanceAs (Decidable (Fragment mode around r))

instance (mode : QuoteScan) (v : Value) : Decidable (v.Printable mode) :=
  decidable_of_iff ((v.kind = .list ∨ v.kind = .map) ∧ v.Everywhere (PrintableNode mode) [])
    ⟨fun ⟨h₁, h₂⟩ => ⟨h₁, h₂⟩, fun ⟨h₁, h₂⟩ => ⟨h₁, h₂⟩⟩

/-- Inside brackets nothing in a balanced text is at the top. -/
theorem Fragment.kept {r : Text} (h : Fragment mode around r) : Kept mode around r where
  trim := h.trim
  read := h.read
  ne_nil hl := (h.in_list hl).1
  whole := by
    intro i kind hi
    cases i with
    | zero =>
        refine ⟨h.no_comma, ?_⟩
        rintro rfl
        exact (h.in_list (by rw [List.head?_eq_getElem?]; exact hi)).2
    | succ i =>
        have hpos : (0 : Int) < (i + 1 : Nat) := Int.natCast_pos.mpr i.succ_pos
        exact ⟨h.balanced.not_meets_code hpos _,
          fun _ => arrow?_of_not_meets (h.balanced.not_meets_code hpos _)⟩

theorem PrintableNode.legible (h : PrintableNode mode around v) : Legible mode around v := by
  cases v with
  | raw r => exact Fragment.kept h
  | _ => exact h

theorem PrintableNode.balancedRaw (h : PrintableNode mode around v) : BalancedRaw mode v := by
  cases v with
  | raw r => exact Fragment.balanced h
  | _ => trivial

/-- The literal of an array has its brackets outside, so that it is not refused. -/
theorem parse_render_of_array (h : v.kind = .list ∨ v.kind = .map) (indent level : Nat) :
    parse mode (v.render indent level) = .ok (read mode maxLevels (v.render indent level)) := by
  have hb : (v.render indent level).trim.isBracketed = true ∧
      (v.render indent level).trim = v.render indent level := by
    cases v with
    | list items =>
        rw [render, trim_block]
        exact ⟨isBracketed_block _ _ _, rfl⟩
    | map entries =>
        rw [render, trim_block]
        exact ⟨isBracketed_block _ _ _, rfl⟩
    | _ => rcases h with h | h <;> cases h
  rw [parse, if_pos hb.1, ofText, hb.2]

/-- A legible and settled array is parsed as it is written. -/
theorem parse_render_of_legible (harray : v.kind = .list ∨ v.kind = .map)
    (h : v.Everywhere (Legible mode) []) (hs : v.Everywhere (fun _ => Settled mode) [])
    (indent level : Nat) : parse mode (v.render indent level) = .ok v.written :=
  (parse_render_of_array harray indent level).trans
    (congrArg Except.ok (read_render h hs indent level))

/-- **Round trip.**  A printable array is read back from its literal, with any indent and at any
level, up to the escapes in its strings and keys and to its empty maps. -/
theorem parse_render (h : v.Printable mode) (indent level : Nat) :
    parse mode (v.render indent level) = .ok v.written := by
  have hlegible := h.nodes.imp fun _ _ hn => hn.legible
  have hsettled := (h.nodes.imp fun _ _ hn => hn.balancedRaw).settled
  exact parse_render_of_legible h.array hlegible hsettled indent level

/-- A map with a quote in its key, and in it a list that holds a string with an escape, an
expression with a comma in a group, and an empty map. -/
theorem parse_render_nested :
    let call : Value := .raw ['f', '(', '1', ',', ' ', '2', ')']
    let v : Value :=
      .map [(['i', 't', '\'', 's'], .list [.string ['a', '\\', '\''], call, .map []])]
    v.Printable .escapes ∧
      parse .escapes (v.render 2 1) = .ok (.map [(['i', 't', '\\', '\'', 's'],
        .list [.string ['a', '\\', '\''], call, .list []])]) := by
  intro call v
  have h : v.Printable .escapes := by decide
  exact ⟨h, parse_render h 2 1⟩

end ArrayLiteral.Value
