import ArrayLiteral.Proofs.Entries.Weight
import ArrayLiteral.Proofs.Literal.Built

/-!
# Proofs — Literal — Commas

Commas are what the reader cannot make more of.  A value has as many as its literal
(`slots_render`), and no more than any text that it is read from (`slots_read_le`): a comma is in
a piece or between two pieces, and the reader drops pieces and entries, but makes none.

So if a value is read from its own literal, the literal was cut just where it was joined
(`kept_of_joined`): no piece was dropped, and every piece has the commas of the entry at its place.
-/

namespace ArrayLiteral

open Walker

variable {mode : QuoteScan}

/-! ### Commas in texts -/

namespace Text

/-- The commas of a text, counted as if one more stood behind it. -/
def slots (t : Text) : Nat := t.count ',' + 1

theorem count_blanks {b : Text} (hb : Blanks b) : b.count ',' = 0 :=
  List.count_eq_zero.mpr fun h => absurd (hb _ h) (by decide)

theorem count_trim (t : Text) : t.trim.count ',' = t.count ',' := by
  obtain ⟨a, b, ha, hb, ht⟩ := exists_trim t
  rw [ht, List.count_append, List.count_append, count_blanks ha, count_blanks hb, ← ht]
  omega

theorem slots_intercalate {ps : List Text} (h : ps ≠ []) :
    slots (List.intercalate [','] ps) = (ps.map slots).sum := by
  induction ps with
  | nil => exact absurd rfl h
  | cons p ps ih =>
      cases ps with
      | nil => simp [List.intercalate_singleton]
      | cons q qs =>
          rw [List.intercalate_cons_cons, List.map_cons, List.sum_cons,
            ← ih (List.cons_ne_nil _ _)]
          simp only [slots, List.count_append, List.count_singleton_self]
          omega

theorem append_comma_inj {p q s t : Text} (hc : p.count ',' = q.count ',')
    (h : p ++ ',' :: s = q ++ ',' :: t) : p = q ∧ s = t := by
  induction p generalizing q with
  | nil =>
      cases q with
      | nil => exact ⟨rfl, (List.cons.inj h).2⟩
      | cons d q =>
          obtain rfl := (List.cons.inj h).1
          simp at hc
  | cons c p ih =>
      cases q with
      | nil =>
          obtain rfl := (List.cons.inj h).1
          simp at hc
      | cons d q =>
          obtain ⟨hcd, hrest⟩ := List.cons.inj h
          rw [hcd, List.count_cons, List.count_cons, Nat.add_right_cancel_iff] at hc
          obtain ⟨hpq, hst⟩ := ih hc hrest
          exact ⟨by rw [hcd, hpq], hst⟩

/-- Texts joined by commas are known when their numbers of commas are. -/
theorem eq_of_intercalate_eq {ps qs : List Text} (hc : ps.map slots = qs.map slots)
    (h : List.intercalate [','] ps = List.intercalate [','] qs) : ps = qs := by
  induction ps generalizing qs with
  | nil => exact (List.map_eq_nil_iff.mp hc.symm).symm
  | cons p ps ih =>
      obtain ⟨q, qs, rfl⟩ := List.exists_cons_of_ne_nil fun hnil : qs = [] => by
        rw [hnil] at hc
        cases hc
      obtain ⟨hpq, hrest⟩ := List.cons.inj hc
      cases ps with
      | nil =>
          obtain rfl := List.map_eq_nil_iff.mp hrest.symm
          rw [List.intercalate_singleton, List.intercalate_singleton] at h
          rw [h]
      | cons p' ps =>
          cases qs with
          | nil => cases hrest
          | cons q' qs =>
              rw [List.intercalate_cons_cons, List.intercalate_cons_cons, List.append_assoc,
                List.append_assoc] at h
              obtain ⟨rfl, htail⟩ := append_comma_inj (Nat.succ.inj hpq) h
              rw [ih hrest htail]

end Text

open Text

theorem Walker.Cut.slots_eq {t : Text} {ps : List Text} (h : Cut mode t ps) :
    t.slots = (ps.map slots).sum := by
  rw [← h.intercalate_eq, slots_intercalate h.ne_nil]

theorem slots_line (indent level : Nat) (e : Text) :
    slots (lineBreak indent level ++ e) = e.slots := by
  rw [slots, slots, List.count_append, count_blanks (blanks_lineBreak indent level), Nat.zero_add]

theorem slots_joined {entries : List Text} (h : entries ≠ []) (indent level : Nat) :
    (joined indent level entries).slots = (entries.map slots).sum := by
  rw [joined, slots_intercalate (by simpa using h), List.map_map]
  exact congrArg List.sum (List.map_congr_left fun e _ => slots_line indent level e)

/-- **Nothing lost, nothing moved.**  If what is kept of the pieces of joined entries is what was
written there, with all its commas, then the pieces are the entries: each is kept as what it was
written for, and all but the last lead back to the top. -/
theorem kept_of_joined {α : Type} {xs : List α} {text : α → Text} {g : Text → Option α}
    {w : α → Nat} {indent level : Nat} (hne : xs ≠ []) (hg : ∀ p x, g p = some x → w x ≤ p.slots)
    (hkept : ((joined indent level (xs.map text)).pieces mode).filterMap g = xs)
    (hw : ∀ x ∈ xs, w x = (text x).slots) :
    (∀ x ∈ xs, g (lineBreak indent level ++ text x) = some x) ∧
      ∀ x ∈ xs.dropLast, start.run mode (text x) = start := by
  have hcut := cut_pieces mode (joined indent level (xs.map text))
  have hlines : (xs.map text).map (lineBreak indent level ++ ·) =
      xs.map fun x => lineBreak indent level ++ text x := List.map_map
  have hslots : xs.map w = (xs.map fun x => lineBreak indent level ++ text x).map slots := by
    rw [List.map_map]
    exact List.map_congr_left fun x hx => (hw x hx).trans (slots_line indent level (text x)).symm
  generalize (joined indent level (xs.map text)).pieces mode = ps at hcut hkept
  rw [joined, hlines] at hcut
  have hsum : (ps.map slots).sum ≤ ((ps.filterMap g).map w).sum := by
    rw [← hcut.slots_eq, slots_intercalate (by simpa using hne), hkept, hslots]
  -- the pieces have no more commas than the entries, so that none was dropped
  obtain ⟨hmap, hweights⟩ := map_eq_of_sum_le hg (fun p => Nat.succ_pos _) hsum
  rw [hkept] at hmap hweights
  obtain rfl := eq_of_intercalate_eq (hweights.symm.trans hslots) hcut.intercalate_eq
  refine ⟨fun x hx => ?_, fun x hx => ?_⟩
  · rw [List.map_map] at hmap
    exact List.map_inj_left.mp hmap x hx
  · have htop := hcut.run_eq_start
    rw [← List.map_dropLast] at htop
    rw [← run_lineBreak_append indent level]
    exact htop _ (List.mem_map_of_mem hx)

/-! ### Commas in values -/

namespace Value

theorem slots_block {entries : List Text} (h : entries ≠ []) (indent level : Nat) :
    (block indent level entries).slots = (entries.map slots).sum := by
  rw [← slots_joined h indent (level + 1), block_eq h, slots, slots,
    List.count_cons_of_ne (by decide), List.count_append, List.count_append,
    count_blanks (blanks_lineBreak indent level)]
  rfl

theorem slots_quoted (s : Text) : s.quoted.slots = s.slots := by
  rw [slots, slots, Text.quoted, List.cons_append, List.count_cons_of_ne (by decide),
    List.count_append, count_escape (by decide)]
  rfl

theorem slots_entryText (key value : Text) :
    (entryText key value).slots = key.count ',' + value.slots := by
  have hkey := slots_quoted key
  rw [slots, slots, Nat.add_right_cancel_iff] at hkey
  rw [entryText, slots, slots, List.count_append, List.count_append, hkey]
  show key.count ',' + 0 + value.count ',' + 1 = _
  omega

/-- The commas of a literal, counted as if one more stood behind it. -/
def slots (v : Value) : Nat := (v.render 0 0).slots

/-- The commas of an entry, with one more. -/
def entrySlots (e : Text × Value) : Nat := e.1.count ',' + e.2.slots

theorem entrySlots_pos (e : Text × Value) : 0 < entrySlots e :=
  Nat.add_pos_right _ (Nat.succ_pos _)

/-- **The layout has no commas.** -/
theorem slots_render (indent level : Nat) (v : Value) :
    (v.render indent level).slots = v.slots := by
  -- for any two layouts, so that the entries can stand at a level of their own
  have hlayout : ∀ indent' level', (v.render indent level).slots =
      (v.render indent' level').slots := by
    induction v generalizing level with
    | list items ih =>
        intro indent' level'
        by_cases hne : items = []
        · subst hne
          rfl
        · rw [render_list, render_list, slots_block (by simpa using hne),
            slots_block (by simpa using hne), List.map_map, List.map_map]
          exact congrArg List.sum (List.map_congr_left fun u hu => ih u hu _ _ _)
    | map entries ih =>
        intro indent' level'
        by_cases hne : entries = []
        · subst hne
          rfl
        · rw [render_map, render_map, slots_block (by simpa using hne),
            slots_block (by simpa using hne), List.map_map, List.map_map]
          refine congrArg List.sum (List.map_congr_left fun e he => ?_)
          rw [Function.comp_apply, Function.comp_apply, slots_entryText, slots_entryText,
            ih e he _ _ _]
    | bool b => cases b <;> exact fun _ _ => rfl
    | _ => exact fun _ _ => rfl
  exact hlayout 0 0

theorem slots_list {items : List Value} (h : items ≠ []) :
    (Value.list items).slots = (items.map slots).sum := by
  rw [slots, render_list, slots_block (by simpa using h), List.map_map]
  exact congrArg List.sum (List.map_congr_left fun u _ => slots_render _ _ u)

theorem slots_entry (indent level : Nat) (e : Text × Value) :
    (entryText e.1 (e.2.render indent level)).slots = entrySlots e := by
  rw [slots_entryText, slots_render]
  rfl

theorem slots_map {entries : Entries Value} (h : entries ≠ []) :
    (Value.map entries).slots = (entries.map entrySlots).sum := by
  rw [slots, render_map, slots_block (by simpa using h), List.map_map]
  exact congrArg List.sum (List.map_congr_left fun e _ => slots_entry _ _ e)

/-! ### Commas that are read -/

/-- A text without brackets has the commas of its value. -/
theorem slots_readScalar_le (t : Text) : (readScalar t).slots ≤ t.slots := by
  rcases readScalar_cases t with ⟨quote, s, hs, h⟩ | ⟨n, -, h⟩ | ⟨b, h⟩ | h | h <;> rw [h]
  · show s.quoted.slots ≤ _
    rw [slots_quoted, eq_of_unquote? hs, Text.slots, Text.slots, List.cons_append, List.count_cons,
      List.count_append]
    omega
  · show n.text.slots ≤ _
    rw [Text.slots, List.count_eq_zero.mpr (Number.not_mem_text (by decide) n)]
    exact Nat.succ_le_succ (Nat.zero_le _)
  · cases b <;> exact Nat.succ_le_succ (Nat.zero_le _)
  · exact Nat.succ_le_succ (Nat.zero_le _)
  · exact Nat.le_refl _

/-- A key has no more commas than the text that it is read from. -/
theorem count_readKey_le (t : Text) : (readKey t).count ',' ≤ t.count ',' := by
  rw [readKey]
  split
  · exact Nat.le_refl _
  · rcases readScalar_cases t with ⟨quote, s, hs, h⟩ | ⟨n, -, h⟩ | ⟨b, h⟩ | h | h <;> rw [h]
    · rw [toKey, eq_of_unquote? hs, List.cons_append, List.count_cons, List.count_append]
      omega
    · rw [toKey, List.count_eq_zero.mpr (Number.not_mem_text (by decide) n)]
      exact Nat.zero_le _
    · cases b <;> exact Nat.zero_le _
    · exact Nat.zero_le _
    · exact Nat.le_refl _

/-- What a piece of a list is kept as, if it is not blank. -/
def kept? (read : Text → Value) (p : Text) : Option Value :=
  if p.trim = [] then none else some (read p.trim)

theorem map_filter_trim (read : Text → Value) (ps : List Text) :
    ((ps.map trim).filter (· ≠ [])).map read = ps.filterMap (kept? read) := by
  induction ps with
  | nil => rfl
  | cons p ps ih =>
      by_cases hp : p.trim = []
      · have hkept : kept? read p = none := if_pos hp
        rw [List.filterMap_cons_none hkept, ← ih, List.map_cons, List.filter_cons_of_neg]
        simp [hp]
      · have hkept : kept? read p = some (read p.trim) := if_neg hp
        rw [List.filterMap_cons_some hkept, ← ih, List.map_cons, List.filter_cons_of_pos,
          List.map_cons]
        simp [hp]

theorem slots_kept?_le {read : Text → Value} (hread : ∀ t, (read t).slots ≤ t.slots) (p : Text)
    (v : Value) (h : kept? read p = some v) : v.slots ≤ p.slots := by
  rw [kept?] at h
  split at h
  · cases h
  · obtain rfl := Option.some.inj h
    refine (hread _).trans ?_
    rw [Text.slots, Text.slots, count_trim]

theorem entrySlots_keyed?_le {read : Text → Value} (hread : ∀ t, (read t).slots ≤ t.slots)
    (p : Text) (e : Text × Value) (h : keyed? mode read p = some e) : entrySlots e ≤ p.slots := by
  obtain ⟨⟨key, value⟩, harrow, rfl⟩ := Option.map_eq_some_iff.mp h
  obtain ⟨rfl, -, -⟩ := arrow?_eq_some_iff.mp harrow
  have hkey := count_readKey_le key.trim
  have hvalue := hread value.trim
  rw [count_trim] at hkey
  rw [Text.slots, count_trim] at hvalue
  rw [entrySlots, Text.slots, List.count_append, List.count_cons_of_ne (by decide),
    List.count_cons_of_ne (by decide)]
  dsimp only
  omega

theorem slots_brackets (t : Text) : Text.slots ('[' :: t ++ [']']) = t.slots := by
  rw [Text.slots, Text.slots, List.cons_append, List.count_cons_of_ne (by decide),
    List.count_append]
  rfl

/-- **A value has no more commas** than the text that it is read from. -/
theorem slots_read_le (levels : Nat) (t : Text) : (read mode levels t).slots ≤ t.slots := by
  induction levels generalizing t with
  | zero =>
      rw [read]
      split
      · exact Nat.le_refl _
      · exact slots_readScalar_le t
  | succ levels ih =>
      cases hb : t.isBracketed with
      | false =>
          rw [read_of_not_bracketed hb]
          exact slots_readScalar_le t
      | true =>
          obtain ⟨u, rfl⟩ := exists_of_isBracketed hb
          rw [read_brackets, slots_brackets]
          by_cases harrow : Text.arrow? mode u = none
          · rw [readArray_of_no_arrow harrow, map_filter_trim]
            by_cases hne : (Text.pieces mode u).filterMap (kept? (read mode levels)) = []
            · rw [hne]
              exact Nat.succ_le_succ (Nat.zero_le _)
            · rw [slots_list hne, (cut_pieces mode u).slots_eq]
              exact sum_filterMap_le (slots_kept?_le ih) _
          · have hne := filterMap_keyed?_ne_nil harrow (read mode levels)
            rw [readArray_of_arrow harrow, slots_map (Entries.collect_ne_nil hne),
              (cut_pieces mode u).slots_eq]
            exact (Entries.sum_collect_le _ _).trans (sum_filterMap_le (entrySlots_keyed?_le ih) _)

end Value

end ArrayLiteral
