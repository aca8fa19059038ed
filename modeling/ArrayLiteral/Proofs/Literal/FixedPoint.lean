import Mathlib.Data.List.Nodup
import Mathlib.Data.List.Pairwise
import ArrayLiteral.Literal.Canonical
import ArrayLiteral.Proofs.Literal.Built
import ArrayLiteral.Proofs.Literal.RoundTrip
import ArrayLiteral.Proofs.Number.RoundTrip
import ArrayLiteral.Proofs.Value.Sorted

/-!
# Proofs — Literal — FixedPoint

Sorting a literal a second time.  The first output is the literal of a sorted value; if that value
is legible and settled, the output is read back as the value is written, and it is sorted and
written once more.

* With the naive scanner nothing changes between the two passes, because no text has a quote that
  could be escaped: the output is a fixed point, and it is canonical (`sortLiteral_fixed`).
* With the scanner that follows escapes the first pass puts backslashes into keys, which can change
  their order.  The output is a fixed point exactly if it does not
  (`sortLiteral_fixed_iff`), and this fails for the keys `a'` and `a(`
  (`sortLiteral_not_fixed`).

Numbers need no hypothesis: what was read from a literal reads back from its digits.
-/

namespace ArrayLiteral

open Walker Text

variable {mode : QuoteScan} {order : KeyOrder}

namespace Value

variable {around : List Kind} {v : Value}

/-! ### Legible values from the reader -/

/-- The texts of a node that are written between quotes. -/
def texts : Value → List Text
  | .string s => [s]
  | .map entries => Entries.keys entries
  | _ => []

/-- No two keys of a map are written alike. -/
def KeysApart : Value → Prop
  | .map entries => ∀ k ∈ Entries.keys entries, ∀ k' ∈ Entries.keys entries,
      k.quoted = k'.quoted → k = k'
  | _ => True

instance : ∀ v : Value, Decidable v.KeysApart
  | .map _ => inferInstanceAs (Decidable (∀ k ∈ _, ∀ k' ∈ _, _ → _))
  | .null | .bool _ | .number _ | .string _ | .list _ | .raw _ => .isTrue trivial

/-- What the reader does not promise of a legible node is asked of its texts and its keys. -/
theorem Built.legible (h : Built mode around v) (htexts : ∀ s ∈ v.texts, Quotable mode s)
    (hkeys : v.KeysApart) : Legible mode around v := by
  cases v with
  | number n =>
      -- a number that was read is finite and in normal form
      obtain ⟨t, ht⟩ := h
      obtain ⟨hnormal, hfinite⟩ := Number.normal_and_finite_of_ofLiteral? ht
      exact Number.ofLiteral?_text hnormal hfinite
  | string s => exact htexts s List.mem_cons_self
  | map entries =>
      obtain ⟨hdeep, -, hdistinct⟩ := h
      refine ⟨hdeep, fun e he => htexts e.1 (Entries.mem_keys_of_mem he), ?_⟩
      exact hdistinct.map_on fun k hk k' hk' hesc =>
        hkeys k hk k' hk' (quoted_eq_quoted_iff.mpr hesc)
  | _ => exact h

theorem Legible.sortKeys (h : Legible mode around v) (order : KeyOrder) :
    Legible mode around (v.sortKeys order) := by
  cases v with
  | map entries =>
      obtain ⟨hdeep, hkey, hdistinct⟩ := h
      have hperm := (keys_sortKeys_perm order entries).map (escape false)
      rw [sortKeys_map]
      refine ⟨hdeep, fun e he => ?_, hperm.nodup_iff.mpr hdistinct⟩
      obtain ⟨f, hf, rfl⟩ := List.mem_map.mp ((Entries.sort_perm _ order).mem_iff.mp he)
      exact hkey f hf
  | _ => exact h

theorem Legible.written (h : Legible mode around v) : Legible mode around v.written := by
  cases v with
  | string s => exact Quotable.escape h
  | map entries =>
      obtain ⟨hdeep, hkey, hdistinct⟩ := h
      by_cases hne : entries = []
      · subst hne
        exact hdeep
      · have hesc : (Entries.keys entries).map (escape false ∘ escape false) =
            (Entries.keys entries).map (escape false) :=
          List.map_congr_left fun k _ => escape_escape false k
        rw [written_map hne]
        refine ⟨hdeep, List.forall_mem_map.mpr fun e he => (hkey e he).escape, ?_⟩
        rw [keys_written, List.map_map, hesc]
        exact hdistinct
  | _ => exact h

theorem Escaped.sortKeys (h : v.Escaped) (order : KeyOrder) : (v.sortKeys order).Escaped := by
  cases v with
  | map entries =>
      obtain ⟨hne, hkey⟩ := h
      have hperm := Entries.sort_perm (entries.map fun e => (e.1, e.2.sortKeys order)) order
      rw [sortKeys_map]
      refine ⟨fun hnil => hne ?_, fun e he => ?_⟩
      · rw [hnil] at hperm
        exact List.map_eq_nil_iff.mp hperm.nil_eq.symm
      · obtain ⟨f, hf, rfl⟩ := List.mem_map.mp (hperm.mem_iff.mp he)
        exact hkey f hf
  | _ => exact h

theorem BalancedRaw.sortKeys (h : BalancedRaw mode v) (order : KeyOrder) :
    BalancedRaw mode (v.sortKeys order) := by
  cases v with
  | raw r => exact h
  | _ => trivial

theorem BalancedRaw.written (h : BalancedRaw mode v) : BalancedRaw mode v.written := by
  cases v with
  | raw r => exact h
  | map entries =>
      by_cases hne : entries = []
      · subst hne
        trivial
      · rw [written_map hne]
        trivial
  | _ => trivial

/-- A node without quotes tells everything, if it comes from the reader. -/
theorem Built.escaped (h : Built mode around v) (hquote : ∀ s ∈ v.texts, '\'' ∉ s) :
    v.Escaped := by
  cases v with
  | string s => exact escape_of_not_mem (hquote s List.mem_cons_self) false
  | map entries =>
      exact ⟨h.2.1, fun e he =>
        escape_of_not_mem (hquote e.1 (Entries.mem_keys_of_mem he)) false⟩
  | _ => trivial

/-- Keys without quotes are written apart. -/
theorem keysApart_of_not_mem (hquote : ∀ s ∈ v.texts, '\'' ∉ s) : v.KeysApart := by
  cases v with
  | map entries =>
      intro k hk k' hk' hquoted
      rw [quoted_eq_quoted_iff, escape_of_not_mem (hquote k hk), escape_of_not_mem (hquote k' hk')]
        at hquoted
      exact hquoted
  | _ => trivial

/-! ### Arrays that stay readable -/

/-- An array whose literal is read back, and that stays one when it is sorted or written. -/
structure Stable (mode : QuoteScan) (v : Value) : Prop where
  array : v.kind = .list ∨ v.kind = .map
  legible : v.Everywhere (Legible mode) []
  balanced : v.Everywhere (fun _ => BalancedRaw mode) []

namespace Stable

theorem sortKeys (h : v.Stable mode) (order : KeyOrder) : (v.sortKeys order).Stable mode where
  array := by
    rw [kind_sortKeys]
    exact h.array
  legible := everywhere_sortKeys.mpr (h.legible.imp fun _ _ hn => hn.sortKeys order)
  balanced := everywhere_sortKeys.mpr (h.balanced.imp fun _ _ hn => hn.sortKeys order)

theorem written (h : v.Stable mode) : v.written.Stable mode where
  array := by
    cases v with
    | list items =>
        rw [written_list]
        exact Or.inl rfl
    | map entries =>
        -- an empty map is written as an empty list
        by_cases hne : entries = []
        · subst hne
          exact Or.inl rfl
        · rw [written_map hne]
          exact Or.inr rfl
    | _ => exact h.array
  legible := everywhere_written.mpr (h.legible.imp fun _ _ hn => hn.written)
  balanced := everywhere_written.mpr (h.balanced.imp fun _ _ hn => hn.written)

/-- Stable arrays with one literal are written alike. -/
theorem written_eq {u : Value} (hv : v.Stable mode) (hu : u.Stable mode) {indent level : Nat}
    (h : v.render indent level = u.render indent level) : v.written = u.written :=
  written_eq_of_render_eq hv.legible hv.balanced.settled hu.legible hu.balanced.settled h

end Stable

end Value

open Value

variable {options : Options} {t : Text} {v : Value}

/-! ### Two passes -/

/-- **The second pass** sorts the first output as it is written. -/
theorem sortLiteral_render (h : v.Stable options.quoteScan) :
    sortLiteral options (v.render options.indent 0) =
      .ok ((v.written.sortKeys options.keyOrder).render options.indent 0) :=
  sortLiteral_of_parse
    (parse_render_of_legible h.array h.legible h.balanced.settled options.indent 0)

theorem parse_eq_of_trim_eq {s : Text} (h : s.trim = t.trim) : parse mode s = parse mode t := by
  rw [parse, parse, ofText, ofText, Error.unbracketed, Error.unbracketed, Error.refuse,
    Error.refuse, Error.snippet, Error.snippet, h]

/-- **Outer blanks of a literal do not count**, neither for the output nor for the error. -/
theorem sortLiteral_eq_of_trim_eq {s : Text} (h : s.trim = t.trim) :
    sortLiteral options s = sortLiteral options t := by
  rw [sortLiteral, sortLiteral, parse_eq_of_trim_eq h]

/-- Blanks behind a literal do not count. -/
theorem sortLiteral_append_blanks {out b : Text} (h : sortLiteral options t = .ok out)
    (hb : Blanks b) : sortLiteral options (t ++ b) = .ok out := by
  rw [sortLiteral_eq_of_trim_eq (trim_append_blanks t hb), h]

/-- The literal of an array stands between brackets. -/
theorem isBracketed_render (harray : v.kind = .list ∨ v.kind = .map) (indent level : Nat) :
    (v.render indent level).isBracketed = true := by
  cases v with
  | list items => exact isBracketed_block _ _ _
  | map entries => exact isBracketed_block _ _ _
  | _ => rcases harray with h | h <;> cases h

/-- A literal of an array has no line end of its own. -/
theorem chomp_render (harray : v.kind = .list ∨ v.kind = .map) (indent level : Nat) :
    (v.render indent level).chomp = v.render indent level ∧
      (v.render indent level ++ ['\n']).chomp = v.render indent level := by
  have hlast : (v.render indent level).getLast? = some ']' := by
    have hb := isBracketed_render harray indent level
    rw [isBracketed, Bool.and_eq_true] at hb
    exact beq_iff_eq.mp hb.2
  have hdrop : ∀ c, c ≠ ']' → dropFinal? c (v.render indent level) = none := fun c hc => by
    rw [dropFinal?, if_neg]
    rw [hlast]
    exact fun h => hc (Option.some.inj h).symm
  rw [chomp_append_lineFeed, chomp, dropReturn, hdrop '\n' (by decide), hdrop '\r' (by decide)]
  exact ⟨rfl, rfl⟩

/-- The sorted value of a text without quotes is legible for the naive scanner, and it tells
everything. -/
theorem sorted_of_parse (hmode : options.quoteScan = .naive)
    (hparse : parse options.quoteScan t = .ok v)
    (hquote : v.Everywhere (fun _ u => ∀ s ∈ u.texts, '\'' ∉ s) []) :
    ((v.sortKeys options.keyOrder).kind = .list ∨ (v.sortKeys options.keyOrder).kind = .map) ∧
      (v.sortKeys options.keyOrder).Everywhere (Legible options.quoteScan) [] ∧
      (v.sortKeys options.keyOrder).Everywhere (fun _ => Escaped) [] := by
  obtain ⟨hbuilt, harray⟩ := built_parse hparse
  have hnode := hbuilt.and hquote
  refine ⟨by rwa [kind_sortKeys], everywhere_sortKeys.mpr ?_, everywhere_sortKeys.mpr ?_⟩
  · refine hnode.imp fun _ u ⟨hb, hq⟩ => ?_
    refine Legible.sortKeys (hb.legible (fun s hs => ?_) (keysApart_of_not_mem hq)) _
    rw [hmode]
    exact hq s hs
  · exact hnode.imp fun _ _ ⟨hb, hq⟩ => (hb.escaped hq).sortKeys _

/-- **Fixed point, naive scanner.**  If no string and no key has a quote and every expression is
balanced, the output is a fixed point, and it is canonical with a line end and without. -/
theorem sortLiteral_fixed (hmode : options.quoteScan = .naive)
    (hparse : parse options.quoteScan t = .ok v)
    (hquote : v.Everywhere (fun _ u => ∀ s ∈ u.texts, '\'' ∉ s) [])
    (hraw : v.Everywhere (fun _ => BalancedRaw options.quoteScan) []) :
    ∃ out, sortLiteral options t = .ok out ∧ sortLiteral options out = .ok out ∧
      isCanonical options out = .ok true ∧ isCanonical options (out ++ ['\n']) = .ok true := by
  obtain ⟨harray, hlegible, hescaped⟩ := sorted_of_parse hmode hparse hquote
  let w := v.sortKeys options.keyOrder
  have hw : w.Stable options.quoteScan :=
    ⟨harray, hlegible, everywhere_sortKeys.mpr (hraw.imp fun _ _ h => h.sortKeys _)⟩
  have hagain : sortLiteral options (w.render options.indent 0) =
      .ok (w.render options.indent 0) := by
    rw [sortLiteral_render hw, written_eq_self hescaped, sortKeys_sortKeys]
  obtain ⟨hchomp, hchomp'⟩ := chomp_render harray options.indent 0
  refine ⟨w.render options.indent 0, sortLiteral_of_parse hparse, hagain, ?_, ?_⟩
  · rw [isCanonical, hagain, hchomp]
    exact congrArg Except.ok (beq_self_eq_true _)
  · rw [isCanonical, sortLiteral_append_blanks hagain (by decide), hchomp']
    exact congrArg Except.ok (beq_self_eq_true _)

/-- The keys change places; the group in the expression and the float come through. -/
theorem sortLiteral_fixed_call :
    let options : Options := ⟨2, .locale, .naive⟩
    let t : Text := "['b' => f(1, [2]), a => [1.5, \"c\"]]".toList
    ∃ v, parse options.quoteScan t = .ok v ∧
      (v.Everywhere (fun _ u => ∀ s ∈ u.texts, '\'' ∉ s) [] ∧
        v.Everywhere (fun _ => BalancedRaw options.quoteScan) []) ∧
      ∃ out, sortLiteral options t = .ok out ∧ sortLiteral options out = .ok out ∧
        isCanonical options out = .ok true ∧ isCanonical options (out ++ ['\n']) = .ok true := by
  intro options t
  let v : Value := .map [(['b'], .raw "f(1, [2])".toList),
    (['a'], .list [.number (.float ⟨false, 4609434218613702656⟩), .string ['c']])]
  have hparse : parse options.quoteScan t = .ok v := by decide +kernel
  have hquote : v.Everywhere (fun _ u => ∀ s ∈ u.texts, '\'' ∉ s) [] := by decide
  have hraw : v.Everywhere (fun _ => BalancedRaw options.quoteScan) [] := by decide
  exact ⟨v, hparse, ⟨hquote, hraw⟩, sortLiteral_fixed rfl hparse hquote hraw⟩

/-! ### Escapes and the key order -/

namespace Value

variable {around : List Kind}

/-- No two keys of a map change places when they are escaped. -/
def EscapingKeepsOrder (order : KeyOrder) : Value → Prop
  | .map entries => ∀ k ∈ Entries.keys entries, ∀ k' ∈ Entries.keys entries,
      order.compare k k' = .lt → order.compare (k.escape false) (k'.escape false) = .lt
  | _ => True

instance (order : KeyOrder) : ∀ v : Value, Decidable (v.EscapingKeepsOrder order)
  | .map _ => inferInstanceAs (Decidable (∀ k ∈ _, ∀ k' ∈ _, _ → _))
  | .null | .bool _ | .number _ | .string _ | .list _ | .raw _ => .isTrue trivial

/-- A sorted node is sorted as it is written if its keys keep their order. -/
theorem sorted_written_sortKeys_iff (order : KeyOrder) (hb : Built mode around v)
    (hl : Legible mode around v) :
    ((v.sortKeys order).written).Sorted order ↔ v.EscapingKeepsOrder order := by
  cases v with
  | list items =>
      rw [sortKeys_list, written_list]
      exact Iff.rfl
  | map entries =>
      obtain ⟨-, hne, -⟩ := hb
      obtain ⟨-, -, hdistinct⟩ := hl
      have hperm := keys_sortKeys_perm order entries
      rw [sortKeys_map]
      -- of the sorted entries only their order and their keys matter
      generalize hm : Entries.sort (entries.map fun e => (e.1, e.2.sortKeys order)) order = m
        at hperm ⊢
      have hordered : Entries.Ordered order m := hm ▸ Entries.ordered_sort order _
      have hmne : m ≠ [] := by
        rintro rfl
        exact hne (List.map_eq_nil_iff.mp hperm.nil_eq.symm)
      have hnodup : ((Entries.keys m).map (escape false)).Nodup :=
        (hperm.map (escape false)).nodup_iff.mpr hdistinct
      rw [written_map hmne, Sorted, Entries.ordered_iff_keys, keys_written,
        KeyOrder.pairwise_map_le_iff (Entries.ordered_iff_keys.mp hordered) hnodup]
      simp only [hperm.mem_iff]
      exact Iff.rfl
  | _ => exact Iff.rfl

/-- **Sorting again** leaves the written form of a sorted value as it is exactly if escaping keeps
the order of the keys. -/
theorem sortKeys_written_eq_iff (order : KeyOrder) (hb : v.Everywhere (Built mode) around)
    (hl : v.Everywhere (Legible mode) around) :
    (v.sortKeys order).written.sortKeys order = (v.sortKeys order).written ↔
      v.Everywhere (fun _ => EscapingKeepsOrder order) around := by
  rw [sortKeys_eq_self_iff around, everywhere_written, everywhere_sortKeys]
  exact Everywhere.congr ((hb.and hl).imp fun _ _ ⟨hbuilt, hlegible⟩ =>
    sorted_written_sortKeys_iff order hbuilt hlegible)

end Value

/-- **Fixed point, scanner that follows escapes.**  If no string and no key ends with a backslash,
every expression is balanced, and no two keys of a map are written alike, then the output is a
fixed point exactly if escaping the keys does not change their order in any map. -/
theorem sortLiteral_fixed_iff (hmode : options.quoteScan = .escapes)
    (hparse : parse options.quoteScan t = .ok v)
    (hslash : v.Everywhere (fun _ u => ∀ s ∈ u.texts, s.getLast? ≠ some '\\') [])
    (hraw : v.Everywhere (fun _ => BalancedRaw options.quoteScan) [])
    (hkeys : v.Everywhere (fun _ => KeysApart) []) :
    ∃ out, sortLiteral options t = .ok out ∧
      (sortLiteral options out = .ok out ↔
        v.Everywhere (fun _ => EscapingKeepsOrder options.keyOrder) []) := by
  obtain ⟨hbuilt, harray⟩ := built_parse hparse
  have hnode : v.Everywhere (Legible options.quoteScan) [] :=
    (hbuilt.and (hslash.and hkeys)).imp fun _ u ⟨hb, hs, hk⟩ => by
      refine hb.legible (fun s hm => ?_) hk
      rw [hmode]
      exact quotable_escapes_of_getLast? (hs s hm)
  let w := v.sortKeys options.keyOrder
  -- the second pass reads `u`, which has the same literal as `w`, and sorts it
  let u := w.written
  have hw : w.Stable options.quoteScan := Stable.sortKeys ⟨harray, hnode, hraw⟩ _
  have hu : u.Stable options.quoteScan := hw.written
  have hrender : u.render options.indent 0 = w.render options.indent 0 := render_written _ _ w
  have hwritten : u.written = u := written_eq_self (escaped_written w [])
  have hsorted : (u.sortKeys options.keyOrder).written = u.sortKeys options.keyOrder :=
    written_eq_self (everywhere_sortKeys.mpr ((escaped_written w []).imp fun _ _ h => h.sortKeys _))
  refine ⟨w.render options.indent 0, sortLiteral_of_parse hparse, ?_⟩
  rw [sortLiteral_render hw, ← sortKeys_written_eq_iff options.keyOrder hbuilt hnode,
    Except.ok.injEq, ← hrender]
  constructor
  · intro h
    have hsame := (hu.sortKeys options.keyOrder).written_eq hu h
    rwa [hsorted, hwritten] at hsame
  · intro h
    rw [h]

/-- A key and a string with a quote, which keep their places. -/
theorem sortLiteral_fixed_iff_quote :
    let options : Options := ⟨4, .bytewise, .escapes⟩
    let t : Text := "[\"it's\" => f(\"a\"), 'a' => ['x\\'y', 0.5]]".toList
    ∃ v, parse options.quoteScan t = .ok v ∧
      (v.Everywhere (fun _ u => ∀ s ∈ u.texts, s.getLast? ≠ some '\\') [] ∧
        v.Everywhere (fun _ => BalancedRaw options.quoteScan) [] ∧
        v.Everywhere (fun _ => KeysApart) []) ∧
      ∃ out, sortLiteral options t = .ok out ∧
        (sortLiteral options out = .ok out ↔
          v.Everywhere (fun _ => EscapingKeepsOrder options.keyOrder) []) := by
  intro options t
  let v : Value := .map [("it's".toList, .raw "f(\"a\")".toList),
    (['a'], .list [.string "x\\'y".toList, .number (.float ⟨false, 4602678819172646912⟩)])]
  have hparse : parse options.quoteScan t = .ok v := by decide +kernel
  have hslash : v.Everywhere (fun _ u => ∀ s ∈ u.texts, s.getLast? ≠ some '\\') [] := by decide
  have hraw : v.Everywhere (fun _ => BalancedRaw options.quoteScan) [] := by decide
  have hkeys : v.Everywhere (fun _ => KeysApart) [] := by decide
  exact ⟨v, hparse, ⟨hslash, hraw, hkeys⟩,
    sortLiteral_fixed_iff rfl hparse hslash hraw hkeys⟩

/-- **The second pass can change the order.**  A quote comes before a bracket, and a backslash
after it: escaped, the key with the quote goes behind the other. -/
theorem sortLiteral_not_fixed :
    let options : Options := ⟨4, .locale, .escapes⟩
    let t : Text := "[\"a'\" => 1, \"a(\" => 2]".toList
    ∃ v out, parse options.quoteScan t = .ok v ∧
      (v.Everywhere (fun _ u => ∀ s ∈ u.texts, s.getLast? ≠ some '\\') [] ∧
        v.Everywhere (fun _ => BalancedRaw options.quoteScan) [] ∧
        v.Everywhere (fun _ => KeysApart) []) ∧
      sortLiteral options t = .ok out ∧ sortLiteral options out ≠ .ok out := by
  intro options t
  let one : Value := .number (.integer 1)
  let two : Value := .number (.integer 2)
  let v : Value := .map [("a'".toList, one), ("a(".toList, two)]
  let u : Value := .map [("a\\'".toList, one), ("a(".toList, two)]
  let out : Text := "[\n    'a\\'' => 1,\n    'a(' => 2\n]".toList
  have hparse : parse options.quoteScan t = .ok v := by decide +kernel
  have hfirst : sortLiteral options t = .ok out := by
    rw [sortLiteral_of_parse hparse, sortKeys_map, List.map_cons, List.map_cons, List.map_nil,
      Entries.sort_pair, if_pos (by decide)]
    rfl
  have hagain : parse options.quoteScan out = .ok u := by decide +kernel
  have hsecond : sortLiteral options out ≠ .ok out := by
    rw [sortLiteral_of_parse hagain, sortKeys_map, List.map_cons, List.map_cons, List.map_nil,
      Entries.sort_pair, if_neg (by decide)]
    decide
  exact ⟨v, out, hparse, by decide, hfirst, hsecond⟩

end ArrayLiteral
