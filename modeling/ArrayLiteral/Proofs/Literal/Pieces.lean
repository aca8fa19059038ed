import ArrayLiteral.Literal.Canonical
import ArrayLiteral.Proofs.Entries.Collect
import ArrayLiteral.Proofs.Literal.Array
import ArrayLiteral.Proofs.Value.Sorted

/-!
# Proofs — Literal — Pieces

A literal that is put together from pieces, with commas between them.  If each piece is
self-contained, so that a walker goes past it from the top to the top and meets no comma, then the
reader finds just these pieces (`cut_pieced`), wherever in the literal they stand.

The value is a map as soon as one piece has an arrow, and its entries are those of the pieces that
have one (`readArray_of_cut`); blank pieces and pieces without a key leave nothing.  Sorting
forgets the order of the entries, and so the output does not depend on the order of the pieces
(`sortLiteral_pieced`).
-/

namespace ArrayLiteral

open Walker Text

variable {mode : QuoteScan} {ps : List Text}

namespace Text

/-- A walker goes past the text from the top to the top, and meets no comma. -/
def SelfContained (mode : QuoteScan) (p : Text) : Prop :=
  start.run mode p = start ∧ meets mode ',' start p = false

instance (mode : QuoteScan) (p : Text) : Decidable (SelfContained mode p) :=
  inferInstanceAs (Decidable (_ ∧ _))

/-- The literal with these pieces between its brackets. -/
def pieced (ps : List Text) : Text := '[' :: List.intercalate [','] ps ++ [']']

/-- **Self-contained pieces are the pieces of their literal.** -/
theorem cut_pieced (h : ∀ p ∈ ps, SelfContained mode p) (hne : ps ≠ []) :
    Cut mode (List.intercalate [','] ps) ps :=
  cut_intercalate hne (fun p hp => (h p hp).2) fun p hp => (h p (List.dropLast_subset _ hp)).1

end Text

namespace Value

/-- The key of a piece that has an arrow. -/
def key? (mode : QuoteScan) (piece : Text) : Option Text :=
  (piece.arrow? mode).map fun (key, _) => readKey key.trim

theorem keys_filterMap_keyed? (read : Text → Value) (ps : List Text) :
    Entries.keys (ps.filterMap (keyed? mode read)) = ps.filterMap (key? mode) := by
  rw [Entries.keys, List.map_filterMap]
  refine List.filterMap_congr fun p _ => ?_
  rw [keyed?, key?, Option.map_map]
  rfl

/-- **The entries of a map** are those of its pieces that have an arrow. -/
theorem readArray_of_cut {t : Text} (h : Cut mode t ps) (harrow : ∃ p ∈ ps, p.arrow? mode ≠ none)
    (read : Text → Value) :
    readArray mode read t = .map (Entries.collect (ps.filterMap (keyed? mode read))) := by
  obtain ⟨p, hp, hpa⟩ := harrow
  have hsome : t.arrow? mode ≠ none := fun hnone => hpa (h.arrow?_eq_none hnone p hp)
  rw [readArray_of_arrow hsome, h.pieces_eq]

theorem parse_pieced (ps : List Text) :
    parse mode (pieced ps) =
      .ok (readArray mode (read mode (maxLevels - 1)) (List.intercalate [','] ps)) := by
  have hlevels : maxLevels = maxLevels - 1 + 1 := rfl
  rw [parse, ofText, pieced, trim_cons_append (by decide) (by decide),
    if_pos (isBracketed_append _), hlevels, read_brackets]
  rfl

end Value

open Value

variable {options : Options}

/-- **The order of the pieces does not matter.**  Self-contained pieces of which one has an arrow,
and whose keys are distinct, have one output in whatever order they are joined. -/
theorem sortLiteral_pieced (h : ∀ p ∈ ps, SelfContained options.quoteScan p)
    (harrow : ∃ p ∈ ps, p.arrow? options.quoteScan ≠ none)
    (hkeys : (ps.filterMap (key? options.quoteScan)).Nodup) :
    ∃ out, ∀ qs, qs.Perm ps → sortLiteral options (pieced qs) = .ok out := by
  let entry? := keyed? options.quoteScan (read options.quoteScan (maxLevels - 1))
  have hdistinct : Entries.Distinct (ps.filterMap entry?) := by
    rw [Entries.Distinct, keys_filterMap_keyed?]
    exact hkeys
  let v := Value.map (ps.filterMap entry?)
  refine ⟨(v.sortKeys options.keyOrder).render options.indent 0, fun qs hperm => ?_⟩
  obtain ⟨p, hp, hpa⟩ := harrow
  have hmem : p ∈ qs := hperm.mem_iff.mpr hp
  have hcut : Cut options.quoteScan (List.intercalate [','] qs) qs :=
    cut_pieced (fun q hq => h q (hperm.mem_iff.mp hq)) (List.ne_nil_of_mem hmem)
  have hentries : (qs.filterMap entry?).Perm (ps.filterMap entry?) := hperm.filterMap entry?
  have hdistinct' : Entries.Distinct (qs.filterMap entry?) :=
    (hentries.map Prod.fst).nodup_iff.mpr hdistinct
  have hparse : parse options.quoteScan (pieced qs) = .ok (.map (qs.filterMap entry?)) := by
    rw [parse_pieced, readArray_of_cut hcut ⟨p, hmem, hpa⟩,
      Entries.collect_of_distinct hdistinct']
  rw [sortLiteral_of_parse hparse, sortKeys_map_eq_of_perm hentries hdistinct']

/-- A blank piece, a piece without a key, and two whose values hold commas of their own. -/
theorem sortLiteral_pieced_calls :
    let options : Options := ⟨2, .locale, .escapes⟩
    let ps : List Text :=
      ["b => f(1, ',')".toList, " ".toList, "'x\\'y'".toList, " 'a' => [2, 1] ".toList]
    ((∀ p ∈ ps, SelfContained options.quoteScan p) ∧
      (∃ p ∈ ps, p.arrow? options.quoteScan ≠ none) ∧
      (ps.filterMap (key? options.quoteScan)).Nodup) ∧
      ∃ out, ∀ qs, qs.Perm ps → sortLiteral options (pieced qs) = .ok out := by
  intro options ps
  have hpieces : ∀ p ∈ ps, SelfContained options.quoteScan p := by decide
  have harrow : ∃ p ∈ ps, p.arrow? options.quoteScan ≠ none := by decide
  have hkeys : (ps.filterMap (key? options.quoteScan)).Nodup := by decide
  exact ⟨⟨hpieces, harrow, hkeys⟩, sortLiteral_pieced hpieces harrow hkeys⟩

end ArrayLiteral
