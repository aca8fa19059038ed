import ArrayLiteral.Proofs.Entries.Lookup
import ArrayLiteral.Proofs.Literal.Nesting
import ArrayLiteral.Proofs.Literal.Pieces

/-!
# Proofs — Literal — Meaning

What a literal means, said by its pieces and not by its characters.  If the pieces are
self-contained, the commas between them and nothing else divide the literal, whatever blanks stand
around it and however deep in other arrays it lies (`readAt_blanks_pieced`).

* Without an arrow in any piece it is the list of the values of the pieces that are not blank
  (`readArray_cut_of_no_arrow`).
* Otherwise it is a map.  Each piece with an arrow gives an entry (`entryAt?`), and the others give
  none; a key stands where it first occurs, with the value of its last occurrence
  (`readAt_pieced`).
-/

namespace ArrayLiteral

open Walker Text

variable {mode : QuoteScan} {ps : List Text} {depth : Nat}

namespace Value

/-- The value of a text, of any form, that so many arrays lie around. -/
def readAt (mode : QuoteScan) (depth : Nat) (t : Text) : Value :=
  read mode (maxLevels - depth) t.trim

/-- The entry of a piece that has an arrow: the text before its first arrow at the top is a value
too, and stands for a key. -/
def entryAt? (mode : QuoteScan) (depth : Nat) (piece : Text) : Option (Text × Value) :=
  (piece.arrow? mode).map fun (key, value) =>
    (toKey key.trim (readAt mode depth key), readAt mode depth value)

/-- The reader of an array finds the same entry in a piece. -/
theorem keyed?_eq_entryAt? (mode : QuoteScan) (depth : Nat) (piece : Text) :
    keyed? mode (read mode (maxLevels - depth)) piece = entryAt? mode depth piece := by
  rw [keyed?, entryAt?]
  congr 1
  funext kv
  obtain ⟨key, value⟩ := kv
  dsimp only
  rw [readAt, toKey_read, readAt]

/-- **The elements of a list** are the values of its pieces, but for the blank ones. -/
theorem readArray_cut_of_no_arrow {t : Text} (h : Cut mode t ps)
    (harrow : ∀ p ∈ ps, p.arrow? mode = none) (read : Text → Value) :
    readArray mode read t = .list ((ps.filter (·.trim ≠ [])).map fun p => read p.trim) := by
  have hnone : t.arrow? mode = none := h.arrow?_eq_none_of_forall harrow
  rw [readArray_of_no_arrow hnone, h.pieces_eq, List.filter_map, List.map_map]
  rfl

theorem trim_blanks_pieced {a b : Text} (ha : Blanks a) (hb : Blanks b) (ps : List Text) :
    (a ++ pieced ps ++ b).trim = pieced ps := by
  rw [trim_blanks_append_append ha _ hb, pieced, trim_cons_append (by decide) (by decide)]

/-- **Blanks around a literal** do not count, and an array that is not too deep is opened. -/
theorem readAt_blanks_pieced {a b : Text} (ha : Blanks a) (hb : Blanks b)
    (hdepth : depth < maxLevels) (ps : List Text) :
    readAt mode depth (a ++ pieced ps ++ b) =
      readArray mode (read mode (maxLevels - (depth + 1))) (List.intercalate [','] ps) := by
  have hlevels : maxLevels - depth = maxLevels - (depth + 1) + 1 := by omega
  rw [readAt, trim_blanks_pieced ha hb, hlevels, pieced, read_brackets]

theorem parse_blanks_pieced {a b : Text} (ha : Blanks a) (hb : Blanks b) (ps : List Text) :
    parse mode (a ++ pieced ps ++ b) = .ok (readAt mode 0 (a ++ pieced ps ++ b)) := by
  have hbracketed : (a ++ pieced ps ++ b).trim.isBracketed = true := by
    rw [trim_blanks_pieced ha hb]
    exact isBracketed_append _
  exact if_pos hbracketed

/-- **What a literal means.**  A literal put together from self-contained pieces, with blanks around
it, is accepted.  At each depth down to the limit it is the list of the values of its pieces, one
level deeper and without the blank ones, if no piece has an arrow.  Otherwise it is the map of the
entries of the pieces that have one: its keys in the order in which they first occur, each with its
last value. -/
theorem readAt_pieced (hps : ∀ p ∈ ps, SelfContained mode p) (hne : ps ≠ []) {a b : Text}
    (ha : Blanks a) (hb : Blanks b) :
    let t := a ++ pieced ps ++ b
    parse mode t = .ok (readAt mode 0 t) ∧
      ∀ depth < maxLevels,
        ((∀ p ∈ ps, p.arrow? mode = none) →
          readAt mode depth t =
            .list ((ps.filter (·.trim ≠ [])).map (readAt mode (depth + 1)))) ∧
        ((∃ p ∈ ps, p.arrow? mode ≠ none) →
          let pairs : Entries Value := ps.filterMap (entryAt? mode (depth + 1))
          ∃ entries : Entries Value, readAt mode depth t = .map entries ∧
            entries.keys = pairs.keys.eraseDups ∧
            ∀ key, entries.get? key = Entries.get? pairs.reverse key) := by
  intro t
  have hcut : Cut mode (List.intercalate [','] ps) ps := cut_pieced hps hne
  refine ⟨parse_blanks_pieced ha hb ps, fun depth hdepth => ⟨fun hnone => ?_, fun hsome => ?_⟩⟩
  · rw [readAt_blanks_pieced ha hb hdepth, readArray_cut_of_no_arrow hcut hnone]
    rfl
  · intro pairs
    have hpairs : ps.filterMap (keyed? mode (read mode (maxLevels - (depth + 1)))) = pairs :=
      List.filterMap_congr fun p _ => keyed?_eq_entryAt? mode (depth + 1) p
    refine ⟨Entries.collect pairs, ?_, Entries.keys_collect pairs, Entries.get?_collect pairs⟩
    rw [readAt_blanks_pieced ha hb hdepth, readArray_of_cut hcut hsome, hpairs]

/-- A blank piece, one without a key, and a key that is written in two ways; of the two arrays, the
one at the limit is read and the one behind it is not. -/
theorem readAt_pieced_limit :
    let ps : List Text := ["1.0 => [ ]".toList, " ".toList, "f(',', \"=>\")".toList,
      " 'a' => [2 => (3)]".toList, "1=>x".toList]
    let t := [' '] ++ pieced ps ++ ['\n']
    ((∀ p ∈ ps, SelfContained .naive p) ∧ ps ≠ [] ∧ Blanks [' '] ∧ Blanks ['\n'] ∧
        128 < maxLevels ∧ ∃ p ∈ ps, p.arrow? .naive ≠ none) ∧
      parse .naive t = .ok (readAt .naive 0 t) ∧
      ∃ entries : Entries Value, readAt .naive 128 t = .map entries ∧
        entries.keys = [['1'], ['a']] ∧ entries.get? ['1'] = some (.raw ['x']) ∧
        entries.get? ['a'] = some (.raw "[2 => (3)]".toList) := by
  intro ps t
  have hps : ∀ p ∈ ps, SelfContained .naive p := by decide
  have hspace : Blanks [' '] := by decide
  have hbreak : Blanks ['\n'] := by decide
  have hlimit : 128 < maxLevels := by decide
  have harrow : ∃ p ∈ ps, p.arrow? .naive ≠ none := by decide
  obtain ⟨hparse, hread⟩ := readAt_pieced hps (List.cons_ne_nil _ _) hspace hbreak
  obtain ⟨entries, hentries, hkeys, hget⟩ := (hread 128 hlimit).2 harrow
  refine ⟨⟨hps, List.cons_ne_nil _ _, hspace, hbreak, hlimit, harrow⟩, hparse, entries, hentries,
    ?_, ?_, ?_⟩
  · rw [hkeys]
    decide +kernel
  · rw [hget]
    decide +kernel
  · rw [hget]
    decide +kernel

end Value

end ArrayLiteral
