import ArrayLiteral.Proofs.Entries.Weight
import ArrayLiteral.Proofs.Literal.FixedPoint
import ArrayLiteral.Proofs.Text.Unescape
import ArrayLiteral.Proofs.Value.Reordered

/-!
# Proofs — Literal — Alike

The keys of a map are distinct, but two of them can be written alike: escaping gives a backslash to
a bare quote, and leaves a quote that is escaped already as it is.  When the output is read again,
the two are one key, and one of the two values is lost.

The keys of the output are written apart exactly if the keys of every map that was read are distinct
without their escapes, and exactly then no entry is lost to another (`keysApart_sortKeys_iff`).  The
keys `it's` and `it\'s` are distinct, and without escapes they are not (`sortLiteral_repeats_key`).
-/

namespace ArrayLiteral

open Text

variable {mode : QuoteScan}

namespace Entries

variable {α : Type}

/-- **No entry is lost** exactly if the keys are distinct. -/
theorem length_collect_eq_iff {pairs : List (Text × α)} :
    (collect pairs).length = pairs.length ↔ Distinct pairs := by
  refine ⟨fun h => ?_, fun h => congrArg List.length (collect_of_distinct h)⟩
  -- each entry weighs one
  refine distinct_of_sum_le (fun _ => Nat.one_pos) ?_
  rw [List.map_const', List.map_const', h]

end Entries

namespace Value

variable {around : List Kind} {v : Value}

/-- The keys of a map are distinct without their escapes. -/
def BareKeysDistinct : Value → Prop
  | .map entries => ((Entries.keys entries).map (unescape false)).Nodup
  | _ => True

instance : ∀ v : Value, Decidable v.BareKeysDistinct
  | .map _ => inferInstanceAs (Decidable (List.Nodup _))
  | .null | .bool _ | .number _ | .string _ | .list _ | .raw _ => .isTrue trivial

/-- All entries of a map remain when they are collected under the keys that their written keys are
read as. -/
def KeysSurvive : Value → Prop
  | .map entries =>
    (Entries.collect (entries.map fun e => (readKey e.1.quoted, e.2))).length = entries.length
  | _ => True

theorem DistinctKeys.keysApart_iff (h : v.DistinctKeys) : v.KeysApart ↔ v.BareKeysDistinct := by
  cases v with
  | map entries =>
      rw [KeysApart, BareKeysDistinct, List.nodup_map_iff_inj_on h]
      simp only [quoted_eq_quoted_iff_unescape]
  | _ => exact Iff.rfl

theorem DistinctKeys.keysSurvive_iff (h : v.DistinctKeys) : v.KeysSurvive ↔ v.KeysApart := by
  cases v with
  | map entries =>
      let reread := entries.map fun e => (readKey e.1.quoted, e.2)
      have hlength : reread.length = entries.length := List.length_map _
      have hkeys : Entries.keys reread = (Entries.keys entries).map (escape false) := by
        rw [Entries.keys, Entries.keys, List.map_map, List.map_map]
        exact List.map_congr_left fun e _ => readKey_quoted e.1
      rw [KeysSurvive, ← hlength, Entries.length_collect_eq_iff, Entries.Distinct, hkeys,
        KeysApart, List.nodup_map_iff_inj_on h]
      simp only [quoted_eq_quoted_iff]
  | _ => exact Iff.rfl

theorem DistinctKeys.sortKeys (h : v.DistinctKeys) (order : KeyOrder) :
    (v.sortKeys order).DistinctKeys := by
  cases v with
  | map entries =>
      rw [sortKeys_map]
      exact (keys_sortKeys_perm order entries).nodup_iff.mpr h
  | _ => exact h

/-- Sorting moves keys and changes none. -/
theorem bareKeysDistinct_sortKeys_iff (order : KeyOrder) :
    (v.sortKeys order).BareKeysDistinct ↔ v.BareKeysDistinct := by
  cases v with
  | map entries =>
      rw [sortKeys_map]
      exact ((keys_sortKeys_perm order entries).map (unescape false)).nodup_iff
  | _ => exact Iff.rfl

theorem Built.distinctKeys (h : Built mode around v) : v.DistinctKeys := by
  cases v with
  | map entries => exact h.2.2
  | _ => trivial

/-- **Keys are written apart** in the sorted value exactly if the keys of each map that was read are
distinct without their escapes.  Exactly then all entries remain when the keys are read again. -/
theorem keysApart_sortKeys_iff {t : Text} (h : parse mode t = .ok v) (order : KeyOrder) :
    ((v.sortKeys order).Everywhere (fun _ => KeysApart) [] ↔
        v.Everywhere (fun _ => BareKeysDistinct) []) ∧
      ((v.sortKeys order).Everywhere (fun _ => KeysSurvive) [] ↔
        v.Everywhere (fun _ => BareKeysDistinct) []) := by
  have hdistinct : (v.sortKeys order).Everywhere (fun _ => DistinctKeys) [] :=
    everywhere_sortKeys.mpr ((built_parse h).1.imp fun _ _ hn => hn.distinctKeys.sortKeys order)
  have hapart : (v.sortKeys order).Everywhere (fun _ => KeysApart) [] ↔
      (v.sortKeys order).Everywhere (fun _ => BareKeysDistinct) [] :=
    Everywhere.congr (hdistinct.imp fun _ _ hn => hn.keysApart_iff)
  have hsurvive : (v.sortKeys order).Everywhere (fun _ => KeysSurvive) [] ↔
      (v.sortKeys order).Everywhere (fun _ => KeysApart) [] :=
    Everywhere.congr (hdistinct.imp fun _ _ hn => hn.keysSurvive_iff)
  have hbare : (v.sortKeys order).Everywhere (fun _ => BareKeysDistinct) [] ↔
      v.Everywhere (fun _ => BareKeysDistinct) [] := by
    simp only [everywhere_sortKeys, bareKeysDistinct_sortKeys_iff]
  exact ⟨hapart.trans hbare, hsurvive.trans (hapart.trans hbare)⟩

/-- Keys with a bare quote and with an escaped one. -/
theorem keysApart_sortKeys_iff_quotes :
    let t : Text := "[\"it's\" => ['a\\'' => 1, \"a\" => 2], 'its\\'' => 3]".toList
    ∃ v, parse .escapes t = .ok v ∧
      ((v.sortKeys .locale).Everywhere (fun _ => KeysApart) [] ↔
          v.Everywhere (fun _ => BareKeysDistinct) []) ∧
        ((v.sortKeys .locale).Everywhere (fun _ => KeysSurvive) [] ↔
          v.Everywhere (fun _ => BareKeysDistinct) []) := by
  intro t
  let v : Value := .map [("it's".toList, .map [("a\\'".toList, .number (.integer 1)),
    ("a".toList, .number (.integer 2))]), ("its\\'".toList, .number (.integer 3))]
  have h : parse .escapes t = .ok v := by decide +kernel
  exact ⟨v, h, keysApart_sortKeys_iff h .locale⟩

end Value

open Value

/-- **A key can be written twice.**  Both quotes come out escaped, and the second pass has one entry
only. -/
theorem sortLiteral_repeats_key :
    let options : Options := ⟨4, .locale, .escapes⟩
    let t : Text := "[\"it's\" => 1, 'it\\'s' => 2]".toList
    let out : Text := "[\n    'it\\'s' => 1,\n    'it\\'s' => 2\n]".toList
    ∃ v, parse options.quoteScan t = .ok v ∧
      ¬(v.sortKeys options.keyOrder).Everywhere (fun _ => KeysApart) [] ∧
      sortLiteral options t = .ok out ∧
      parse options.quoteScan out = .ok (.map [("it\\'s".toList, .number (.integer 2))]) := by
  intro options t out
  let v : Value := .map [("it's".toList, .number (.integer 1)),
    ("it\\'s".toList, .number (.integer 2))]
  have hparse : parse options.quoteScan t = .ok v := by decide +kernel
  have hsort : v.sortKeys options.keyOrder = v := by
    rw [sortKeys_map, List.map_cons, List.map_cons, List.map_nil, Entries.sort_pair,
      if_pos (by decide)]
    rfl
  have hout : sortLiteral options t = .ok out := by
    rw [sortLiteral_of_parse hparse, hsort]
    rfl
  refine ⟨v, hparse, ?_, hout, by decide +kernel⟩
  rw [hsort]
  decide

end ArrayLiteral
