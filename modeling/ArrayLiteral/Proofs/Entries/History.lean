import Mathlib.Data.Finset.Card
import ArrayLiteral.Entries.Update
import ArrayLiteral.Proofs.Entries.Lookup

/-!
# Proofs — Entries — History

Entries after any run of changes, from none.  Their keys are distinct, and what is found under a key
is what the history of the changes says: the value that it was given last, since the entries were
last replaced (`lastWritten`).

A history has the latest change first, so that it is read backwards from now.  One change keeps the
keys distinct (`distinct_apply`) and is what it adds to the history (`get?_apply`); the run follows
by induction (`distinct_run`, `get?_run`).  Where the entries stand is settled change by change
(`run_history`).
-/

namespace ArrayLiteral.Entries.Update

variable {α : Type} {m : Entries α} {key : Text}

/-! ### What the history says -/

/-- The value that a key was given last, if it was given one since the entries were last replaced.
Changing every value gives each key that has one a new value. -/
def lastWritten (key : Text) : List (Update α) → Option α
  | [] => none
  | .fresh _ :: _ => none
  | .collect pairs :: _ => get? pairs.reverse key
  | .insert k value :: earlier => if k = key then some value else lastWritten key earlier
  | .sort _ :: earlier => lastWritten key earlier
  | .mapValues f :: earlier => (lastWritten key earlier).map (f key)
  | .reverse :: earlier => lastWritten key earlier

/-- A key was given a value since the entries were last replaced. -/
def Written (key : Text) : List (Update α) → Prop
  | [] => False
  | .fresh _ :: _ => False
  | .collect pairs :: _ => key ∈ keys pairs
  | .insert k _ :: earlier => k = key ∨ Written key earlier
  | .sort _ :: earlier => Written key earlier
  | .mapValues _ :: earlier => Written key earlier
  | .reverse :: earlier => Written key earlier

/-- A key that was not given a value has none. -/
theorem lastWritten_eq_none_iff {history : List (Update α)} :
    lastWritten key history = none ↔ ¬Written key history := by
  induction history with
  | nil => simp [lastWritten, Written]
  | cons u earlier ih =>
      cases u with
      | fresh room => simp [lastWritten, Written]
      | collect pairs =>
          rw [lastWritten, Written, get?_eq_none_iff, keys, List.map_reverse, List.mem_reverse]
          rfl
      | insert k value =>
          by_cases hk : k = key <;> simp [lastWritten, Written, hk, ih]
      | sort order => exact ih
      | mapValues f => simp [lastWritten, Written, ih]
      | reverse => exact ih

/-! ### One change -/

/-- Turned around, the entries are the same. -/
theorem apply_reverse (hm : m.Distinct) : apply m .reverse = List.reverse m := by
  refine collect_of_distinct ?_
  rw [Distinct, keys, List.map_reverse, List.nodup_reverse]
  exact hm

/-- **One change** keeps the keys distinct. -/
theorem distinct_apply (hm : m.Distinct) (u : Update α) : (apply m u).Distinct := by
  cases u with
  | fresh room => exact List.nodup_nil
  | collect pairs => exact distinct_collect pairs
  | insert k value => exact distinct_insert hm k value
  | sort order => exact ((m.sort_perm order).map Prod.fst).nodup_iff.mpr hm
  | mapValues f =>
      rw [apply, Distinct, keys_mapValues]
      exact hm
  | reverse => exact distinct_collect _

/-- **One change** is found as the history says. -/
theorem get?_apply (hm : m.Distinct) {history : List (Update α)}
    (h : m.get? key = lastWritten key history) (u : Update α) :
    (apply m u).get? key = lastWritten key (u :: history) := by
  cases u with
  | fresh room => rfl
  | collect pairs => exact get?_collect pairs key
  | insert k value => rw [apply, get?_insert, h, lastWritten]
  | sort order =>
      rw [lastWritten, ← h]
      exact get?_eq_of_perm hm (m.sort_perm order).symm key
  | mapValues f => rw [apply, get?_mapValues, h, lastWritten]
  | reverse =>
      rw [lastWritten, ← h, apply_reverse hm]
      exact get?_eq_of_perm hm (List.reverse_perm m).symm key

/-! ### A run of changes -/

theorem run_concat (m : Entries α) (updates : List (Update α)) (u : Update α) :
    run m (updates ++ [u]) = apply (run m updates) u := by
  rw [run, List.foldl_concat]
  rfl

theorem distinct_run (updates : List (Update α)) : (run [] updates).Distinct := by
  induction updates using List.reverseRecOn with
  | nil => exact List.nodup_nil
  | append_singleton updates u ih =>
      rw [run_concat]
      exact distinct_apply ih u

theorem get?_run (updates : List (Update α)) (key : Text) :
    (run [] updates).get? key = lastWritten key updates.reverse := by
  induction updates using List.reverseRecOn with
  | nil => rfl
  | append_singleton updates u ih =>
      rw [run_concat, List.reverse_concat]
      exact get?_apply (distinct_run updates) ih u

/-- A new value of a key takes the place of the old one, or the end if there was none. -/
theorem insert_eq_ite (hm : m.Distinct) (key : Text) (value : α) :
    m.insert key value =
      if key ∈ m.keys then m.map fun e => if e.1 = key then (key, value) else e
      else m ++ [(key, value)] := by
  by_cases h : key ∈ m.keys
  · rw [if_pos h, insert_eq_map hm h]
  · rw [if_neg h, insert_of_not_mem h]

/-- **Entries after a run of changes**, from none: what they hold and where it stands.

* There are as many entries as keys.
* Under each key stands what it was given last, and nothing exactly if it was given nothing.
* Giving a key a value answers the one that it had.  A key that is present keeps its place, as all
  other entries do, and a new one goes to the end.
* Collected pairs stand where their keys first occur, with the values of their last occurrences.
* Sorting and turning around move entries and change none, and changing all values moves none. -/
theorem run_history (updates : List (Update α)) :
    let m : Entries α := run [] updates
    (m.keys.Nodup ∧ m.keys.toFinset.card = m.length) ∧
      (∀ key, m.get? key = lastWritten key updates.reverse ∧
        (m.get? key = none ↔ ¬Written key updates.reverse) ∧
        (m.contains key = false ↔ ¬Written key updates.reverse)) ∧
      (∀ key value, m.put key value = (m.get? key, apply m (.insert key value)) ∧
        apply m (.insert key value) =
          if key ∈ m.keys then m.map fun e => if e.1 = key then (key, value) else e
          else m ++ [(key, value)]) ∧
      (∀ pairs, (apply m (.collect pairs)).keys = (keys pairs).eraseDups ∧
        ∀ key, (apply m (.collect pairs)).get? key = get? pairs.reverse key) ∧
      (∀ order, (apply m (.sort order)).Perm m) ∧ apply m .reverse = List.reverse m ∧
      ∀ f, (apply m (.mapValues f)).keys = m.keys := by
  intro m
  have hdistinct : m.Distinct := distinct_run updates
  have hwritten : ∀ key, m.get? key = none ↔ ¬Written key updates.reverse := fun key => by
    rw [get?_run, lastWritten_eq_none_iff]
  refine ⟨⟨hdistinct, ?_⟩, fun key => ⟨get?_run updates key, hwritten key, ?_⟩,
    fun key value => ⟨?_, insert_eq_ite hdistinct key value⟩,
    fun pairs => ⟨keys_collect pairs, get?_collect pairs⟩, m.sort_perm, apply_reverse hdistinct,
    fun f => keys_mapValues f m⟩
  · rw [List.toFinset_card_of_nodup hdistinct, keys, List.length_map]
  · rw [contains_eq_false_iff, hwritten]
  · rw [← put_fst m key value]
    rfl

end ArrayLiteral.Entries.Update
