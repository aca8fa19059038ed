import ArrayLiteral.Proofs.Literal.Elements
import ArrayLiteral.Proofs.Value.Identity

/-!
# Proofs — Literal — Nesting

Arrays are read down to a level, and below it they are kept as expressions.  `readAll` is the reader
without that limit: it reads as many levels as a text has characters, which no text can use up, and
so it satisfies the equation of a reader that never stops (`readAll_eq`).

The limited reader builds no more levels than it is given, and leaves an array unread only behind
the last of them (`height_read_le`, `everywhere_bracketsAt`).  What fits into the levels is read as
it is without a limit (`read_eq_readAll`).  Arrays that do not show in the value need not fit: those
in keys, which stand for their text at every level (`toKey_read`), and those that a later entry of
the same key has replaced.
-/

namespace ArrayLiteral

open Text

variable {mode : QuoteScan} {t : Text}

namespace Value

/-! ### Levels -/

theorem read_zero_of_bracketed (h : t.isBracketed = true) : read mode 0 t = .raw t := if_pos h

theorem read_succ_of_bracketed (h : t.isBracketed = true) (levels : Nat) :
    read mode (levels + 1) t = readArray mode (read mode levels) t.inner := if_pos h

/-- Induction on the levels: an array is read by its elements, and behind the last level by none. -/
theorem read_induction (mode : QuoteScan) {motive : Nat → Text → Prop}
    (scalar : ∀ levels t, t.isBracketed = false → motive levels t)
    (unread : ∀ t, t.isBracketed = true → motive 0 t)
    (array : ∀ levels t, t.isBracketed = true →
      (∀ u ∈ elements mode t.inner, motive levels u) → motive (levels + 1) t)
    (levels : Nat) (t : Text) : motive levels t := by
  induction levels generalizing t with
  | zero =>
      cases hb : t.isBracketed with
      | true => exact unread t hb
      | false => exact scalar 0 t hb
  | succ levels ih =>
      cases hb : t.isBracketed with
      | true => exact array levels t hb fun u _ => ih u
      | false => exact scalar (levels + 1) t hb

theorem height_readScalar (t : Text) : (readScalar t).height = 0 := by
  rcases readScalar_cases t with ⟨-, s, -, h⟩ | ⟨n, -, h⟩ | ⟨b, h⟩ | h | h <;> rw [h] <;> rfl

/-- **No more levels are built** than are read. -/
theorem height_read_le (levels : Nat) (t : Text) : (read mode levels t).height ≤ levels := by
  induction levels, t using read_induction mode with
  | scalar levels t hb =>
      rw [read_of_not_bracketed hb, height_readScalar]
      exact Nat.zero_le levels
  | unread t hb =>
      rw [read_zero_of_bracketed hb]
      exact Nat.le_refl 0
  | array levels t hb ih =>
      rw [read_succ_of_bracketed hb]
      exact height_readArray_le_iff.mpr ih

/-- An expression between brackets lies in just so many arrays. -/
def BracketsAt (n : Nat) (around : List Kind) : Value → Prop
  | .raw r => r.isBracketed = true → around.length = n
  | _ => True

theorem bracketsAt_readScalar (h : t.isBracketed = false) (n : Nat) (around : List Kind) :
    (readScalar t).Everywhere (BracketsAt n) around := by
  rcases readScalar_cases t with ⟨-, s, -, hr⟩ | ⟨n, -, hr⟩ | ⟨b, hr⟩ | hr | hr <;> rw [hr]
  case inr.inr.inr.inr => exact fun hb => absurd (h.symm.trans hb) Bool.false_ne_true
  all_goals trivial

/-- **An array is left unread** only behind the last level. -/
theorem everywhere_bracketsAt {n : Nat} {around : List Kind} (levels : Nat)
    (hn : around.length + levels = n) (t : Text) :
    (read mode levels t).Everywhere (BracketsAt n) around := by
  induction levels, t using read_induction mode generalizing around with
  | scalar levels t hb =>
      rw [read_of_not_bracketed hb]
      exact bracketsAt_readScalar hb n around
  | unread t hb =>
      rw [read_zero_of_bracketed hb]
      exact fun _ => hn
  | array levels t hb ih =>
      rw [read_succ_of_bracketed hb]
      refine everywhere_readArray ?_ fun u hu kind => ih u hu ?_
      · rw [readArray]
        split <;> trivial
      · rw [List.length_cons]
        omega

/-! ### Without a limit -/

theorem length_inner (h : t.isBracketed = true) : t.inner.length + 2 ≤ t.length := by
  obtain ⟨u, rfl⟩ := exists_of_isBracketed h
  have hinner := (trim_isInfix u).length_le
  rw [Text.inner, List.cons_append, List.tail_cons, List.dropLast_concat, List.length_cons,
    List.length_append, List.length_singleton]
  omega

/-- Levels that a text is too short for are not used. -/
theorem read_eq_read {m n : Nat} (hm : t.length ≤ m) (hn : t.length ≤ n) :
    read mode m t = read mode n t := by
  induction m, t using read_induction mode generalizing n with
  | scalar m t hb => rw [read_of_not_bracketed hb, read_of_not_bracketed hb]
  | unread t hb =>
      have hlength := length_inner hb
      omega
  | array m t hb ih =>
      have hlength := length_inner hb
      obtain ⟨n, rfl⟩ : ∃ k, n = k + 1 := ⟨n - 1, by omega⟩
      rw [read_succ_of_bracketed hb, read_succ_of_bracketed hb]
      refine readArray_congr fun u hu => ?_
      have hinfix := (isInfix_of_mem_elements hu).length_le
      exact ih u hu (by omega) (by omega)

/-- The value of a text without outer blanks, with all its levels of arrays. -/
def readAll (mode : QuoteScan) (t : Text) : Value := read mode t.length t

/-- **All levels are read.** -/
theorem readAll_eq (mode : QuoteScan) (t : Text) :
    readAll mode t =
      if t.isBracketed then readArray mode (readAll mode) t.inner else readScalar t := by
  cases hb : t.isBracketed with
  | false => exact read_of_not_bracketed hb _
  | true =>
      have hlength := length_inner hb
      obtain ⟨n, hn⟩ : ∃ k, t.length = k + 1 := ⟨t.length - 1, by omega⟩
      rw [if_pos rfl, readAll, hn, read_succ_of_bracketed hb]
      refine readArray_congr fun u hu => read_eq_read ?_ (Nat.le_refl _)
      have hinfix := (isInfix_of_mem_elements hu).length_le
      omega

/-- **What fits into the levels** is read as it is without a limit. -/
theorem read_eq_readAll {levels : Nat} (h : (readAll mode t).height ≤ levels) :
    read mode levels t = readAll mode t := by
  -- only the elements that show in the value are known to fit, and only they are needed
  induction levels, t using read_induction mode with
  | scalar levels t hb => rw [readAll, read_of_not_bracketed hb, read_of_not_bracketed hb]
  | unread t hb =>
      rw [readAll_eq, if_pos hb] at h
      exact absurd h (Nat.not_le.mpr (height_readArray_pos _ _))
  | array levels t hb ih =>
      rw [readAll_eq, if_pos hb] at h ⊢
      rw [read_succ_of_bracketed hb]
      exact readArray_congr fun u hu => ih u hu (height_readArray_le_iff.mp h u hu)

/-- **A key does not depend on the levels**: an array is the key of its text, whether it is read or
left unread. -/
theorem toKey_read (mode : QuoteScan) (levels : Nat) (t : Text) :
    toKey t (read mode levels t) = readKey t := by
  rw [readKey]
  cases hb : t.isBracketed with
  | false => rw [read_of_not_bracketed hb, if_neg Bool.false_ne_true]
  | true =>
      rw [if_pos rfl]
      cases levels with
      | zero => rw [read_zero_of_bracketed hb, toKey]
      | succ levels =>
          rw [read_succ_of_bracketed hb, readArray]
          split <;> rfl

/-! ### Literals -/

/-- The value of a literal, which must be an array, with all its levels. -/
def parseAll (mode : QuoteScan) (t : Text) : Except Error Value :=
  if t.trim.isBracketed then .ok (readAll mode t.trim) else .error (.unbracketed t)

theorem ofText_of_parse {v : Value} (h : parse mode t = .ok v) : v = ofText mode t := by
  rw [parse] at h
  split at h
  · cases h
    rfl
  · cases h

theorem parse_of_parseAll {v : Value} (h : parseAll mode t = .ok v) (hv : v.height ≤ maxLevels) :
    parse mode t = .ok v := by
  rw [parseAll] at h
  split at h
  · rename_i hb
    cases h
    rw [parse, if_pos hb, ofText, read_eq_readAll hv]
  · cases h

/-- **The nesting limit.**  A value has no more levels than the limit, and what is left unread in it
lies just behind the last.  A text or a literal whose value without a limit has no more levels has
that value.  A key is the same with any levels and without a limit. -/
theorem nesting_limit (mode : QuoteScan) (t : Text) :
    (∀ v, v = ofText mode t ∨ parse mode t = .ok v →
      v.height ≤ maxLevels ∧ v.Everywhere (BracketsAt maxLevels) []) ∧
    (readAll mode t =
      if t.isBracketed then readArray mode (readAll mode) t.inner else readScalar t) ∧
    ((readAll mode t.trim).height ≤ maxLevels → ofText mode t = readAll mode t.trim) ∧
    (∀ v, parseAll mode t = .ok v → v.height ≤ maxLevels → parse mode t = .ok v) ∧
    ∀ key, toKey key (readAll mode key) = readKey key ∧
      ∀ levels, toKey key (read mode levels key) = readKey key := by
  refine ⟨fun v hv => ?_, readAll_eq mode t, read_eq_readAll, fun v => parse_of_parseAll,
    fun key => ⟨toKey_read mode _ key, fun levels => toKey_read mode levels key⟩⟩
  obtain rfl : v = ofText mode t := hv.elim id ofText_of_parse
  exact ⟨height_read_le maxLevels _, everywhere_bracketsAt maxLevels (Nat.zero_add _) _⟩

/-! ### Nested brackets -/

/-- So many arrays in each other, of which the innermost is empty. -/
def brackets (n : Nat) : Text := List.replicate n '[' ++ List.replicate n ']'

/-- A list that holds one value. -/
def wrap (v : Value) : Value := .list [v]

theorem brackets_succ (n : Nat) : brackets (n + 1) = '[' :: brackets n ++ [']'] := by
  rw [brackets, List.replicate_succ, List.replicate_succ', brackets, List.cons_append,
    List.cons_append, List.append_assoc]

theorem trim_brackets (n : Nat) : (brackets (n + 1)).trim = brackets (n + 1) := by
  rw [brackets_succ]
  exact trim_cons_append (by decide) (by decide) _

theorem readArray_brackets (read : Text → Value) (n : Nat) :
    readArray mode read (brackets (n + 1)) = wrap (read (brackets (n + 1))) := by
  have hmem : ∀ c, c ≠ '[' → c ≠ ']' → c ∉ brackets (n + 1) := fun c hopen hclose hc => by
    rcases List.mem_append.mp hc with h | h
    · exact hopen (List.eq_of_mem_replicate h)
    · exact hclose (List.eq_of_mem_replicate h)
  have harrow : (brackets (n + 1)).arrow? mode = none :=
    Walker.arrow?_of_not_meets (Walker.not_meets_of_not_mem (hmem _ (by decide) (by decide)) _)
  have hpieces : (brackets (n + 1)).pieces mode = [brackets (n + 1)] :=
    Walker.split_of_not_meets (Walker.not_meets_of_not_mem (hmem _ (by decide) (by decide)) _)
  have hne : brackets (n + 1) ≠ [] := by
    rw [brackets_succ]
    exact List.cons_ne_nil _ _
  rw [readArray_of_no_arrow harrow, hpieces, List.map_singleton, trim_brackets,
    List.filter_cons_of_pos (by simpa using hne)]
  rfl

/-- Each level takes off one pair of brackets. -/
theorem read_nested (levels m n : Nat) :
    read mode (levels + m) (brackets (levels + (n + 1))) =
      wrap^[levels] (read mode m (brackets (n + 1))) := by
  induction levels with
  | zero => rw [Nat.zero_add, Nat.zero_add, Function.iterate_zero_apply]
  | succ levels ih =>
      rw [Nat.add_right_comm, Nat.add_right_comm levels 1, brackets_succ, read_brackets,
        ← Nat.add_assoc, readArray_brackets, Nat.add_assoc, ih, Function.iterate_succ_apply']

theorem readAll_brackets (n : Nat) : readAll mode (brackets (n + 1)) = wrap^[n] (.list []) := by
  have hlength : (brackets (n + 1)).length = n + (n + 1 + 1) := by
    rw [brackets, List.length_append, List.length_replicate, List.length_replicate]
    omega
  have hinner : read mode (n + 1 + 1) (brackets 1) = .list [] := read_brackets (n + 1) []
  rw [readAll, hlength, ← hinner]
  exact read_nested n (n + 1 + 1) 0

theorem height_iterate_wrap (n : Nat) (v : Value) : (wrap^[n] v).height = n + v.height := by
  induction n with
  | zero => rw [Function.iterate_zero_apply, Nat.zero_add]
  | succ n ih =>
      have hwrap : ∀ u : Value, (wrap u).height = u.height + 1 := fun u => by
        rw [wrap, height, heightItems, heightItems, Nat.max_zero]
      rw [Function.iterate_succ_apply', hwrap, ih, Nat.add_right_comm]

/-- As many arrays as the limit allows are read, and of one more the innermost is left unread. -/
theorem nesting_limit_brackets :
    (parseAll .naive (brackets maxLevels) = .ok (wrap^[128] (.list [])) ∧
        (wrap^[128] (.list [])).height ≤ maxLevels ∧
        parse .naive (brackets maxLevels) = .ok (wrap^[128] (.list []))) ∧
      ofText .naive (brackets (maxLevels + 1)) = wrap^[maxLevels] (.raw ['[', ']']) := by
  have hall : parseAll .naive (brackets maxLevels) = .ok (wrap^[128] (.list [])) := by
    rw [parseAll, maxLevels, trim_brackets, if_pos (by decide), readAll_brackets]
  have hheight : (wrap^[128] (.list [])).height ≤ maxLevels := by
    rw [height_iterate_wrap]
    decide
  refine ⟨⟨hall, hheight, (nesting_limit .naive _).2.2.2.1 _ hall hheight⟩, ?_⟩
  rw [ofText, trim_brackets]
  exact read_nested maxLevels 0 0

end Value

end ArrayLiteral
