import ArrayLiteral.Literal.Reader
import ArrayLiteral.Literal.Printer
import ArrayLiteral.Proofs.Text.Quoting

/-!
# Proofs — Literal — Block

The literal of an array is a block: its entries on lines of their own, joined by commas, between
brackets.  An array deep inside others is looked through once for each of them, each time by a
walker that has the brackets in between open.

* `Whole mode around t`: none of the arrays around finds a separator in `t`, that is, no comma, and
  if it is a list no arrow.  A block of separate entries is whole (`whole_block`).
* Whole entries of which all but the last lead back to the top are `Separate`: joined by commas they
  are cut apart again (`cut_joined`).
* A block of separate entries leads back to the top exactly when the last one does (`run_block`).
-/

namespace ArrayLiteral

open Walker

variable {mode : QuoteScan}

namespace Text

/-- Nothing in a text separates for a walker that comes to it with `d` brackets open, in an array
of this kind. -/
def Unbroken (mode : QuoteScan) (kind : Value.Kind) (d : Int) (t : Text) : Prop :=
  meets mode ',' (.code d) t = false ∧ (kind = .list → Walker.arrow? mode (.code d) t = none)

/-- Nothing in a text separates for any of the arrays around, the innermost first. -/
def Whole (mode : QuoteScan) (around : List Value.Kind) (t : Text) : Prop :=
  ∀ (i : Nat) kind, around[i]? = some kind → Unbroken mode kind i t

theorem whole_nil (t : Text) : Whole mode [] t := fun _ _ h => by simp at h

theorem Whole.head {kind : Value.Kind} {around : List Value.Kind} {t : Text}
    (h : Whole mode (kind :: around) t) : Unbroken mode kind 0 t := h 0 kind rfl

theorem Whole.tail {kind k : Value.Kind} {around : List Value.Kind} {t : Text}
    (h : Whole mode (kind :: around) t) {i : Nat} (hi : around[i]? = some k) :
    Unbroken mode k (i + 1) t := h (i + 1) k hi

theorem whole_cons {kind : Value.Kind} {around : List Value.Kind} {t : Text}
    (h₀ : Unbroken mode kind 0 t)
    (h : ∀ (i : Nat) k, around[i]? = some k → Unbroken mode k (i + 1) t) :
    Whole mode (kind :: around) t := by
  intro i k hk
  cases i with
  | zero =>
      obtain rfl : kind = k := Option.some.inj hk
      exact h₀
  | succ i => exact h i k hk

/-- A text in which neither a comma nor an equals sign is met is whole. -/
theorem whole_of_not_meets {around : List Value.Kind} {t : Text}
    (h : ∀ c d, meets mode c (.code d) t = false) : Whole mode around t :=
  fun i _ _ => ⟨h ',' i, fun _ => arrow?_of_not_meets (h '=' i)⟩

theorem blanks_lineBreak (indent level : Nat) : Blanks (lineBreak indent level) := by
  intro c hc
  rcases List.mem_cons.mp hc with rfl | h
  · decide
  · obtain rfl := (List.mem_replicate.mp h).2
    decide

theorem lineBreak_eq_cons (indent level : Nat) :
    lineBreak indent level = '\n' :: List.replicate (indent * level) ' ' := rfl

theorem run_lineBreak_append (indent level : Nat) (e : Text) :
    start.run mode (lineBreak indent level ++ e) = start.run mode e := by
  rw [run_append, start, run_code_blanks (blanks_lineBreak indent level)]

/-- The last line of an array has blanks and its bracket only. -/
theorem not_mem_lastLine {c : Char} (hb : isBlank c = false) (hc : c ≠ ']')
    (indent level : Nat) : c ∉ lineBreak indent level ++ [']'] := by
  intro hm
  rcases List.mem_append.mp hm with h | h
  · rw [blanks_lineBreak indent level c h] at hb
    exact Bool.noConfusion hb
  · exact hc (List.mem_singleton.mp h)

end Text

open Text

/-! ### Entries joined -/

/-- The first part, and then every other behind a separator. -/
theorem intercalate_cons {α : Type} (separator part : List α) (rest : List (List α)) :
    List.intercalate separator (part :: rest) = part ++ rest.flatMap (separator ++ ·) := by
  induction rest generalizing part with
  | nil => simp [List.intercalate_singleton]
  | cons next rest ih => simp [List.intercalate_cons_cons, ih]

/-- Entries on lines of their own, joined by commas. -/
def joined (indent level : Nat) (entries : List Text) : Text :=
  List.intercalate [','] (entries.map (lineBreak indent level ++ ·))

theorem Value.block_eq {entries : List Text} (h : entries ≠ []) (indent level : Nat) :
    Value.block indent level entries =
      '[' :: (joined indent (level + 1) entries ++ lineBreak indent level ++ [']']) := by
  rw [Value.block, if_neg h, joined, List.cons_append, List.cons_append]

/-- The entries of an array of this kind, as they are to be if the array is to be cut into them. -/
structure Separate (mode : QuoteScan) (kind : Value.Kind) (around : List Value.Kind)
    (entries : List Text) : Prop where
  whole : ∀ e ∈ entries, Whole mode (kind :: around) e
  top : ∀ e ∈ entries.dropLast, start.run mode e = start

namespace Separate

variable {kind : Value.Kind} {around : List Value.Kind} {entries : List Text}

/-- Separate entries, joined by commas, are cut into them. -/
theorem cut_joined (h : Separate mode kind around entries) (hne : entries ≠ [])
    (indent level : Nat) :
    Cut mode (joined indent level entries) (entries.map (lineBreak indent level ++ ·)) := by
  refine cut_intercalate (by simpa using hne) (fun p hp => ?_) fun p hp => ?_
  · obtain ⟨e, he, rfl⟩ := List.mem_map.mp hp
    rw [start, meets_blanks_append (blanks_lineBreak indent level) (by decide)]
    exact (h.whole e he).head.1
  · rw [← List.map_dropLast] at hp
    obtain ⟨e, he, rfl⟩ := List.mem_map.mp hp
    rw [run_lineBreak_append]
    exact h.top e he

/-- **A block of separate entries is whole.** -/
theorem whole_block (h : Separate mode kind around entries) (indent level : Nat) :
    Whole mode around (Value.block indent level entries) := by
  by_cases hne : entries = []
  · rw [Value.block, if_pos hne]
    refine whole_of_not_meets fun c d => ?_
    rw [meets_cons, meets_cons, not_free_of_not_plain (by decide),
      not_free_of_not_plain (by decide)]
    rfl
  · intro i k hi
    have hcut := h.cut_joined hne indent (level + 1)
    have hb := blanks_lineBreak indent (level + 1)
    rw [Value.block_eq hne, List.append_assoc]
    refine ⟨?_, fun hk => ?_⟩
    -- the commas between the entries are below the top for an array around
    · have hj : meets mode ',' (.code (i + 1)) (joined indent (level + 1) entries) = false := by
        refine hcut.not_meets_of_forall (fun hn => absurd hn (by omega)) fun p hp => ?_
        obtain ⟨e, he, rfl⟩ := List.mem_map.mp hp
        rw [meets_blanks_append hb (by decide)]
        exact ((h.whole e he).tail hi).1
      refine meets_cons_eq_false.mpr ⟨fun hc => absurd hc.2 (by decide), ?_⟩
      rw [step_bracket, meets_append, hj,
        not_meets_of_not_mem (not_mem_lastLine (by decide) (by decide) _ _)]
      rfl
    · have hj : Walker.arrow? mode (.code (i + 1)) (joined indent (level + 1) entries) = none := by
        refine hcut.arrow?_eq_none_of_forall fun p hp => ?_
        obtain ⟨e, he, rfl⟩ := List.mem_map.mp hp
        have he := ((h.whole e he).tail hi).2 hk
        have hl := arrow?_blanks_append_append mode hb blanks_nil (i + 1) e
        rw [List.append_nil, he] at hl
        exact hl
      refine arrow?_cons_eq_none.mpr ⟨fun hc => absurd hc.2.1 (by decide), ?_⟩
      rw [step_bracket, arrow?_append hj fun _ => by rw [lineBreak_eq_cons]; simp,
        arrow?_of_not_meets
          (not_meets_of_not_mem (not_mem_lastLine (by decide) (by decide) _ _) _)]
      rfl

/-- The last line of a block leads to the top only from where the one bracket is open. -/
theorem run_lastLine {w : Walker} (hw : w.Opened) (indent level : Nat) :
    w.run mode (lineBreak indent level ++ [']']) = start ↔ w = .code 1 := by
  cases w with
  | code d =>
      have hr : run mode (.code d) (lineBreak indent level ++ [']']) = .code (d - 1) := by
        rw [run_append, run_code_blanks (blanks_lineBreak indent level)]
        rfl
      rw [hr, start, code.injEq, code.injEq]
      omega
  -- a string that is still open takes the last line in, for no quote stands in it
  | quoted d quote odd =>
      have hq : isBlank quote = false ∧ quote ≠ ']' := by
        rcases Bool.or_eq_true_iff.mp hw with h | h <;> obtain rfl := beq_iff_eq.mp h <;> decide
      rw [(run_of_not_mem_quote (not_mem_lastLine hq.1 hq.2 indent level) d odd).1]
      exact ⟨fun h => Walker.noConfusion h, fun h => Walker.noConfusion h⟩

theorem lift_one_eq_iff {w : Walker} : w.lift 1 = .code 1 ↔ w = start := by
  cases w with
  | code d =>
      rw [lift, start, code.injEq, code.injEq]
      omega
  | quoted d quote odd => exact ⟨fun h => Walker.noConfusion h, fun h => Walker.noConfusion h⟩

/-- **A block leads back to the top** exactly when its last entry does. -/
theorem run_block (h : Separate mode kind around entries) (indent level : Nat) :
    start.run mode (Value.block indent level entries) = start ↔
      ∀ e ∈ entries.getLast?, start.run mode e = start := by
  by_cases hne : entries = []
  · subst hne
    exact ⟨fun _ _ he => absurd he (Option.not_mem_none _), fun _ => rfl⟩
  · have hj := (h.cut_joined hne indent (level + 1)).run_code 1
    have hopen : start.step mode '[' = .code 1 := step_bracket 0
    have hw : Opened (.code 1) := trivial
    rw [List.getLast_map (by simpa using hne), run_lineBreak_append] at hj
    rw [Value.block_eq hne, List.append_assoc, run_cons, hopen, run_append,
      run_lastLine (hw.run _), hj, lift_one_eq_iff,
      List.getLast?_eq_some_getLast hne]
    simp

end Separate

end ArrayLiteral
