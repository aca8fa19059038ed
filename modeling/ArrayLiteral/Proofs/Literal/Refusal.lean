import ArrayLiteral.Proofs.Literal.Canonical
import ArrayLiteral.Proofs.Literal.Nesting

/-!
# Proofs — Literal — Refusal

Which texts are refused, and with what message.

`tryRead` looks for the brackets of an array again when it opens one.  So an element, a key or a
value at any depth could be refused, and its refusal would be that of the whole literal.

* That never happens.  An array inside a literal is opened only where its brackets were seen before,
  so that every text has a value at every level (`tryRead_eq`, by induction on the levels), and
  `tryParse` is `parse` (`tryParse_eq`).
* What is left is the outer pair of brackets.  Reading, sorting and the check for canonical form
  fail exactly if it is not complete, with one error that shows the one `Preview` of the whole text
  (`refused_iff_unbracketed`).
-/

namespace ArrayLiteral

open Text

namespace Error

/-- `Preview input shown`: how an input is shown in a message.  A blank input is named; of any other
the first line is shown, up to 40 characters of it. -/
inductive Preview (input : Text) : Text → Prop where
  | blank (h : ∀ c ∈ input, isBlank c = true) : Preview input "<empty input>".toList
  | line {line : Text} (h : ∃ c ∈ input, isBlank c = false) (hline : FirstLine input.trim line)
      (hlength : line.length ≤ 40) : Preview input line
  | cut {line : Text} (h : ∃ c ∈ input, isBlank c = false) (hline : FirstLine input.trim line)
      (hlength : 40 < line.length) : Preview input (line.take 40 ++ ['.', '.', '.'])

theorem trim_ne_nil_iff {input : Text} :
    input.trim ≠ [] ↔ ∃ c ∈ input, isBlank c = false := by
  rw [Ne, trim_eq_nil_iff, Blanks]
  simp

theorem snippet_of_trim_eq_nil {input : Text} (h : input.trim = []) :
    snippet input = "<empty input>".toList := by
  rw [snippet, h]
  rfl

theorem snippet_of_firstLine {input line : Text} (h : input.trim ≠ [])
    (hline : FirstLine input.trim line) :
    snippet input = if 40 < line.length then line.take 40 ++ ['.', '.', '.'] else line := by
  have hne : line ≠ [] := hline.ne_nil h fun _ => isBlank_of_head?_trim
  rw [snippet, firstLine_eq_iff.mpr hline, snippetLimit, if_neg hne]
  rfl

/-- **The preview of an input** is its snippet. -/
theorem preview_iff {input shown : Text} : Preview input shown ↔ shown = snippet input := by
  constructor
  · intro h
    cases h with
    | blank h => rw [snippet_of_trim_eq_nil (trim_eq_nil_iff.mpr h)]
    | line h hline hlength =>
        rw [snippet_of_firstLine (trim_ne_nil_iff.mpr h) hline, if_neg (Nat.not_lt.mpr hlength)]
    | cut h hline hlength =>
        rw [snippet_of_firstLine (trim_ne_nil_iff.mpr h) hline, if_pos hlength]
  · rintro rfl
    by_cases h : input.trim = []
    · rw [snippet_of_trim_eq_nil h]
      exact .blank (trim_eq_nil_iff.mp h)
    · have hline : FirstLine input.trim input.trim.firstLine := firstLine_eq_iff.mp rfl
      rw [snippet_of_firstLine h hline]
      split
      · exact .cut (trim_ne_nil_iff.mp h) hline ‹_›
      · exact .line (trim_ne_nil_iff.mp h) hline (Nat.not_lt.mp ‹_›)

/-- A preview is a single line. -/
theorem Preview.lineFeed_not_mem {input shown : Text} (h : Preview input shown) :
    '\n' ∉ shown := by
  have hline : ∀ {line}, FirstLine input.trim line → '\n' ∉ line := fun hl =>
    firstLine_eq_iff.mpr hl ▸ lineFeed_not_mem_firstLine _
  cases h with
  | blank => decide
  | line _ hl => exact hline hl
  | cut _ hl =>
      rw [List.mem_append, not_or]
      exact ⟨fun h => hline hl (List.mem_of_mem_take h), by decide⟩

end Error

namespace Value

variable {mode : QuoteScan}

/-! ### Reading with errors -/

/-- The key that a text stands for, if its value can be read. -/
def tryKey (read : Text → Except Error Value) (t : Text) : Except Error Text := do
  return toKey t (← read t)

/-- Adds the entry of a piece, if it has an arrow. -/
def tryEntry (mode : QuoteScan) (read : Text → Except Error Value) (entries : Entries Value)
    (piece : Text) : Except Error (Entries Value) := do
  match piece.arrow? mode with
  | none => return entries
  | some (key, value) =>
    let key ← tryKey read key.trim
    let value ← read value.trim
    return entries.insert key value

/-- The array with this text between its brackets. -/
def tryArray (mode : QuoteScan) (read : Text → Except Error Value) (content : Text) :
    Except Error Value := do
  let pieces := (content.pieces mode).map Text.trim
  if (content.arrow? mode).isSome then return .map (← pieces.foldlM (tryEntry mode read) [])
  else return .list (← (pieces.filter (· ≠ [])).mapM read)

/-- The array that a text is.  What stands in it is read by `read`. -/
def tryOpen (mode : QuoteScan) (read : Text → Except Error Value) (t : Text) :
    Except Error Value :=
  if t.trim.isBracketed then tryArray mode read t.trim.inner else .error (.unbracketed t)

/-- The value of a text.  So many levels of arrays are opened. -/
def tryRead (mode : QuoteScan) : Nat → Text → Except Error Value
  | 0, t => return if t.trim.isBracketed then .raw t.trim else readScalar t.trim
  | levels + 1, t =>
    if t.trim.isBracketed then tryOpen mode (tryRead mode levels) t.trim
    else return readScalar t.trim

/-- The value of a text of any form. -/
def tryOfText (mode : QuoteScan) (t : Text) : Except Error Value := tryRead mode maxLevels t

/-- The value of a literal: the text itself is opened, and what stands in it is read. -/
def tryParse (mode : QuoteScan) (t : Text) : Except Error Value :=
  tryOpen mode (tryRead mode (maxLevels - 1)) t

/-! ### Nothing inside is refused -/

theorem tryEntry_pure (levels : Nat) :
    tryEntry mode (fun t => pure (read mode levels t.trim)) = fun entries piece =>
      pure (match keyed? mode (read mode levels) piece with
        | some entry => entries.insert entry.1 entry.2
        | none => entries) := by
  funext entries piece
  rw [tryEntry, keyed?]
  cases piece.arrow? mode with
  | none => rfl
  | some kv =>
      simp only [tryKey, pure_bind, trim_trim, toKey_read, Option.map_some]

/-- An array is read without an error if everything in it is. -/
theorem tryArray_pure (levels : Nat) (content : Text) :
    tryArray mode (fun t => pure (read mode levels t.trim)) content =
      pure (readArray mode (read mode levels) content) := by
  rw [tryArray, readArray]
  split
  · rw [tryEntry_pure, List.foldlM_pure, pure_bind, Entries.collect, List.foldl_filterMap]
    congr 3
    funext entries piece
    cases keyed? mode (read mode levels) piece <;> rfl
  · rw [List.mapM_pure, pure_bind]
    congr 2
    refine List.map_congr_left fun t ht => ?_
    obtain ⟨piece, -, rfl⟩ := List.mem_map.mp (List.mem_of_mem_filter ht)
    rw [trim_trim]

/-- **Every text has a value**, with any number of levels. -/
theorem tryRead_eq (mode : QuoteScan) (levels : Nat) (t : Text) :
    tryRead mode levels t = .ok (read mode levels t.trim) := by
  induction levels generalizing t with
  | zero => rfl
  | succ levels ih =>
      have hread : tryRead mode levels = fun t => pure (read mode levels t.trim) := funext ih
      rw [tryRead, read]
      cases hb : t.trim.isBracketed with
      | false => rfl
      | true =>
          -- the brackets that were seen are those that are asked for
          rw [if_pos rfl, if_pos rfl, tryOpen, trim_trim, if_pos hb, hread, tryArray_pure]
          rfl

/-- **Only the outer brackets of a literal** can be missed. -/
theorem tryParse_eq (mode : QuoteScan) (t : Text) : tryParse mode t = parse mode t := by
  rw [tryParse, tryOpen, parse, funext (tryRead_eq mode (maxLevels - 1)), ofText]
  cases hb : t.trim.isBracketed with
  | false => rfl
  | true =>
      rw [if_pos rfl, if_pos rfl, maxLevels, read_succ_of_bracketed hb]
      exact tryArray_pure _ _

end Value

/-! ### The refusal -/

/-- `Refused t shown e`: the text lacks an outer bracket, and the error says so and shows this. -/
def Refused (t shown : Text) (e : Error) : Prop :=
  ¬(t.trim.head? = some '[' ∧ t.trim.getLast? = some ']') ∧
    e = .malformed "must start and end with square brackets".toList shown

theorem refused_snippet_iff {t : Text} {e : Error} :
    Refused t (Error.snippet t) e ↔ t.trim.isBracketed = false ∧ e = .unbracketed t := by
  rw [Refused, Error.unbracketed, Error.refuse, isBracketed, Bool.eq_false_iff, Ne,
    Bool.and_eq_true, beq_iff_eq, beq_iff_eq]

theorem sortLiteral_eq_error_iff {options : Options} {t : Text} {e : Error} :
    sortLiteral options t = .error e ↔ Value.parse options.quoteScan t = .error e := by
  rw [sortLiteral]
  cases Value.parse options.quoteScan t <;> simp [Except.map]

/-- **Refusal.**  A text of any form has a value, and so has everything that stands in a literal,
with any number of levels.  Reading, sorting and the check for canonical form fail exactly if an
outer bracket is missing, all with the same error, and it shows the preview of the whole text. -/
theorem refused_iff_unbracketed (options : Options) (t : Text) :
    (∀ levels, Value.tryRead options.quoteScan levels t =
      .ok (Value.read options.quoteScan levels t.trim)) ∧
    Value.tryOfText options.quoteScan t = .ok (Value.ofText options.quoteScan t) ∧
    Value.tryParse options.quoteScan t = Value.parse options.quoteScan t ∧
    ∃ shown, (∀ s, Error.Preview t s ↔ s = shown) ∧ '\n' ∉ shown ∧
      ∀ e, (Value.parse options.quoteScan t = .error e ↔ Refused t shown e) ∧
        (sortLiteral options t = .error e ↔ Refused t shown e) ∧
        (isCanonical options t = .error e ↔ Refused t shown e) := by
  have hread : ∀ levels, Value.tryRead options.quoteScan levels t =
      .ok (Value.read options.quoteScan levels t.trim) := fun levels => Value.tryRead_eq _ levels t
  have hparse : ∀ e, Value.parse options.quoteScan t = .error e ↔
      Refused t (Error.snippet t) e := fun e =>
    Value.parse_eq_error_iff.trans refused_snippet_iff.symm
  refine ⟨hread, hread _, Value.tryParse_eq _ t, Error.snippet t, fun s => Error.preview_iff,
    (Error.preview_iff.mpr rfl).lineFeed_not_mem, fun e => ⟨hparse e, ?_, ?_⟩⟩
  · exact sortLiteral_eq_error_iff.trans (hparse e)
  · exact isCanonical_eq_error_iff.trans (hparse e)

/-- The second line is not shown, although the bracket is missing there. -/
example : isCanonical {} "[1,\r\n 2".toList =
    .error (.malformed "must start and end with square brackets".toList ['[', '1', ',']) := by
  decide +kernel

end ArrayLiteral
