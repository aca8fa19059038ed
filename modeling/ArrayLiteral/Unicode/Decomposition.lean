import ArrayLiteral.Unicode.CombiningClass
import ArrayLiteral.Unicode.DecompositionTable
import ArrayLiteral.Unicode.Table

/-!
# Unicode — Decomposition

The canonical decomposition of a text: each character is replaced by its full decomposition, and
then each run of marks is put in the order of their combining classes, marks of one class staying
as they were.  Two texts that differ only in how their accents are encoded decompose to one text.
-/

namespace ArrayLiteral.Unicode

/-- The first Hangul syllable. -/
def firstSyllable : Nat := 0xAC00

/-- The number of Hangul syllables. -/
def syllableCount : Nat := 11172

/-- The jamo of the Hangul syllable at `index`: a lead, a vowel, and a tail unless it is empty. -/
def jamo (index : Nat) : List Nat :=
  let lead := 0x1100 + index / 588
  let vowel := 0x1161 + index % 588 / 28
  if index % 28 = 0 then [lead, vowel] else [lead, vowel, 0x11A7 + index % 28]

/-- The full canonical decomposition of one character. -/
def decompose (c : Char) : List Char :=
  let n := c.toNat
  if firstSyllable ≤ n ∧ n < firstSyllable + syllableCount then
    (jamo (n - firstSyllable)).map Char.ofNat
  else
    match entryAt decompositions n with
    | some codes => codes.map Char.ofNat
    | none => [c]

/-- A character with its combining class. -/
abbrev Classed := Nat × Char

/-- Puts a character before a text in canonical order: it moves past the marks of a lower class. -/
def insertMark (c : Classed) : List Classed → List Classed
  | [] => [c]
  | d :: rest => if d.1 ≠ 0 ∧ d.1 < c.1 then d :: insertMark c rest else c :: d :: rest

/-- Sorts each run of marks by combining class. -/
def reorder : List Classed → List Classed
  | [] => []
  | c :: rest => insertMark c (reorder rest)

/-- The text in canonical order. -/
def canonicalOrder (text : List Char) : List Char :=
  (reorder (text.map fun c => (combiningClass c, c))).map Prod.snd

/-- The canonical decomposition of a text. -/
def decomposition (text : List Char) : List Char := canonicalOrder (text.flatMap decompose)

/-- Reordering keeps every character. -/
theorem insertMark_perm (c : Classed) (text : List Classed) :
    (insertMark c text).Perm (c :: text) := by
  induction text with
  | nil => exact .refl _
  | cons d rest ih =>
    by_cases h : d.1 ≠ 0 ∧ d.1 < c.1
    · simpa [insertMark, h] using (ih.cons d).trans (.swap c d rest)
    · simp [insertMark, h]

theorem reorder_perm (text : List Classed) : (reorder text).Perm text := by
  induction text with
  | nil => exact .refl _
  | cons c rest ih => exact (insertMark_perm c _).trans (ih.cons c)

/-- A starter stays in front of what follows it. -/
theorem insertMark_of_starter {c : Classed} (h : c.1 = 0) (text : List Classed) :
    insertMark c text = c :: text := by
  cases text <;> simp [insertMark, h]

theorem canonicalOrder_perm (text : List Char) : (canonicalOrder text).Perm text := by
  have h := (reorder_perm (text.map fun c => (combiningClass c, c))).map Prod.snd
  rwa [List.map_map, show Prod.snd ∘ (fun c => (combiningClass c, c)) = id from rfl,
    List.map_id] at h

end ArrayLiteral.Unicode
