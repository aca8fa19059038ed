import ArrayLiteral.Text.Blank
import ArrayLiteral.Unicode.Decomposition
import ArrayLiteral.Unicode.Letter
import ArrayLiteral.Unicode.Lowercase
import ArrayLiteral.Unicode.Mark
import ArrayLiteral.Unicode.Numeric
import ArrayLiteral.Unicode.Uppercase

/-!
# Collation — Weights

The weights by which a key takes its place among other keys, as in the root locale.  They are read
off the canonical decomposition of the key, one collation element per character:

* the primary weights tell base characters apart, by class and then within the class, letters
  without regard to case;
* the secondary weights tell accents apart: zero for a base character, and more for a mark;
* the tertiary weights tell capitals from small letters.

Control characters that are not blank have no weights.
-/

namespace ArrayLiteral.Collation

/-- The classes of base characters, in their order. -/
inductive Class where
  | space
  | punctuation
  | symbol
  | digit
  | letter
deriving DecidableEq

/-- The place of a class among the classes. -/
def Class.rank : Class → Nat
  | .space => 0
  | .punctuation => 1
  | .symbol => 2
  | .digit => 3
  | .letter => 4

theorem Class.rank_injective {c d : Class} (h : c.rank = d.rank) : c = d := by
  cases c <;> cases d <;> first | rfl | exact absurd h (by decide)

/-- A primary weight: a class, and a position in it. -/
structure Primary where
  cls : Class
  position : Nat
deriving DecidableEq

namespace Primary

/-- Primary weights are compared by class, and within a class by position. -/
instance : Ord Primary := ⟨compareLex (compareOn (·.cls.rank)) (compareOn (·.position))⟩

instance : Std.TransOrd Primary :=
  inferInstanceAs <| Std.TransCmp <|
    compareLex (compareOn fun p : Primary => p.cls.rank) (compareOn fun p : Primary => p.position)

/-- Two weights compare equal only if they are the same. -/
instance : Std.LawfulEqOrd Primary where
  eq_of_compare {p q} h := by
    obtain ⟨c, i⟩ := p
    obtain ⟨d, j⟩ := q
    obtain ⟨hc, hi⟩ : compare c.rank d.rank = .eq ∧ compare i j = .eq := Ordering.then_eq_eq.mp h
    rw [Class.rank_injective (Std.LawfulEqOrd.eq_of_compare hc), Std.LawfulEqOrd.eq_of_compare hi]

/-- The punctuation and the symbols of ASCII, in their order. -/
def punctuation : Text := "_-,;:!?.'\"()[]\x7b\x7d@*/\\&#%`^+<=>|~$".toList

/-- The primary weight of a base character.  The digits 0 to 9 come before all other numerals. -/
def ofChar (c : Char) : Primary :=
  if isBlank c then ⟨.space, c.toNat⟩
  else match punctuation.idxOf? c with
    | some i => ⟨.punctuation, i⟩
    | none =>
      if c.isDigit then ⟨.digit, c.toNat - '0'.toNat⟩
      else if Unicode.isNumeric c then ⟨.digit, 10 + c.toNat⟩
      else if Unicode.isLetter c then ⟨.letter, (Unicode.lowercase c).toNat⟩
      else ⟨.symbol, c.toNat⟩

end Primary

/-- What one character of a decomposed text adds to the weights. -/
inductive Element where
  /-- A base character. -/
  | base (primary : Primary) (upper : Bool)
  /-- A mark on the base character before it. -/
  | mark (code : Nat)
deriving DecidableEq

namespace Element

/-- A control character, category Cc. -/
def isControl (c : Char) : Bool := c.toNat < 0x20 || 0x7F ≤ c.toNat && c.toNat < 0xA0

/-- The element of a character; a control character that is not blank has none. -/
def ofChar? (c : Char) : Option Element :=
  if Unicode.isMark c then some (.mark c.toNat)
  else if isControl c && !isBlank c then none
  else some (.base (.ofChar c) (Unicode.isUppercase c))

/-- The primary weight; a mark has none. -/
def primary? : Element → Option Primary
  | .base p _ => some p
  | .mark _ => none

/-- The secondary weight. -/
def secondary : Element → Nat
  | .base .. => 0
  | .mark code => 1 + code

/-- The tertiary weight; a mark has none. -/
def tertiary? : Element → Option Nat
  | .base _ upper => some upper.toNat
  | .mark _ => none

end Element

/-- The three lists of weights of a text. -/
structure Weights where
  primary : List Primary
  secondary : List Nat
  tertiary : List Nat
deriving DecidableEq

namespace Weights

/-- The weights of a sequence of elements. -/
def ofElements (elements : List Element) : Weights where
  primary := elements.filterMap Element.primary?
  secondary := elements.map Element.secondary
  tertiary := elements.filterMap Element.tertiary?

/-- The weights of a text in canonical decomposition. -/
def ofDecomposed (text : Text) : Weights := ofElements (text.filterMap Element.ofChar?)

/-- The weights of a text. -/
def ofText (text : Text) : Weights := ofDecomposed (Unicode.decomposition text)

/-- Texts with one decomposition have the same weights. -/
theorem ofText_congr {a b : Text} (h : Unicode.decomposition a = Unicode.decomposition b) :
    ofText a = ofText b := by
  rw [ofText, ofText, h]

end Weights

end ArrayLiteral.Collation
