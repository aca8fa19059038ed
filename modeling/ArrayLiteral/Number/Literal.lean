import ArrayLiteral.Number.Basic

/-!
# Number — Literal

A number literal is an optional minus sign, digits, and optionally a point with more digits.  One
without a point that fits 64 bits is that integer.  Any other is the nearest binary64 number, and
a whole one that fits 64 bits is then an integer again; one that rounds to infinity is no number.
-/

namespace ArrayLiteral.Number

/-- The parts of a number literal. -/
structure Literal where
  negative : Bool
  whole : Text
  fraction : Option Text
deriving DecidableEq

namespace Literal

/-- A run of at least one decimal digit. -/
def isDigits (t : Text) : Bool := !t.isEmpty && t.all Char.isDigit

/-- Takes off a minus sign. -/
def unsign : Text → Bool × Text
  | '-' :: t => (true, t)
  | t => (false, t)

/-- The parts of a text that has the form of a number literal. -/
def ofText? (t : Text) : Option Literal :=
  let (negative, unsigned) := unsign t
  let whole := unsigned.takeWhile (· ≠ '.')
  match unsigned.dropWhile (· ≠ '.') with
  | [] => if isDigits whole then some ⟨negative, whole, none⟩ else none
  | _ :: fraction =>
    if isDigits whole && isDigits fraction then some ⟨negative, whole, some fraction⟩ else none

/-- The binary64 number nearest to the value. -/
def toBinary64 (l : Literal) : Binary64 :=
  let fraction := l.fraction.getD []
  .ofRatio l.negative (Decimal.digitsValue (l.whole ++ fraction)) (Nat.pow 10 fraction.length)

/-- The value of a literal without a point. -/
def integer (l : Literal) : Int :=
  let magnitude : Int := Decimal.digitsValue l.whole
  if l.negative then -magnitude else magnitude

/-- The number nearest to the value, unless it is infinite. -/
def rounded? (l : Literal) : Option Number :=
  if l.toBinary64.isFinite then some (ofBinary64 l.toBinary64) else none

/-- The number that the literal denotes. -/
def number? (l : Literal) : Option Number :=
  match l.fraction, int64? l.integer with
  | none, some i => some (.integer i)
  | _, _ => l.rounded?

/-- The text with these parts. -/
def toText (l : Literal) : Text :=
  (if l.negative then ['-'] else []) ++ l.whole ++
    match l.fraction with
    | none => []
    | some fraction => '.' :: fraction

end Literal

/-- Reads a number literal. -/
def ofLiteral? (t : Text) : Option Number := (Literal.ofText? t).bind Literal.number?

/-- Without its sign or with it, a text is the same text. -/
theorem Literal.unsign_append (t : Text) :
    (if (unsign t).1 then ['-'] else []) ++ (unsign t).2 = t := by
  unfold unsign
  split <;> rfl

/-- What is read as a literal is written as it was read. -/
theorem Literal.toText_of_ofText? {t : Text} {l : Literal} (h : ofText? t = some l) :
    l.toText = t := by
  have hs := unsign_append t
  have hw := List.takeWhile_append_dropWhile (p := (· ≠ '.')) (l := (unsign t).2)
  have hd := List.head?_dropWhile_not (fun c : Char => decide (c ≠ '.')) (unsign t).2
  unfold ofText? at h
  dsimp only at h
  split at h
  · rename_i hr
    split at h
    · cases h
      rw [hr, List.append_nil] at hw
      simp only [toText, hw, List.append_nil]
      exact hs
    · cases h
  · rename_i c fraction hr
    split at h
    · cases h
      rw [hr] at hd hw
      have hc : c = '.' := by simpa using hd
      subst hc
      simp only [toText, List.append_assoc, hw]
      exact hs
    · cases h

end ArrayLiteral.Number
