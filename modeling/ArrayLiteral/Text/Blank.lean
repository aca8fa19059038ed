import ArrayLiteral.Unicode.Table

/-!
# Text — Blank

A text is a list of characters.  Its outer blanks carry no meaning anywhere in a literal, and
`trim` takes them away.  Blank is the property White_Space: 25 characters, among them the no-break
spaces and the line separators, but neither U+200B nor U+FEFF.
-/

namespace ArrayLiteral

/-- A text, character by character. -/
abbrev Text := List Char

/-- Ranges of the property White_Space. -/
def blankRanges : List (Nat × Nat) := [
  (0x9, 0xD), (0x20, 0x20), (0x85, 0x85), (0xA0, 0xA0), (0x1680, 0x1680), (0x2000, 0x200A),
  (0x2028, 0x2029), (0x202F, 0x202F), (0x205F, 0x205F), (0x3000, 0x3000)]

/-- A blank: a space, a tab, a line break or another character with the property White_Space. -/
def isBlank (c : Char) : Bool := Unicode.covers blankRanges c.toNat

namespace Text

/-- The text without its leading blanks. -/
def trimStart (t : Text) : Text := t.dropWhile isBlank

/-- The text without its trailing blanks. -/
def trimEnd (t : Text) : Text := (t.reverse.dropWhile isBlank).reverse

/-- The text without its outer blanks. -/
def trim (t : Text) : Text := t.trimStart.trimEnd

@[simp] theorem trim_nil : trim [] = [] := rfl

end Text

end ArrayLiteral
