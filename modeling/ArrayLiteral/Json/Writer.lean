import ArrayLiteral.Text.Line
import ArrayLiteral.Value.Basic

/-!
# Json — Writer

A value as JSON.  Lists are arrays, maps are objects with their entries in map order, and strings
and expressions are both strings.  A NaN and an infinity are written as `null`.
-/

namespace ArrayLiteral.Json

/-- A binary64 number: the fewest digits that read back to it, of two equally near decimals the one
with an even coefficient.  From 10⁻⁵ up to 10¹⁶ it stands without an exponent and with at least one
digit after the point. -/
def floatText (x : Binary64) : Text :=
  if !x.isFinite then ['n', 'u', 'l', 'l']
  else
    let magnitude :=
      if x.isZero then ['0', '.', '0']
      else
        let d := Decimal.ofRank .even x.rank
        if -5 ≤ d.magnitude ∧ d.magnitude ≤ 15 then
          if d.exponent < 0 then d.positional else d.positional ++ ['.', '0']
        else d.scientific
    if x.negative then '-' :: magnitude else magnitude

/-- A number. -/
def numberText : Number → Text
  | .integer i => Decimal.integerText i.toInt
  | .float x => floatText x

/-- A digit of base sixteen, in lower case. -/
def hexDigit (n : Nat) : Char := Nat.digitChar (n % 16)

/-- A character inside a string. -/
def escaped (c : Char) : Text :=
  if c = '"' then ['\\', '"']
  else if c = '\\' then ['\\', '\\']
  else if c = '\x08' then ['\\', 'b']
  else if c = '\x0c' then ['\\', 'f']
  else if c = '\n' then ['\\', 'n']
  else if c = '\r' then ['\\', 'r']
  else if c = '\t' then ['\\', 't']
  else if c.toNat < 0x20 then ['\\', 'u', '0', '0', hexDigit (c.toNat / 16), hexDigit c.toNat]
  else [c]

/-- A string. -/
def stringText (t : Text) : Text := '"' :: t.flatMap escaped ++ ['"']

/-- How arrays and objects are laid out. -/
inductive Layout where
  /-- Without blanks. -/
  | compact
  /-- One entry per line, two spaces per level. -/
  | indented
deriving DecidableEq

namespace Layout

/-- What stands before an entry, or before a closing bracket, of a level. -/
def lineBreak (l : Layout) (level : Nat) : Text :=
  match l with
  | .compact => []
  | .indented => Text.lineBreak 2 level

/-- What stands between a key and its value. -/
def colon : Layout → Text
  | .compact => [':']
  | .indented => [':', ' ']

/-- Entries between brackets, of which the closing one stands at a level. -/
def enclose (l : Layout) (level : Nat) (opening closing : Char) (entries : List Text) : Text :=
  if entries = [] then [opening, closing]
  else
    opening :: List.intercalate [','] (entries.map (l.lineBreak (level + 1) ++ ·)) ++
      l.lineBreak level ++ [closing]

end Layout

mutual

/-- A value as JSON that begins at a level. -/
def write (l : Layout) (level : Nat) : Value → Text
  | .null => ['n', 'u', 'l', 'l']
  | .bool true => ['t', 'r', 'u', 'e']
  | .bool false => ['f', 'a', 'l', 's', 'e']
  | .number n => numberText n
  | .string s => stringText s
  | .raw s => stringText s
  | .list items => l.enclose level '[' ']' (writeItems l (level + 1) items)
  | .map entries => l.enclose level '\x7b' '\x7d' (writeEntries l (level + 1) entries)

/-- The elements of a list. -/
def writeItems (l : Layout) (level : Nat) : List Value → List Text
  | [] => []
  | item :: rest => write l level item :: writeItems l level rest

/-- The entries of a map. -/
def writeEntries (l : Layout) (level : Nat) : List (Text × Value) → List Text
  | [] => []
  | (key, value) :: rest =>
    (stringText key ++ l.colon ++ write l level value) :: writeEntries l level rest

end

end ArrayLiteral.Json

namespace ArrayLiteral.Value

/-- A value as JSON text. -/
def toJson (l : Json.Layout) (v : Value) : Text := Json.write l 0 v

end ArrayLiteral.Value
