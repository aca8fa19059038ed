import ArrayLiteral.Literal.Quoted
import ArrayLiteral.Text.Line
import ArrayLiteral.Value.Basic

/-!
# Literal — Printer

A value is written as a literal over several lines: each entry of an array on a line of its own,
one level deeper than the bracket that closes the array.  An empty array is `[]`, and an expression
is written as it is.

Levels and indents are natural numbers without a bound.  The limits of a machine word are left out:
the text of one indent always fits, also where no line needs it, and there is always a next level.
-/

namespace ArrayLiteral.Value

/-- An array with these entries, whose closing bracket stands at a level. -/
def block (indent level : Nat) (entries : List Text) : Text :=
  if entries = [] then ['[', ']']
  else
    '[' :: List.intercalate [','] (entries.map (Text.lineBreak indent (level + 1) ++ ·)) ++
      Text.lineBreak indent level ++ [']']

mutual

/-- A value as a literal that begins at a level. -/
def render (indent level : Nat) : Value → Text
  | .null => ['n', 'u', 'l', 'l']
  | .bool true => ['t', 'r', 'u', 'e']
  | .bool false => ['f', 'a', 'l', 's', 'e']
  | .number n => n.text
  | .string s => s.quoted
  | .list items => block indent level (renderItems indent (level + 1) items)
  | .map entries => block indent level (renderEntries indent (level + 1) entries)
  | .raw s => s

/-- The elements of a list as literals. -/
def renderItems (indent level : Nat) : List Value → List Text
  | [] => []
  | item :: rest => render indent level item :: renderItems indent level rest

/-- The entries of a map as literals. -/
def renderEntries (indent level : Nat) : List (Text × Value) → List Text
  | [] => []
  | (key, value) :: rest =>
    (key.quoted ++ [' ', '=', '>', ' '] ++ render indent level value) ::
      renderEntries indent level rest

end

/-- A value as a literal in the usual layout. -/
def text (v : Value) : Text := render 4 0 v

theorem renderItems_eq_map (indent level : Nat) (items : List Value) :
    renderItems indent level items = items.map (render indent level) := by
  induction items with
  | nil => rfl
  | cons item rest ih => simp [renderItems, ih]

end ArrayLiteral.Value
