import ArrayLiteral.Text.Line

/-!
# Error — what can go wrong

A literal is refused for one reason only, a missing outer bracket, and text that is written out
can be refused by its destination.  The message about a literal shows a preview of it.
-/

namespace ArrayLiteral

/-- What can go wrong. -/
inductive Error where
  /-- A text is not a literal; `snippet` is a preview of it. -/
  | malformed (reason snippet : Text)
  /-- A destination failed. -/
  | io (cause : Text)
deriving DecidableEq

namespace Error

/-- The most characters that a preview shows. -/
def snippetLimit : Nat := 40

/-- The preview of a text: its first line without outer blanks, cut off at the limit. -/
def snippet (input : Text) : Text :=
  let line := input.trim.firstLine
  if snippetLimit < line.length then line.take snippetLimit ++ "...".toList
  else if line = [] then "<empty input>".toList
  else line

/-- A text is refused for a reason. -/
def refuse (reason input : Text) : Error := .malformed reason (snippet input)

/-- A text is refused because an outer bracket is missing. -/
def unbracketed (input : Text) : Error :=
  refuse "must start and end with square brackets".toList input

/-- Whether the error is about a literal. -/
def isMalformed : Error → Bool
  | .malformed .. => true
  | .io _ => false

/-- The message. -/
def message : Error → Text
  | .malformed reason snippet =>
    "Malformed array literal: ".toList ++ reason ++ "\n  near: ".toList ++ snippet
  | .io cause => "IO error: ".toList ++ cause

end Error

end ArrayLiteral
