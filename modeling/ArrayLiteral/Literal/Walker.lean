import ArrayLiteral.Options

/-!
# Literal — Walker

A walker goes through a text and knows, before each character, whether it stands inside a string
and how many brackets are open.  A comma or an arrow separates only where the walker is at the top:
outside every string, with as many brackets closed as opened.

The number of open brackets is an integer: nothing stops a text from closing more than it opened.
-/

namespace ArrayLiteral

/-- Where a walker stands. -/
inductive Walker where
  /-- Outside strings, with so many brackets open. -/
  | code (depth : Int)
  /-- In a string that the quote opened; `odd` tells whether an odd number of backslashes came just
  before. -/
  | quoted (depth : Int) (quote : Char) (odd : Bool)
deriving DecidableEq

namespace Walker

/-- Before a text. -/
def start : Walker := .code 0

/-- A quote that opens a string. -/
def isQuote (c : Char) : Bool := c == '\'' || c == '"'

/-- A bracket that opens a group. -/
def isOpening (c : Char) : Bool := c == '[' || c == '('

/-- A bracket that closes a group. -/
def isClosing (c : Char) : Bool := c == ']' || c == ')'

/-- Goes past one character. -/
def step (mode : QuoteScan) : Walker → Char → Walker
  | .code depth, c =>
    if isQuote c then .quoted depth c false
    else if isOpening c then .code (depth + 1)
    else if isClosing c then .code (depth - 1)
    else .code depth
  | .quoted depth quote odd, c =>
    if c = quote ∧ ¬(mode = .escapes ∧ odd = true) then .code depth
    else .quoted depth quote (c == '\\' && !odd)

/-- Goes past a text. -/
def run (mode : QuoteScan) (w : Walker) (t : Text) : Walker := t.foldl (step mode) w

/-- Outside every string and every group. -/
def isTop (w : Walker) : Bool := w == .code 0

/-- Whether a separator may stand here: the walker is at the top, and the character is neither a
quote nor a bracket. -/
def free (w : Walker) (c : Char) : Bool :=
  w.isTop && !(isQuote c || isOpening c || isClosing c)

/-- Puts a character in front of the first piece. -/
def consFirst (c : Char) : List Text → List Text
  | [] => [[c]]
  | piece :: pieces => (c :: piece) :: pieces

/-- The pieces between the commas at the top. -/
def split (mode : QuoteScan) (w : Walker) : Text → List Text
  | [] => [[]]
  | c :: rest =>
    if w.free c ∧ c = ',' then [] :: split mode (w.step mode c) rest
    else consFirst c (split mode (w.step mode c) rest)

/-- The texts before and after the first arrow `=>` at the top. -/
def arrow? (mode : QuoteScan) (w : Walker) : Text → Option (Text × Text)
  | [] => none
  | c :: rest =>
    if w.free c ∧ c = '=' ∧ rest.head? = some '>' then some ([], rest.tail)
    else (arrow? mode (w.step mode c) rest).map fun (key, value) => (c :: key, value)

theorem run_append (mode : QuoteScan) (w : Walker) (s t : Text) :
    w.run mode (s ++ t) = (w.run mode s).run mode t := List.foldl_append

/-- An arrow divides the text. -/
theorem eq_of_arrow? {mode : QuoteScan} {w : Walker} {t key value : Text}
    (h : w.arrow? mode t = some (key, value)) : t = key ++ '=' :: '>' :: value := by
  induction t generalizing w key with
  | nil => simp [arrow?] at h
  | cons c rest ih =>
    unfold arrow? at h
    split at h
    · rename_i hc
      obtain ⟨-, rfl, hr⟩ := hc
      cases rest with
      | nil => simp at hr
      | cons d rest =>
        cases h
        simp only [List.head?_cons, Option.some.injEq] at hr
        subst hr
        rfl
    · obtain ⟨⟨k, v⟩, hk, he⟩ := Option.map_eq_some_iff.1 h
      cases he
      rw [List.cons_append, ← ih hk]

end Walker

namespace Text

/-- The pieces of a text between its commas at the top. -/
def pieces (mode : QuoteScan) (t : Text) : List Text := Walker.start.split mode t

/-- The key and the value of a piece, divided at its first arrow at the top. -/
def arrow? (mode : QuoteScan) (t : Text) : Option (Text × Text) := Walker.start.arrow? mode t

end Text

end ArrayLiteral
