import ArrayLiteral.Json.Reader
import ArrayLiteral.Json.Writer
import ArrayLiteral.Literal.Canonical

/-!
# Session — a text and a value, worked on step by step

A session holds a text, a value and the options.  Steps read the one into the other, write it back,
or change it.  A step that fails leaves the session as it was.
-/

namespace ArrayLiteral

/-- What a session holds. -/
structure Session where
  text : Text := []
  value : Value := .null
  options : Options := {}

namespace Session

/-- A step of a session. -/
inductive Step where
  /-- Replace the text. -/
  | setText (t : Text)
  /-- Add to the text. -/
  | append (t : Text)
  /-- Replace the options. -/
  | setOptions (options : Options)
  /-- Read the text as a literal. -/
  | parse
  /-- Read the text as a value of any form. -/
  | parseValue
  /-- Sort the value. -/
  | sort (order : KeyOrder)
  /-- Write the value, beginning at a level. -/
  | render (level : Nat)
  /-- Bring the text into canonical form. -/
  | sortLiteral
  /-- Ask whether the text is canonical. -/
  | isCanonical
  /-- Write the value as JSON. -/
  | toJson
  /-- Read the text as JSON. -/
  | ofJson
  /-- Go to the entry of a map. -/
  | entry (key : Text)
  /-- Go to an element of a list. -/
  | element (index : Nat)
  /-- Give a key of a map a value. -/
  | insert (key : Text) (value : Value)

/-- What a step answers. -/
inductive Answer where
  | nothing
  | text (t : Text)
  | value (v : Value)
  | truth (b : Bool)

/-- Why a step fails. -/
inductive Fault where
  | literal (e : Error)
  /-- The text is not JSON. -/
  | json

/-- Keeps a text and answers it. -/
def keepText (s : Session) (t : Text) : Answer × Session := (.text t, { s with text := t })

/-- Keeps a value and answers it. -/
def keepValue (s : Session) (v : Value) : Answer × Session := (.value v, { s with value := v })

/-- The answer of a step, and the session after it. -/
def step (s : Session) : Step → Except Fault (Answer × Session)
  | .setText t => .ok (s.keepText t)
  | .append t => .ok (s.keepText (s.text ++ t))
  | .setOptions options => .ok (.nothing, { s with options })
  | .parse =>
    match Value.parse s.options.quoteScan s.text with
    | .ok v => .ok (s.keepValue v)
    | .error e => .error (.literal e)
  | .parseValue => .ok (s.keepValue (Value.ofText s.options.quoteScan s.text))
  | .sort order => .ok (s.keepValue (s.value.sortKeys order))
  | .render level => .ok (s.keepText (s.value.render s.options.indent level))
  | .sortLiteral =>
    match ArrayLiteral.sortLiteral s.options s.text with
    | .ok t => .ok (s.keepText t)
    | .error e => .error (.literal e)
  | .isCanonical =>
    match ArrayLiteral.isCanonical s.options s.text with
    | .ok b => .ok (.truth b, s)
    | .error e => .error (.literal e)
  | .toJson => .ok (s.keepText (s.value.toJson .compact))
  | .ofJson =>
    match Value.ofJson? s.text with
    | some v => .ok (s.keepValue v)
    | none => .error .json
  | .entry key =>
    match s.value.map?.bind (Entries.get? · key) with
    | some v => .ok (s.keepValue v)
    | none => .ok (.nothing, s)
  | .element index =>
    match s.value.list?.bind (·[index]?) with
    | some v => .ok (s.keepValue v)
    | none => .ok (.nothing, s)
  | .insert key value =>
    match s.value.map? with
    | some entries => .ok (s.keepValue (.map (entries.insert key value)))
    | none => .ok (.nothing, s)

/-- The answers of all steps in turn. -/
def run (s : Session) : List Step → List (Except Fault Answer)
  | [] => []
  | step :: rest =>
    match s.step step with
    | .ok (answer, s) => .ok answer :: run s rest
    | .error fault => .error fault :: run s rest

end Session

end ArrayLiteral
