import ArrayLiteral.Options
import ArrayLiteral.Number.Literal

/-!
# CommandLine — Arguments

What the arguments of a command line ask for.  An option takes its value from the same argument,
with or without an equals sign, or from the next one if that does not look like an option.  Nothing
may be given twice, and no argument may stand on its own.  A request for the version or for help is
answered when it is reached, whatever follows it.
-/

namespace ArrayLiteral.CommandLine

/-- What a run is asked to do. -/
structure Request where
  /-- The file to read, instead of standard input. -/
  input : Option Text := none
  /-- The file to write, instead of standard output. -/
  output : Option Text := none
  /-- Write to the file that was read. -/
  inPlace : Bool := false
  indent : Option Nat := none
  bytewise : Bool := false
  escapeAware : Bool := false
  json : Bool := false
  check : Bool := false
deriving DecidableEq

namespace Request

/-- The options for reading, sorting and writing. -/
def options (r : Request) : Options where
  indent := r.indent.getD 4
  keyOrder := if r.bytewise then .bytewise else .locale
  quoteScan := if r.escapeAware then .escapes else .naive

/-- Whether the parts of a request go together. -/
def isConsistent (r : Request) : Bool :=
  !(r.inPlace && (r.input.isNone || r.output.isSome)) && !(r.json && r.check)

end Request

/-- What the arguments ask for. -/
inductive Invocation where
  | run (request : Request)
  | version
  | help
deriving DecidableEq

/-- An option that takes a value. -/
inductive Parameter where
  | input
  | output
  | indent
deriving DecidableEq

/-- An option that takes none. -/
inductive Flag where
  | inPlace
  | bytewise
  | escapeAware
  | json
  | check
deriving DecidableEq

/-- What the name of an option stands for. -/
inductive Name where
  | parameter (p : Parameter)
  | flag (f : Flag)
  | version
  | help
deriving DecidableEq

namespace Name

/-- The option of a long name. -/
def ofLong? (t : Text) : Option Name :=
  if t = "input".toList then some (.parameter .input)
  else if t = "output".toList then some (.parameter .output)
  else if t = "indent".toList then some (.parameter .indent)
  else if t = "in-place".toList then some (.flag .inPlace)
  else if t = "bytewise".toList then some (.flag .bytewise)
  else if t = "escape-aware".toList then some (.flag .escapeAware)
  else if t = "json".toList then some (.flag .json)
  else if t = "check".toList then some (.flag .check)
  else if t = "version".toList then some .version
  else if t = "help".toList then some .help
  else none

/-- The option of a letter. -/
def ofShort? (c : Char) : Option Name :=
  if c = 'i' then some (.parameter .input)
  else if c = 'o' then some (.parameter .output)
  else if c = 'V' then some .version
  else if c = 'h' then some .help
  else none

end Name

/-- Reads a count: digits, perhaps after a plus sign, of a value that fits 64 bits. -/
def count? (t : Text) : Option Nat :=
  let digits :=
    match t with
    | '+' :: digits => digits
    | digits => digits
  if Number.Literal.isDigits digits ∧ Decimal.digitsValue digits < UInt64.size then
    some (Decimal.digitsValue digits)
  else none

namespace Request

/-- Sets an option with a value, unless it is set or the value does not suit it. -/
def setParameter? (r : Request) (p : Parameter) (value : Text) : Option Request :=
  match p with
  | .input => if r.input.isSome then none else some { r with input := some value }
  | .output => if r.output.isSome then none else some { r with output := some value }
  | .indent =>
    if r.indent.isSome then none
    else (count? value).map fun n => { r with indent := some n }

/-- Sets an option without a value, unless it is set. -/
def setFlag? (r : Request) (f : Flag) : Option Request :=
  match f with
  | .inPlace => if r.inPlace then none else some { r with inPlace := true }
  | .bytewise => if r.bytewise then none else some { r with bytewise := true }
  | .escapeAware => if r.escapeAware then none else some { r with escapeAware := true }
  | .json => if r.json then none else some { r with json := true }
  | .check => if r.check then none else some { r with check := true }

end Request

/-- An argument by its form. -/
inductive Argument where
  /-- An option, with the value that is attached to it. -/
  | named (name : Name) (value : Option Text)
  /-- Two dashes, after which nothing is an option. -/
  | dashes
  /-- Anything else. -/
  | other
deriving DecidableEq

namespace Argument

/-- A long option, whose value follows an equals sign. -/
def ofLong (t : Text) : Argument :=
  let value :=
    match t.dropWhile (· ≠ '=') with
    | [] => none
    | _ :: value => some value
  match Name.ofLong? (t.takeWhile (· ≠ '=')) with
  | some name => .named name value
  | none => .other

/-- A short option, whose value follows at once or after an equals sign.  Behind a letter that asks
for a text to be printed, the rest is not looked at. -/
def ofShort (c : Char) (rest : Text) : Argument :=
  match Name.ofShort? c, rest with
  | some (.parameter p), [] => .named (.parameter p) none
  | some (.parameter p), '=' :: value => .named (.parameter p) (some value)
  | some (.parameter p), value => .named (.parameter p) (some value)
  | some name, _ => .named name none
  | none, _ => .other

/-- The form of an argument. -/
def ofText : Text → Argument
  | ['-', '-'] => .dashes
  | '-' :: '-' :: rest => ofLong rest
  | '-' :: c :: rest => ofShort c rest
  | _ => .other

/-- Whether an argument can be the value of the option before it: a dash begins no value, unless it
is all of it. -/
def isValue (t : Text) : Bool := t.head? != some '-' || t == ['-']

end Argument

namespace Invocation

/-- What the arguments ask for, if they follow the rules.  `waiting` is an option whose value is
due. -/
def ofArguments? (r : Request) (waiting : Option Parameter) : List Text → Option Invocation
  | [] => if waiting.isNone ∧ r.isConsistent then some (.run r) else none
  | t :: rest =>
    match waiting with
    | some p =>
      if Argument.isValue t then
        (r.setParameter? p t).bind fun r => ofArguments? r none rest
      else none
    | none =>
      match Argument.ofText t with
      | .named (.parameter p) none =>
        ofArguments? r (some p) rest
      | .named (.parameter p) (some value) =>
        (r.setParameter? p value).bind fun r => ofArguments? r none rest
      | .named (.flag f) none => (r.setFlag? f).bind fun r => ofArguments? r none rest
      | .named .version none => some .version
      | .named .help none => some .help
      | .dashes => if rest = [] ∧ r.isConsistent then some (.run r) else none
      | _ => none

/-- What a command line asks for, if it follows the rules. -/
def ofTexts? (arguments : List Text) : Option Invocation := ofArguments? {} none arguments

end Invocation

end ArrayLiteral.CommandLine
