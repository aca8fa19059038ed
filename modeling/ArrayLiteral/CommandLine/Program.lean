import ArrayLiteral.CommandLine.Arguments
import ArrayLiteral.CommandLine.System
import ArrayLiteral.Json.Writer
import ArrayLiteral.Literal.Canonical
import ArrayLiteral.Text.Utf8

/-!
# CommandLine — Program

The program, on any system.  It reads one text, from a file or from standard input, and answers it
with a verdict or with a text, which goes to a file or to standard output.  On any failure the
message goes to standard error, and the status is 1; a command line that breaks the rules has
status 2.

What the response is depends on the input alone (`Request.respond`).  The system is asked twice at
most: for the input, and then to carry the response out.
-/

namespace ArrayLiteral.CommandLine

/-- What a run does once it has its input. -/
inductive Response where
  /-- Fail with a message. -/
  | fail (message : Text)
  /-- Tell whether the input was sorted. -/
  | verdict (sorted : Bool)
  /-- Write a text to standard output. -/
  | print (t : Text)
  /-- Write a text to a file. -/
  | save (path t : Text)
deriving DecidableEq

namespace Request

/-- The message of a failure to read. -/
def readFailure (r : Request) (cause : Text) : Text :=
  match r.input with
  | some path => "Failed to read file: ".toList ++ path ++ ": ".toList ++ cause
  | none => "Failed to read from stdin: ".toList ++ cause

/-- The message of a failure to write. -/
def writeFailure (path cause : Text) : Text :=
  "Failed to write file: ".toList ++ path ++ ": ".toList ++ cause

/-- What standard error says when the input was not sorted. -/
def notSorted (r : Request) : Text :=
  r.input.getD "<stdin>".toList ++ ": not sorted\n".toList

/-- The file that the result goes to. -/
def destination (r : Request) : Option Text := if r.inPlace then r.input else r.output

/-- The result for a text: its canonical form, or the sorted value as JSON. -/
def result (r : Request) (t : Text) : Except Error Text :=
  if r.json then
    (Value.parse r.options.quoteScan t).map fun v =>
      (v.sortKeys r.options.keyOrder).toJson .indented
  else sortLiteral r.options t

/-- The response to the input, or to the cause for which there is none. -/
def respond (r : Request) (input : Except Text (List UInt8)) : Response :=
  match input with
  | .error cause => .fail (r.readFailure cause)
  | .ok bytes =>
    match Text.ofUtf8? bytes with
    | none => .fail (r.readFailure FileFault.notUtf8.message)
    | some t =>
      if r.check then
        match isCanonical r.options t with
        | .ok sorted => .verdict sorted
        | .error e => .fail e.message
      else
        match r.result t with
        | .ok t =>
          match r.destination with
          | some path => .save path (t ++ ['\n'])
          | none => .print (t ++ ['\n'])
        | .error e => .fail e.message

end Request

/-- What standard error says about a failure. -/
def failureText (message : Text) : Text :=
  "Error sorting array: ".toList ++ message ++ ['\n']

/-- The status of a run that a standard stream ends at once, because it does not take what is
written to it. -/
def aborted : Nat := 101

/-- The status of a run after its last writing to a standard stream. -/
def statusAfter (status : Nat) : Except Text Unit → Nat
  | .ok () => status
  | .error _ => aborted

variable {m : Type → Type} [Monad m]

/-- Reports a failure. -/
def System.fail (sys : System m) (message : Text) : m Nat := do
  return statusAfter 1 (← sys.report (failureText message))

/-- Carries a response out, and answers with the status. -/
def Response.carryOut (sys : System m) (r : Request) : Response → m Nat
  | .fail message => sys.fail message
  | .verdict true => return 0
  | .verdict false => do
    return statusAfter 1 (← sys.report r.notSorted)
  | .print t => do
    return statusAfter 0 (← sys.print t)
  | .save path t => do
    match ← sys.writeFile path t with
    | .ok () => return 0
    | .error cause => sys.fail (Request.writeFailure path cause)

namespace Request

/-- Reads the input. -/
def fetch (r : Request) (sys : System m) : m (Except Text (List UInt8)) :=
  match r.input with
  | some path => sys.readFile path
  | none => sys.readStdin

/-- A run for a request, with its status. -/
def run (r : Request) (sys : System m) : m Nat := do
  (r.respond (← r.fetch sys)).carryOut sys r

end Request

/-- What the program says about its version. -/
def versionText : Text := "php-array-sort 0.1.0\n".toList

/-- What the program says about its use. -/
def helpText : Text :=
  ("Sort PHP array literals by key, recursively\n\n" ++
    "Usage: php-array-sort [OPTIONS]\n\n" ++
    "Options:\n" ++
    "  -i, --input <INPUT>    Input file (reads from stdin if omitted)\n" ++
    "  -o, --output <OUTPUT>  Output file (writes to stdout if omitted)\n" ++
    "      --in-place         Replace the input file with the sorted literal\n" ++
    "      --indent <INDENT>  Spaces per indentation level [default: 4]\n" ++
    "      --bytewise         Compare keys by code point instead of the locale-style order\n" ++
    "      --escape-aware     Let a backslash keep a quote inside its string while scanning\n" ++
    "      --json             Print the sorted tree as JSON instead of a literal\n" ++
    "      --check            Exit with status 1 if the input is not already sorted; " ++
    "writes nothing\n" ++
    "  -h, --help             Print help\n" ++
    "  -V, --version          Print version\n").toList

/-- What the program says about a command line that breaks the rules. -/
def usageText : Text :=
  "error: the arguments do not follow the rules; try '--help'\n".toList

/-- The program, with its status.  Whether a text that was asked for can be printed does not
count. -/
def run (sys : System m) (arguments : List Text) : m Nat :=
  match Invocation.ofTexts? arguments with
  | some (.run r) => r.run sys
  | some .version => do
    let _ ← sys.print versionText
    return 0
  | some .help => do
    let _ ← sys.print helpText
    return 0
  | none => do
    let _ ← sys.report usageText
    return 2

end ArrayLiteral.CommandLine
