import ArrayLiteral.CommandLine.Memory

/-!
# CommandLine — Run

A run in memory, from the files of one directory to the files that are in it afterwards.
-/

namespace ArrayLiteral.CommandLine

/-- The files of a directory, by name. -/
abbrev Directory := Entries (List UInt8)

namespace Directory

/-- The parts of the path of the directory. -/
def place : List Text := ["tmp".toList, "work".toList]

/-- What there is besides the directory. -/
def surroundings : Entries Node :=
  [("/dev".toList, .directory), ("/dev/fd".toList, .directory),
    ("/dev/null".toList, .device .null), ("/dev/full".toList, .device .full),
    ("/dev/stdin".toList, .device .stdin), ("/dev/stdout".toList, .device .stdout),
    ("/dev/stderr".toList, .device .stderr), ("/dev/fd/0".toList, .device .stdin),
    ("/dev/fd/1".toList, .device .stdout), ("/dev/fd/2".toList, .device .stderr),
    ("/etc".toList, .directory), ("/home".toList, .directory), ("/proc".toList, .directory),
    ("/root".toList, .directory), ("/sys".toList, .directory), ("/tmp".toList, .directory),
    ("/tmp/work".toList, .directory), ("/usr".toList, .directory), ("/var".toList, .directory)]

/-- The directory in memory, as the current one. -/
def load (d : Directory) (stdin : List UInt8) : Memory where
  nodes := surroundings ++ d.map fun e => (Path.absolute (place ++ [e.1]), .file e.2)
  here := place
  stdin := stdin

/-- The name of the file with this absolute path, if it is in the directory. -/
def name? (path : Text) : Option Text :=
  let start := Path.absolute place ++ ['/']
  if start.isPrefixOf path then some (path.drop start.length) else none

/-- What stands at an absolute path, if it is a file of the directory. -/
def entry? (e : Text × Node) : Option (Text × List UInt8) :=
  match e.2, name? e.1 with
  | .file content, some name => some (name, content)
  | _, _ => none

/-- The files that are in the directory. -/
def ofMemory (s : Memory) : Directory := s.nodes.filterMap entry?

/-- The files in the order of their names. -/
def listing (d : Directory) : List (Text × List UInt8) := Entries.sort d .bytewise

end Directory

/-- What a run leaves behind. -/
structure Outcome where
  status : Nat
  stdout : Text
  stderr : Text
  directory : Directory

/-- The outcome of a command line in a directory, unless it breaks the rules. -/
def run? (arguments : List Text) (d : Directory) (stdin : List UInt8) : Option Outcome :=
  (Invocation.ofTexts? arguments).map fun _ =>
    let (status, s) := (run Memory.system arguments).run (d.load stdin)
    ⟨status, s.stdout, s.stderr, .ofMemory s⟩

end ArrayLiteral.CommandLine
