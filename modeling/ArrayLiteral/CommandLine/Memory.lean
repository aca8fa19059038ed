import ArrayLiteral.CommandLine.Program
import ArrayLiteral.Entries.Basic

/-!
# CommandLine — Memory

A system that is held in memory: files, directories and devices by their paths, the three standard
streams, and a current directory.  Nothing in it can be locked or run full, except the device that
always is.  It serves to run the program where no other system is at hand; what holds of the program
is stated for every system.
-/

namespace ArrayLiteral.CommandLine

/-- The devices that have a path. -/
inductive Device where
  /-- Holds nothing and takes everything. -/
  | null
  /-- Takes nothing. -/
  | full
  /-- Standard input. -/
  | stdin
  /-- Standard output. -/
  | stdout
  /-- Standard error. -/
  | stderr
deriving DecidableEq

/-- What can stand at a path. -/
inductive Node where
  | file (content : List UInt8)
  | directory
  | device (d : Device)
deriving DecidableEq

/-- What a path leads to. -/
inductive Target where
  /-- A file with this absolute path, which need not exist. -/
  | file (place : Text)
  | device (d : Device)
  /-- A directory that exists. -/
  | directory
  /-- Something other than a directory, behind a slash that only a directory may have.  It cannot
  be read for this fault, and it cannot be written as a directory cannot. -/
  | slashed (f : FileFault)
  /-- Nothing. -/
  | fault (f : FileFault)
deriving DecidableEq

namespace Path

/-- The parts of a path between its slashes. -/
def components : Text → List Text
  | [] => [[]]
  | c :: rest =>
    if c = '/' then [] :: components rest
    else match components rest with
      | [] => [[c]]
      | part :: parts => (c :: part) :: parts

/-- The absolute path with these parts. -/
def absolute (parts : List Text) : Text := parts.flatMap ('/' :: ·)

/-- Whether a part of a path stays in its directory. -/
def isStay (part : Text) : Bool := part == [] || part == ['.']

/-- Whether a part of a path goes to the directory above. -/
def isUp (part : Text) : Bool := part == ['.', '.']

/-- The most bytes that a name may have. -/
def maxName : Nat := 255

/-- The most bytes that a path may have. -/
def maxPath : Nat := 4095

/-- What is behind a name that is no directory: itself at the end of a path, nothing beyond. -/
def atEnd (here : Target) (f : FileFault) (rest : List Text) : Target :=
  if rest = [] then here else if rest.all (· = []) then .slashed f else .fault f

/-- Follows the parts of a path from a directory. -/
def follow (nodes : Entries Node) (place : List Text) : List Text → Target
  | [] => .directory
  | part :: rest =>
    if isStay part then follow nodes place rest
    else if isUp part then follow nodes place.dropLast rest
    else if maxName < part.utf8.length then atEnd (.fault .nameTooLong) .nameTooLong rest
    else
      let next := place ++ [part]
      match nodes.get? (absolute next) with
      | some .directory => follow nodes next rest
      | some (.device d) => atEnd (.device d) .notDirectory rest
      | some (.file _) => atEnd (.file (absolute next)) .notDirectory rest
      | none => atEnd (.file (absolute next)) .notFound rest

end Path

/-- A system in memory. -/
structure Memory where
  /-- What stands below the root, by absolute path. -/
  nodes : Entries Node
  /-- The parts of the path of the current directory. -/
  here : List Text
  stdin : List UInt8
  stdout : Text := []
  stderr : Text := []

namespace Memory

/-- What a path leads to. -/
def target (s : Memory) (path : Text) : Target :=
  if Path.maxPath < path.utf8.length then .fault .nameTooLong
  else match path with
    | [] => .fault .notFound
    | '/' :: rest => Path.follow s.nodes [] (Path.components rest)
    | _ => Path.follow s.nodes s.here (Path.components path)

/-- The content of the file with this absolute path, if it exists. -/
def content? (s : Memory) (place : Text) : Option (List UInt8) :=
  match s.nodes.get? place with
  | some (.file content) => some content
  | _ => none

/-- Reads what a path leads to. -/
def readFile (s : Memory) (path : Text) : Except FileFault (List UInt8) × Memory :=
  match s.target path with
  | .file place =>
    match s.content? place with
    | some content => (.ok content, s)
    | none => (.error .notFound, s)
  | .device .null => (.ok [], s)
  | .device .stdin => (.ok s.stdin, { s with stdin := [] })
  | .device _ => (.error .notFound, s)
  | .directory => (.error .isDirectory, s)
  | .slashed f => (.error f, s)
  | .fault f => (.error f, s)

/-- Writes to what a path leads to. -/
def writeFile (s : Memory) (path t : Text) : Except FileFault Unit × Memory :=
  match s.target path with
  | .file place => (.ok (), { s with nodes := s.nodes.insert place (.file t.utf8) })
  | .device .full => (.error .noSpace, s)
  | .device .stdout => (.ok (), { s with stdout := s.stdout ++ t })
  | .device .stderr => (.ok (), { s with stderr := s.stderr ++ t })
  | .device _ => (.ok (), s)
  | .directory => (.error .isDirectory, s)
  | .slashed _ => (.error .isDirectory, s)
  | .fault f => (.error f, s)

/-- The requests of the program, in memory. -/
def system : System (StateM Memory) where
  readFile path s := ((s.readFile path).1.mapError FileFault.message, (s.readFile path).2)
  readStdin s := (.ok s.stdin, { s with stdin := [] })
  writeFile path t s := ((s.writeFile path t).1.mapError FileFault.message, (s.writeFile path t).2)
  print t s := (.ok (), { s with stdout := s.stdout ++ t })
  report t s := (.ok (), { s with stderr := s.stderr ++ t })

end Memory

end ArrayLiteral.CommandLine
