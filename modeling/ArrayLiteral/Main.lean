import ArrayLiteral.CommandLine.Program

/-!
# Main — the command line

The program on the system that it is started on.  What it does there is decided in
`CommandLine.Program`; here its requests are passed on.
-/

open ArrayLiteral ArrayLiteral.CommandLine

/-- The number of a failure of the system, without its sign. -/
def failureNumber? (e : IO.Error) : Option Nat :=
  let number (code : UInt32) : Option Nat := some (min code.toNat (0 - code).toNat)
  match e with
  | .noFileOrDirectory _ code _ => number code
  | .inappropriateType _ code _ => number code
  | .invalidArgument _ code _ => number code
  | .resourceExhausted _ code _ => number code
  | _ => none

/-- Why the system refused a request. -/
def systemMessage (e : IO.Error) : Text :=
  match failureNumber? e with
  | some 2 => FileFault.notFound.message
  | some 20 => FileFault.notDirectory.message
  | some 21 => FileFault.isDirectory.message
  | some 28 => FileFault.noSpace.message
  | some 36 => FileFault.nameTooLong.message
  | _ => (toString e).toList

/-- The answer to a request, or the cause for which it was refused. -/
def answer {α : Type} (request : IO α) : IO (Except Text α) := do
  try return .ok (← request)
  catch e => return .error (systemMessage e)

/-- All bytes of a stream. -/
partial def readAll (s : IO.FS.Stream) (read : ByteArray) : IO ByteArray := do
  let more ← s.read 65536
  if more.isEmpty then return read else readAll s (read ++ more)

/-- Writes a text to a stream. -/
def writeOut (s : IO.FS.Stream) (t : Text) : IO Unit := do
  s.putStr (String.ofList t)
  s.flush

/-- The system that the program is started on. -/
def system : System IO where
  readFile path := answer do
    return (← IO.FS.readBinFile (String.ofList path)).toList
  readStdin := answer do
    return (← readAll (← IO.getStdin) ByteArray.empty).toList
  writeFile path t := answer do
    IO.FS.withFile (String.ofList path) .write fun h => do
      h.putStr (String.ofList t)
      h.flush
  print t := answer do writeOut (← IO.getStdout) t
  report t := answer do writeOut (← IO.getStderr) t

def main (arguments : List String) : IO UInt32 := do
  return (← run system (arguments.map String.toList)).toUInt32
