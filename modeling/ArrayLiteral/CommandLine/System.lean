import ArrayLiteral.Text.Blank

/-!
# CommandLine — System

What the program asks of the system it runs on.  How a system answers is left to it: the program
runs on any, in any monad.
-/

namespace ArrayLiteral.CommandLine

/-- What a system does for the program.  Each request can be refused, and is answered with the
cause then. -/
structure System (m : Type → Type) where
  /-- The bytes of the file that a path leads to. -/
  readFile (path : Text) : m (Except Text (List UInt8))
  /-- The bytes of standard input. -/
  readStdin : m (Except Text (List UInt8))
  /-- Makes a text the content of the file that a path leads to, and creates it if need be. -/
  writeFile (path t : Text) : m (Except Text Unit)
  /-- Writes a text to standard output. -/
  print (t : Text) : m (Except Text Unit)
  /-- Writes a text to standard error. -/
  report (t : Text) : m (Except Text Unit)

/-- Why a file cannot be read or written: the causes that have a message of their own here. -/
inductive FileFault where
  | notFound
  | isDirectory
  | notDirectory
  | nameTooLong
  | noSpace
  | notUtf8
deriving DecidableEq

/-- The message. -/
def FileFault.message : FileFault → Text
  | .notFound => "No such file or directory (os error 2)".toList
  | .isDirectory => "Is a directory (os error 21)".toList
  | .notDirectory => "Not a directory (os error 20)".toList
  | .nameTooLong => "File name too long (os error 36)".toList
  | .noSpace => "No space left on device (os error 28)".toList
  | .notUtf8 => "stream did not contain valid UTF-8".toList

end ArrayLiteral.CommandLine
