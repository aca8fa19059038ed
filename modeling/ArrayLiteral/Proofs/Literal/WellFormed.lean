import ArrayLiteral.Proofs.Literal.Built
import ArrayLiteral.Proofs.Number.Normal
import ArrayLiteral.Proofs.Value.Identity

/-!
# Proofs — Literal — WellFormed

What can be relied on in every value that is read, whatever the text (`wellFormed_of_read`).

* Numbers are in normal form, and finite.
* A map has an entry, and its keys are distinct.  So an empty map, which would be written as an
  empty list, does not occur.
* An expression has no outer blanks and is read as itself again at its depth, and the array that it
  lies in finds no separator in it.
-/

namespace ArrayLiteral.Value

open Walker Text

variable {mode : QuoteScan} {around : List Kind} {v : Value}

/-- What can be relied on at one node. -/
def WellFormed (mode : QuoteScan) (around : List Kind) : Value → Prop
  | .null | .bool _ | .string _ | .list _ => True
  | .number n => n.Normal ∧ n.Finite
  | .map entries => entries ≠ [] ∧ Entries.Distinct entries
  | .raw r =>
    r.trim = r ∧ read mode (maxLevels - around.length) r = .raw r ∧
      (around.head? = some .list →
        r ≠ [] ∧ meets mode ',' start r = false ∧ r.arrow? mode = none) ∧
      (around.head? = some .map → meets mode ',' start r = false)

/-- The innermost array finds nothing in an expression that separates. -/
theorem Kept.unbroken {kind : Kind} {r : Text} (h : Kept mode around r)
    (hkind : around.head? = some kind) : Unbroken mode kind 0 r :=
  h.whole 0 kind (by rwa [← List.head?_eq_getElem?])

theorem Kept.wellFormed {r : Text} (h : Kept mode around r) : WellFormed mode around (.raw r) := by
  refine ⟨h.trim, h.read, fun hlist => ?_, fun hmap => (h.unbroken hmap).1⟩
  obtain ⟨hcomma, harrow⟩ := h.unbroken hlist
  exact ⟨h.ne_nil hlist, hcomma, harrow rfl⟩

theorem Built.wellFormed (h : Built mode around v) : WellFormed mode around v := by
  cases v with
  | number n =>
      obtain ⟨t, ht⟩ := h
      exact Number.normal_and_finite_of_ofLiteral? ht
  | map entries => exact h.2
  | raw r => exact Kept.wellFormed h
  | _ => trivial

/-- **Every value that is read is well-formed** at every depth, whether the text is parsed as a
literal or read as any value. -/
theorem wellFormed_of_read (mode : QuoteScan) (t : Text) (v : Value)
    (h : v = ofText mode t ∨ parse mode t = .ok v) : v.Everywhere (WellFormed mode) [] := by
  have hbuilt : v.Everywhere (Built mode) [] := by
    rcases h with rfl | h
    · exact built_read (trim_trim t) (whole_nil _) nofun
    · exact (built_parse h).1
  exact hbuilt.imp fun _ _ hnode => hnode.wellFormed

/-- A bracket too many hides all separators behind it, so that the map has one entry only. -/
theorem wellFormed_of_read_unbalanced :
    let t : Text := "[ 'a' => x), b => 1.50, 3 ]".toList
    let v : Value := .map [(['a'], .raw "x), b => 1.50, 3".toList)]
    (v = ofText .escapes t ∨ parse .escapes t = .ok v) ∧
      v.Everywhere (WellFormed .escapes) [] := by
  intro t v
  have h : parse .escapes t = .ok v := by decide +kernel
  exact ⟨Or.inr h, wellFormed_of_read .escapes t v (Or.inr h)⟩

end ArrayLiteral.Value
