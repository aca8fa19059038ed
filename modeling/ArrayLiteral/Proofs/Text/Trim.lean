import Mathlib.Data.List.DropRight
import Mathlib.Data.List.TakeWhile
import ArrayLiteral.Text.Blank

/-!
# Proofs — Text — Trim

`trim` takes the outer blanks of a text, and nothing else.  So a text is its trimmed form between
two runs of blanks (`exists_trim`), the blanks around a text do not count
(`trim_blanks_append_append`), and a text that neither begins nor ends with a blank is its own
trimmed form (`trim_eq_self`).
-/

namespace ArrayLiteral.Text

/-- A run of blanks. -/
def Blanks (t : Text) : Prop := ∀ c ∈ t, isBlank c = true

instance (t : Text) : Decidable (Blanks t) := List.decidableBAll (isBlank · = true) t

@[simp] theorem blanks_nil : Blanks [] := fun _ h => absurd h List.not_mem_nil

theorem trimEnd_eq_rdropWhile (t : Text) : trimEnd t = t.rdropWhile isBlank := rfl

/-! ### Blanks around a text -/

theorem trimStart_blanks_append {b : Text} (hb : Blanks b) (t : Text) :
    trimStart (b ++ t) = trimStart t :=
  List.dropWhile_append_of_pos hb

theorem trimEnd_append_blanks (t : Text) {b : Text} (hb : Blanks b) :
    trimEnd (t ++ b) = trimEnd t := by
  have hr : ∀ c ∈ b.reverse, isBlank c = true := fun c hc => hb c (List.mem_reverse.mp hc)
  rw [trimEnd, trimEnd, List.reverse_append, List.dropWhile_append_of_pos hr]

theorem trim_blanks_append {b : Text} (hb : Blanks b) (t : Text) : trim (b ++ t) = trim t := by
  rw [trim, trim, trimStart_blanks_append hb]

theorem trim_append_blanks (t : Text) {b : Text} (hb : Blanks b) : trim (t ++ b) = trim t := by
  rw [trim, trim]
  induction t with
  | nil =>
      rw [List.nil_append, trimStart, List.dropWhile_eq_nil_iff.mpr hb]
      rfl
  | cons c t ih =>
      by_cases hc : isBlank c = true
      · have hd : ∀ s : Text, trimStart (c :: s) = trimStart s := fun s =>
          List.dropWhile_cons_of_pos hc
        rw [List.cons_append, hd, hd, ih]
      · have hd : ∀ s : Text, trimStart (c :: s) = c :: s := fun s =>
          List.dropWhile_cons_of_neg hc
        rw [List.cons_append, hd, hd, ← List.cons_append, trimEnd_append_blanks _ hb]

/-- **Outer blanks do not count.** -/
theorem trim_blanks_append_append {a b : Text} (ha : Blanks a) (t : Text) (hb : Blanks b) :
    trim (a ++ t ++ b) = trim t := by
  rw [trim_append_blanks _ hb, trim_blanks_append ha]

/-! ### A text and its trimmed form -/

/-- **A text is its trimmed form between two runs of blanks.** -/
theorem exists_trim (t : Text) : ∃ a b, Blanks a ∧ Blanks b ∧ t = a ++ t.trim ++ b := by
  refine ⟨t.takeWhile isBlank, t.trimStart.rtakeWhile isBlank, ?_, ?_, ?_⟩
  · intro c hc
    exact List.mem_takeWhile_imp hc
  · intro c hc
    exact List.mem_rtakeWhile_imp hc
  · rw [trim, trimEnd_eq_rdropWhile, List.append_assoc, List.rdropWhile_append_rtakeWhile]
    exact List.takeWhile_append_dropWhile.symm

/-- A text that neither begins nor ends with a blank is its own trimmed form. -/
theorem trim_eq_self {t : Text} (hh : ∀ c, t.head? = some c → isBlank c = false)
    (hl : ∀ c, t.getLast? = some c → isBlank c = false) : t.trim = t := by
  have hs : t.trimStart = t := by
    cases t with
    | nil => rfl
    | cons c t => exact List.dropWhile_cons_of_neg (by simp [hh c rfl])
  rw [trim, hs, trimEnd_eq_rdropWhile, List.rdropWhile_eq_self_iff]
  intro hne
  rw [hl _ (List.getLast?_eq_some_getLast hne)]
  exact Bool.false_ne_true

/-- A text between two characters that are not blank is its own trimmed form. -/
theorem trim_cons_append {c d : Char} (hc : isBlank c = false) (hd : isBlank d = false)
    (t : Text) : trim (c :: t ++ [d]) = c :: t ++ [d] := by
  apply trim_eq_self
  · intro e he
    obtain rfl := Option.some.inj he
    exact hc
  · intro e he
    rw [List.getLast?_concat] at he
    obtain rfl := Option.some.inj he
    exact hd

/-- A text without blanks is its own trimmed form. -/
theorem trim_of_forall {t : Text} (h : ∀ c ∈ t, isBlank c = false) : t.trim = t :=
  trim_eq_self (fun c hc => h c (List.mem_of_head? hc)) fun c hc => h c (List.mem_of_getLast? hc)

/-- A trimmed text begins with no blank. -/
theorem isBlank_of_head?_trim {t : Text} {c : Char} (h : t.trim.head? = some c) :
    isBlank c = false := by
  have hstart : t.trimStart.head? = some c := by
    obtain ⟨b, hb⟩ := List.rdropWhile_prefix isBlank (l := t.trimStart)
    rw [← trimEnd_eq_rdropWhile] at hb
    rw [← hb, List.head?_append, ← trim, h, Option.some_or]
  have hnot := List.head?_dropWhile_not isBlank t
  rw [trimStart] at hstart
  rwa [hstart] at hnot

/-- **Only blanks are trimmed to nothing.** -/
theorem trim_eq_nil_iff {t : Text} : t.trim = [] ↔ Blanks t := by
  constructor
  · intro h
    obtain ⟨a, b, ha, hb, ht⟩ := exists_trim t
    rw [ht, h, List.append_nil]
    exact List.forall_mem_append.mpr ⟨ha, hb⟩
  · intro h
    simpa using trim_blanks_append h []

@[simp] theorem trim_trim (t : Text) : t.trim.trim = t.trim := by
  obtain ⟨a, b, ha, hb, ht⟩ := exists_trim t
  calc t.trim.trim = (a ++ t.trim ++ b).trim := (trim_blanks_append_append ha _ hb).symm
    _ = t.trim := by rw [← ht]

end ArrayLiteral.Text
