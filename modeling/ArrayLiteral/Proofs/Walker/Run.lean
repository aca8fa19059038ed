import Mathlib.Data.List.Infix
import ArrayLiteral.Literal.Walker
import ArrayLiteral.Proofs.Text.Trim

/-!
# Proofs — Walker — Run

What a walker does on its way through a text does not depend on the brackets that were open
before: with `n` more of them the run is the same run, lifted by `n` (`run_lift`).  So a text is
described by what a walker from the start does with it.

* `meets mode d w t`: the walker comes to the character `d` where a separator may stand.
* `Balanced mode t`: a walker from the start never has more brackets closed than opened, and ends
  at the top.  One that begins deeper meets nothing in it (`Balanced.not_meets_code`).
* Characters that are neither quotes nor brackets leave a walker in the code where it is
  (`run_code_of_plain`), and blanks are such characters.
-/

namespace ArrayLiteral.Walker

variable {mode : QuoteScan}

/-! ### Brackets around a text -/

/-- The number of open brackets. -/
def depth : Walker → Int
  | .code d => d
  | .quoted d _ _ => d

/-- The walker with `n` more open brackets. -/
def lift (n : Int) : Walker → Walker
  | .code d => .code (d + n)
  | .quoted d quote odd => .quoted (d + n) quote odd

@[simp] theorem lift_start (n : Int) : start.lift n = .code n := by
  rw [start, lift, Int.zero_add]

theorem depth_lift (n : Int) (w : Walker) : (w.lift n).depth = w.depth + n := by
  cases w <;> rfl

theorem step_lift (n : Int) (w : Walker) (c : Char) :
    (w.lift n).step mode c = (w.step mode c).lift n := by
  cases w with
  | code d =>
      simp only [lift, step]
      split
      · rfl
      · split
        · exact congrArg Walker.code (by omega)
        · split
          · exact congrArg Walker.code (by omega)
          · rfl
  | quoted d quote odd =>
      simp only [lift, step]
      split <;> rfl

/-- **Brackets around a text do not change the run.** -/
theorem run_lift (n : Int) (w : Walker) (t : Text) :
    (w.lift n).run mode t = (w.run mode t).lift n := by
  induction t generalizing w with
  | nil => rfl
  | cons c t ih =>
      show ((w.lift n).step mode c).run mode t = _
      rw [step_lift, ih]
      rfl

@[simp] theorem run_nil (w : Walker) : w.run mode [] = w := rfl

theorem run_cons (w : Walker) (c : Char) (t : Text) :
    w.run mode (c :: t) = (w.step mode c).run mode t := rfl

theorem run_code (t : Text) (d : Int) :
    run mode (.code d) t = (start.run mode t).lift d := by
  rw [← lift_start, run_lift]

/-- A text that leads from the top to the top leads from each depth to that depth. -/
theorem run_code_of_run_start {t : Text} (h : start.run mode t = start) (d : Int) :
    run mode (.code d) t = .code d := by
  rw [run_code, h, lift_start]

/-! ### Strings -/

/-- The walker stands in the code, or in a string that a quote opened. -/
def Opened : Walker → Prop
  | .code _ => True
  | .quoted _ quote _ => isQuote quote = true

theorem Opened.step {w : Walker} (h : w.Opened) (c : Char) : (w.step mode c).Opened := by
  cases w with
  | code d =>
      simp only [Walker.step]
      split
      · assumption
      · split
        · trivial
        · split <;> trivial
  | quoted d quote odd =>
      simp only [Walker.step]
      split
      · trivial
      · exact h

/-- Only quotes open strings. -/
theorem Opened.run {w : Walker} (h : w.Opened) (t : Text) : (w.run mode t).Opened := by
  induction t generalizing w with
  | nil => exact h
  | cons c t ih => exact ih (h.step c)

/-! ### Plain characters and blanks -/

/-- Neither a quote nor a bracket. -/
def isPlain (c : Char) : Bool := !(isQuote c || isOpening c || isClosing c)

theorem free_eq (w : Walker) (c : Char) : w.free c = (w.isTop && isPlain c) := rfl

/-- A separator is a plain character. -/
theorem not_free_of_not_plain {c : Char} (h : isPlain c = false) (w : Walker) :
    w.free c = false := by
  rw [free_eq, h, Bool.and_false]

theorem step_bracket (d : Int) : step mode (.code d) '[' = .code (d + 1) := rfl

theorem step_code_of_plain {c : Char} (h : isPlain c = true) (d : Int) :
    step mode (.code d) c = .code d := by
  simp only [isPlain, Bool.not_eq_true', Bool.or_eq_false_iff] at h
  simp [step, h]

/-- Plain characters leave a walker in the code where it is. -/
theorem run_code_of_plain {t : Text} (h : ∀ c ∈ t, isPlain c = true) (d : Int) :
    run mode (.code d) t = .code d := by
  induction t with
  | nil => rfl
  | cons c t ih =>
      rw [run_cons, step_code_of_plain (h c List.mem_cons_self),
        ih fun e he => h e (List.mem_cons_of_mem _ he)]

/-- A class of characters without quotes and brackets has plain characters only. -/
theorem isPlain_of_class {p : Char → Bool} (hp : ['\'', '"', '[', '(', ']', ')'].all (!p ·) = true)
    {c : Char} (h : p c = true) : isPlain c = true := by
  have hmarks := List.all_eq_true.mp hp
  by_contra hc
  simp only [isPlain, isQuote, isOpening, isClosing, Bool.not_eq_true, Bool.not_eq_false',
    Bool.or_eq_true, beq_iff_eq] at hc
  have hnot : p c = false := by
    rw [← Bool.not_eq_true']
    refine hmarks c ?_
    rcases hc with ((rfl | rfl) | (rfl | rfl)) | (rfl | rfl) <;> simp
  rw [hnot] at h
  exact Bool.false_ne_true h

theorem run_code_blanks {b : Text} (hb : Text.Blanks b) (d : Int) :
    run mode (.code d) b = .code d :=
  run_code_of_plain (fun c hc => isPlain_of_class (by decide) (hb c hc)) d

/-! ### What a walker meets -/

/-- Whether the walker, on its way through the text, comes to this character where a separator
may stand. -/
def meets (mode : QuoteScan) (d : Char) (w : Walker) : Text → Bool
  | [] => false
  | c :: t => w.free c && c == d || meets mode d (w.step mode c) t

@[simp] theorem meets_nil (d : Char) (w : Walker) : meets mode d w [] = false := rfl

theorem meets_cons (d : Char) (w : Walker) (c : Char) (t : Text) :
    meets mode d w (c :: t) = (w.free c && c == d || meets mode d (w.step mode c) t) := rfl

theorem meets_cons_eq_false {d : Char} {w : Walker} {c : Char} {t : Text} :
    meets mode d w (c :: t) = false ↔
      ¬(w.free c = true ∧ c = d) ∧ meets mode d (w.step mode c) t = false := by
  simp [meets_cons]

theorem meets_append (d : Char) (w : Walker) (s t : Text) :
    meets mode d w (s ++ t) = (meets mode d w s || meets mode d (w.run mode s) t) := by
  induction s generalizing w with
  | nil => rfl
  | cons c s ih => rw [List.cons_append, meets_cons, meets_cons, ih, run_cons, Bool.or_assoc]

/-- A walker meets only what stands in the text. -/
theorem not_meets_of_not_mem {d : Char} {t : Text} (h : d ∉ t) (w : Walker) :
    meets mode d w t = false := by
  induction t generalizing w with
  | nil => rfl
  | cons c t ih =>
      simp only [List.mem_cons, not_or] at h
      rw [meets_cons, ih h.2, beq_false_of_ne (Ne.symm h.1)]
      simp

/-- Blanks before a text are passed. -/
theorem meets_blanks_append {b : Text} (hb : Text.Blanks b) {d : Char} (hd : isBlank d = false)
    (n : Int) (t : Text) : meets mode d (.code n) (b ++ t) = meets mode d (.code n) t := by
  have hn : d ∉ b := fun h => by simp [hb d h] at hd
  rw [meets_append, not_meets_of_not_mem hn, Bool.false_or, run_code_blanks hb]

/-- A walker with brackets open meets nothing while it stays below the top. -/
theorem not_free_of_depth_pos {w : Walker} (h : 0 < w.depth) (c : Char) : w.free c = false := by
  cases w with
  | code d =>
      have hd : d ≠ 0 := by simp only [depth] at h; omega
      simp [free, isTop, hd]
  | quoted d quote odd => simp [free, isTop]

/-! ### Balanced texts -/

/-- A walker from the start never has more brackets closed than opened, and ends at the top. -/
def Balanced (mode : QuoteScan) (t : Text) : Prop :=
  (∀ s, s <+: t → 0 ≤ (start.run mode s).depth) ∧ start.run mode t = start

instance (mode : QuoteScan) (t : Text) : Decidable (Balanced mode t) :=
  decidable_of_iff
    ((∀ s ∈ t.inits, 0 ≤ (start.run mode s).depth) ∧ start.run mode t = start)
    (by simp only [Balanced, List.mem_inits])

theorem Balanced.run_start {t : Text} (h : Balanced mode t) : start.run mode t = start := h.2

/-- A walker that keeps at least one bracket open all the way meets nothing. -/
theorem not_meets_of_depth_pos {w : Walker} {t : Text}
    (h : ∀ s, s <+: t → 0 < (w.run mode s).depth) (d : Char) : meets mode d w t = false := by
  induction t generalizing w with
  | nil => rfl
  | cons c t ih =>
      have hw : 0 < w.depth := h [] List.nil_prefix
      have ht : ∀ s, s <+: t → 0 < ((w.step mode c).run mode s).depth := fun s hs =>
        h (c :: s) (List.cons_prefix_cons.mpr ⟨rfl, hs⟩)
      rw [meets_cons, not_free_of_depth_pos hw, ih ht]
      rfl

/-- Inside brackets, nothing in a balanced text is at the top. -/
theorem Balanced.not_meets_code {t : Text} (h : Balanced mode t) {n : Int} (hn : 0 < n)
    (d : Char) : meets mode d (.code n) t = false := by
  refine not_meets_of_depth_pos (fun s hs => ?_) d
  have hs₀ := h.1 s hs
  rw [← lift_start, run_lift, depth_lift]
  omega

end ArrayLiteral.Walker
