import ArrayLiteral.Proofs.Walker.Run

/-!
# Proofs — Walker — Pieces

`Cut mode t ps` says how a text is put together from pieces: between them stand commas, a walker
from the start meets no comma in a piece, and it is back at the top behind every piece but the
last.  A text has one cut, and `pieces` finds it (`cut_pieces`, `Cut.pieces_eq`).

What a walker does not meet in a text it does not meet in a piece either, even where the text lies
in brackets (`Cut.not_meets`).  Blanks around a text come to stand around its first and last piece,
so that they do not change the trimmed pieces (`map_trim_pieces_trim`).
-/

namespace ArrayLiteral

namespace Walker

variable {mode : QuoteScan}

/-! ### One comma -/

theorem step_comma (d : Int) : step mode (.code d) ',' = .code d :=
  step_code_of_plain (by decide) d

/-- A text in which no comma is met is one piece. -/
theorem split_of_not_meets {w : Walker} {t : Text} (h : meets mode ',' w t = false) :
    w.split mode t = [t] := by
  induction t generalizing w with
  | nil => rfl
  | cons c t ih =>
      obtain ⟨hc, ht⟩ := meets_cons_eq_false.mp h
      rw [split, if_neg hc, ih ht]
      rfl

/-- The first piece ends at the first comma that is met. -/
theorem split_append_comma {w : Walker} {p : Text} (h : meets mode ',' w p = false)
    (hp : w.run mode p = start) (t : Text) :
    w.split mode (p ++ ',' :: t) = p :: start.split mode t := by
  induction p generalizing w with
  -- behind the piece the walker is at the top, where the comma divides
  | nil =>
      obtain rfl : w = start := hp
      rw [List.nil_append, split, if_pos ⟨rfl, rfl⟩, start, step_comma]
  | cons c p ih =>
      obtain ⟨hc, ht⟩ := meets_cons_eq_false.mp h
      rw [List.cons_append, split, if_neg hc, ih ht hp]
      rfl

/-- Either no comma is met in a text, or there is a first one. -/
theorem meets_comma_cases (mode : QuoteScan) (w : Walker) (t : Text) :
    meets mode ',' w t = false ∨
      ∃ p s, t = p ++ ',' :: s ∧ meets mode ',' w p = false ∧ w.run mode p = start := by
  induction t generalizing w with
  | nil => exact Or.inl rfl
  | cons c t ih =>
      by_cases hc : w.free c = true ∧ c = ','
      · obtain ⟨hf, rfl⟩ := hc
        have hw : w = start := by
          rw [free_eq, Bool.and_eq_true] at hf
          exact of_decide_eq_true hf.1
        exact Or.inr ⟨[], t, rfl, rfl, hw⟩
      · rcases ih (w.step mode c) with h | ⟨p, s, rfl, hp, hr⟩
        · exact Or.inl (meets_cons_eq_false.mpr ⟨hc, h⟩)
        · exact Or.inr ⟨c :: p, s, rfl, meets_cons_eq_false.mpr ⟨hc, hp⟩, hr⟩

/-! ### Cuts -/

/-- A text put together from pieces, with commas at the top between them. -/
inductive Cut (mode : QuoteScan) : Text → List Text → Prop where
  | last {p : Text} (h : meets mode ',' start p = false) : Cut mode p [p]
  | comma {p t : Text} {ps : List Text} (h : meets mode ',' start p = false)
      (top : start.run mode p = start) (rest : Cut mode t ps) : Cut mode (p ++ ',' :: t) (p :: ps)

/-- The pieces of a text are a cut of it. -/
theorem cut_pieces (mode : QuoteScan) (t : Text) : Cut mode t (t.pieces mode) := by
  rcases meets_comma_cases mode start t with h | ⟨p, s, rfl, hp, hr⟩
  · rw [Text.pieces, split_of_not_meets h]
    exact .last h
  · rw [Text.pieces, split_append_comma hp hr]
    exact .comma hp hr (cut_pieces mode s)
termination_by t.length
decreasing_by
  subst_vars
  simp only [List.length_append, List.length_cons]
  omega

namespace Cut

variable {t : Text} {ps : List Text}

/-- A text has no other cut. -/
theorem pieces_eq (h : Cut mode t ps) : t.pieces mode = ps := by
  induction h with
  | last h => exact split_of_not_meets h
  | comma h top _ ih => rw [Text.pieces, split_append_comma h top]; exact congrArg _ ih

theorem ne_nil (h : Cut mode t ps) : ps ≠ [] := by
  cases h <;> exact List.cons_ne_nil _ _

theorem intercalate_eq (h : Cut mode t ps) : List.intercalate [','] ps = t := by
  induction h with
  | last => exact List.intercalate_singleton
  | @comma p t ps _ _ rest ih =>
      obtain ⟨q, qs, rfl⟩ := List.exists_cons_of_ne_nil rest.ne_nil
      rw [List.intercalate_cons_cons, ih]
      simp

/-- No comma is met in a piece. -/
theorem not_meets_comma (h : Cut mode t ps) : ∀ p ∈ ps, meets mode ',' start p = false := by
  induction h with
  | last h => simpa using h
  | comma h _ _ ih => exact List.forall_mem_cons.mpr ⟨h, ih⟩

/-- Every piece but the last leads back to the top. -/
theorem run_eq_start (h : Cut mode t ps) : ∀ p ∈ ps.dropLast, start.run mode p = start := by
  induction h with
  | last => simp
  | comma _ top rest ih =>
      rw [List.dropLast_cons_of_ne_nil rest.ne_nil]
      exact List.forall_mem_cons.mpr ⟨top, ih⟩

/-- A walker that is through with a text stands where the last piece takes it. -/
theorem run_code (h : Cut mode t ps) (d : Int) :
    run mode (.code d) t = (start.run mode (ps.getLast h.ne_nil)).lift d := by
  induction h with
  | last => exact Walker.run_code _ d
  | comma _ top rest ih =>
      rw [run_append, run_code_of_run_start top, run_cons, step_comma, ih,
        List.getLast_cons rest.ne_nil]

/-- What is not met in a text is not met in a piece of it. -/
theorem not_meets (h : Cut mode t ps) {d : Char} {n : Int}
    (ht : meets mode d (.code n) t = false) : ∀ p ∈ ps, meets mode d (.code n) p = false := by
  induction h with
  | last => simpa using ht
  | comma _ top _ ih =>
      rw [meets_append, Bool.or_eq_false_iff, run_code_of_run_start top, meets_cons,
        Bool.or_eq_false_iff, step_comma] at ht
      exact List.forall_mem_cons.mpr ⟨ht.1, ih ht.2.2⟩

/-- What is met neither in a piece nor at a comma is not met in the text. -/
theorem not_meets_of_forall (h : Cut mode t ps) {d : Char} {n : Int} (hd : n = 0 → d ≠ ',')
    (hp : ∀ p ∈ ps, meets mode d (.code n) p = false) : meets mode d (.code n) t = false := by
  induction h with
  | last => exact hp _ List.mem_cons_self
  | @comma p t ps _ top _ ih =>
      have hc : (free (.code n) ',' && ',' == d) = false := by
        by_cases hn : n = 0
        · simp [Ne.symm (hd hn)]
        · rw [free_eq, isTop, beq_false_of_ne (by simpa using hn)]
          rfl
      rw [meets_append, hp p List.mem_cons_self, run_code_of_run_start top, meets_cons, hc,
        step_comma, ih fun q hq => hp q (List.mem_cons_of_mem _ hq)]
      rfl

end Cut

/-- Texts joined by commas are cut into these texts. -/
theorem cut_intercalate {ps : List Text} (hne : ps ≠ [])
    (hc : ∀ p ∈ ps, meets mode ',' start p = false)
    (ht : ∀ p ∈ ps.dropLast, start.run mode p = start) :
    Cut mode (List.intercalate [','] ps) ps := by
  induction ps with
  | nil => exact absurd rfl hne
  | cons p ps ih =>
      have hp := hc p List.mem_cons_self
      cases ps with
      | nil =>
          rw [List.intercalate_singleton]
          exact .last hp
      | cons q qs =>
          rw [List.dropLast_cons_of_ne_nil (List.cons_ne_nil _ _)] at ht
          rw [List.intercalate_cons_cons, List.append_assoc]
          exact .comma hp (ht p List.mem_cons_self)
            (ih (List.cons_ne_nil _ _) (fun r hr => hc r (List.mem_cons_of_mem _ hr))
              fun r hr => ht r (List.mem_cons_of_mem _ hr))

end Walker

/-! ### Blanks around a text -/

namespace Text

open Walker

variable {mode : QuoteScan}

theorem map_trim_pieces_blanks_append {t b : Text} {ps : List Text} (h : Cut mode t ps)
    (hb : Blanks b) : ((b ++ t).pieces mode).map trim = ps.map trim := by
  have hm : ∀ p : Text, meets mode ',' start (b ++ p) = meets mode ',' start p := fun p =>
    meets_blanks_append hb (by decide) 0 p
  cases h with
  | last h =>
      rw [pieces, split_of_not_meets ((hm t).trans h)]
      simp [trim_blanks_append hb]
  | @comma p s ps h top rest =>
      have hr : start.run mode (b ++ p) = start := by
        rw [run_append, start, run_code_blanks hb]
        exact top
      rw [pieces, ← List.append_assoc, split_append_comma ((hm p).trans h) hr,
        ← rest.pieces_eq]
      simp [trim_blanks_append hb, pieces]

theorem map_trim_pieces_append_blanks {t b : Text} {ps : List Text} (h : Cut mode t ps)
    (hb : Blanks b) : ((t ++ b).pieces mode).map trim = ps.map trim := by
  have hn : ',' ∉ b := fun h => absurd (hb _ h) (by decide)
  induction h with
  | @last p h =>
      have hm : meets mode ',' start (p ++ b) = false := by
        rw [meets_append, h, not_meets_of_not_mem hn]
        rfl
      rw [pieces, split_of_not_meets hm]
      simp [trim_append_blanks _ hb]
  | @comma p s ps h top rest ih =>
      rw [pieces, List.append_assoc, List.cons_append, split_append_comma h top]
      exact congrArg (p.trim :: ·) ih

/-- **Blanks around a text do not change its trimmed pieces.** -/
theorem map_trim_pieces_trim (t : Text) :
    (t.trim.pieces mode).map trim = (t.pieces mode).map trim := by
  obtain ⟨a, b, ha, hb, ht⟩ := exists_trim t
  calc (t.trim.pieces mode).map trim
      = ((a ++ t.trim).pieces mode).map trim :=
        (map_trim_pieces_blanks_append (cut_pieces mode _) ha).symm
    _ = ((a ++ t.trim ++ b).pieces mode).map trim :=
        (map_trim_pieces_append_blanks (cut_pieces mode _) hb).symm
    _ = (t.pieces mode).map trim := by rw [← ht]

end Text

end ArrayLiteral
