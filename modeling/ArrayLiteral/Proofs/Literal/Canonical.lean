import ArrayLiteral.Proofs.Literal.FixedPoint
import ArrayLiteral.Proofs.Text.Line

/-!
# Proofs — Literal — Canonical

Which texts are canonical.  The check compares a text, less one line end, with the output for the
whole text.  Outer blanks change neither that output nor the error, and every output stands between
brackets, so that no line end can be part of it (`chomp_eq_iff`).

* The canonical texts are exactly the fixed points, each with one line end or without, and the check
  fails exactly as reading does (`isCanonical_iff_fixedPoint`).
* A text that is *fringed*, with a blank in front or one behind that is not part of the line end, is
  not canonical.
-/

namespace ArrayLiteral

open Text

variable {options : Options} {t out : Text}

/-! ### Line ends -/

namespace Text

/-- **A bracketed text is left by `chomp`** from itself and from itself with one line end, and from
nothing else. -/
theorem chomp_eq_iff (hout : out.isBracketed = true) :
    t.chomp = out ↔ t = out ∨ t = out ++ ['\n'] ∨ t = out ++ ['\r', '\n'] := by
  obtain ⟨u, rfl⟩ := exists_of_isBracketed hout
  constructor
  · intro h
    rw [← h]
    exact chomp_cases t
  · rintro (rfl | rfl | rfl)
    · exact chomp_of_getLast? (by simp [List.getLast?_cons])
    · rw [chomp_append_lineFeed, dropReturn_of_getLast? (by simp [List.getLast?_cons])]
    · have hsplit : '[' :: u ++ [']'] ++ ['\r', '\n'] = '[' :: u ++ [']'] ++ ['\r'] ++ ['\n'] := by
        simp
      rw [hsplit, chomp_append_lineFeed, dropReturn_concat]

/-- A line end does not count when a literal is trimmed. -/
theorem trim_of_chomp_eq (h : t.chomp = out) : t.trim = out.trim := by
  subst h
  rcases chomp_cases t with ht | ht | ht
  · rw [← ht]
  · conv_lhs => rw [ht]
    exact trim_append_blanks _ (by decide)
  · conv_lhs => rw [ht]
    exact trim_append_blanks _ (by decide)

/-- A blank stands in front of a text, or behind it apart from its last line end. -/
def Fringed (t : Text) : Prop :=
  ∃ c s, isBlank c = true ∧
    (t = c :: s ∨ t = s ++ [c] ∧ c ≠ '\n' ∨ t = s ++ [c, '\n'] ∧ c ≠ '\r' ∨
      t = s ++ [c, '\r', '\n'])

/-- What `chomp` leaves of a fringed text does not stand between brackets. -/
theorem Fringed.isBracketed_chomp (h : t.Fringed) : t.chomp.isBracketed = false := by
  obtain ⟨c, s, hc, ht⟩ := h
  refine Bool.eq_false_iff.mpr fun hb => ?_
  have hlast : ∀ u, t.chomp = u ++ [c] → False := fun u hu => by
    rw [hu, isBracketed, Bool.and_eq_true, beq_iff_eq, beq_iff_eq, List.getLast?_concat] at hb
    obtain rfl := Option.some.inj hb.2
    exact absurd hc (by decide)
  rcases ht with rfl | ⟨rfl, hn⟩ | ⟨rfl, hr⟩ | rfl
  -- in front: the bracket of what is left is the first character of the text
  · obtain ⟨u, hu⟩ := exists_of_isBracketed hb
    have hhead : (c :: s).head? = some '[' := by
      rcases chomp_cases (c :: s) with h | h | h <;> rw [h, hu] <;> rfl
    obtain rfl := Option.some.inj hhead
    exact absurd hc (by decide)
  · exact hlast s (chomp_of_getLast? (by simpa using hn))
  · have hsplit : s ++ [c, '\n'] = s ++ [c] ++ ['\n'] := by simp
    refine hlast s ?_
    rw [hsplit, chomp_append_lineFeed, dropReturn_of_getLast? (by simpa using hr)]
  · have hsplit : s ++ [c, '\r', '\n'] = s ++ [c] ++ ['\r'] ++ ['\n'] := by simp
    refine hlast s ?_
    rw [hsplit, chomp_append_lineFeed, dropReturn_concat]

end Text

/-! ### The check -/

/-- Every output stands between brackets. -/
theorem isBracketed_of_sortLiteral (h : sortLiteral options t = .ok out) :
    out.isBracketed = true := by
  rw [sortLiteral] at h
  cases hparse : Value.parse options.quoteScan t with
  | error e =>
      rw [hparse] at h
      cases h
  | ok v =>
      rw [hparse] at h
      cases h
      have harray := (Value.built_parse hparse).2
      exact isBracketed_render (by rwa [Value.kind_sortKeys]) options.indent 0

theorem isCanonical_of_sortLiteral (h : sortLiteral options t = .ok out) :
    isCanonical options t = .ok (t.chomp == out) := by
  rw [isCanonical, h]
  rfl

theorem isCanonical_eq_error_iff {e : Error} :
    isCanonical options t = .error e ↔ Value.parse options.quoteScan t = .error e := by
  rw [isCanonical, sortLiteral]
  cases Value.parse options.quoteScan t <;> simp [Except.map]

/-- A text is canonical if it is the output for itself, less its line end. -/
theorem isCanonical_eq_true_iff :
    isCanonical options t = .ok true ↔ sortLiteral options t = .ok t.chomp := by
  rw [isCanonical]
  cases sortLiteral options t with
  | error e => simp [Except.map]
  | ok out => simp [Except.map, eq_comm (a := t.chomp)]

theorem isCanonical_eq_true_iff_fixed :
    isCanonical options t = .ok true ↔
      ∃ out, sortLiteral options out = .ok out ∧
        (t = out ∨ t = out ++ ['\n'] ∨ t = out ++ ['\r', '\n']) := by
  rw [isCanonical_eq_true_iff]
  constructor
  · intro h
    refine ⟨t.chomp, ?_, chomp_cases t⟩
    rw [← sortLiteral_eq_of_trim_eq (trim_of_chomp_eq rfl), h]
  · rintro ⟨out, hout, ht⟩
    have hchomp : t.chomp = out := (chomp_eq_iff (isBracketed_of_sortLiteral hout)).mpr ht
    rw [sortLiteral_eq_of_trim_eq (trim_of_chomp_eq hchomp), hchomp, hout]

/-- A fringed text that can be read is not canonical. -/
theorem isCanonical_of_fringed {v : Value} (hparse : Value.parse options.quoteScan t = .ok v)
    (h : t.Fringed) : isCanonical options t = .ok false := by
  have hout := sortLiteral_of_parse hparse
  rw [isCanonical_of_sortLiteral hout, Except.ok.injEq, beq_eq_false_iff_ne]
  intro heq
  have hb := isBracketed_of_sortLiteral hout
  rw [← heq, h.isBracketed_chomp] at hb
  cases hb

/-- **The canonical texts are the fixed points**, each with one line end or without.  The check
fails exactly as reading does, and a fringed text is never canonical. -/
theorem isCanonical_iff_fixedPoint (options : Options) (t : Text) :
    (∀ e, isCanonical options t = .error e ↔ Value.parse options.quoteScan t = .error e) ∧
      (isCanonical options t = .ok true ↔
        ∃ out, sortLiteral options out = .ok out ∧
          (t = out ∨ t = out ++ ['\n'] ∨ t = out ++ ['\r', '\n'])) ∧
      ∀ v, Value.parse options.quoteScan t = .ok v → t.Fringed →
        isCanonical options t = .ok false :=
  ⟨fun _ => isCanonical_eq_error_iff, isCanonical_eq_true_iff_fixed,
    fun _ hparse hfringed => isCanonical_of_fringed hparse hfringed⟩

/-- A sorted literal with two line ends. -/
theorem isCanonical_iff_fixedPoint_lineEnds :
    let options : Options := ⟨2, .bytewise, .escapes⟩
    let t : Text := "[\n  'B' => 1,\n  'a' => 2\n]\n\n".toList
    (∃ v, Value.parse options.quoteScan t = .ok v) ∧ t.Fringed ∧
      isCanonical options t = .ok false := by
  intro options t
  have hparse : Value.parse options.quoteScan t =
      .ok (.map [(['B'], .number (.integer 1)), (['a'], .number (.integer 2))]) := by
    decide +kernel
  have hfringed : t.Fringed :=
    ⟨'\n', "[\n  'B' => 1,\n  'a' => 2\n]".toList, by decide,
      Or.inr (Or.inr (Or.inl ⟨by decide, by decide⟩))⟩
  exact ⟨⟨_, hparse⟩, hfringed, (isCanonical_iff_fixedPoint options t).2.2 _ hparse hfringed⟩

end ArrayLiteral
