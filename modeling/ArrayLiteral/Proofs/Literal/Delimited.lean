import ArrayLiteral.Proofs.Literal.Built
import ArrayLiteral.Proofs.Value.Identity

/-!
# Proofs — Literal — Delimited

The reader takes a text for a string or an array by its first and last characters alone.  The walker
knows better: a text is `OneString` if it stays in the string that the first character opens until
the last one ends it, and `OneGroup` if a bracket stays open until the last character.

For the scanner that follows escapes both can be said of what stands between the delimiters: each
quote in a string is escaped and its end is not (`oneString_iff`), and a group is balanced
(`oneGroup_iff`).  What is read as a string or an array is therefore delimited exactly if that holds
of it (`delimited_ofText_iff`), and this fails for two strings or two arrays that an operator joins
(`not_delimited_joined`).
-/

namespace ArrayLiteral

open Walker Text

variable {mode : QuoteScan} {quote : Char} {s : Text}

namespace Text

/-! ### One string, one group -/

/-- Behind every character but the last the walker is in the string that the first one opens, and
the last one ends it. -/
def OneString (mode : QuoteScan) (t : Text) : Prop :=
  (∀ s, s <+: t → s ≠ [] → s ≠ t →
    ∃ quote odd, t.head? = some quote ∧ start.run mode s = .quoted 0 quote odd) ∧
    start.run mode t = start

/-- Behind every character but the last a bracket is open, and none behind the last. -/
def OneGroup (mode : QuoteScan) (t : Text) : Prop :=
  (∀ s, s <+: t → s ≠ [] → s ≠ t → 1 ≤ (start.run mode s).depth) ∧
    (start.run mode t).depth = 0

/-- Each quote of this kind stands behind an odd number of backslashes, and an even number of them
stands at the end. -/
def Guarded (quote : Char) (s : Text) : Prop :=
  (∀ a b, s = a ++ quote :: b → a.finalBackslashes % 2 = 1) ∧ s.finalBackslashes % 2 = 0

/-- A text has one inside. -/
theorem inside_inj {c d e f : Char} {t : Text} (h : c :: s ++ [d] = e :: t ++ [f]) :
    c = e ∧ s = t := by
  rw [List.cons_append, List.cons_append] at h
  obtain ⟨hfirst, hrest⟩ := List.cons.inj h
  exact ⟨hfirst, (List.append_inj' hrest rfl).1⟩

/-- The parts of a text that begin with its first character and end before its last. -/
theorem forall_inner_prefix_iff {p : Text → Prop} {c d : Char} {u : Text} :
    (∀ s, s <+: c :: u ++ [d] → s ≠ [] → s ≠ c :: u ++ [d] → p s) ↔
      ∀ a, a <+: u → p (c :: a) := by
  constructor
  · intro h a ha
    refine h (c :: a) ?_ (List.cons_ne_nil _ _) fun he => ?_
    · exact List.cons_prefix_cons.mpr ⟨rfl, ha.trans (List.prefix_append _ _)⟩
    · have hlength := ha.length_le
      rw [List.cons_append] at he
      rw [(List.cons.inj he).2, List.length_append, List.length_singleton] at hlength
      omega
  · intro h s hs hne hnt
    obtain ⟨e, a, rfl⟩ := List.exists_cons_of_ne_nil hne
    obtain ⟨rfl, ha⟩ := List.cons_prefix_cons.mp hs
    rcases List.prefix_concat_iff.mp ha with rfl | ha
    · exact absurd rfl hnt
    · exact h a ha

end Text

namespace Walker

/-! ### Inside a string -/

/-- Guarded quotes do not end the string. -/
theorem run_quoted_of_guarded {odd : Bool} (d : Int)
    (h : ∀ a b, s = a ++ quote :: b → oddAfter odd a = true) :
    run .escapes (.quoted d quote odd) s = .quoted d quote (oddAfter odd s) := by
  induction s generalizing odd with
  | nil => rfl
  | cons c t ih =>
      have hstep : step .escapes (.quoted d quote odd) c = .quoted d quote (c == '\\' && !odd) := by
        rw [step, if_neg]
        rintro ⟨rfl, hodd⟩
        exact hodd ⟨rfl, h [] t rfl⟩
      rw [run_cons, hstep]
      exact ih fun a b hab => h (c :: a) b (congrArg (c :: ·) hab)

/-- A walker that does not leave the string comes to guarded quotes only. -/
theorem guarded_of_run_quoted {odd : Bool} (d : Int)
    (h : ∀ a, a <+: s → ∃ o, run .escapes (.quoted d quote odd) a = .quoted d quote o) :
    ∀ a b, s = a ++ quote :: b → oddAfter odd a = true := by
  induction s generalizing odd with
  | nil =>
      intro a b hab
      exact absurd hab.symm (List.append_ne_nil_of_right_ne_nil a (List.cons_ne_nil _ _))
  | cons c t ih =>
      -- a bare quote would take the walker out of the string at once
      have hstay : ¬(c = quote ∧ ¬(QuoteScan.escapes = .escapes ∧ odd = true)) := fun hclose => by
        obtain ⟨o, ho⟩ := h [c] (List.cons_prefix_cons.mpr ⟨rfl, List.nil_prefix⟩)
        rw [run_cons, step, if_pos hclose] at ho
        cases ho
      rintro (_ | ⟨e, a⟩) b hab
      · obtain ⟨rfl, -⟩ := List.cons.inj hab
        by_contra hodd
        exact hstay ⟨rfl, fun hesc => hodd hesc.2⟩
      · obtain ⟨rfl, hrest⟩ := List.cons.inj hab
        refine ih (fun a ha => ?_) a b hrest
        obtain ⟨o, ho⟩ := h (c :: a) (List.cons_prefix_cons.mpr ⟨rfl, ha⟩)
        rw [run_cons, step, if_neg hstay] at ho
        exact ⟨o, ho⟩

end Walker

namespace Text

/-- **A text between two quotes is one string** exactly if it is guarded. -/
theorem oneString_iff (hq : isQuote quote = true) :
    OneString .escapes (quote :: s ++ [quote]) ↔ Guarded quote s := by
  have hopen : ∀ a, start.run .escapes (quote :: a) = run .escapes (.quoted 0 quote false) a :=
    fun a => by rw [run_cons, start, step, if_pos hq]
  have hguard : (∀ a b, s = a ++ quote :: b → oddAfter false a = true) ↔
      ∀ a b, s = a ++ quote :: b → a.finalBackslashes % 2 = 1 := by
    simp only [oddAfter_false, decide_eq_true_iff]
  have hend : s.finalBackslashes % 2 = 0 ↔ oddAfter false s = false := quotable_escapes_iff
  rw [OneString, forall_inner_prefix_iff, Guarded, hend, ← hguard]
  constructor
  · rintro ⟨hin, hlast⟩
    have hguarded : ∀ a b, s = a ++ quote :: b → oddAfter false a = true := by
      refine guarded_of_run_quoted 0 fun a ha => ?_
      obtain ⟨q, odd, hq, hrun⟩ := hin a ha
      obtain rfl := Option.some.inj hq
      exact ⟨odd, (hopen a).symm.trans hrun⟩
    refine ⟨hguarded, ?_⟩
    rw [List.cons_append, hopen, run_append, run_quoted_of_guarded 0 hguarded] at hlast
    by_contra hodd
    rw [Bool.not_eq_false] at hodd
    rw [hodd, run_cons, step, if_neg fun hclose => hclose.2 ⟨rfl, rfl⟩] at hlast
    cases hlast
  · rintro ⟨hguarded, heven⟩
    refine ⟨fun a ha => ⟨quote, oddAfter false a, rfl, ?_⟩, ?_⟩
    · obtain ⟨b, rfl⟩ := ha
      rw [hopen]
      refine run_quoted_of_guarded 0 fun a' b' hab => hguarded a' (b' ++ b) ?_
      rw [hab, List.append_assoc, List.cons_append]
    · rw [List.cons_append, hopen, run_append, run_quoted_of_guarded 0 hguarded, heven, run_cons,
        step_closing_quote fun _ => rfl]
      rfl

/-- **A text between two brackets is one group** exactly if it is balanced. -/
theorem oneGroup_iff : OneGroup mode ('[' :: s ++ [']']) ↔ Walker.Balanced mode s := by
  have hopen : ∀ a, start.run mode ('[' :: a) = (start.run mode a).lift 1 := fun a =>
    run_code a 1
  rw [OneGroup, forall_inner_prefix_iff, List.cons_append, hopen, depth_lift, run_append,
    Walker.Balanced]
  have hin : (∀ a, a <+: s → 1 ≤ (start.run mode ('[' :: a)).depth) ↔
      ∀ a, a <+: s → 0 ≤ (start.run mode a).depth := by
    refine forall₂_congr fun a _ => ?_
    rw [hopen, depth_lift]
    omega
  rw [hin]
  refine and_congr_right fun hpos => ?_
  have hopened : (start.run mode s).Opened := Opened.run (show start.Opened from trivial) s
  have hdepth := hpos s (List.prefix_refl s)
  -- the last bracket closes the group only if the walker comes to it in the code
  cases hw : start.run mode s with
  | code d =>
      have hclose : run mode (.code d) [']'] = .code (d - 1) := rfl
      rw [hclose, depth, start, Walker.code.injEq]
      omega
  | quoted d quote odd =>
      rw [hw] at hopened hdepth
      have hne : ']' ≠ quote := by
        rintro rfl
        cases hopened
      rw [run_cons, step_quoted_of_ne hne, run_nil]
      refine ⟨fun hd => ?_, fun he => Walker.noConfusion he⟩
      simp only [depth] at hd hdepth
      omega

end Text

namespace Value

/-! ### What is read -/

/-- **A string is read** from every text that begins and ends with the same quote. -/
theorem readScalar_eq_string_iff {t : Text} :
    readScalar t = .string s ↔ ∃ quote, isQuote quote = true ∧ t = quote :: s ++ [quote] := by
  constructor
  · intro h
    have hunquote : (t.unquote? '\'').or (t.unquote? '"') = some s := by
      rw [readScalar] at h
      split at h
      · cases h
        assumption
      · repeat' split at h
        all_goals cases h
    rcases Option.or_eq_some_iff.mp hunquote with h | ⟨-, h⟩
    · exact ⟨'\'', rfl, eq_of_unquote? h⟩
    · exact ⟨'"', rfl, eq_of_unquote? h⟩
  · rintro ⟨quote, hq, rfl⟩
    have hself : unquote? quote (quote :: s ++ [quote]) = some s := by
      rw [List.cons_append, unquote?, if_pos ⟨rfl, List.getLast?_concat⟩, List.dropLast_concat]
    rw [isQuote, Bool.or_eq_true, beq_iff_eq, beq_iff_eq] at hq
    rcases hq with rfl | rfl
    · rw [readScalar, hself, Option.some_or]
    · have hnone : unquote? '\'' ('"' :: s ++ ['"']) = none :=
        unquote?_eq_none fun h => absurd (Option.some.inj h) (by decide)
      rw [readScalar, hself, hnone, Option.none_or]

/-- Whether a text is as delimited as its value asks for: one string, or one group for an array. -/
def Delimited (mode : QuoteScan) (t : Text) : Value → Prop
  | .string _ => OneString mode t
  | .list _ | .map _ => OneGroup mode t
  | _ => True

theorem delimited_read_brackets (levels : Nat) :
    Delimited mode ('[' :: s ++ [']']) (read mode (levels + 1) ('[' :: s ++ [']'])) ↔
      Walker.Balanced mode s := by
  rw [read_brackets, readArray, ← oneGroup_iff]
  split <;> exact Iff.rfl

theorem delimited_readScalar {t : Text} :
    Delimited .escapes t (readScalar t) ↔
      ∀ quote s, isQuote quote = true → t = quote :: s ++ [quote] → Guarded quote s := by
  by_cases hstring : ∃ s, readScalar t = .string s
  · obtain ⟨s, h⟩ := hstring
    obtain ⟨quote, hq, rfl⟩ := readScalar_eq_string_iff.mp h
    rw [h, Delimited, oneString_iff hq]
    refine ⟨fun hguarded q r _ hr => ?_, fun hall => hall quote s hq rfl⟩
    obtain ⟨rfl, rfl⟩ := inside_inj hr
    exact hguarded
  · refine iff_of_true ?_ fun quote s hq ht =>
      absurd ⟨s, readScalar_eq_string_iff.mpr ⟨quote, hq, ht⟩⟩ hstring
    rcases readScalar_cases t with ⟨-, s, -, h⟩ | ⟨n, -, h⟩ | ⟨b, h⟩ | h | h <;> rw [h]
    · exact absurd ⟨s, h⟩ hstring
    all_goals trivial

/-- **What is read is delimited** exactly if what stands between the outer quotes is guarded and
what stands between the outer brackets is balanced. -/
theorem delimited_ofText_iff (t : Text) :
    Delimited .escapes t.trim (ofText .escapes t) ↔
      (∀ quote s, isQuote quote = true → t.trim = quote :: s ++ [quote] → Guarded quote s) ∧
        ∀ s, t.trim = '[' :: s ++ [']'] → Walker.Balanced .escapes s := by
  rw [ofText]
  generalize t.trim = u
  cases hb : u.isBracketed with
  | true =>
      obtain ⟨c, rfl⟩ := exists_of_isBracketed hb
      rw [maxLevels, delimited_read_brackets]
      refine ⟨fun h => ⟨fun quote s hq hs => ?_, fun s hs => ?_⟩, fun h => h.2 c rfl⟩
      · obtain ⟨rfl, -⟩ := inside_inj hs
        cases hq
      · obtain ⟨-, rfl⟩ := inside_inj hs
        exact h
  | false =>
      have hbrackets : ∀ s, u = '[' :: s ++ [']'] → Walker.Balanced .escapes s := by
        rintro s rfl
        rw [isBracketed_append] at hb
        cases hb
      rw [read_of_not_bracketed hb, delimited_readScalar, and_iff_left hbrackets]

/-- **Two strings or two arrays that an operator joins** are not delimited; they are read as one
string, or as one array, all the same. -/
theorem not_delimited_joined :
    let strings : Text := "'a' . 'b'".toList
    let arrays : Text := "[1] + [2]".toList
    (ofText .escapes strings = .string "a' . 'b".toList ∧
        ¬Delimited .escapes strings.trim (ofText .escapes strings)) ∧
      ofText .escapes arrays = .list [.raw "1] + [2".toList] ∧
        ¬Delimited .escapes arrays.trim (ofText .escapes arrays) := by
  intro strings arrays
  have hstring : ofText .escapes strings = .string "a' . 'b".toList := by decide +kernel
  have harray : ofText .escapes arrays = .list [.raw "1] + [2".toList] := by decide +kernel
  have htrim : strings.trim = '\'' :: "a' . 'b".toList ++ ['\''] := by decide
  have htrim' : arrays.trim = '[' :: "1] + [2".toList ++ [']'] := by decide
  refine ⟨⟨hstring, ?_⟩, harray, ?_⟩
  · rw [hstring, htrim, Delimited, oneString_iff rfl]
    rintro ⟨hguarded, -⟩
    exact absurd (hguarded ['a'] " . 'b".toList rfl) (by decide)
  · rw [harray, htrim', Delimited, oneGroup_iff]
    decide

end Value

end ArrayLiteral
