import ArrayLiteral.Proofs.Collation.KeyOrder
import ArrayLiteral.Proofs.Unicode.CanonicalOrder
import ArrayLiteral.Proofs.Unicode.Tables

/-!
# Proofs — Collation — Ignored

Control characters that are not blank have no weights.  What the *visible* rest of a text weighs
without them:

* its base characters weigh the same, so that neither the primary nor the tertiary weights change;
* its marks weigh the same too, but they may come in another order.

A control character is a starter: marks on both sides of it are not reordered.  Without it they
come to stand side by side, and change places if the second has the lower class.  So the secondary
weights change exactly if the decomposition of the text is *parted* in this way
(`weights_visible`).
-/

namespace ArrayLiteral

open Unicode

namespace Collation

open Element

/-! ### Ignored characters -/

/-- A control character that is not blank. -/
def isIgnored (c : Char) : Bool := isControl c && !isBlank c

/-- The text without its ignored characters. -/
def visible (t : Text) : Text := t.filter fun c => !isIgnored c

variable {c : Char} {s t : Text}

theorem isControl_of_isIgnored (h : isIgnored c = true) : isControl c = true :=
  (Bool.and_eq_true_iff.mp h).1

theorem combiningClass_of_isIgnored (h : isIgnored c = true) : combiningClass c = 0 :=
  combiningClass_of_not_isMark (isMark_of_isControl (isControl_of_isIgnored h))

theorem ofChar?_eq_none_iff : ofChar? c = none ↔ isIgnored c = true := by
  rw [ofChar?]
  split
  · rename_i hmark
    refine iff_of_false nofun fun h => ?_
    rw [isMark_of_isControl (isControl_of_isIgnored h)] at hmark
    cases hmark
  · split
    · rename_i h
      exact iff_of_true rfl h
    · rename_i h
      exact iff_of_false nofun h

/-- Ignored characters have no weights. -/
theorem ofDecomposed_visible (t : Text) :
    Weights.ofDecomposed (visible t) = Weights.ofDecomposed t := by
  rw [Weights.ofDecomposed, Weights.ofDecomposed, visible, List.filterMap_filter]
  congr 1
  refine List.filterMap_congr fun c _ => ?_
  cases hc : isIgnored c with
  | true => simp [ofChar?_eq_none_iff.mpr hc]
  | false => simp

/-- A character that is decomposed is ignored if it stays, and no other comes of it. -/
theorem visible_decompose (c : Char) :
    visible (decompose c) = if isIgnored c then [] else decompose c := by
  split
  · rename_i hc
    rw [decompose_of_isControl (isControl_of_isIgnored hc), visible]
    simp [hc]
  · rename_i hc
    refine List.filter_eq_self.mpr fun d hd => ?_
    by_cases hcontrol : isControl c = true
    · rw [decompose_of_isControl hcontrol, List.mem_singleton] at hd
      simpa [hd] using hc
    · simp [isIgnored, isControl_of_mem_decompose (Bool.eq_false_iff.mpr hcontrol) hd]

/-- Ignored characters can be left out before decomposing. -/
theorem flatMap_decompose_visible (t : Text) :
    (visible t).flatMap decompose = visible (t.flatMap decompose) := by
  induction t with
  | nil => rfl
  | cons c t ih =>
      have happend : visible (decompose c ++ t.flatMap decompose) =
          visible (decompose c) ++ visible (t.flatMap decompose) := List.filter_append ..
      rw [List.flatMap_cons, happend, visible_decompose, ← ih, visible, List.filter_cons]
      cases isIgnored c <;> rfl

/-! ### Base characters -/

/-- The base characters of a text, and what is ignored in it. -/
def bases (t : Text) : Text := t.filter fun c => !isMark c

theorem ofChar?_of_isMark (h : isMark c = true) : ofChar? c = some (.mark c.toNat) := if_pos h

/-- Weights that marks do not have depend on the base characters. -/
theorem filterMap_bases {α : Type} {f : Element → Option α} (hf : ∀ code, f (.mark code) = none)
    (t : Text) :
    ((bases t).filterMap ofChar?).filterMap f = (t.filterMap ofChar?).filterMap f := by
  rw [List.filterMap_filterMap, List.filterMap_filterMap, bases, List.filterMap_filter]
  refine List.filterMap_congr fun c _ => ?_
  cases hc : isMark c with
  | true => simp [ofChar?_of_isMark hc, hf]
  | false => simp

theorem primary_bases (t : Text) :
    (Weights.ofDecomposed (bases t)).primary = (Weights.ofDecomposed t).primary :=
  filterMap_bases (fun _ => rfl) t

theorem tertiary_bases (t : Text) :
    (Weights.ofDecomposed (bases t)).tertiary = (Weights.ofDecomposed t).tertiary :=
  filterMap_bases (fun _ => rfl) t

/-- Base characters are not reordered, with ignored characters among them or without. -/
theorem bases_canonicalOrder_visible (t : Text) :
    bases (canonicalOrder (visible t)) = bases (visible (canonicalOrder t)) := by
  have hbases : ∀ u : Text, bases (canonicalOrder u) = bases u :=
    filter_canonicalOrder fun c hc => combiningClass_of_not_isMark (by simpa using hc)
  have hcomm : ∀ u : Text, bases (visible u) = visible (bases u) := fun u => by
    rw [bases, visible, bases, visible, List.filter_comm]
  rw [hbases, hcomm, hcomm, hbases]

/-! ### Marks -/

/-- The secondary weight of a visible character. -/
def accent (c : Char) : Nat := if isMark c then 1 + c.toNat else 0

theorem exists_element (h : isIgnored c = false) :
    ∃ e, ofChar? c = some e ∧ e.secondary = accent c := by
  cases hc : ofChar? c with
  | none => exact absurd (ofChar?_eq_none_iff.mp hc) (by simp [h])
  | some e =>
      refine ⟨e, rfl, ?_⟩
      rw [ofChar?] at hc
      split at hc
      · rename_i hmark
        cases hc
        exact (if_pos hmark).symm
      · rename_i hmark
        split at hc
        · cases hc
        · cases hc
          exact (if_neg hmark).symm

theorem secondary_ofDecomposed (t : Text) :
    (Weights.ofDecomposed t).secondary = (visible t).map accent := by
  show (t.filterMap ofChar?).map secondary = (visible t).map accent
  induction t with
  | nil => rfl
  | cons c t ih =>
      rw [visible, List.filter_cons]
      cases hc : isIgnored c with
      | true =>
          rw [List.filterMap_cons_none (ofChar?_eq_none_iff.mpr hc)]
          exact ih
      | false =>
          obtain ⟨e, he, hsecondary⟩ := exists_element hc
          rw [List.filterMap_cons_some he, List.map_cons, hsecondary, ih]
          rfl

theorem isMark_of_accent {c d : Char} (h : accent c = accent d) : isMark c = isMark d := by
  rw [accent, accent] at h
  cases hc : isMark c <;> cases hd : isMark d <;> simp [hc, hd] at h ⊢
  omega

/-- Base characters and secondary weights make up the text. -/
theorem eq_of_bases_of_accents (hbases : bases s = bases t)
    (haccents : s.map accent = t.map accent) : s = t := by
  induction s generalizing t with
  | nil => exact (List.map_eq_nil_iff.mp haccents.symm).symm
  | cons c s ih =>
      cases t with
      | nil => cases haccents
      | cons d t =>
          obtain ⟨hhead, htail⟩ := List.cons.inj haccents
          have hmark : isMark c = isMark d := isMark_of_accent hhead
          rw [bases, bases, List.filter_cons, List.filter_cons, ← hmark] at hbases
          cases hc : isMark c with
          | true =>
              obtain rfl : c = d := Char.toNat_inj.mp (by simpa [accent, ← hmark, hc] using hhead)
              rw [ih (by simpa [bases, hc] using hbases) htail]
          | false =>
              obtain ⟨rfl, hrest⟩ : c = d ∧ bases s = bases t := by simpa [bases, hc] using hbases
              rw [ih hrest htail]

/-! ### Parted marks -/

/-- Ignored characters stand between two marks of which the second has the lower class. -/
def Parted (t : Text) : Prop :=
  ∃ c between d, c :: between ++ [d] <:+: t ∧ (∀ e ∈ between, isIgnored e = true) ∧
    combiningClass d ≠ 0 ∧ combiningClass d < combiningClass c

theorem inOrder_visible_iff : InOrder (visible t) ↔ ¬Parted t := by
  rw [visible, inOrder_filter_iff]
  constructor
  · rintro h ⟨c, between, d, hinfix, hbetween, hd, hlt⟩
    have hvisible : ∀ e, combiningClass e ≠ 0 → (!isIgnored e) = true := fun e he => by
      rw [Bool.not_eq_true', Bool.eq_false_iff]
      exact mt combiningClass_of_isIgnored he
    rcases h c between d hinfix (hvisible c (by omega)) (hvisible d hd)
      (by simpa using hbetween) with hzero | hle
    · exact hd hzero
    · omega
  · intro h c between d hinfix _ _ hbetween
    by_contra hlower
    rw [not_or, Nat.not_le] at hlower
    exact h ⟨c, between, d, hinfix, by simpa using hbetween, hlower⟩

/-- **Leaving out ignored characters** and reordering can change places exactly if no marks are
parted. -/
theorem canonicalOrder_visible_eq_iff :
    canonicalOrder (visible t) = visible (canonicalOrder t) ↔ ¬Parted (canonicalOrder t) := by
  rw [← inOrder_visible_iff]
  exact canonicalOrder_filter_eq_iff fun c hc => combiningClass_of_isIgnored (by simpa using hc)

/-! ### The weights of the visible rest -/

theorem ofText_visible_eq (t : Text) : Weights.ofText (visible t) =
    Weights.ofDecomposed (canonicalOrder (visible (t.flatMap decompose))) := by
  rw [Weights.ofText, decomposition, flatMap_decompose_visible]

theorem primary_visible (t : Text) :
    (Weights.ofText (visible t)).primary = (Weights.ofText t).primary := by
  rw [ofText_visible_eq, ← primary_bases, bases_canonicalOrder_visible, primary_bases,
    ofDecomposed_visible]
  rfl

theorem tertiary_visible (t : Text) :
    (Weights.ofText (visible t)).tertiary = (Weights.ofText t).tertiary := by
  rw [ofText_visible_eq, ← tertiary_bases, bases_canonicalOrder_visible, tertiary_bases,
    ofDecomposed_visible]
  rfl

theorem secondary_visible_iff :
    (Weights.ofText (visible t)).secondary = (Weights.ofText t).secondary ↔
      ¬Parted (decomposition t) := by
  have hvisible : ∀ u, visible (canonicalOrder (visible u)) = canonicalOrder (visible u) :=
    fun u => List.filter_eq_self.mpr fun c hc =>
      (List.mem_filter.mp ((canonicalOrder_perm _).mem_iff.mp hc)).2
  rw [ofText_visible_eq, Weights.ofText, decomposition, secondary_ofDecomposed,
    secondary_ofDecomposed, hvisible, ← canonicalOrder_visible_eq_iff]
  exact ⟨eq_of_bases_of_accents (bases_canonicalOrder_visible _), congrArg _⟩

theorem ofText_visible (h : ¬Parted (decomposition t)) :
    Weights.ofText (visible t) = Weights.ofText t :=
  Weights.ext (primary_visible t) (secondary_visible_iff.mpr h) (tertiary_visible t)

/-- **The weights of the visible rest** of a text.  The primary and the tertiary weights are those
of the text, and the secondary ones are exactly if no marks are parted by ignored characters.  Two
texts without parted marks compare as their visible rests do, if these differ in their weights. -/
theorem weights_visible (s : Text) :
    (Weights.ofText (visible s)).primary = (Weights.ofText s).primary ∧
      (Weights.ofText (visible s)).tertiary = (Weights.ofText s).tertiary ∧
      ((Weights.ofText (visible s)).secondary = (Weights.ofText s).secondary ↔
        ¬Parted (decomposition s)) ∧
      ∀ t, ¬Parted (decomposition s) → ¬Parted (decomposition t) →
        Weights.ofText (visible s) ≠ Weights.ofText (visible t) →
        compareLocale s t = compareLocale (visible s) (visible t) :=
  ⟨primary_visible s, tertiary_visible s, secondary_visible_iff, fun _ hs ht hne =>
    (compareLocale_congr (ofText_visible hs) (ofText_visible ht) hne).symm⟩

/-- A control character between marks of ascending class changes nothing. -/
theorem weights_visible_ascending :
    ¬Parted (decomposition ['a', '\u0316', '\u0001', '\u0301']) ∧
      ¬Parted (decomposition ['a', '\u0310']) ∧
      compareLocale ['a', '\u0316', '\u0001', '\u0301'] ['a', '\u0310'] =
        compareLocale (visible ['a', '\u0316', '\u0001', '\u0301']) (visible ['a', '\u0310']) := by
  have hs : ¬Parted (decomposition ['a', '\u0316', '\u0001', '\u0301']) :=
    inOrder_visible_iff.mp (by decide +kernel)
  have ht : ¬Parted (decomposition ['a', '\u0310']) := inOrder_visible_iff.mp (by decide +kernel)
  exact ⟨hs, ht, (weights_visible _).2.2.2 _ hs ht (by decide +kernel)⟩

/-- A control character between marks of descending class keeps them apart: without it the lower one
comes first, and the text moves behind one it was before. -/
theorem weights_not_visible :
    Weights.ofText (visible ['a', '\u0301', '\u0001', '\u0316']) ≠
        Weights.ofText ['a', '\u0301', '\u0001', '\u0316'] ∧
      Weights.ofText (visible ['a', '\u0301', '\u0001', '\u0316']) ≠
        Weights.ofText (visible ['a', '\u0310']) ∧
      compareLocale ['a', '\u0301', '\u0001', '\u0316'] ['a', '\u0310'] = .lt ∧
      compareLocale (visible ['a', '\u0301', '\u0001', '\u0316']) (visible ['a', '\u0310']) =
        .gt := by
  decide +kernel

end Collation

end ArrayLiteral
