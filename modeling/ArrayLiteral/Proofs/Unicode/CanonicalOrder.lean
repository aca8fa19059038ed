import Mathlib.Data.List.Chain
import Mathlib.Data.List.Infix
import ArrayLiteral.Unicode.Decomposition

/-!
# Proofs — Unicode — CanonicalOrder

The canonical order of a text, and what becomes of it when some of the starters are left out.

A text is in canonical order if no mark is followed by one of a lower class (`InOrder`).  Reordering
yields such a text and changes no other (`canonicalOrder_eq_self_iff`).  It moves marks past marks
only, so that the starters stay as they are (`filter_canonicalOrder`).

A starter keeps the marks before it from those behind it.  So where starters are left out, the marks
that they kept apart have to be put in order once more: it does not matter whether this was done
before as well (`canonicalOrder_filter_canonicalOrder`), but it may still be needed
(`canonicalOrder_filter_eq_iff`).
-/

namespace ArrayLiteral.Unicode

/-! ### Characters with their classes -/

section Classed

variable {c d : Classed} {text : List Classed}

/-- The second character may follow the first: it is a starter, or of no lower class. -/
def Follows (c d : Classed) : Prop := d.1 = 0 ∨ c.1 ≤ d.1

theorem insertMark_cons_of_follows (h : Follows c d) (text : List Classed) :
    insertMark c (d :: text) = c :: d :: text := by
  rw [insertMark, if_neg]
  rintro ⟨hd, hlt⟩
  exact h.elim hd (Nat.not_le.mpr hlt)

theorem insertMark_cons_of_not_follows (h : ¬Follows c d) (text : List Classed) :
    insertMark c (d :: text) = d :: insertMark c text := by
  rw [Follows, not_or, Nat.not_le] at h
  rw [insertMark, if_pos h]

theorem isChain_insertMark (h : text.IsChain Follows) (c : Classed) :
    (insertMark c text).IsChain Follows := by
  induction text with
  | nil => exact List.isChain_singleton c
  | cons d text ih =>
      by_cases hcd : Follows c d
      · rw [insertMark_cons_of_follows hcd]
        exact List.isChain_cons_cons.mpr ⟨hcd, h⟩
      · rw [insertMark_cons_of_not_follows hcd]
        have hdc : Follows d c := Or.inr (by rw [Follows] at hcd; omega)
        obtain ⟨hd, htext⟩ := List.isChain_cons.mp h
        refine List.isChain_cons.mpr ⟨fun e he => ?_, ih htext⟩
        -- the mark comes first, or what came first before it was put in
        cases text with
        | nil =>
            obtain rfl : c = e := Option.some.inj he
            exact hdc
        | cons f text =>
            by_cases hcf : Follows c f
            · rw [insertMark_cons_of_follows hcf] at he
              obtain rfl : c = e := Option.some.inj he
              exact hdc
            · rw [insertMark_cons_of_not_follows hcf] at he
              exact hd e he

theorem isChain_reorder (text : List Classed) : (reorder text).IsChain Follows := by
  induction text with
  | nil => exact List.isChain_nil
  | cons c text ih => exact isChain_insertMark ih c

theorem reorder_eq_self (h : text.IsChain Follows) : reorder text = text := by
  induction text with
  | nil => rfl
  | cons c text ih =>
      obtain ⟨hc, htext⟩ := List.isChain_cons.mp h
      rw [reorder, ih htext]
      cases text with
      | nil => rfl
      | cons d text => exact insertMark_cons_of_follows (hc d rfl) text

/-- Two marks can be put in one after the other, the lower one first or last. -/
theorem insertMark_insertMark (hd : d.1 ≠ 0) (hlt : d.1 < c.1) (text : List Classed) :
    insertMark c (insertMark d text) = insertMark d (insertMark c text) := by
  have hcd : ¬Follows c d := fun h => h.elim hd (Nat.not_le.mpr hlt)
  have hdc : Follows d c := Or.inr hlt.le
  induction text with
  | nil => rw [insertMark, insertMark_cons_of_not_follows hcd, insertMark,
      insertMark_cons_of_follows hdc]
  | cons e text ih =>
      by_cases hde : Follows d e
      · rw [insertMark_cons_of_follows hde, insertMark_cons_of_not_follows hcd]
        by_cases hce : Follows c e
        · rw [insertMark_cons_of_follows hce, insertMark_cons_of_follows hdc]
        · rw [insertMark_cons_of_not_follows hce, insertMark_cons_of_follows hde]
      · have hce : ¬Follows c e := fun h => hde (h.imp_right hlt.le.trans)
        rw [insertMark_cons_of_not_follows hde, insertMark_cons_of_not_follows hce,
          insertMark_cons_of_not_follows hce, insertMark_cons_of_not_follows hde, ih]

variable {keep : Classed → Bool}

/-- **One mark** that is put in its place before starters are left out finds its place behind. -/
theorem reorder_filter_insertMark (hkeep : ∀ c, keep c = false → c.1 = 0) (c : Classed)
    (text : List Classed) :
    reorder ((insertMark c text).filter keep) = reorder ((c :: text).filter keep) := by
  induction text with
  | nil => rfl
  | cons d text ih =>
      by_cases hcd : Follows c d
      · rw [insertMark_cons_of_follows hcd]
      · rw [insertMark_cons_of_not_follows hcd]
        rw [Follows, not_or, Nat.not_le] at hcd
        have hkept : ∀ e : Classed, e.1 ≠ 0 → keep e = true := fun e he =>
          Bool.of_not_eq_false (mt (hkeep e) he)
        have hd : keep d = true := hkept d hcd.1
        have hc : keep c = true := hkept c (by omega)
        rw [List.filter_cons_of_pos hd, reorder, ih, List.filter_cons_of_pos hc, reorder,
          List.filter_cons_of_pos hc, List.filter_cons_of_pos hd, reorder, reorder,
          insertMark_insertMark hcd.1 hcd.2]

theorem reorder_filter_reorder (hkeep : ∀ c, keep c = false → c.1 = 0) (text : List Classed) :
    reorder ((reorder text).filter keep) = reorder (text.filter keep) := by
  induction text with
  | nil => rfl
  | cons c text ih =>
      rw [reorder, reorder_filter_insertMark hkeep]
      cases hc : keep c with
      | false =>
          have hn : ¬keep c = true := by simp [hc]
          rw [List.filter_cons_of_neg hn, List.filter_cons_of_neg hn, ih]
      | true => rw [List.filter_cons_of_pos hc, List.filter_cons_of_pos hc, reorder, reorder, ih]

/-- Marks are moved, and starters are not. -/
theorem filter_insertMark (hkeep : ∀ c, keep c = true → c.1 = 0) (c : Classed)
    (text : List Classed) : (insertMark c text).filter keep = (c :: text).filter keep := by
  cases hc : keep c with
  | true => rw [insertMark_of_starter (hkeep c hc)]
  | false =>
      induction text with
      | nil => rfl
      | cons d text ih =>
          by_cases hcd : Follows c d
          · rw [insertMark_cons_of_follows hcd]
          · rw [insertMark_cons_of_not_follows hcd]
            have hn : ¬keep c = true := by simp [hc]
            rw [List.filter_cons_of_neg hn] at ih ⊢
            rw [List.filter_cons, List.filter_cons, ih]

theorem filter_reorder (hkeep : ∀ c, keep c = true → c.1 = 0) (text : List Classed) :
    (reorder text).filter keep = text.filter keep := by
  induction text with
  | nil => rfl
  | cons c text ih => rw [reorder, filter_insertMark hkeep, List.filter_cons, List.filter_cons, ih]

end Classed

/-! ### Texts -/

/-- A character with its class. -/
def classed (c : Char) : Classed := (combiningClass c, c)

/-- No mark is followed by one of a lower class. -/
def InOrder (text : List Char) : Prop :=
  text.IsChain fun c d => combiningClass d = 0 ∨ combiningClass c ≤ combiningClass d

instance (text : List Char) : Decidable (InOrder text) :=
  inferInstanceAs (Decidable (List.IsChain _ text))

variable {text : List Char} {keep : Char → Bool}

theorem map_snd_classed (text : List Char) : (text.map classed).map Prod.snd = text := by
  rw [List.map_map]
  exact List.map_id text

/-- Reordering leaves each character with its class. -/
theorem reorder_map_classed (text : List Char) :
    reorder (text.map classed) = (canonicalOrder text).map classed := by
  have hclass : ∀ c ∈ reorder (text.map classed), classed c.2 = c := fun c hc => by
    obtain ⟨d, -, rfl⟩ := List.mem_map.mp ((reorder_perm _).mem_iff.mp hc)
    rfl
  rw [canonicalOrder, List.map_map]
  exact ((List.map_congr_left hclass).trans (List.map_id _)).symm

theorem inOrder_iff : InOrder text ↔ (text.map classed).IsChain Follows :=
  (List.isChain_map (R := Follows) classed).symm

theorem inOrder_canonicalOrder (text : List Char) : InOrder (canonicalOrder text) := by
  rw [inOrder_iff, ← reorder_map_classed]
  exact isChain_reorder _

/-- **A text in canonical order** is its own reordering, and no other text is. -/
theorem canonicalOrder_eq_self_iff : canonicalOrder text = text ↔ InOrder text := by
  refine ⟨fun h => h ▸ inOrder_canonicalOrder text, fun h => ?_⟩
  show (reorder (text.map classed)).map Prod.snd = text
  rw [reorder_eq_self (inOrder_iff.mp h), map_snd_classed]

/-- A choice of characters is one of characters with their classes. -/
theorem filter_map_classed {p : Classed → Bool} (h : ∀ c, p (classed c) = keep c)
    (text : List Char) : (text.map classed).filter p = (text.filter keep).map classed := by
  rw [List.filter_map]
  exact congrArg _ (List.filter_congr fun c _ => h c)

/-- **Starters stay as they are.** -/
theorem filter_canonicalOrder (hkeep : ∀ c, keep c = true → combiningClass c = 0)
    (text : List Char) : (canonicalOrder text).filter keep = text.filter keep := by
  let p : Classed → Bool := fun c => keep c.2 && c.1 == 0
  have hp : ∀ c, p (classed c) = keep c := fun c => by
    cases hc : keep c with
    | false => simp [p, classed, hc]
    | true => simp [p, classed, hc, hkeep c hc]
  have hreorder : (reorder (text.map classed)).filter p = (text.map classed).filter p :=
    filter_reorder (fun c hc => eq_of_beq (Bool.and_eq_true_iff.mp hc).2) _
  rw [reorder_map_classed, filter_map_classed hp, filter_map_classed hp] at hreorder
  rw [← map_snd_classed (List.filter _ _), hreorder, map_snd_classed]

/-- **Starters are left out** before or after reordering, as long as it is done again. -/
theorem canonicalOrder_filter_canonicalOrder
    (hkeep : ∀ c, keep c = false → combiningClass c = 0) (text : List Char) :
    canonicalOrder ((canonicalOrder text).filter keep) = canonicalOrder (text.filter keep) := by
  let p : Classed → Bool := fun c => keep c.2 || c.1 != 0
  have hp : ∀ c, p (classed c) = keep c := fun c => by
    cases hc : keep c with
    | false => simp [p, classed, hc, hkeep c hc]
    | true => simp [p, classed, hc]
  have hreorder : reorder ((reorder (text.map classed)).filter p) =
      reorder ((text.map classed).filter p) :=
    reorder_filter_reorder (fun c hc => by simpa using (Bool.or_eq_false_iff.mp hc).2) _
  rw [reorder_map_classed, filter_map_classed hp, filter_map_classed hp] at hreorder
  exact congrArg (List.map Prod.snd) hreorder

/-- What is left is in canonical order if this holds of each two characters that come to stand side
by side. -/
theorem inOrder_filter_iff : InOrder (text.filter keep) ↔
    ∀ c between d, c :: between ++ [d] <:+: text → keep c = true → keep d = true →
      (∀ e ∈ between, keep e = false) →
        combiningClass d = 0 ∨ combiningClass c ≤ combiningClass d := by
  induction text with
  | nil =>
      refine iff_of_true List.isChain_nil fun c between d hinfix => ?_
      exact absurd (List.infix_nil.mp hinfix) (List.cons_ne_nil _ _)
  | cons x text ih =>
      cases hx : keep x with
      | false =>
          rw [List.filter_cons_of_neg (by simp [hx]), ih]
          refine forall₃_congr fun c between d => ?_
          refine ⟨fun h hinfix hc => ?_, fun h hinfix => h (List.infix_cons hinfix)⟩
          rcases List.infix_cons_iff.mp hinfix with hprefix | hinfix
          · obtain rfl := (List.cons_prefix_cons.mp hprefix).1
            rw [hx] at hc
            cases hc
          · exact h hinfix hc
      | true =>
          rw [List.filter_cons_of_pos hx, InOrder, List.isChain_cons]
          constructor
          · rintro ⟨hhead, htail⟩ c between d hinfix hc hd hbetween
            rcases List.infix_cons_iff.mp hinfix with hprefix | hinfix
            · obtain ⟨rfl, rest, rfl⟩ := List.cons_prefix_cons.mp hprefix
              refine hhead d ?_
              have hnone : between.filter keep = [] := by
                simpa using hbetween
              simp [List.filter_append, hnone, hd]
            · exact ih.mp htail c between d hinfix hc hd hbetween
          · intro h
            refine ⟨fun d hd => ?_, ih.mpr fun c between d hinfix =>
              h c between d (List.infix_cons hinfix)⟩
            obtain ⟨rest, hrest⟩ := List.head?_eq_some_iff.mp hd
            obtain ⟨between, after, rfl, hbetween, hkd, -⟩ := List.filter_eq_cons_iff.mp hrest
            exact h x between d ⟨[], after, by simp⟩ hx hkd (by simpa using hbetween)

/-- Reordering need not be done again exactly if what is left is still in canonical order. -/
theorem canonicalOrder_filter_eq_iff (hkeep : ∀ c, keep c = false → combiningClass c = 0) :
    canonicalOrder (text.filter keep) = (canonicalOrder text).filter keep ↔
      InOrder ((canonicalOrder text).filter keep) := by
  rw [← canonicalOrder_filter_canonicalOrder hkeep, canonicalOrder_eq_self_iff]

end ArrayLiteral.Unicode
