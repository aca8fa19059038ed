import Mathlib.Data.List.Nodup
import ArrayLiteral.Collation.KeyOrder

/-!
# Proofs — Collation — KeyOrder

Both key orders are total: they compare lists of weights in turn, each of which is totally ordered,
and last the texts themselves, so that only a key and itself are equal (`compare_total`).

In the locale order the texts count only between keys of the same weights (`compareLocale_congr`).
The weights are those of the canonical decomposition, so that keys with one decomposition stand
side by side among keys of other weights.
-/

namespace ArrayLiteral

/-! ### Weights -/

namespace Collation

attribute [ext] Weights

/-- Compares weights list by list. -/
def Weights.compare (x y : Weights) : Ordering :=
  (Ord.compare x.primary y.primary).then <|
    (Ord.compare x.secondary y.secondary).then (Ord.compare x.tertiary y.tertiary)

theorem Weights.eq_of_compare {x y : Weights} (h : x.compare y = .eq) : x = y := by
  obtain ⟨hp, hs, ht⟩ : Ord.compare x.primary y.primary = .eq ∧
      Ord.compare x.secondary y.secondary = .eq ∧ Ord.compare x.tertiary y.tertiary = .eq := by
    simpa only [Weights.compare, Ordering.then_eq_eq] using h
  exact Weights.ext (Std.LawfulEqOrd.eq_of_compare hp) (Std.LawfulEqOrd.eq_of_compare hs)
    (Std.LawfulEqOrd.eq_of_compare ht)

theorem compareLocale_eq_then (a b : Text) : compareLocale a b =
    ((Weights.ofText a).compare (Weights.ofText b)).then (compareCodePoints a b) := by
  simp only [compareLocale, Weights.compare, Ordering.then_assoc]

/-- **Weights that differ decide.** -/
theorem compareLocale_of_ne {a b : Text} (h : Weights.ofText a ≠ Weights.ofText b) :
    compareLocale a b = (Weights.ofText a).compare (Weights.ofText b) := by
  rw [compareLocale_eq_then]
  cases hw : (Weights.ofText a).compare (Weights.ofText b) with
  | eq => exact absurd (Weights.eq_of_compare hw) h
  | lt => rfl
  | gt => rfl

/-- Keys can be exchanged for keys of their weights, in front of a key of other weights. -/
theorem compareLocale_congr {a b c d : Text} (hac : Weights.ofText a = Weights.ofText c)
    (hbd : Weights.ofText b = Weights.ofText d) (h : Weights.ofText a ≠ Weights.ofText b) :
    compareLocale a b = compareLocale c d := by
  rw [compareLocale_of_ne h, hac, hbd, compareLocale_of_ne (hac ▸ hbd ▸ h)]

end Collation

namespace KeyOrder

open Collation

/-- The locale order compares three lists of weights, and then the texts. -/
theorem compareLocale_eq : compareLocale =
    compareLex (compareOn fun a => (Weights.ofText a).primary)
      (compareLex (compareOn fun a => (Weights.ofText a).secondary)
        (compareLex (compareOn fun a => (Weights.ofText a).tertiary) compareCodePoints)) := rfl

/-- **The key orders are total.** -/
instance (order : KeyOrder) : Std.TransCmp order.compare := by
  have hcode : Std.TransCmp compareCodePoints := inferInstanceAs (Std.TransOrd Text)
  cases order with
  | locale =>
      rw [compare, compareLocale_eq]
      infer_instance
  | bytewise => exact hcode

/-- **The key orders tell all keys apart.** -/
instance (order : KeyOrder) : Std.LawfulEqCmp order.compare where
  eq_of_compare {a b} h := by
    have hcode : compareCodePoints a b = .eq := by
      cases order with
      | locale =>
          simp only [compare, compareLocale, Ordering.then_eq_eq] at h
          exact h.2.2.2
      | bytewise => exact h
    exact Std.LawfulEqOrd.eq_of_compare hcode

variable {order : KeyOrder} {a b c : Text}

theorem le_trans (hab : order.le a b = true) (hbc : order.le b c = true) : order.le a c = true :=
  Std.TransCmp.isLE_trans hab hbc

theorem le_total (order : KeyOrder) (a b : Text) : (order.le a b || order.le b a) = true := by
  have hswap : order.compare b a = (order.compare a b).swap := Std.OrientedCmp.eq_swap
  rw [le, le, hswap]
  cases order.compare a b <;> rfl

theorem le_iff : order.le a b = true ↔ order.compare a b = .lt ∨ a = b := by
  rw [le, Ordering.isLE_iff_eq_lt_or_eq_eq, Std.LawfulEqCmp.compare_eq_iff_eq]

theorem compare_eq_lt_of_le (h : order.le a b = true) (hne : a ≠ b) : order.compare a b = .lt :=
  (le_iff.mp h).resolve_right hne

/-- The first of two keys does not come after the second. -/
theorem not_le_of_lt (h : order.compare a b = .lt) : order.le b a = false := by
  have hswap : order.compare b a = (order.compare a b).swap := Std.OrientedCmp.eq_swap
  rw [le, hswap, h]
  rfl

theorem le_antisymm (hab : order.le a b = true) (hba : order.le b a = true) : a = b := by
  rcases le_iff.mp hab with hlt | heq
  · rw [not_le_of_lt hlt] at hba
    cases hba
  · exact heq

/-- Changing keys that are in order leaves them in order exactly if no two of them change places. -/
theorem pairwise_map_le_iff {keys : List Text} {f : Text → Text}
    (hkeys : keys.Pairwise fun a b => order.le a b = true) (hf : (keys.map f).Nodup) :
    ((keys.map f).Pairwise fun a b => order.le a b = true) ↔
      ∀ a ∈ keys, ∀ b ∈ keys, order.compare a b = .lt → order.compare (f a) (f b) = .lt := by
  rw [List.pairwise_map]
  constructor
  · intro hmap
    have hforward : keys.Pairwise fun a b =>
        order.compare a b = .lt → order.compare (f a) (f b) = .lt :=
      hmap.imp_of_mem fun {a b} ha hb hle hlt => by
        refine compare_eq_lt_of_le hle fun hfab => ?_
        obtain rfl := List.inj_on_of_nodup_map hf ha hb hfab
        rw [compare_self] at hlt
        cases hlt
    -- keys in order never compare as less the other way round
    have hbackward : keys.Pairwise fun a b =>
        order.compare b a = .lt → order.compare (f b) (f a) = .lt :=
      hkeys.imp fun {a b} hle hlt => by
        rw [not_le_of_lt hlt] at hle
        cases hle
    refine fun a ha b hb => hforward.forall_of_forall_of_flip (fun c _ hlt => ?_) hbackward ha hb
    rw [compare_self] at hlt
    cases hlt
  · intro hlt
    refine hkeys.imp_of_mem fun {a b} ha hb hle => ?_
    rcases le_iff.mp hle with h | rfl
    · exact le_iff.mpr (Or.inl (hlt a ha b hb h))
    · exact le_iff.mpr (Or.inr rfl)

/-- **The key orders are total orders** of texts, and in the locale order a text that lies between
two texts with one canonical decomposition has their weights. -/
theorem compare_total (order : KeyOrder) (a b c : Text) :
    (order.compare a b = .eq ↔ a = b) ∧
      order.compare b a = (order.compare a b).swap ∧
      (order.compare a b = .lt → order.compare b c = .lt → order.compare a c = .lt) ∧
      ∀ a', Unicode.decomposition a = Unicode.decomposition a' →
        Weights.ofText a = Weights.ofText a' ∧
        (Weights.ofText b ≠ Weights.ofText a →
          compareLocale a b = compareLocale a' b ∧ compareLocale b a = compareLocale b a') ∧
        (compareLocale a b = .lt → compareLocale b a' = .lt →
          Weights.ofText b = Weights.ofText a) := by
  refine ⟨Std.LawfulEqCmp.compare_eq_iff_eq, Std.OrientedCmp.eq_swap, Std.TransCmp.lt_trans,
    fun a' hsame => ?_⟩
  have hweights : Weights.ofText a = Weights.ofText a' := Weights.ofText_congr hsame
  refine ⟨hweights, fun hne => ⟨compareLocale_congr hweights rfl (Ne.symm hne),
    compareLocale_congr rfl hweights hne⟩, fun hab hba' => ?_⟩
  -- of other weights, the text would stand before `a` as it stands before `a'`
  by_contra hne
  have hba : compareLocale b a = .lt := (compareLocale_congr rfl hweights hne).trans hba'
  have hgt : compareLocale b a = (compareLocale a b).swap :=
    (Std.OrientedCmp.eq_swap : KeyOrder.locale.compare b a = (KeyOrder.locale.compare a b).swap)
  rw [hba, hab] at hgt
  cases hgt

/-- An accent in one character and in two: no other letter comes in between. -/
theorem compare_total_accent :
    let a : Text := ['\u00e9', 'b']
    let a' : Text := ['e', '\u0301', 'b']
    let b : Text := ['e', 'x']
    let c : Text := ['f']
    (Unicode.decomposition a = Unicode.decomposition a' ∧ a ≠ a' ∧
        Weights.ofText b ≠ Weights.ofText a ∧ KeyOrder.locale.compare a b = .lt ∧
        KeyOrder.locale.compare b c = .lt) ∧
      KeyOrder.locale.compare a c = .lt ∧ KeyOrder.locale.compare b a = .gt ∧
      compareLocale a' b = .lt := by
  intro a a' b c
  have hsame : Unicode.decomposition a = Unicode.decomposition a' := by decide +kernel
  have hne : Weights.ofText b ≠ Weights.ofText a := by decide +kernel
  have hab : KeyOrder.locale.compare a b = .lt := by decide +kernel
  have hbc : KeyOrder.locale.compare b c = .lt := by decide +kernel
  obtain ⟨-, hswap, htrans, hlocale⟩ := compare_total .locale a b c
  refine ⟨⟨hsame, by decide, hne, hab, hbc⟩, htrans hab hbc, ?_, ?_⟩
  · rw [hswap, hab]
    rfl
  · rw [← ((hlocale a' hsame).2.1 hne).1]
    exact hab

end KeyOrder

end ArrayLiteral
