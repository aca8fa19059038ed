import ArrayLiteral.Proofs.Walker.Pieces

/-!
# Proofs — Walker — Arrow

The first arrow at the top divides a text into a key and a value.  A walker is at the top when it
comes to the arrow, and the key has no arrow of its own (`arrow?_eq_some_iff`).

A text without an arrow has none in its parts (`arrow?_eq_none_of_append`), and a part without an
arrow is passed, unless it ends with `=` and `>` comes next (`arrow?_append`).  Blanks around a text
go to the key and to the value (`arrow?_blanks_append_append`).
-/

namespace ArrayLiteral.Walker

variable {mode : QuoteScan}

theorem arrow?_cons_eq_none {w : Walker} {c : Char} {t : Text} :
    w.arrow? mode (c :: t) = none ↔
      ¬(w.free c = true ∧ c = '=' ∧ t.head? = some '>') ∧
        (w.step mode c).arrow? mode t = none := by
  rw [arrow?]
  split
  · rename_i h
    exact ⟨fun he => absurd he (Option.some_ne_none _), fun hn => absurd h hn.1⟩
  · rename_i h
    rw [Option.map_eq_none_iff]
    exact ⟨fun he => ⟨h, he⟩, fun hn => hn.2⟩

/-- Where no equals sign is met there is no arrow. -/
theorem arrow?_of_not_meets {w : Walker} {t : Text} (h : meets mode '=' w t = false) :
    w.arrow? mode t = none := by
  induction t generalizing w with
  | nil => rfl
  | cons c t ih =>
      obtain ⟨hc, ht⟩ := meets_cons_eq_false.mp h
      exact arrow?_cons_eq_none.mpr ⟨fun ⟨hf, he, _⟩ => hc ⟨hf, he⟩, ih ht⟩

/-- A part without an arrow is passed. -/
theorem arrow?_append {w : Walker} {s t : Text} (h : w.arrow? mode s = none)
    (hb : s.getLast? = some '=' → t.head? ≠ some '>') :
    w.arrow? mode (s ++ t) = ((w.run mode s).arrow? mode t).map fun kv => (s ++ kv.1, kv.2) := by
  induction s generalizing w with
  | nil => exact (Option.map_id' (x := arrow? mode w t)).symm
  | cons c s ih =>
      obtain ⟨hc, hs⟩ := arrow?_cons_eq_none.mp h
      -- an arrow could lie across the seam only with its equals sign at the end of `s`
      have hn : ¬(w.free c = true ∧ c = '=' ∧ (s ++ t).head? = some '>') := by
        rintro ⟨hf, rfl, hh⟩
        cases s with
        | nil => exact hb rfl hh
        | cons d s => exact hc ⟨hf, rfl, hh⟩
      have hb' : s.getLast? = some '=' → t.head? ≠ some '>' := fun hl => hb <| by
        rw [List.getLast?_cons, hl]
        rfl
      rw [List.cons_append, arrow?, if_neg hn, ih hs hb', run_cons, Option.map_map]
      rfl

/-- A text without an arrow has none in its parts. -/
theorem arrow?_eq_none_of_append {w : Walker} {s t : Text}
    (h : w.arrow? mode (s ++ t) = none) :
    w.arrow? mode s = none ∧ (w.run mode s).arrow? mode t = none := by
  induction s generalizing w with
  | nil => exact ⟨rfl, h⟩
  | cons c s ih =>
      rw [List.cons_append] at h
      obtain ⟨hc, ht⟩ := arrow?_cons_eq_none.mp h
      obtain ⟨h₁, h₂⟩ := ih ht
      refine ⟨arrow?_cons_eq_none.mpr ⟨?_, h₁⟩, h₂⟩
      rintro ⟨hf, he, hh⟩
      exact hc ⟨hf, he, by rw [List.head?_append, hh]; rfl⟩

/-- **The first arrow.**  The walker comes to it at the top, and finds none before. -/
theorem arrow?_eq_some_iff {w : Walker} {t key value : Text} :
    w.arrow? mode t = some (key, value) ↔
      t = key ++ '=' :: '>' :: value ∧ w.run mode key = start ∧ w.arrow? mode key = none := by
  constructor
  · intro h
    refine ⟨eq_of_arrow? h, ?_⟩
    induction t generalizing w key with
    | nil => cases h
    | cons c t ih =>
        rw [arrow?] at h
        split at h
        · rename_i hc
          cases h
          rw [free_eq, Bool.and_eq_true] at hc
          exact ⟨of_decide_eq_true hc.1.1, rfl⟩
        · rename_i hc
          obtain ⟨⟨k, v⟩, hk, he⟩ := Option.map_eq_some_iff.mp h
          cases he
          obtain ⟨hr, hn⟩ := ih hk
          refine ⟨hr, arrow?_cons_eq_none.mpr ⟨?_, hn⟩⟩
          rintro ⟨hf, rfl, hh⟩
          have ht := eq_of_arrow? hk
          exact hc ⟨hf, rfl, by rw [ht, List.head?_append, hh]; rfl⟩
  · rintro ⟨rfl, hr, hn⟩
    rw [arrow?_append hn fun _ => by simp, hr]
    have ha : start.arrow? mode ('=' :: '>' :: value) = some ([], value) := by
      rw [arrow?, if_pos ⟨rfl, rfl, rfl⟩]
      rfl
    rw [ha]
    simp

/-- Whatever stands around the part with the first arrow goes to the key and to the value. -/
theorem arrow?_append_append_of_some {w : Walker} {s t u key value : Text}
    (h : (w.run mode s).arrow? mode t = some (key, value)) (hs : w.arrow? mode s = none)
    (hb : s.getLast? = some '=' → t.head? ≠ some '>') :
    w.arrow? mode (s ++ t ++ u) = some (s ++ key, value ++ u) := by
  obtain ⟨rfl, hr, hn⟩ := arrow?_eq_some_iff.mp h
  refine arrow?_eq_some_iff.mpr ⟨by simp, by rw [run_append, hr], ?_⟩
  have hb' : s.getLast? = some '=' → key.head? ≠ some '>' := by
    intro hl hh
    exact hb hl (by rw [List.head?_append, hh]; rfl)
  rw [arrow?_append hs hb', hn]
  rfl

/-! ### Blanks around a text -/

theorem arrow?_of_blanks {b : Text} (hb : Text.Blanks b) (w : Walker) :
    w.arrow? mode b = none :=
  arrow?_of_not_meets (not_meets_of_not_mem (fun h => absurd (hb _ h) (by decide)) w)

/-- **Blanks around a text** go to the key and to the value. -/
theorem arrow?_blanks_append_append (mode : QuoteScan) {a b : Text} (ha : Text.Blanks a)
    (hb : Text.Blanks b) (d : Int) (t : Text) :
    arrow? mode (.code d) (a ++ t ++ b) =
      (arrow? mode (.code d) t).map fun kv => (a ++ kv.1, kv.2 ++ b) := by
  have hl : a.getLast? ≠ some '=' := fun h => absurd (ha _ (List.mem_of_getLast? h)) (by decide)
  have hr : run mode (.code d) a = .code d := run_code_blanks ha d
  cases ht : arrow? mode (.code d) t with
  | none =>
      have hh : b.head? ≠ some '>' := fun h => absurd (hb _ (List.mem_of_head? h)) (by decide)
      rw [List.append_assoc, arrow?_append (arrow?_of_blanks ha _) fun h => absurd h hl, hr,
        arrow?_append ht fun _ => hh, arrow?_of_blanks hb]
      rfl
  | some kv =>
      rw [arrow?_append_append_of_some (by rw [hr]; exact ht) (arrow?_of_blanks ha _)
        fun h => absurd h hl]
      rfl

theorem arrow?_trim_eq_none {d : Int} {t : Text} :
    arrow? mode (.code d) t.trim = none ↔ arrow? mode (.code d) t = none := by
  obtain ⟨a, b, ha, hb, ht⟩ := Text.exists_trim t
  have h := arrow?_blanks_append_append mode ha hb d t.trim
  rw [← ht] at h
  rw [h, Option.map_eq_none_iff]

theorem meets_trim {c : Char} (hc : isBlank c = false) (d : Int) (t : Text) :
    meets mode c (.code d) t.trim = meets mode c (.code d) t := by
  obtain ⟨a, b, ha, hb, ht⟩ := Text.exists_trim t
  have hn : c ∉ b := fun h => by simp [hb c h] at hc
  calc meets mode c (.code d) t.trim
      = meets mode c (.code d) (a ++ t.trim ++ b) := by
        rw [meets_append, not_meets_of_not_mem hn, Bool.or_false, meets_blanks_append ha hc]
    _ = meets mode c (.code d) t := by rw [← ht]

/-! ### Arrows in pieces -/

/-- A text without an arrow has none in its pieces. -/
theorem Cut.arrow?_eq_none {t : Text} {ps : List Text} (h : Cut mode t ps) {d : Int}
    (ht : arrow? mode (.code d) t = none) : ∀ p ∈ ps, arrow? mode (.code d) p = none := by
  induction h with
  | last => simpa using ht
  | comma _ top _ ih =>
      obtain ⟨hp, hr⟩ := arrow?_eq_none_of_append ht
      rw [run_code_of_run_start top, arrow?_cons_eq_none, step_comma] at hr
      exact List.forall_mem_cons.mpr ⟨hp, ih hr.2⟩

/-- Texts without an arrow, joined by commas, have none. -/
theorem Cut.arrow?_eq_none_of_forall {t : Text} {ps : List Text} (h : Cut mode t ps) {d : Int}
    (hp : ∀ p ∈ ps, arrow? mode (.code d) p = none) : arrow? mode (.code d) t = none := by
  induction h with
  | last => exact hp _ List.mem_cons_self
  | comma _ top _ ih =>
      have hs := ih fun q hq => hp q (List.mem_cons_of_mem _ hq)
      rw [arrow?_append (hp _ List.mem_cons_self) fun _ => by simp, run_code_of_run_start top,
        arrow?_cons_eq_none.mpr ⟨fun h => absurd h.2.1 (by decide), by rw [step_comma]; exact hs⟩]
      rfl

end ArrayLiteral.Walker
