import Mathlib.Algebra.Ring.Nat
import ArrayLiteral.Proofs.Text.Utf8
import ArrayLiteral.Proofs.Walker.Arrow

/-!
# Proofs — Walker — Offset

The pieces of a text and its first arrow, by what they are and by where they lie.

* The pieces are the only way to put a text together with commas so that a walker from the start
  meets no comma in a piece and is back at the top behind every piece but the last (`isSplit_iff`).
* `arrowOffset?` looks for the arrow byte by byte.  What it finds is the end of the key that
  `arrow?` finds (`arrowOffset?_eq`), and so a boundary between two characters.
* The first arrow of a text is that of the first piece with one; it lies behind the pieces before,
  with a comma for each of them (`Cut.arrowOffset?_eq_some_iff`).  Blanks in front of a piece move
  its arrow by their bytes (`arrowOffset?_blanks_append_append`).
-/

namespace ArrayLiteral

namespace Walker

variable {mode : QuoteScan} {t : Text} {ps : List Text}

/-! ### The only split -/

/-- A text put together from pieces with commas between them.  No comma is met in a piece, and every
piece but the last leads back to the top. -/
structure IsSplit (mode : QuoteScan) (t : Text) (ps : List Text) : Prop where
  /-- There is always a piece, which may be empty. -/
  ne_nil : ps ≠ []
  joined : List.intercalate [','] ps = t
  not_meets_comma : ∀ p ∈ ps, meets mode ',' start p = false
  top : ∀ p ∈ ps.dropLast, start.run mode p = start

/-- **The pieces are the only split.** -/
theorem isSplit_iff : IsSplit mode t ps ↔ ps = t.pieces mode := by
  constructor
  · intro h
    have hcut := cut_intercalate h.ne_nil h.not_meets_comma h.top
    rw [h.joined] at hcut
    exact hcut.pieces_eq.symm
  · rintro rfl
    have hcut := cut_pieces mode t
    exact ⟨hcut.ne_nil, hcut.intercalate_eq, hcut.not_meets_comma, hcut.run_eq_start⟩

/-! ### The first arrow in pieces -/

/-- No arrow is found where a walker comes to none at the top. -/
theorem arrow?_eq_none_iff {w : Walker} :
    w.arrow? mode t = none ↔ ∀ a b, t = a ++ '=' :: '>' :: b → w.run mode a ≠ start := by
  constructor
  · rintro hnone a b rfl htop
    have harrow := (arrow?_eq_none_of_append hnone).2
    rw [htop, arrow?, if_pos ⟨rfl, rfl, rfl⟩] at harrow
    cases harrow
  · intro h
    cases harrow : w.arrow? mode t with
    | none => rfl
    | some kv =>
        obtain ⟨ht, htop, -⟩ := arrow?_eq_some_iff.mp harrow
        exact absurd htop (h _ _ ht)

/-- A piece without an arrow is passed, and so is the comma behind it. -/
theorem arrow?_append_comma {p : Text} (hp : start.arrow? mode p = none)
    (top : start.run mode p = start) (t : Text) :
    start.arrow? mode (p ++ ',' :: t) =
      (start.arrow? mode t).map fun kv => (p ++ ',' :: kv.1, kv.2) := by
  have hcomma : start.arrow? mode (',' :: t) =
      (start.arrow? mode t).map fun kv => (',' :: kv.1, kv.2) := by
    rw [arrow?, if_neg fun h => absurd h.2.1 (by decide), start, step_comma]
  rw [arrow?_append hp fun _ => by simp, top, hcomma, Option.map_map]
  rfl

/-- The pieces before a piece, each with the comma behind it. -/
def upTo (before : List Text) : Text := before.flatMap (· ++ [','])

/-- The first arrow of a text is that of the first piece with one. -/
theorem Cut.arrow?_of_first (h : Cut mode t ps) {before after : List Text} {p key value : Text}
    (hps : ps = before ++ p :: after) (hbefore : ∀ q ∈ before, start.arrow? mode q = none)
    (hp : start.arrow? mode p = some (key, value)) :
    ∃ rest, start.arrow? mode t = some (upTo before ++ key, rest) := by
  induction h generalizing before with
  | @last q =>
      cases before with
      | nil =>
          obtain ⟨rfl, -⟩ := List.cons.inj hps
          exact ⟨value, hp⟩
      | cons r before => simp at hps
  | @comma q t qs _ top _ ih =>
      cases before with
      | nil =>
          obtain ⟨rfl, -⟩ := List.cons.inj hps
          refine ⟨value ++ ',' :: t, ?_⟩
          exact arrow?_append_append_of_some (s := []) hp rfl fun h => by cases h
      | cons r before =>
          obtain ⟨rfl, hqs⟩ := List.cons.inj hps
          obtain ⟨hq, hbefore⟩ := List.forall_mem_cons.mp hbefore
          obtain ⟨rest, ht⟩ := ih hqs hbefore
          refine ⟨rest, ?_⟩
          rw [arrow?_append_comma hq top, ht]
          simp [upTo]

/-- A text with an arrow has a first piece with one. -/
theorem Cut.exists_first (h : Cut mode t ps) (ht : start.arrow? mode t ≠ none) :
    ∃ before p after, ps = before ++ p :: after ∧
      (∀ q ∈ before, start.arrow? mode q = none) ∧ start.arrow? mode p ≠ none := by
  cases hfind : ps.find? fun p => (start.arrow? mode p).isSome with
  | none =>
      refine absurd (h.arrow?_eq_none_of_forall fun p hp => ?_) ht
      exact Option.not_isSome_iff_eq_none.mp (List.find?_eq_none.mp hfind p hp)
  | some p =>
      obtain ⟨hp, before, after, hps, hbefore⟩ := List.find?_eq_some_iff_append.mp hfind
      refine ⟨before, p, after, hps, fun q hq => ?_, Option.isSome_iff_ne_none.mp hp⟩
      simpa using hbefore q hq

/-! ### Offsets -/

/-- Looks for the first arrow at the top.  The walker stands at an offset in these bytes, and the
byte behind an equals sign tells whether it begins an arrow. -/
def arrowOffset? (mode : QuoteScan) (bytes : List UInt8) (w : Walker) (offset : Nat) :
    Text → Option Nat
  | [] => none
  | c :: rest =>
    if w.free c ∧ c = '=' ∧ bytes[offset + 1]? = some (UInt8.ofNat '>'.toNat) then some offset
    else arrowOffset? mode bytes (w.step mode c) (offset + c.utf8Size) rest

/-- The byte behind an equals sign is the first one of what follows. -/
theorem getElem?_utf8_equals (s rest : Text) :
    (Text.utf8 (s ++ '=' :: rest))[s.utf8.length + 1]? = rest.utf8.head? := by
  have hequals : Text.utf8 ('=' :: rest) = UInt8.ofNat '='.toNat :: rest.utf8 := by
    rw [Text.utf8_cons, Text.utf8EncodeChar_of_lt (by decide), List.singleton_append]
  rw [Text.utf8_append, hequals, List.getElem?_append_right (Nat.le_add_right _ _),
    Nat.add_sub_cancel_left, List.getElem?_cons_succ, List.head?_eq_getElem?]

/-- **A walker on its way** finds the arrow behind the text that it has passed and the key. -/
theorem arrowOffset?_append (w : Walker) (s t : Text) :
    w.arrowOffset? mode (Text.utf8 (s ++ t)) s.utf8.length t =
      (w.arrow? mode t).map fun kv => (Text.utf8 (s ++ kv.1)).length := by
  induction t generalizing w s with
  | nil => rfl
  | cons c rest ih =>
      -- no other character begins with the byte that is looked for
      have hnext : c = '=' → ((Text.utf8 (s ++ c :: rest))[s.utf8.length + 1]? =
          some (UInt8.ofNat '>'.toNat) ↔ rest.head? = some '>') := by
        rintro rfl
        rw [getElem?_utf8_equals, Text.head?_utf8_eq_some_iff (by decide)]
      have hpast : s.utf8.length + c.utf8Size = (Text.utf8 (s ++ [c])).length := by
        rw [Text.utf8_append, List.length_append, Text.utf8_cons, Text.utf8_nil, List.append_nil,
          String.length_utf8EncodeChar]
      by_cases harrow : w.free c ∧ c = '=' ∧ rest.head? = some '>'
      · rw [arrowOffset?, arrow?, if_pos harrow,
          if_pos ⟨harrow.1, harrow.2.1, (hnext harrow.2.1).mpr harrow.2.2⟩, Option.map_some,
          List.append_nil]
      · have hrest := ih (w.step mode c) (s ++ [c])
        rw [← List.append_cons, ← hpast] at hrest
        rw [arrowOffset?, arrow?, if_neg harrow,
          if_neg fun h => harrow ⟨h.1, h.2.1, (hnext h.2.1).mp h.2.2⟩, hrest, Option.map_map]
        simp [Function.comp_def]

end Walker

namespace Text

open Walker

variable {mode : QuoteScan} {t : Text}

/-- The offset, in bytes, of the first arrow at the top. -/
def arrowOffset? (mode : QuoteScan) (t : Text) : Option Nat := start.arrowOffset? mode t.utf8 0 t

/-- **The first arrow lies behind its key.** -/
theorem arrowOffset?_eq (t : Text) :
    t.arrowOffset? mode = (t.arrow? mode).map fun kv => kv.1.utf8.length :=
  arrowOffset?_append start [] t

theorem arrowOffset?_eq_none_iff : t.arrowOffset? mode = none ↔ t.arrow? mode = none := by
  rw [arrowOffset?_eq, Option.map_eq_none_iff]

/-- The arrow is the first one at the top, and its offset a boundary between two characters. -/
theorem arrowOffset?_eq_some_iff {n : Nat} :
    t.arrowOffset? mode = some n ↔
      ∃ key value, t = key ++ '=' :: '>' :: value ∧ n = key.utf8.length ∧
        start.run mode key = start ∧
        ∀ a b, key = a ++ '=' :: '>' :: b → start.run mode a ≠ start := by
  rw [arrowOffset?_eq, Option.map_eq_some_iff, Prod.exists]
  refine exists_congr fun key => exists_congr fun value => ?_
  rw [arrow?, Walker.arrow?_eq_some_iff, arrow?_eq_none_iff]
  constructor
  · rintro ⟨⟨ht, htop, hfirst⟩, rfl⟩
    exact ⟨ht, rfl, htop, hfirst⟩
  · rintro ⟨ht, rfl, htop, hfirst⟩
    exact ⟨⟨ht, htop, hfirst⟩, rfl⟩

/-- Blanks around a text move its arrow by the bytes of those in front. -/
theorem arrowOffset?_blanks_append_append {a b : Text} (ha : Blanks a) (hb : Blanks b)
    (t : Text) :
    (a ++ t ++ b).arrowOffset? mode = (t.arrowOffset? mode).map (a.utf8.length + ·) := by
  rw [arrowOffset?_eq, arrowOffset?_eq, arrow?, start,
    Walker.arrow?_blanks_append_append mode ha hb, ← start, ← arrow?, Option.map_map,
    Option.map_map]
  simp only [Function.comp_def, utf8_append, List.length_append]

end Text

namespace Walker

open Text

variable {mode : QuoteScan} {t : Text} {ps : List Text}

theorem length_utf8_upTo (before : List Text) :
    (upTo before).utf8.length = (before.map (·.utf8.length + 1)).sum := by
  induction before with
  | nil => rfl
  | cons q before ih =>
      have hcomma : utf8 [','] = [UInt8.ofNat ','.toNat] := rfl
      rw [upTo, List.flatMap_cons, ← upTo, utf8_append, utf8_append, hcomma, List.length_append,
        List.length_append, ih, List.length_singleton, List.map_cons, List.sum_cons]

/-- **Where the first arrow of a text lies**: in the first piece with one, behind the pieces before
and their commas. -/
theorem Cut.arrowOffset?_eq_some_iff (h : Cut mode t ps) {n : Nat} :
    t.arrowOffset? mode = some n ↔
      ∃ before p after i, ps = before ++ p :: after ∧ (∀ q ∈ before, q.arrowOffset? mode = none) ∧
        p.arrowOffset? mode = some i ∧ n = (before.map (·.utf8.length + 1)).sum + i := by
  have hoffset : ∀ {before p after key value}, ps = before ++ p :: after →
      (∀ q ∈ before, start.arrow? mode q = none) → start.arrow? mode p = some (key, value) →
      t.arrowOffset? mode = some ((before.map (·.utf8.length + 1)).sum + key.utf8.length) := by
    intro before p after key value hps hbefore hp
    obtain ⟨rest, ht⟩ := h.arrow?_of_first hps hbefore hp
    rw [arrowOffset?_eq, Text.arrow?, ht, Option.map_some, utf8_append, List.length_append,
      length_utf8_upTo]
  constructor
  · intro hn
    have hsome : start.arrow? mode t ≠ none := fun hnone => by
      rw [arrowOffset?_eq_none_iff.mpr hnone] at hn
      cases hn
    obtain ⟨before, p, after, hps, hbefore, hp⟩ := h.exists_first hsome
    obtain ⟨⟨key, value⟩, hp⟩ := Option.ne_none_iff_exists'.mp hp
    refine ⟨before, p, after, key.utf8.length, hps,
      fun q hq => arrowOffset?_eq_none_iff.mpr (hbefore q hq), ?_, ?_⟩
    · rw [arrowOffset?_eq, Text.arrow?, hp, Option.map_some]
    · exact Option.some.inj (hn.symm.trans (hoffset hps hbefore hp))
  · rintro ⟨before, p, after, i, hps, hbefore, hp, rfl⟩
    rw [arrowOffset?_eq] at hp
    obtain ⟨⟨key, value⟩, hkey, rfl⟩ := Option.map_eq_some_iff.mp hp
    exact hoffset hps (fun q hq => arrowOffset?_eq_none_iff.mp (hbefore q hq)) hkey

end Walker

namespace Text

open Walker

/-- **Splitting loses nothing**, and the pieces are the only split of a text.

The text has an arrow at the top exactly if one of its pieces has one.  It is that of the first such
piece, and lies as far behind the beginning of that piece as in the piece alone.  It divides the
text into a key and a value, between two characters; and where a piece, or any text, is trimmed, its
arrow moves by the bytes of the blanks in front. -/
theorem pieces_and_arrow (mode : QuoteScan) (t : Text) :
    (∀ ps, IsSplit mode t ps ↔ ps = t.pieces mode) ∧
      (t.arrowOffset? mode ≠ none ↔ ∃ p ∈ t.pieces mode, p.arrowOffset? mode ≠ none) ∧
      (∀ n, t.arrowOffset? mode = some n ↔
        ∃ before p after i, t.pieces mode = before ++ p :: after ∧
          (∀ q ∈ before, q.arrowOffset? mode = none) ∧ p.arrowOffset? mode = some i ∧
          n = (before.map (·.utf8.length + 1)).sum + i) ∧
      (∀ n, t.arrowOffset? mode = some n ↔
        ∃ key value, t = key ++ '=' :: '>' :: value ∧ n = key.utf8.length ∧
          start.run mode key = start ∧
          ∀ a b, key = a ++ '=' :: '>' :: b → start.run mode a ≠ start) ∧
      ∀ p : Text, ∃ a b, Blanks a ∧ Blanks b ∧ p = a ++ p.trim ++ b ∧
        p.arrowOffset? mode = (p.trim.arrowOffset? mode).map (a.utf8.length + ·) := by
  have hcut : Cut mode t (t.pieces mode) := cut_pieces mode t
  refine ⟨fun ps => isSplit_iff, ?_, fun n => hcut.arrowOffset?_eq_some_iff,
    fun n => arrowOffset?_eq_some_iff, fun p => ?_⟩
  · simp only [ne_eq, arrowOffset?_eq_none_iff]
    constructor
    · intro ht
      obtain ⟨before, p, after, hps, -, hp⟩ := hcut.exists_first ht
      exact ⟨p, hps ▸ List.mem_append_right _ List.mem_cons_self, hp⟩
    · rintro ⟨p, hp, harrow⟩ hnone
      exact harrow (hcut.arrow?_eq_none hnone p hp)
  · obtain ⟨a, b, ha, hb, hp⟩ := exists_trim p
    refine ⟨a, b, ha, hb, hp, ?_⟩
    rw [← arrowOffset?_blanks_append_append ha hb, ← hp]

/-- Offsets count bytes: the second piece begins behind three of them. -/
example : Text.arrowOffset? .naive "ü, 'ключ' => 1".toList = some 15 := by decide

end Text

end ArrayLiteral
