import Mathlib.Data.List.Forall2
import ArrayLiteral.Proofs.Json.Numeral
import ArrayLiteral.Proofs.Value.Everywhere

/-!
# Proofs — Json — Token

The tokens of a value as it is written.  `Reads t tokens` says that a text is scanned to tokens
wherever it stands, as long as no character follows that could belong to its last word.  Such texts
are put together from punctuation, blanks, words and strings (`Reads.punctuation`, `Reads.blanks`,
`reads_word`, `reads_stringText`), one behind another (`Reads.append`).

A value is scanned to its tokens in every layout and at every level (`reads_write`), if its floats
read back.  So the layout does not show in the tokens.
-/

namespace ArrayLiteral.Json

namespace Token

variable {m m' : Mode} {c : Char} {t u rest : Text} {tokens others : List Token}

/-! ### One character -/

theorem scan_cons (h : step m c = some (tokens, m')) (rest : Text) :
    scan m (c :: rest) = (scan m' rest).map (tokens ++ ·) := by
  rw [scan, h]
  cases hrest : scan m' rest <;> simp [hrest]

/-- A character that completes no token. -/
theorem scan_cons_silent (h : step m c = some ([], m')) (rest : Text) :
    scan m (c :: rest) = scan m' rest := by
  rw [scan_cons h]
  simp

/-- No character of a word follows. -/
def Stops (t : Text) : Prop := ∀ c ∈ t.head?, isWordChar c = false

theorem stops_cons (h : isWordChar c = false) (t : Text) : Stops (c :: t) := by
  rintro d ⟨⟩
  exact h

theorem Stops.append (ht : Stops t) (hu : Stops u) : Stops (t ++ u) := by
  cases t with
  | nil => exact hu
  | cons c t => exact stops_cons (ht c rfl) _

theorem isWordChar_of_isBlank (h : isBlank c = true) : isWordChar c = false := by
  simp [isWordChar, h]

theorem isWordChar_of_punctuation? {p : Token} (h : punctuation? c = some p) :
    isWordChar c = false := by
  simp [isWordChar, h]

/-! ### Texts with their tokens -/

/-- The text is scanned to the tokens, if no character follows that belongs to its last word. -/
def Reads (t : Text) (tokens : List Token) : Prop :=
  ∀ rest, Stops rest → scan .between (t ++ rest) = (scan .between rest).map (tokens ++ ·)

theorem Reads.ofText? (h : Reads t tokens) : ofText? t = some tokens := by
  have hscan := h [] nofun
  rw [List.append_nil] at hscan
  rw [Token.ofText?, hscan]
  simp [scan, finish]

theorem reads_nil : Reads [] [] := by
  intro rest _
  simp

/-- **One behind another**: nothing of the second text belongs to the last word of the first. -/
theorem Reads.append (ht : Reads t tokens) (hu : Reads u others) (hstops : Stops u) :
    Reads (t ++ u) (tokens ++ others) := by
  intro rest hrest
  rw [List.append_assoc, ht _ (hstops.append hrest), hu _ hrest, Option.map_map]
  simp [Function.comp_def]

theorem Reads.punctuation {p : Token} (h : punctuation? c = some p) (ht : Reads t tokens) :
    Reads (c :: t) (p :: tokens) := by
  intro rest hrest
  have hstep : step .between c = some ([p], .between) := by rw [step, start, h]
  rw [List.cons_append, scan_cons hstep, ht rest hrest, Option.map_map]
  simp [Function.comp_def]

theorem Reads.blanks (hblank : ∀ c ∈ u, isBlank c = true) (ht : Reads t tokens) :
    Reads (u ++ t) tokens := by
  induction u with
  | nil => exact ht
  | cons c u ih =>
      obtain ⟨hc, hu⟩ := List.forall_mem_cons.mp hblank
      have hpunctuation : punctuation? c = none := by
        have hclass : c = ' ' ∨ c = '\t' ∨ c = '\n' ∨ c = '\r' := by
          simpa [isBlank, or_assoc] using hc
        rcases hclass with rfl | rfl | rfl | rfl <;> rfl
      have hstep : step .between c = some ([], .between) := by
        rw [step, start, hpunctuation]
        simp [hc]
      intro rest hrest
      rw [List.cons_append, List.cons_append, scan_cons_silent hstep]
      exact ih hu rest hrest

/-! ### Words -/

theorem scan_word (ht : ∀ c ∈ t, isWordChar c = true) (read rest : Text) :
    scan (.word read) (t ++ rest) = scan (.word (t.reverse ++ read)) rest := by
  induction t generalizing read with
  | nil => rfl
  | cons c t ih =>
      obtain ⟨hc, ht⟩ := List.forall_mem_cons.mp ht
      have hstep : step (.word read) c = some ([], .word (c :: read)) := by rw [step, if_pos hc]
      rw [List.cons_append, scan_cons_silent hstep, ih ht]
      simp

/-- A word ends where no character of a word follows. -/
theorem scan_word_end {read : Text} {token : Token} (h : ofWord? read.reverse = some token)
    (hrest : Stops rest) :
    scan (.word read) rest = (scan .between rest).map (token :: ·) := by
  cases rest with
  | nil => simp [scan, finish, h]
  | cons c rest =>
      have hc : isWordChar c = false := hrest c rfl
      -- the character behind the word does what it does between tokens
      have hword : step (.word read) c = some (token :: (start c).1, (start c).2) := by
        rw [step, hc, h]
        rfl
      have hbetween : step .between c = some ((start c).1, (start c).2) := rfl
      rw [scan_cons hword, scan_cons hbetween, Option.map_map]
      rfl

/-- **A word** is scanned to its token. -/
theorem reads_word {token : Token} (hchars : ∀ c ∈ t, isWordChar c = true)
    (h : ofWord? t = some token) : Reads t [token] := by
  intro rest hrest
  cases t with
  | nil => cases h
  | cons c t =>
      obtain ⟨hc, ht⟩ := List.forall_mem_cons.mp hchars
      have hclass : isBlank c = false ∧ c ≠ '"' ∧ punctuation? c = none := by
        simpa [isWordChar, and_assoc] using hc
      have hstep : step .between c = some ([], .word [c]) := by
        rw [step, start, hclass.2.2]
        simp [hclass.1, hclass.2.1]
      rw [List.cons_append, scan_cons_silent hstep, scan_word ht,
        scan_word_end (by simpa using h) hrest]
      rfl

theorem reads_null : Reads ['n', 'u', 'l', 'l'] [.scalar .null] :=
  reads_word (List.all_eq_true.mp rfl) rfl

theorem reads_true : Reads ['t', 'r', 'u', 'e'] [.scalar (.bool true)] :=
  reads_word (List.all_eq_true.mp rfl) rfl

theorem reads_false : Reads ['f', 'a', 'l', 's', 'e'] [.scalar (.bool false)] :=
  reads_word (List.all_eq_true.mp rfl) rfl

/-! ### Strings -/

theorem scan_escape {d e : Char} (h : unescape? e = some d) (read rest : Text) :
    scan (.string read) ('\\' :: e :: rest) = scan (.string (d :: read)) rest := by
  have hu : e ≠ 'u' := by
    rintro rfl
    cases h
  have hback : step (.string read) '\\' = some ([], .escape read) := rfl
  have hletter : step (.escape read) e = some ([], .string (d :: read)) := by
    rw [step, if_neg hu, h]
    rfl
  rw [scan_cons_silent hback, scan_cons_silent hletter]

theorem hexValue?_hexDigit (n : Nat) : hexValue? (hexDigit n) = some (n % 16) := by
  have hdigit : ∀ k < 16, hexValue? (Nat.digitChar k) = some k := by decide
  exact hdigit _ (Nat.mod_lt n (by decide))

/-- The digits of a unit before its last. -/
theorem step_unicode {n : Nat} (h : hexValue? c = some n) {digits : Text}
    (hshort : digits.length < 3) (read : Text) (lead : Option Nat) :
    step (.unicode read lead digits) c = some ([], .unicode read lead (digits ++ [c])) := by
  simp [step, h, Nat.not_le.mpr hshort]

/-- A control character by its number. -/
theorem scan_unicode (hc : c.toNat < 0x20) (read rest : Text) :
    scan (.string read)
        ('\\' :: 'u' :: '0' :: '0' :: hexDigit (c.toNat / 16) :: hexDigit c.toNat :: rest) =
      scan (.string (c :: read)) rest := by
  have hhigh := hexValue?_hexDigit (c.toNat / 16)
  have hlow := hexValue?_hexDigit c.toNat
  have hzero : hexValue? '0' = some 0 := rfl
  have hunit : 16 * (c.toNat / 16 % 16) + c.toNat % 16 = c.toNat := by omega
  have hafter : afterUnit read none c.toNat = some (.string (c :: read)) := by
    have hhigh : ¬ (highSurrogate ≤ c.toNat ∧ c.toNat < lowSurrogate) := by
      rw [highSurrogate]
      omega
    have hlow : ¬ (lowSurrogate ≤ c.toNat ∧ c.toNat < surrogateEnd) := by
      rw [lowSurrogate]
      omega
    simp only [afterUnit, if_neg hhigh, if_neg hlow, Char.ofNat_toNat]
  have hlast : step (.unicode read none ['0', '0', hexDigit (c.toNat / 16)]) (hexDigit c.toNat) =
      some ([], .string (c :: read)) := by
    simp [step, hzero, hhigh, hlow, hunit, hafter]
  have hback : step (.string read) '\\' = some ([], .escape read) := rfl
  have hletter : step (.escape read) 'u' = some ([], .unicode read none []) := rfl
  rw [scan_cons_silent hback, scan_cons_silent hletter,
    scan_cons_silent (step_unicode hzero (by decide) read none),
    scan_cons_silent (step_unicode hzero (by decide) read none),
    scan_cons_silent (step_unicode hhigh (by decide) read none)]
  exact scan_cons_silent hlast rest

/-- A character is escaped by a letter, or by its number, or not at all. -/
theorem escaped_cases (c : Char) :
    (∃ e, escaped c = ['\\', e] ∧ unescape? e = some c) ∨
      (c.toNat < 0x20 ∧
        escaped c = ['\\', 'u', '0', '0', hexDigit (c.toNat / 16), hexDigit c.toNat]) ∨
      (escaped c = [c] ∧ c ≠ '"' ∧ c ≠ '\\' ∧ ¬ c.toNat < 0x20) := by
  by_cases hc : c ∈ ['"', '\\', '\x08', '\x0c', '\n', '\r', '\t']
  · left
    simp only [List.mem_cons, List.not_mem_nil, or_false] at hc
    rcases hc with rfl | rfl | rfl | rfl | rfl | rfl | rfl <;> exact ⟨_, rfl, rfl⟩
  · right
    simp only [List.mem_cons, List.not_mem_nil, or_false, not_or] at hc
    obtain ⟨hquote, hback, hbs, hff, hlf, hcr, htab⟩ := hc
    by_cases hcontrol : c.toNat < 0x20
    · exact Or.inl ⟨hcontrol, by simp [escaped, *]⟩
    · exact Or.inr ⟨by simp [escaped, *], hquote, hback, hcontrol⟩

/-- **A character inside a string** is read back. -/
theorem scan_escaped (c : Char) (read rest : Text) :
    scan (.string read) (escaped c ++ rest) = scan (.string (c :: read)) rest := by
  rcases escaped_cases c with ⟨e, he, hunescape⟩ | ⟨hcontrol, he⟩ | ⟨he, hquote, hback, hcontrol⟩
  · rw [he]
    exact scan_escape hunescape read rest
  · rw [he]
    exact scan_unicode hcontrol read rest
  · have hstep : step (.string read) c = some ([], .string (c :: read)) := by
      rw [step, if_neg hquote, if_neg hback, if_neg hcontrol]
    rw [he]
    exact scan_cons_silent hstep rest

theorem scan_string (t read rest : Text) :
    scan (.string read) (t.flatMap escaped ++ '"' :: rest) =
      (scan .between rest).map (.string (read.reverse ++ t) :: ·) := by
  induction t generalizing read with
  | nil =>
      have hstep : step (.string read) '"' = some ([.string read.reverse], .between) := rfl
      rw [List.flatMap_nil, List.nil_append, scan_cons hstep, List.append_nil]
      rfl
  | cons c t ih =>
      rw [List.flatMap_cons, List.append_assoc, scan_escaped, ih]
      simp

/-- **A string** is scanned to its token. -/
theorem reads_stringText (t : Text) : Reads (stringText t) [.string t] := by
  intro rest _
  have hstep : step .between '"' = some ([], .string []) := rfl
  rw [stringText, List.cons_append, List.cons_append, scan_cons_silent hstep, List.append_assoc,
    List.singleton_append, scan_string]
  rfl

/-! ### Brackets and separators -/

theorem reads_intercalate {texts : List Text} {runs : List (List Token)}
    (h : List.Forall₂ Reads texts runs) :
    Reads (List.intercalate [','] texts) (List.intercalate [.comma] runs) := by
  induction h with
  | nil => exact reads_nil
  | cons hread hrest ih =>
      cases hrest with
      | nil => simpa [List.intercalate] using hread
      | cons =>
          rw [List.intercalate_cons_cons, List.intercalate_cons_cons, List.append_assoc,
            List.append_assoc]
          exact hread.append (ih.punctuation rfl) (stops_cons rfl _)

theorem isBlank_of_mem_lineBreak {l : Layout} {level : Nat} (h : c ∈ l.lineBreak level) :
    isBlank c = true := by
  cases l with
  | compact => cases h
  | indented =>
      rcases List.mem_cons.mp h with rfl | h
      · rfl
      · obtain rfl := List.eq_of_mem_replicate h
        rfl

theorem stops_lineBreak (l : Layout) (level : Nat) : Stops (l.lineBreak level) := fun _ hc =>
  isWordChar_of_isBlank (isBlank_of_mem_lineBreak (List.mem_of_mem_head? hc))

/-- **Entries between brackets** are scanned in every layout. -/
theorem reads_enclose (l : Layout) (level : Nat) {opening closing : Char} {first last : Token}
    (hfirst : punctuation? opening = some first) (hlast : punctuation? closing = some last)
    {texts : List Text} {runs : List (List Token)} (h : List.Forall₂ Reads texts runs) :
    Reads (l.enclose level opening closing texts)
      (first :: (List.intercalate [.comma] runs ++ [last])) := by
  have hclosing : Reads [closing] [last] := reads_nil.punctuation hlast
  unfold Layout.enclose
  split
  · subst texts
    cases h
    exact hclosing.punctuation hfirst
  · have hlines : List.Forall₂ Reads (texts.map (l.lineBreak (level + 1) ++ ·)) runs :=
      List.forall₂_map_left_iff.mpr
        (h.imp fun _ _ hread => hread.blanks fun _ => isBlank_of_mem_lineBreak)
    have hend : Reads (l.lineBreak level ++ [closing]) [last] :=
      hclosing.blanks fun _ => isBlank_of_mem_lineBreak
    have hstops : Stops (l.lineBreak level ++ [closing]) :=
      (stops_lineBreak l level).append (stops_cons (isWordChar_of_punctuation? hlast) [])
    rw [List.cons_append, List.cons_append, List.append_assoc]
    exact ((reads_intercalate hlines).append hend hstops).punctuation hfirst

end Token

end ArrayLiteral.Json

namespace ArrayLiteral

namespace Value

open Json

/-- What is computed from the text of a float is that float. -/
def FloatReadsBack : Value → Prop
  | .number n => ReadsBack n
  | _ => True

instance : ∀ v : Value, Decidable v.FloatReadsBack
  | .number n => inferInstanceAs (Decidable (ReadsBack n))
  | .null | .bool _ | .string _ | .list _ | .map _ | .raw _ => .isTrue trivial

mutual

/-- The tokens of a value as it is written. -/
def tokens : Value → List Token
  | .null => [.scalar .null]
  | .bool b => [.scalar (.bool b)]
  | .number n => [.scalar (reread n)]
  | .string s => [.string s]
  | .raw s => [.string s]
  | .list items => .listStart :: (List.intercalate [.comma] (itemTokens items) ++ [.listEnd])
  | .map entries => .mapStart :: (List.intercalate [.comma] (entryTokens entries) ++ [.mapEnd])

/-- The tokens of each element of a list. -/
def itemTokens : List Value → List (List Token)
  | [] => []
  | item :: rest => tokens item :: itemTokens rest

/-- The tokens of each entry of a map. -/
def entryTokens : List (Text × Value) → List (List Token)
  | [] => []
  | (key, value) :: rest => (.string key :: .colon :: tokens value) :: entryTokens rest

end

theorem itemTokens_eq_map (items : List Value) : itemTokens items = items.map tokens := by
  induction items with
  | nil => rfl
  | cons v rest ih => rw [itemTokens, ih, List.map_cons]

theorem entryTokens_eq_map (entries : Entries Value) :
    entryTokens entries = entries.map fun e => .string e.1 :: .colon :: tokens e.2 := by
  induction entries with
  | nil => rfl
  | cons e rest ih => rw [entryTokens, ih, List.map_cons]

end Value

namespace Json

open Token

theorem writeItems_eq_map (l : Layout) (level : Nat) (items : List Value) :
    writeItems l level items = items.map (write l level) := by
  induction items with
  | nil => rfl
  | cons v rest ih => rw [writeItems, ih, List.map_cons]

theorem writeEntries_eq_map (l : Layout) (level : Nat) (entries : Entries Value) :
    writeEntries l level entries =
      entries.map fun e => stringText e.1 ++ l.colon ++ write l level e.2 := by
  induction entries with
  | nil => rfl
  | cons e rest ih => rw [writeEntries, ih, List.map_cons]

/-- A key with its value. -/
theorem reads_entry {l : Layout} {t : Text} {tokens : List Token} (key : Text)
    (h : Reads t tokens) :
    Reads (stringText key ++ l.colon ++ t) (.string key :: .colon :: tokens) := by
  have hcolon : Reads (l.colon ++ t) (.colon :: tokens) := by
    cases l with
    | compact => exact h.punctuation rfl
    | indented =>
        exact (h.blanks (List.forall_mem_singleton.mpr rfl)).punctuation rfl
  have hstops : Stops (l.colon ++ t) := by
    cases l <;> exact stops_cons rfl _
  rw [List.append_assoc]
  exact (reads_stringText key).append hcolon hstops

/-- **A value is scanned to its tokens** in every layout and at every level. -/
theorem reads_write (l : Layout) {v : Value} {around : List Value.Kind}
    (h : v.Everywhere (fun _ => Value.FloatReadsBack) around) (level : Nat) :
    Reads (write l level v) v.tokens := by
  induction v generalizing around level with
  | null => exact reads_null
  | bool b =>
      cases b with
      | true => exact reads_true
      | false => exact reads_false
  | number n =>
      exact reads_word (fun c hc => isWordChar_of_mem_numberText hc) (ofWord?_numberText h.here)
  | string s => exact reads_stringText s
  | raw s => exact reads_stringText s
  | list items ih =>
      obtain ⟨-, hitems⟩ := Value.everywhere_list.mp h
      have hreads : List.Forall₂ Reads (items.map (write l (level + 1)))
          (items.map Value.tokens) := by
        rw [List.forall₂_map_left_iff, List.forall₂_map_right_iff, List.forall₂_same]
        exact fun v hv => ih v hv (hitems v hv) (level + 1)
      rw [write, writeItems_eq_map, Value.tokens, Value.itemTokens_eq_map]
      exact reads_enclose l level rfl rfl hreads
  | map entries ih =>
      obtain ⟨-, hentries⟩ := Value.everywhere_map.mp h
      have hreads : List.Forall₂ Reads
          (entries.map fun e => stringText e.1 ++ l.colon ++ write l (level + 1) e.2)
          (entries.map fun e => .string e.1 :: .colon :: e.2.tokens) := by
        rw [List.forall₂_map_left_iff, List.forall₂_map_right_iff, List.forall₂_same]
        exact fun e he => reads_entry e.1 (ih e he (hentries e he) (level + 1))
      rw [write, writeEntries_eq_map, Value.tokens, Value.entryTokens_eq_map]
      exact reads_enclose l level rfl rfl hreads

end Json

end ArrayLiteral
