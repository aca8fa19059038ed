import ArrayLiteral.Proofs.Walker.Offset

/-!
# Proofs — Walker — Scanner

The walker as three registers: the open brackets, the quote of the string it stands in, if it stands
in one, and a count of the backslashes just before.  The count is only begun anew by a string, and
it counts on within one; of it only the parity matters, and only within a string.

So the registers say where a walker stands (`Scanner.walker`), a step with them is its step
(`walker_step`), and what they find is what it finds (`scan_eq`).
-/

namespace ArrayLiteral

open Walker

/-- The registers of a walker. -/
structure Scanner where
  depth : Int
  /-- The quote that opened the string, if this is one. -/
  quote : Option Char
  backslashes : Nat

namespace Scanner

/-- Before a text. -/
def start : Scanner := ⟨0, none, 0⟩

/-- Goes past one character, and tells whether a separator may stand there. -/
def step (mode : QuoteScan) (s : Scanner) (c : Char) : Bool × Scanner :=
  match s.quote with
  | some quote =>
    let escaped := mode = .escapes ∧ s.backslashes % 2 = 1
    let next := if c = quote ∧ ¬escaped then { s with quote := none } else s
    (false, { next with backslashes := if c = '\\' then s.backslashes + 1 else 0 })
  | none =>
    if isQuote c then (false, { s with quote := some c, backslashes := 0 })
    else if isOpening c then (false, { s with depth := s.depth + 1 })
    else if isClosing c then (false, { s with depth := s.depth - 1 })
    else (s.depth == 0, s)

/-- Cuts a text at the commas that separate.  `piece` is what was passed since the last of them. -/
def split (mode : QuoteScan) (s : Scanner) (piece : Text) : Text → List Text
  | [] => [piece]
  | c :: rest =>
    if (s.step mode c).1 ∧ c = ',' then piece :: split mode (s.step mode c).2 [] rest
    else split mode (s.step mode c).2 (piece ++ [c]) rest

/-- Looks for the first arrow, from an offset in these bytes. -/
def arrowOffset? (mode : QuoteScan) (bytes : List UInt8) (s : Scanner) (offset : Nat) :
    Text → Option Nat
  | [] => none
  | c :: rest =>
    if (s.step mode c).1 ∧ c = '=' ∧ bytes[offset + 1]? = some (UInt8.ofNat '>'.toNat) then
      some offset
    else arrowOffset? mode bytes (s.step mode c).2 (offset + c.utf8Size) rest

/-- Where the walker with these registers stands. -/
def walker (s : Scanner) : Walker :=
  match s.quote with
  | none => .code s.depth
  | some quote => .quoted s.depth quote (s.backslashes % 2 == 1)

variable {mode : QuoteScan}

/-- One more backslash changes the parity, and any other character begins anew. -/
theorem parity_step (n : Nat) (c : Char) :
    ((if c = '\\' then n + 1 else 0) % 2 == 1) = (c == '\\' && !(n % 2 == 1)) := by
  by_cases hc : c = '\\'
  · rw [if_pos hc, beq_iff_eq.mpr hc, Bool.true_and]
    rcases Nat.mod_two_eq_zero_or_one n with hn | hn <;> simp [Nat.add_mod, hn]
  · rw [if_neg hc, beq_eq_false_iff_ne.mpr hc, Bool.false_and]
    rfl

/-- **A step with the registers** is a step of the walker, and it tells whether a separator may
stand there. -/
theorem walker_step (mode : QuoteScan) (s : Scanner) (c : Char) :
    (s.step mode c).2.walker = s.walker.step mode c ∧ (s.step mode c).1 = s.walker.free c := by
  obtain ⟨depth, quote, backslashes⟩ := s
  cases quote with
  | none =>
      simp only [step, walker, Walker.step, free, isTop]
      cases isQuote c <;> cases isOpening c <;> cases isClosing c <;> simp
  | some quote =>
      refine ⟨?_, rfl⟩
      simp only [step, walker, Walker.step, beq_iff_eq]
      by_cases hend : c = quote ∧ ¬(mode = .escapes ∧ backslashes % 2 = 1)
      · rw [if_pos hend, if_pos hend]
      · rw [if_neg hend, if_neg hend]
        exact congrArg (Walker.quoted depth quote) (parity_step backslashes c)

/-- Characters put in front of the first piece, one by one. -/
theorem foldr_consFirst (front piece : Text) (others : List Text) :
    front.foldr consFirst (piece :: others) = (front ++ piece) :: others := by
  induction front with
  | nil => rfl
  | cons c front ih => rw [List.foldr_cons, ih, consFirst, List.cons_append]

/-- **What is cut off** is what the walker cuts off, behind what was passed already. -/
theorem split_eq (s : Scanner) (piece t : Text) :
    s.split mode piece t = piece.foldr consFirst (s.walker.split mode t) := by
  induction t generalizing s piece with
  | nil => rw [split, Walker.split, foldr_consFirst, List.append_nil]
  | cons c rest ih =>
      obtain ⟨hwalker, hfree⟩ := walker_step mode s c
      rw [split, Walker.split, ← hwalker, ← hfree, ih, ih]
      split
      · rw [foldr_consFirst, List.append_nil]
        rfl
      · rw [List.foldr_append]
        rfl

/-- **The arrow** is found where the walker finds it. -/
theorem arrowOffset?_eq (bytes : List UInt8) (s : Scanner) (offset : Nat) (t : Text) :
    s.arrowOffset? mode bytes offset t = s.walker.arrowOffset? mode bytes offset t := by
  induction t generalizing s offset with
  | nil => rfl
  | cons c rest ih =>
      obtain ⟨hwalker, hfree⟩ := walker_step mode s c
      rw [arrowOffset?, Walker.arrowOffset?, hfree, ih, hwalker]

/-- **The registers find** the pieces and the first arrow. -/
theorem scan_eq (mode : QuoteScan) (t : Text) :
    start.split mode [] t = t.pieces mode ∧
      start.arrowOffset? mode t.utf8 0 t = t.arrowOffset? mode :=
  ⟨split_eq start [] t, arrowOffset?_eq _ start _ t⟩

end Scanner

end ArrayLiteral
