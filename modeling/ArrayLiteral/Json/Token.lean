import ArrayLiteral.Json.Number
import ArrayLiteral.Value.Basic

/-!
# Json — Token

The tokens of a JSON text: brackets and separators, strings, and words, which are runs of all other
characters.  A word is a number or one of three names.  The text is read character by character;
a mode holds what has been read of the token at hand.
-/

namespace ArrayLiteral.Json

/-- A token. -/
inductive Token where
  | listStart
  | listEnd
  | mapStart
  | mapEnd
  | colon
  | comma
  | string (s : Text)
  /-- A number, a truth value or `null`. -/
  | scalar (value : Value)

/-- Where the reader of tokens stands.  What was read of a token is held last character first. -/
inductive Mode where
  /-- Between tokens. -/
  | between
  /-- In a word. -/
  | word (read : Text)
  /-- In a string. -/
  | string (read : Text)
  /-- After a backslash in a string. -/
  | escape (read : Text)
  /-- In the hexadecimal digits of an escape; `lead` is a high surrogate before them. -/
  | unicode (read : Text) (lead : Option Nat) (digits : Text)
  /-- After a high surrogate, where a backslash must follow. -/
  | surrogate (read : Text) (lead : Nat)
  /-- After a high surrogate and a backslash, where `u` must follow. -/
  | surrogateEscape (read : Text) (lead : Nat)

namespace Token

/-- The blanks of JSON. -/
def isBlank (c : Char) : Bool := c == ' ' || c == '\t' || c == '\n' || c == '\r'

/-- A token of one character. -/
def punctuation? (c : Char) : Option Token :=
  if c = '[' then some .listStart
  else if c = ']' then some .listEnd
  else if c = '\x7b' then some .mapStart
  else if c = '\x7d' then some .mapEnd
  else if c = ':' then some .colon
  else if c = ',' then some .comma
  else none

/-- A character of a word. -/
def isWordChar (c : Char) : Bool := !(isBlank c || c == '"' || (punctuation? c).isSome)

/-- The token of a word. -/
def ofWord? (w : Text) : Option Token :=
  if w = ['n', 'u', 'l', 'l'] then some (.scalar .null)
  else if w = ['t', 'r', 'u', 'e'] then some (.scalar (.bool true))
  else if w = ['f', 'a', 'l', 's', 'e'] then some (.scalar (.bool false))
  else (readNumber? w).map fun n => .scalar (.number n)

/-- The character that a backslash and a letter stand for. -/
def unescape? (c : Char) : Option Char :=
  if c = '"' ∨ c = '\\' ∨ c = '/' then some c
  else if c = 'b' then some '\x08'
  else if c = 'f' then some '\x0c'
  else if c = 'n' then some '\n'
  else if c = 'r' then some '\r'
  else if c = 't' then some '\t'
  else none

/-- The value of a digit of base sixteen. -/
def hexValue? (c : Char) : Option Nat :=
  if c.isDigit then some (c.toNat - '0'.toNat)
  else if 'a' ≤ c ∧ c ≤ 'f' then some (c.toNat - 'a'.toNat + 10)
  else if 'A' ≤ c ∧ c ≤ 'F' then some (c.toNat - 'A'.toNat + 10)
  else none

/-- The first of the 16-bit units that lead a pair. -/
def highSurrogate : Nat := 0xD800

/-- The first of the 16-bit units that follow in a pair. -/
def lowSurrogate : Nat := 0xDC00

/-- One past the units that follow in a pair. -/
def surrogateEnd : Nat := 0xE000

/-- Goes on after an escaped 16-bit unit.  A pair of surrogates is one character, and neither of
them may stand alone. -/
def afterUnit (read : Text) (lead : Option Nat) (unit : Nat) : Option Mode :=
  let isHigh := highSurrogate ≤ unit ∧ unit < lowSurrogate
  let isLow := lowSurrogate ≤ unit ∧ unit < surrogateEnd
  match lead with
  | some high =>
    if isLow then
      let code := 0x10000 + (high - highSurrogate) * 0x400 + (unit - lowSurrogate)
      some (.string (Char.ofNat code :: read))
    else none
  | none =>
    if isHigh then some (.surrogate read unit)
    else if isLow then none
    else some (.string (Char.ofNat unit :: read))

/-- Goes on after a character between tokens: the tokens it completes, and the new mode. -/
def start (c : Char) : List Token × Mode :=
  match punctuation? c with
  | some t => ([t], .between)
  | none =>
    if isBlank c then ([], .between)
    else if c = '"' then ([], .string [])
    else ([], .word [c])

/-- Goes on after a character: the tokens it completes, and the new mode. -/
def step : Mode → Char → Option (List Token × Mode)
  | .between, c => some (start c)
  | .word read, c =>
    if isWordChar c then some ([], .word (c :: read))
    else do
      let token ← ofWord? read.reverse
      let (tokens, mode) := start c
      return (token :: tokens, mode)
  | .string read, c =>
    if c = '"' then some ([.string read.reverse], .between)
    else if c = '\\' then some ([], .escape read)
    else if c.toNat < 0x20 then none
    else some ([], .string (c :: read))
  | .escape read, c =>
    if c = 'u' then some ([], .unicode read none [])
    else (unescape? c).map fun d => ([], .string (d :: read))
  | .unicode read lead digits, c => do
    let _ ← hexValue? c
    let digits := digits ++ [c]
    if digits.length < 4 then return ([], .unicode read lead digits)
    else
      let unit := (digits.filterMap hexValue?).foldl (fun n d => 16 * n + d) 0
      return ([], ← afterUnit read lead unit)
  | .surrogate read lead, c => if c = '\\' then some ([], .surrogateEscape read lead) else none
  | .surrogateEscape read lead, c =>
    if c = 'u' then some ([], .unicode read (some lead) []) else none

/-- The tokens that the end of the text completes. -/
def finish : Mode → Option (List Token)
  | .between => some []
  | .word read => (ofWord? read.reverse).map ([·])
  | _ => none

/-- The tokens of a text that goes on in a mode. -/
def scan (m : Mode) : Text → Option (List Token)
  | [] => finish m
  | c :: rest => do
    let (tokens, m) ← step m c
    return tokens ++ (← scan m rest)

/-- The tokens of a text. -/
def ofText? (t : Text) : Option (List Token) := scan .between t

end Token

end ArrayLiteral.Json
