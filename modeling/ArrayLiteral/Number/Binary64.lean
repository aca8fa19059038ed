/-!
# Number — Binary64

Binary floating point in 64 bits, without run-time floats.  Every finite magnitude is a whole
number of units of 2⁻¹⁰⁷⁴, so that values are compared, rounded, multiplied and divided in exact
arithmetic on naturals.

The magnitudes are held by their rank: zero has rank 0, the least positive one rank 1, and so on
up to infinity; the ranks beyond infinity are the NaNs.  Among numbers the order of ranks is the
order of values.
-/

namespace ArrayLiteral

/-- A binary64 number: a sign, and the rank of its magnitude. -/
structure Binary64 where
  negative : Bool
  rank : Fin (1 <<< 63)
deriving DecidableEq

namespace Binary64

/-- The rank of infinity, above those of all finite magnitudes. -/
def infinityRank : Nat := 2047 <<< 52

/-- How many units of 2⁻¹⁰⁷⁴ make one. -/
def one : Nat := 1 <<< 1074

/-- The magnitude of a rank in units of 2⁻¹⁰⁷⁴. -/
def units (rank : Nat) : Nat :=
  if rank < 1 <<< 52 then rank
  else (1 <<< 52 + rank % (1 <<< 52)) <<< (rank >>> 52 - 1)

/-- A quotient to the nearest natural, a half to the even one. -/
def roundHalfEven (num den : Nat) : Nat :=
  let below := num / den
  let rest := num % den
  if 2 * rest < den then below
  else if den < 2 * rest then below + 1
  else below + below % 2

/-- The rank of the magnitude nearest to `num / den` units, a half to the even rank.  The spacing
of magnitudes is one unit up to 2⁵³ units and doubles at each power of two from there. -/
def nearest (num den : Nat) : Nat :=
  let spacing := (num / den).log2 - 52
  min (spacing <<< 52 + roundHalfEven num (den <<< spacing)) infinityRank

theorem nearest_le (num den : Nat) : nearest num den ≤ infinityRank := Nat.min_le_right _ _

/-- The number with this sign and rank. -/
def ofRank (negative : Bool) (rank : Nat) : Binary64 := ⟨negative, Fin.ofNat (1 <<< 63) rank⟩

/-- The number nearest to a quotient, with a sign. -/
def ofRatio (negative : Bool) (num den : Nat) : Binary64 :=
  ofRank negative (nearest (num * one) den)

/-- The number nearest to an integer; zero is positive. -/
def ofInt (i : Int) : Binary64 := ofRatio (i < 0) i.natAbs 1

/-- Reads a word: the sign bit, then the rank. -/
def ofBits (word : UInt64) : Binary64 := ofRank (1 <<< 63 ≤ word.toNat) word.toNat

/-- The word of a number. -/
def toBits (x : Binary64) : UInt64 := UInt64.ofNat ((if x.negative then 1 <<< 63 else 0) + x.rank)

/-- Reads a word of 32 bits: a sign, eight bits of exponent and 23 of fraction.  Every value it
can hold is a binary64 number. -/
def ofBits32 (word : UInt32) : Binary64 :=
  let negative := decide (1 <<< 31 ≤ word.toNat)
  let rank := word.toNat % (1 <<< 31)
  let infinity := 255 <<< 23
  if infinity < rank then ofRank negative (infinityRank + (rank - infinity) <<< 29)
  else if rank = infinity then ofRank negative infinityRank
  else if rank < 1 <<< 23 then ofRank negative (nearest (rank <<< 925) 1)
  else ofRank negative
    (nearest ((1 <<< 23 + rank % (1 <<< 23)) <<< (rank >>> 23 - 1) <<< 925) 1)

/-- Not a number. -/
def isNaN (x : Binary64) : Bool := infinityRank < x.rank

/-- A number that is not infinite. -/
def isFinite (x : Binary64) : Bool := x.rank < infinityRank

/-- Zero of either sign. -/
def isZero (x : Binary64) : Bool := x.rank.val == 0

/-- Numerical equality: the two zeros are equal, and a NaN equals nothing. -/
def equal (x y : Binary64) : Bool :=
  !x.isNaN && !y.isNaN && (x == y || x.isZero && y.isZero)

/-- The positive zero. -/
def zero : Binary64 := ofRank false 0

/-- A NaN. -/
def nan : Binary64 := ofRank false (infinityRank + 1)

/-- A number without its whole part, with the sign of the number unless it is zero.  What is not
finite has no whole part. -/
def fract (x : Binary64) : Binary64 :=
  if x.isFinite then
    let rest := units x.rank % one
    ofRatio (x.negative && rest != 0) rest one
  else nan

/-- The place of a number among all: its rank, with its sign. -/
def place (x : Binary64) : Int := if x.negative then -(x.rank.val : Int) else x.rank.val

/-- Numerical order: a NaN is neither above nor below anything. -/
def le (x y : Binary64) : Bool := !x.isNaN && !y.isNaN && x.place ≤ y.place

/-- Strict numerical order. -/
def lt (x y : Binary64) : Bool := !x.isNaN && !y.isNaN && x.place < y.place

/-- The whole part of a number as an integer of 64 bits, the nearest bound if it does not fit, and
zero for a NaN. -/
def toInt64 (x : Binary64) : Int64 :=
  if x.isNaN then 0
  else
    let magnitude : Int := (units x.rank / one : Nat)
    let whole := if x.negative then -magnitude else magnitude
    if whole < Int64.minValue.toInt then Int64.minValue
    else if Int64.maxValue.toInt < whole then Int64.maxValue
    else Int64.ofInt whole

theorem ofBits_toBits (x : Binary64) : ofBits x.toBits = x := by
  obtain ⟨negative, rank, h⟩ := x
  cases negative
  · have hm : rank % 18446744073709551616 = rank := by omega
    simp only [ofBits, toBits, ofRank, UInt64.toNat_ofNat', Binary64.mk.injEq, Fin.ext_iff,
      Fin.val_ofNat]
    simp [hm]
    omega
  · have hm : (9223372036854775808 + rank) % 18446744073709551616 = 9223372036854775808 + rank := by
      omega
    simp only [ofBits, toBits, ofRank, UInt64.toNat_ofNat', Binary64.mk.injEq, Fin.ext_iff,
      Fin.val_ofNat]
    simp [hm]
    omega

/-- A quotient is off by at most a half. -/
theorem roundHalfEven_near (num : Nat) {den : Nat} (hd : 0 < den) :
    2 * (roundHalfEven num den * den) ≤ 2 * num + den ∧
      2 * num ≤ 2 * (roundHalfEven num den * den) + den := by
  have h := Nat.div_add_mod' num den
  have hr := Nat.mod_lt num hd
  unfold roundHalfEven
  dsimp only
  split
  · omega
  · split
    · rw [Nat.add_mul]; omega
    · rw [Nat.add_mul]
      rcases Nat.mod_two_eq_zero_or_one (num / den) with he | he <;> rw [he] <;> omega

end Binary64

end ArrayLiteral
