import ArrayLiteral.Datum
import ArrayLiteral.Json.Number
import ArrayLiteral.Proofs.Entries.Collect
import ArrayLiteral.Proofs.Number.Whole
import ArrayLiteral.Proofs.Value.Everywhere

/-!
# Proofs — Number — Origin

Numbers are made of literals, of integers and floats, and of data (`Made`).  However it is made, a
number is in normal form (`Made.normal`), and so are all numbers in the value that a datum is
(`everywhere_toValue`).

An integer without a sign that is too large for 64 bits with one is rounded, and then it is no
integer of 64 bits (`ofNat_of_large`), so that nothing is lost by not asking.  One that is not too
large is kept exactly, which it is not if it is rounded first (`not_toValue_unsigned_rounded`).
-/

namespace ArrayLiteral

open Binary64

namespace Number

/-! ### Integers without a sign -/

theorem ofNat_of_small {n : Nat} (h : n < 2 ^ 63) : ofNat n = .integer (Int64.ofNat n) := by
  have hn : int64? n = some (Int64.ofNat n) :=
    int64?_eq_some_iff.mpr (Int64.toInt_ofNat_of_lt h)
  rw [ofNat, hn]

theorem ofNat_of_large {n : Nat} (h : 2 ^ 63 ≤ n) : ofNat n = .float (.ofInt n) := by
  cases hn : int64? n with
  | none => rw [ofNat, hn]
  | some i =>
      have hi := int64?_eq_some_iff.mp hn
      have hlt := i.toInt_lt
      omega

/-- **A large integer is no integer of 64 bits** after it is rounded. -/
theorem ofBinary64_ofInt_of_large {n : Nat} (hlow : 2 ^ 63 ≤ n) (hhigh : n ≤ 2 ^ 64) :
    ofBinary64 (.ofInt n) = .float (.ofInt n) := by
  refine ofBinary64_eq_float_iff.mpr ⟨rfl, fun i ⟨_, hi⟩ => ?_⟩
  have hvalue := two_pow_le_value_ofInt hlow hhigh
  have hlt : (i.toInt : ℚ) < 2 ^ 63 := by exact_mod_cast i.toInt_lt
  rw [hi] at hvalue
  exact absurd hvalue (not_le.mpr hlt)

theorem normal_ofNat {n : Nat} (h : n ≤ 2 ^ 64) : (ofNat n).Normal := by
  rcases Nat.lt_or_ge n (2 ^ 63) with hsmall | hlarge
  · rw [ofNat_of_small hsmall]
    trivial
  · rw [ofNat_of_large hlarge]
    exact ofBinary64_ofInt_of_large hlarge h

/-- A small integer is kept exactly, so rounding it first makes a difference unless it is exact. -/
theorem ofNat_eq_ofBinary64_iff {n : Nat} (h : n < 2 ^ 63) :
    ofNat n = ofBinary64 (.ofInt n) ↔ (Binary64.ofInt n).value = n := by
  have hn : (Int64.ofNat n).toInt = n := Int64.toInt_ofNat_of_lt h
  have hfinite : (Binary64.ofInt n).isFinite = true := isFinite_ofInt (by simp; omega)
  rw [ofNat_of_small h, eq_comm, ofBinary64_eq_integer_iff, hn, Int.cast_natCast,
    and_iff_right hfinite]

/-! ### Origins -/

/-- The ways in which numbers are made. -/
inductive Made : Number → Prop where
  | literal {t : Text} {n : Number} (h : ofLiteral? t = some n) : Made n
  | int32 (i : Int32) : Made (ofInt32 i)
  | int64 (i : Int64) : Made (.integer i)
  | uint32 (n : UInt32) : Made (ofUInt32 n)
  | binary64 (x : Binary64) : Made (ofBinary64 x)
  /-- A datum is one number. -/
  | datum {d : Datum} {n : Number} (h : d.toValue = .ok (.number n)) : Made n
  | json {t : Text} {n : Number} (h : Json.readNumber? t = some n) : Made n

end Number

namespace Value

/-- A number is in normal form. -/
def NormalNumber (_ : List Kind) : Value → Prop
  | .number n => n.Normal
  | _ => True

end Value

namespace Datum

open Value

/-! ### Data -/

theorem map_eq_ok_iff {α β : Type} {f : α → β} {x : Except Fault α} {b : β} :
    x.map f = .ok b ↔ ∃ a, x = .ok a ∧ f a = b := by
  cases x <;> simp [Except.map]

theorem toItems_cons_eq_ok {d : Datum} {rest : List Datum} {vs : List Value}
    (h : toItems (d :: rest) = .ok vs) :
    ∃ v us, d.toValue = .ok v ∧ toItems rest = .ok us ∧ vs = v :: us := by
  rw [toItems] at h
  cases hv : d.toValue with
  | error fault =>
      rw [hv] at h
      cases h
  | ok v =>
      cases hus : toItems rest with
      | error fault =>
          rw [hv, hus] at h
          cases h
      | ok us =>
          rw [hv, hus] at h
          cases h
          exact ⟨v, us, rfl, rfl, rfl⟩

theorem toEntries_cons_eq_ok {k d : Datum} {rest : List (Datum × Datum)} {done m : Entries Value}
    (h : toEntries done ((k, d) :: rest) = .ok m) :
    ∃ key v, k.toKey = .ok key ∧ d.toValue = .ok v ∧
      toEntries (done.insert key v) rest = .ok m := by
  rw [toEntries] at h
  cases hkey : k.toKey with
  | error fault =>
      rw [hkey] at h
      cases h
  | ok key =>
      cases hv : d.toValue with
      | error fault =>
          rw [hkey, hv] at h
          cases h
      | ok v =>
          rw [hkey, hv] at h
          exact ⟨key, v, rfl, rfl, h⟩

mutual

/-- **The numbers in the value** that a datum is are in normal form. -/
theorem everywhere_toValue : ∀ (d : Datum) {v : Value} {around : List Kind}, d.toValue = .ok v →
    v.Everywhere NormalNumber around
  | .bool _, _, _, h | .text _, _, _, h | .unit, _, _, h | .absent, _, _, h
  | .signed _, _, _, h => by
      cases h
      trivial
  | .unsigned n, _, _, h => by
      cases h
      exact Number.normal_ofNat n.toNat_lt.le
  | .float x, _, _, h => by
      cases h
      exact Number.normal_ofBinary64 x
  | .present d, _, _, h => by
      rw [toValue] at h
      exact everywhere_toValue d h
  | .sequence items, _, _, h => by
      rw [toValue] at h
      obtain ⟨vs, hitems, rfl⟩ := map_eq_ok_iff.mp h
      exact everywhere_list.mpr ⟨trivial, everywhere_toItems items hitems⟩
  | .mapping pairs, _, _, h => by
      rw [toValue] at h
      obtain ⟨m, hentries, rfl⟩ := map_eq_ok_iff.mp h
      refine everywhere_map.mpr ⟨trivial, everywhere_toEntries pairs hentries ?_⟩
      exact fun e he => absurd he List.not_mem_nil
  | .signed128 _, _, _, h | .unsigned128 _, _, _, h | .bytes _, _, _, h | .wrapped _, _, _, h
  | .failure _, _, _, h => by cases h

theorem everywhere_toItems : ∀ (items : List Datum) {vs : List Value} {around : List Kind},
    toItems items = .ok vs → ∀ v ∈ vs, v.Everywhere NormalNumber around
  | [], _, _, h => by
      cases h
      exact fun v hv => absurd hv List.not_mem_nil
  | d :: rest, _, _, h => by
      obtain ⟨v, us, hv, hus, rfl⟩ := toItems_cons_eq_ok h
      exact List.forall_mem_cons.mpr ⟨everywhere_toValue d hv, everywhere_toItems rest hus⟩

theorem everywhere_toEntries : ∀ (pairs : List (Datum × Datum)) {done m : Entries Value}
    {around : List Kind}, toEntries done pairs = .ok m →
    (∀ e ∈ done, e.2.Everywhere NormalNumber around) →
    ∀ e ∈ m, e.2.Everywhere NormalNumber around
  | [], _, _, _, h, hdone => by
      cases h
      exact hdone
  | (k, d) :: rest, _, _, _, h, hdone => by
      obtain ⟨key, v, -, hv, hm⟩ := toEntries_cons_eq_ok h
      refine everywhere_toEntries rest hm fun e he => ?_
      rcases Entries.mem_insert he with rfl | he
      · exact everywhere_toValue d hv
      · exact hdone e he

end

end Datum

namespace Number

/-! ### JSON numbers -/

theorem normal_integer {negative : Bool} {n : Nat} (h : n < 2 ^ 64) :
    (Json.Numeral.integer negative n).Normal := by
  rw [Json.Numeral.integer]
  split
  · split
    · trivial
    · exact normal_ofBinary64 _
  · exact normal_ofNat h.le

theorem normal_readNumber? {t : Text} {n : Number} (h : Json.readNumber? t = some n) :
    n.Normal := by
  obtain ⟨l, -, hl⟩ := Option.bind_eq_some_iff.mp h
  have hscaled : ∀ {n}, l.scaled? = some n → n.Normal := fun hn => by
    obtain ⟨x, -, rfl⟩ := Option.map_eq_some_iff.mp hn
    exact normal_ofBinary64 x
  rw [Json.Numeral.number?] at hl
  split at hl
  · dsimp only at hl
    split at hl
    · rename_i hsize
      cases hl
      exact normal_integer hsize
    · exact hscaled hl
  · exact hscaled hl

/-! ### However it is made -/

/-- **However it is made**, a number is in normal form. -/
theorem Made.normal {n : Number} (h : Made n) : n.Normal := by
  cases h with
  | literal h => exact (normal_and_finite_of_ofLiteral? h).1
  | int32 | int64 | uint32 => trivial
  | binary64 x => exact normal_ofBinary64 x
  | datum h =>
      have hvalue : Value.Everywhere Value.NormalNumber [] _ := Datum.everywhere_toValue _ h
      exact hvalue.here
  | json h => exact normal_readNumber? h

/-- **Normal form.**  A float becomes an integer exactly if its value is one of 64 bits, and then
that very integer; any other keeps its bits.  However it is made, a number is in normal form, and so
are all numbers in the value of a datum.  An integer of 64 bits without a sign has the number of its
rounding if it is too large for one with a sign.  One that is not is kept exactly, and has the
number of its rounding only if rounding leaves it as it is. -/
theorem normal_form :
    (∀ word : UInt64,
      (∀ i : Int64, ofBinary64 (.ofBits word) = .integer i ↔
        (Binary64.ofBits word).isFinite = true ∧ (Binary64.ofBits word).value = i.toInt) ∧
      ((∃ i, ofBinary64 (.ofBits word) = .integer i) ↔ (Binary64.ofBits word).isFinite = true ∧
        ∃ i : ℤ, -2 ^ 63 ≤ i ∧ i ≤ 2 ^ 63 - 1 ∧ (Binary64.ofBits word).value = i) ∧
      ((∃ i, ofBinary64 (.ofBits word) = .integer i) ∨
        ∃ x, ofBinary64 (.ofBits word) = .float x ∧ x.toBits = word)) ∧
    (∀ n, Made n → n.Normal) ∧
    (∀ d v, Datum.toValue d = .ok v → v.Everywhere Value.NormalNumber []) ∧
    ∀ n : UInt64,
      Rounds false n.toNat (.ofInt n.toNat) ∧
      (2 ^ 63 ≤ n.toNat → Datum.toValue (.unsigned n) = .ok (.ofBinary64 (.ofInt n.toNat))) ∧
      (n.toNat < 2 ^ 63 →
        Datum.toValue (.unsigned n) = .ok (.ofInt64 (Int64.ofNat n.toNat)) ∧
        (Datum.toValue (.unsigned n) = .ok (.ofBinary64 (.ofInt n.toNat)) ↔
          (Binary64.ofInt n.toNat).value = n.toNat)) := by
  refine ⟨fun word => ⟨fun i => ofBinary64_eq_integer_iff, ?_, ?_⟩, fun _ => Made.normal,
    fun d _ h => Datum.everywhere_toValue d h, fun n => ⟨?_, fun hlarge => ?_, fun hsmall => ?_⟩⟩
  · simp only [ofBinary64_eq_integer_iff, exists_and_left]
    refine and_congr_right fun _ => ⟨?_, ?_⟩
    · rintro ⟨i, hi⟩
      exact ⟨i.toInt, i.le_toInt, Int.le_sub_one_of_lt i.toInt_lt, hi⟩
    · rintro ⟨i, hlow, hhigh, hi⟩
      refine ⟨Int64.ofInt i, ?_⟩
      rw [hi, Int64.toInt_ofInt_of_le hlow (Int.lt_of_le_sub_one hhigh)]
  · cases h : ofBinary64 (.ofBits word) with
    | integer i => exact Or.inl ⟨i, rfl⟩
    | float x =>
        obtain rfl := ofBinary64_eq_float h
        exact Or.inr ⟨_, rfl, toBits_ofBits word⟩
  · have hsign : ¬ (n.toNat : ℤ) < 0 := by omega
    have h := rounds_ofInt n.toNat
    rwa [decide_eq_false hsign, Int.cast_natCast] at h
  · rw [Datum.toValue, Value.ofBinary64, ofNat_of_large hlarge,
      ofBinary64_ofInt_of_large hlarge n.toNat_lt.le]
  · refine ⟨by rw [Datum.toValue, ofNat_of_small hsmall, Value.ofInt64], ?_⟩
    rw [Datum.toValue, Value.ofBinary64, Except.ok.injEq, Value.number.injEq]
    exact ofNat_eq_ofBinary64_iff hsmall

/-- At the limits: 2⁶³ as a literal, the largest integer without a sign in a sequence, and the least
integer that is not exact. -/
theorem normal_form_limits :
    (Made (.float (.ofBits 0x43E0000000000000)) ∧
        Number.Normal (.float (.ofBits 0x43E0000000000000))) ∧
      (Datum.toValue (.sequence [.unsigned 0xFFFFFFFFFFFFFFFF]) =
          .ok (.list [.number (.float (.ofBits 0x43F0000000000000))]) ∧
        Value.Everywhere Value.NormalNumber []
          (.list [.number (.float (.ofBits 0x43F0000000000000))])) ∧
      (2 ^ 63 ≤ (0xFFFFFFFFFFFFFFFF : UInt64).toNat ∧
        Datum.toValue (.unsigned 0xFFFFFFFFFFFFFFFF) =
          .ok (.ofBinary64 (.ofInt (0xFFFFFFFFFFFFFFFF : UInt64).toNat))) ∧
      ((9007199254740993 : UInt64).toNat < 2 ^ 63 ∧
        Datum.toValue (.unsigned 9007199254740993) = .ok (.ofInt64 9007199254740993)) := by
  have hliteral : Made (.float (.ofBits 0x43E0000000000000)) :=
    .literal (show ofLiteral? "9223372036854775808".toList = some _ by decide +kernel)
  have hlarge : 2 ^ 63 ≤ (0xFFFFFFFFFFFFFFFF : UInt64).toNat := by decide
  have hsmall : (9007199254740993 : UInt64).toNat < 2 ^ 63 := by decide
  have hrounded : ofNat (0xFFFFFFFFFFFFFFFF : UInt64).toNat =
      .float (.ofBits 0x43F0000000000000) := by decide +kernel
  have hvalue : Datum.toValue (.sequence [.unsigned 0xFFFFFFFFFFFFFFFF]) =
      .ok (.list [.number (.float (.ofBits 0x43F0000000000000))]) :=
    congrArg (fun n => Except.ok (Value.list [.number n])) hrounded
  obtain ⟨-, hmade, hdatum, hunsigned⟩ := normal_form
  exact ⟨⟨hliteral, hmade _ hliteral⟩, ⟨hvalue, hdatum _ _ hvalue⟩,
    ⟨hlarge, (hunsigned _).2.1 hlarge⟩, hsmall, ((hunsigned _).2.2 hsmall).1⟩

/-- Not every integer without a sign has the number of its rounding: 2⁵³ + 1 is kept exactly. -/
theorem not_toValue_unsigned_rounded :
    ¬ ∀ n : UInt64, Datum.toValue (.unsigned n) = .ok (.ofBinary64 (.ofInt n.toNat)) := by
  intro h
  have hrounded := h 9007199254740993
  rw [Datum.toValue, Value.ofBinary64, Except.ok.injEq, Value.number.injEq] at hrounded
  exact absurd hrounded (by decide +kernel)

end Number

end ArrayLiteral
