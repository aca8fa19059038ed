import Mathlib.Data.List.Basic
import ArrayLiteral.Text.Utf8

/-!
# Proofs — Text — Utf8

The bytes of a text are those of its characters, one after the other (`utf8_append`), and an ASCII
character is told by its one byte (`head?_utf8_eq_some_iff`).  What decodes to a text is its bytes
(`ofUtf8?_eq_some_iff`).
-/

namespace ArrayLiteral.Text

theorem utf8_nil : utf8 [] = [] := rfl

theorem utf8_cons (c : Char) (t : Text) : utf8 (c :: t) = String.utf8EncodeChar c ++ t.utf8 := rfl

theorem utf8_append (s t : Text) : utf8 (s ++ t) = s.utf8 ++ t.utf8 := List.flatMap_append

/-- **Bytes that decode** are those of the text that they decode to. -/
theorem ofUtf8?_eq_some_iff {bytes : List UInt8} {t : Text} :
    ofUtf8? bytes = some t ↔ t.utf8 = bytes := by
  constructor
  · intro h
    obtain ⟨decoded, hdecoded, rfl⟩ := Option.map_eq_some_iff.mp h
    have hsome : bytes.toByteArray.utf8Decode?.isSome = true := by rw [hdecoded, Option.isSome_some]
    have hencode := ByteArray.utf8Encode_get_utf8Decode? (h := hsome)
    rw [Option.get_of_eq_some hsome hdecoded] at hencode
    exact List.toByteArray_inj.mp hencode
  · rintro rfl
    exact ofUtf8?_utf8 t

/-! ### ASCII -/

theorem utf8EncodeChar_of_lt {c : Char} (h : c.toNat < 0x80) :
    String.utf8EncodeChar c = [UInt8.ofNat c.toNat] := by
  have hc : c.val.toNat ≤ 127 := Nat.le_of_lt_succ h
  rw [String.utf8EncodeChar, if_pos hc]
  rfl

/-- The first byte of a character that is not ASCII is not ASCII either. -/
theorem le_of_head?_utf8EncodeChar {c : Char} (h : 0x80 ≤ c.toNat) {byte : UInt8}
    (hbyte : (String.utf8EncodeChar c).head? = some byte) : 0x80 ≤ byte.toNat := by
  have hc : ¬c.val.toNat ≤ 127 := Nat.not_le.mpr h
  rw [String.utf8EncodeChar, if_neg hc] at hbyte
  split at hbyte
  · obtain rfl := Option.some.inj hbyte
    rw [UInt8.toNat_ofNat']
    omega
  · split at hbyte
    all_goals
      obtain rfl := Option.some.inj hbyte
      rw [UInt8.toNat_ofNat']
      omega

/-- **An ASCII character** is told by its one byte. -/
theorem head?_utf8_eq_some_iff {c : Char} (hc : c.toNat < 0x80) {t : Text} :
    t.utf8.head? = some (UInt8.ofNat c.toNat) ↔ t.head? = some c := by
  have hbyte : (UInt8.ofNat c.toNat).toNat = c.toNat := by
    rw [UInt8.toNat_ofNat']
    omega
  cases t with
  | nil => exact iff_of_false (Option.some_ne_none _ ·.symm) (Option.some_ne_none _ ·.symm)
  | cons d t =>
      rw [utf8_cons, List.head?_append_of_ne_nil _ String.utf8EncodeChar_ne_nil, List.head?_cons,
        Option.some.injEq]
      constructor
      · intro h
        rcases Nat.lt_or_ge d.toNat 0x80 with hd | hd
        · rw [utf8EncodeChar_of_lt hd, List.head?_cons, Option.some.injEq] at h
          have hnat := congrArg UInt8.toNat h
          rw [hbyte, UInt8.toNat_ofNat', Nat.mod_eq_of_lt (by omega)] at hnat
          exact Char.toNat_inj.mp hnat
        · have hle := le_of_head?_utf8EncodeChar hd h
          omega
      · rintro rfl
        rw [utf8EncodeChar_of_lt hc, List.head?_cons]

end ArrayLiteral.Text
