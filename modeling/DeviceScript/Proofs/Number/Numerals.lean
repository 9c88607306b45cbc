import DeviceScript.Number.Literal
import DeviceScript.Proofs.Script.Spelling
import Mathlib

-- No single module of the library reaches `Float.Model.UnpackedFloat.isNaNBits`.

/-!
# Numerals

A numeral of a script is a digit followed by digits and points. It is read as a whole number if it
holds no point, which is the case just if it consists of digits (`isDigits_iff_of_isNumeral`), and
otherwise as a number of the binary format. That number is never the one that equals nothing
(`isNaN_readFloat?_of_isNumeral`), because only a word is read as it, and rounding a decimal gives
bits that are at most those of the infinity.
-/

namespace DeviceScript.Number

open List DeviceScript.Text DeviceScript.Script

/-! ## Bits -/

variable {n : Float} {c : Char}

section Bits

open Float.Model (Format)
open Float.Model.UnpackedFloat

/-- Bits that are at most those of an infinity, the sign apart, do not stand for the number that
equals nothing: either some bit of the exponent is not set, or no bit of the mantissa is. -/
theorem isNaNBits_of_le {bits : UInt64} (small : bits.toNat % 2 ^ 63 ≤ 2047 * 2 ^ 52) :
    ¬ @isNaNBits .binary64 bits.toBitVec = true := by
  rw [isNaNBits, decide_eq_true_eq, unpackExponent_def, unpackMantissa_def]
  rintro ⟨special, fraction⟩
  have exponent : bits.toNat / 2 ^ 52 % 2 ^ 11 = 2047 := by
    have fields := congrArg BitVec.toNat special
    rwa [BitVec.extractLsb'_toNat, Nat.shiftRight_eq_div_pow] at fields
  have mantissa : bits.toNat % 2 ^ 52 ≠ 0 := by
    intro _
    apply fraction
    apply BitVec.eq_of_toNat_eq
    rwa [BitVec.extractLsb'_toNat]
  omega

theorem isNaN_ofBits_of_le {bits : UInt64} (small : bits.toNat % 2 ^ 63 ≤ 2047 * 2 ^ 52) :
    (Float.ofBits bits).isNaN = false := by
  have ordinary := isNaNBits_of_le small
  have kept : (unpack .binary64 bits.toBitVec).pack .binary64 = bits.toBitVec := by
    rw [pack_unpack, if_neg ordinary]
  have valid : Format.binary64.Valid bits.toBitVec := kept ▸ valid_pack
  show (unpack .binary64 ((unpack .binary64 bits.toBitVec).pack .binary64)).isNaN = false
  rw [kept, Bool.eq_false_iff, ne_eq, isNaN_unpack_iff_of_valid valid]
  intro same
  rw [same] at ordinary
  exact ordinary isNaNBits_packedNaN

end Bits

theorem isNaN_ofMagnitude (neg : Bool) {magnitude : Nat} (small : magnitude ≤ infinityBits) :
    (ofMagnitude neg magnitude).isNaN = false := by
  have bound : magnitude ≤ 2047 * 2 ^ 52 := small
  refine isNaN_ofBits_of_le ?_
  rw [UInt64.toNat_ofNat']
  cases neg
  · rw [if_neg Bool.false_ne_true]
    omega
  · rw [if_pos rfl, show twoTo 63 = 2 ^ 63 from rfl]
    omega

/-! ## Decimals -/

theorem isNaN_of_ofRatio? {neg : Bool} {numerator denominator : Nat}
    (rounded : ofRatio? neg numerator denominator = some n) : n.isNaN = false := by
  unfold ofRatio? at rounded
  dsimp only at rounded
  split at rounded <;> cases rounded
  exact isNaN_ofMagnitude neg (Nat.le_of_lt (by assumption))

/-- A fraction that is too large is rounded to an infinity. -/
theorem isNaN_getD_infinity (neg : Bool) {rounded : Option Float}
    (numbers : ∀ n, rounded = some n → n.isNaN = false) :
    (rounded.getD (infinity neg)).isNaN = false := by
  cases rounded with
  | none => exact isNaN_ofMagnitude neg (Nat.le_refl _)
  | some n => exact numbers n rfl

theorem isNaN_ofDecimal (neg : Bool) (digits : Nat) (exponent : Int) :
    (ofDecimal neg digits exponent).isNaN = false := by
  unfold ofDecimal
  dsimp only
  split
  · exact isNaN_ofMagnitude neg (Nat.zero_le _)
  split
  · exact isNaN_ofMagnitude neg (Nat.le_refl _)
  split
  · exact isNaN_ofMagnitude neg (Nat.zero_le _)
  · apply isNaN_getD_infinity
    intro _ rounded
    split at rounded <;> exact isNaN_of_ofRatio? rounded

theorem isNaN_of_readDecimal {neg : Bool} {body : List Char}
    (decimal : readDecimal neg body = some n) : n.isNaN = false := by
  unfold readDecimal at decimal
  dsimp only at decimal
  split at decimal
  all_goals
    split at decimal
    · cases decimal
    · obtain ⟨_, _, rfl⟩ := Option.map_eq_some_iff.mp decimal
      exact isNaN_ofDecimal ..

/-! ## Words -/

theorem mem_of_mem_splitSign {s : List Char} (mem : c ∈ (splitSign s).2) : c ∈ s := by
  unfold splitSign at mem
  split at mem
  · exact .tail _ mem
  · exact .tail _ mem
  · exact mem

theorem exists_of_mem_unified {s : String} (mem : c ∈ unified s) :
    ∃ written ∈ s.toList, plainChar written = c := by
  apply mem_map.mp
  have kept := (dropWhile_suffix isPadding).subset (mem_reverse.mp mem)
  exact (dropWhile_suffix isPadding).subset (mem_reverse.mp kept)

/-- Only a word is read as the number that equals nothing. -/
theorem isNaN_of_readFloat? {s : String} (decimal : readFloat? s = some n)
    (wordless : ∀ c ∈ unified s, c.toLower ≠ 'n') : n.isNaN = false := by
  unfold readFloat? at decimal
  dsimp only at decimal
  split at decimal
  · cases decimal
  split at decimal
  · cases decimal
    exact isNaN_ofMagnitude _ (Nat.le_refl _)
  split at decimal
  case isTrue _ word =>
    have letters := congrArg String.toList (beq_iff_eq.mp word)
    rw [String.toList_ofList] at letters
    have first : 'n' ∈ "nan".toList := by decide
    rw [← letters] at first
    obtain ⟨c, mem, lower⟩ := mem_map.mp first
    exact absurd lower (wordless c (mem_filter.mp (mem_of_mem_splitSign mem)).1)
  · exact isNaN_of_readDecimal decimal

/-! ## Characters of numerals -/

theorem decimalValue?_lt {v : Nat} (decimal : decimalValue? c = some v) : v < 10 := by
  obtain ⟨_, found, rfl⟩ := Option.map_eq_some_iff.mp decimal
  have near := Array.find?_some found
  simp only [Bool.and_eq_true, decide_eq_true_eq] at near
  omega

theorem toNat_lt_of_isNumberPart (part : isNumberPart c = true)
    (ascii : c.toNat < 127) : c.toNat < 64 := by
  rcases (Bool.or_eq_true _ _).mp part with digit | point
  · rw [isDigit, if_pos (by omega)] at digit
    have := toNat_of_isDigit digit
    omega
  · rw [beq_iff_eq.mp point]
    decide

/-- Once digits and blanks are unified, no character of a numeral is a letter. -/
theorem toNat_plainChar_lt (part : isNumberPart c = true) : (plainChar c).toNat < 64 := by
  have digits : ∀ v < 10, (Char.ofNat (48 + v)).toNat < 64 := by decide
  unfold plainChar
  split
  · exact toNat_lt_of_isNumberPart part (by assumption)
  split
  · decide
  split
  · rename_i v decimal
    exact digits v (decimalValue?_lt decimal)
  · decide

theorem toLower_ne_of_toNat_lt (small : c.toNat < 64) : c.toLower ≠ 'n' := by
  have same : c.toLower = c := dif_neg fun upper => by
    have : 65 ≤ c.toNat := UInt32.le_iff_toNat_le.mp upper.1
    omega
  rw [same]
  rintro rfl
  exact absurd small (by decide)

/-! ## Reading numerals -/

variable {s : String}

theorem all_isNumberPart_of_isNumeral (numeral : isNumeral s = true) :
    ∀ c ∈ s.toList, isNumberPart c = true := by
  unfold isNumeral at numeral
  split at numeral
  · cases numeral
  · rename_i first rest characters
    obtain ⟨digit, others⟩ := (Bool.and_eq_true _ _).mp numeral
    rw [characters, forall_mem_cons]
    refine ⟨?_, all_eq_true.mp others⟩
    rw [isNumberPart, digit, Bool.true_or]

theorem isNaN_readFloat?_of_isNumeral (numeral : isNumeral s = true)
    (decimal : readFloat? s = some n) : n.isNaN = false := by
  apply isNaN_of_readFloat? decimal
  intro c mem
  obtain ⟨written, listed, rfl⟩ := exists_of_mem_unified mem
  have part := all_isNumberPart_of_isNumeral numeral written listed
  exact toLower_ne_of_toNat_lt (toNat_plainChar_lt part)

/-- A numeral consists of digits just if it holds no point. -/
theorem isDigits_iff_of_isNumeral (numeral : isNumeral s = true) :
    isDigits s = true ↔ s.contains '.' = false := by
  rw [String.contains_char_eq, decide_eq_false_iff_not, isDigits, Bool.and_eq_true]
  constructor
  · rintro ⟨_, digits⟩ point
    exact absurd (all_eq_true.mp digits '.' point) (by decide)
  · intro pointless
    constructor
    · have nonempty : s ≠ "" := by
        rintro rfl
        cases numeral
      simpa using nonempty
    · rw [all_eq_true]
      intro c mem
      have part := all_isNumberPart_of_isNumeral numeral c mem
      rcases (Bool.or_eq_true _ _).mp part with digit | point
      · exact digit
      · exact absurd (beq_iff_eq.mp point ▸ mem) pointless

end DeviceScript.Number
