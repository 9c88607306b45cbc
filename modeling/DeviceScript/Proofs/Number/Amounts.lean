import DeviceScript.Value.Compare
import Mathlib

-- No single module of the library reaches `Float.toBits_inj`.

/-!
# What numbers stand for

A number of the binary format stands for a fraction or for an infinity (`amount?`). Apart from the
two zeros, numbers that stand for the same fraction are the same number, because the mantissa and
the exponent of a number are determined by the fraction (`Canonical.eq_of_fraction_eq`). So the
comparison of numbers of the format, and of a whole number with one of them, decides whether both
stand for the same (`orderFloats_eq_iff`, `orderWhole_eq_iff`).
-/

namespace DeviceScript

namespace Number

/-- What a number stands for. -/
inductive Amount where
  | finite (v : ℚ)
  | infinite (neg : Bool)

variable {x y : Float} {exponent exponent' : Int} {negative : Bool} {mantissa mantissa' : Nat}
  {amount : Amount}

/-- The fraction with the given sign, mantissa and exponent. -/
def fraction (neg : Bool) (mantissa : Nat) (exponent : Int) : ℚ :=
  (if neg then -(mantissa : ℚ) else mantissa) * 2 ^ exponent

/-- What a number of the binary format stands for, if it is not the one that equals nothing. -/
def amount? (x : Float) : Option Amount :=
  match read x with
  | .finite neg mantissa exponent => some (.finite (fraction neg mantissa exponent))
  | .infinite neg => some (.infinite neg)
  | .notANumber => none

/-! ## The parts of a number -/

/-- What sign, biased exponent and fraction bits are read as. -/
def ofParts (neg : Bool) (biased part : Nat) : Reading :=
  if biased = 2047 then if part = 0 then .infinite neg else .notANumber
  else if biased = 0 then .finite neg part (-1074)
  else .finite neg (part + 2 ^ 52) ((biased : Int) - 1075)

/-- The bits of a number consist of a sign, a biased exponent and a fraction. -/
theorem exists_parts (x : Float) :
    ∃ negative biased part, biased < 2048 ∧ part < 2 ^ 52 ∧
      x.toBits.toNat = (if negative then 2 ^ 63 else 0) + biased * 2 ^ 52 + part ∧
        read x = ofParts negative biased part := by
  have small : x.toBits.toNat < 2 ^ 64 := x.toBits.toNat_lt
  refine ⟨decide (2 ^ 63 ≤ x.toBits.toNat), x.toBits.toNat / 2 ^ 52 % 2 ^ 11,
    x.toBits.toNat % 2 ^ 52, by omega, by omega, ?_, rfl⟩
  by_cases negative : 2 ^ 63 ≤ x.toBits.toNat
  · rw [decide_eq_true negative, if_pos rfl]
    omega
  · rw [decide_eq_false negative, if_neg Bool.false_ne_true]
    omega

theorem ofParts_inj {negative' : Bool} {biased biased' part part' : Nat} (small : part < 2 ^ 52)
    (small' : part' < 2 ^ 52) (number : ofParts negative biased part ≠ .notANumber)
    (same : ofParts negative biased part = ofParts negative' biased' part') :
    negative = negative' ∧ biased = biased' ∧ part = part' := by
  unfold ofParts at number same
  split_ifs at number same <;> simp_all
  omega

theorem eq_of_read_eq (number : read x ≠ .notANumber) (same : read x = read y) : x = y := by
  obtain ⟨_, _, _, _, small, bits, parts⟩ := exists_parts x
  obtain ⟨_, _, _, _, small', bits', parts'⟩ := exists_parts y
  rw [parts] at number
  rw [parts, parts'] at same
  obtain ⟨rfl, rfl, rfl⟩ := ofParts_inj small small' number same
  apply Float.toBits_inj.mp
  apply UInt64.toNat_inj.mp
  rw [bits, bits']

/-! ## Mantissa and exponent -/

/-- The mantissa is as large as the exponent allows. -/
structure Canonical (mantissa : Nat) (exponent : Int) : Prop where
  small : mantissa < 2 ^ 53
  least : -1074 ≤ exponent
  large : exponent = -1074 ∨ 2 ^ 52 ≤ mantissa

theorem canonical_of_read (finite : read x = .finite negative mantissa exponent) :
    Canonical mantissa exponent := by
  obtain ⟨_, _, _, _, _, _, parts⟩ := exists_parts x
  rw [finite] at parts
  unfold ofParts at parts
  split_ifs at parts with special subnormal <;> cases parts
  · exact ⟨by omega, by omega, .inl rfl⟩
  · exact ⟨by omega, by omega, .inr (by omega)⟩

/-- A larger exponent goes with a smaller mantissa, which then is not as large as it could be. -/
theorem Canonical.exponent_le (canonical : Canonical mantissa exponent)
    (canonical' : Canonical mantissa' exponent')
    (same : (mantissa : ℚ) * 2 ^ exponent = mantissa' * 2 ^ exponent') : exponent' ≤ exponent := by
  by_contra less
  obtain ⟨more, rfl⟩ : ∃ more, exponent' = exponent + (more + 1 : ℕ) :=
    ⟨(exponent' - exponent - 1).toNat, by omega⟩
  have nonzero : (2 : ℚ) ^ exponent ≠ 0 := zpow_ne_zero _ (by norm_num)
  have scaled : mantissa = mantissa' * 2 ^ (more + 1) := by
    rw [zpow_add₀ (by norm_num), mul_left_comm, mul_comm] at same
    exact_mod_cast mul_left_cancel₀ nonzero same
  have large : 2 ^ 52 ≤ mantissa' := by
    have := canonical.least
    exact canonical'.large.resolve_left (by omega)
  have : 2 ^ 53 ≤ mantissa := by
    calc 2 ^ 53 = 2 ^ 52 * 2 := by norm_num
      _ ≤ mantissa' * 2 ^ (more + 1) := Nat.mul_le_mul large (Nat.le_self_pow (by omega) 2)
      _ = mantissa := scaled.symm
  exact absurd canonical.small (by omega)

theorem Canonical.eq_of_fraction_eq (canonical : Canonical mantissa exponent)
    (canonical' : Canonical mantissa' exponent')
    (same : (mantissa : ℚ) * 2 ^ exponent = mantissa' * 2 ^ exponent') :
    mantissa = mantissa' ∧ exponent = exponent' := by
  obtain rfl : exponent = exponent' :=
    le_antisymm (canonical'.exponent_le canonical same.symm)
      (canonical.exponent_le canonical' same)
  have nonzero : (2 : ℚ) ^ exponent ≠ 0 := zpow_ne_zero _ (by norm_num)
  exact ⟨by exact_mod_cast mul_right_cancel₀ nonzero same, rfl⟩

theorem abs_fraction (negative : Bool) (mantissa : Nat) (exponent : Int) :
    |fraction negative mantissa exponent| = mantissa * 2 ^ exponent := by
  have positive : (0 : ℚ) < 2 ^ exponent := zpow_pos (by norm_num) _
  cases negative <;> simp [fraction, abs_mul, abs_of_pos positive]

/-- Fractions of different signs are equal only if they are zero. -/
theorem eq_zero_of_fraction_eq {negative' : Bool} (differ : negative ≠ negative')
    (same : fraction negative mantissa exponent = fraction negative' mantissa' exponent') :
    mantissa = 0 := by
  have positive : ∀ e : Int, (0 : ℚ) < 2 ^ e := fun e => zpow_pos (by norm_num) e
  have nonneg : (0 : ℚ) ≤ mantissa * 2 ^ exponent := by
    exact mul_nonneg (Nat.cast_nonneg _) (positive _).le
  have nonneg' : (0 : ℚ) ≤ mantissa' * 2 ^ exponent' := by
    exact mul_nonneg (Nat.cast_nonneg _) (positive _).le
  have zero : (mantissa : ℚ) * 2 ^ exponent = 0 := by
    cases negative <;> cases negative' <;> simp [fraction] at differ same <;> linarith
  simpa [(positive exponent).ne'] using zero

/-! ## Comparison -/

theorem read_zero : read 0 = .finite false 0 (-1074) := by decide

theorem read_neg_zero : read (-0) = .finite true 0 (-1074) := by decide

theorem read_nan : read Float.nan = .notANumber := by decide

theorem amount?_finite (finite : read x = .finite negative mantissa exponent) :
    amount? x = some (.finite (fraction negative mantissa exponent)) := by
  rw [amount?, finite]

theorem read_ne_notANumber (stands : amount? x = some amount) : read x ≠ .notANumber := by
  intro same
  rw [amount?, same] at stands
  cases stands

/-- The zero of a sign. -/
theorem eq_zero_of_read (zero : read x = .finite negative 0 exponent) :
    x = if negative then -0 else 0 := by
  obtain rfl : exponent = -1074 := by
    have canonical := canonical_of_read zero
    exact canonical.large.resolve_right (by omega)
  apply eq_of_read_eq (by rw [zero]; nofun)
  cases negative
  · rw [zero, if_neg Bool.false_ne_true, read_zero]
  · rw [zero, if_pos rfl, read_neg_zero]

/-- Numbers that stand for the same are the same, or both are zero. -/
theorem eq_or_zero_of_amount?_eq (first : amount? x = some amount)
    (second : amount? y = some amount) : x = y ∨ (x = 0 ∧ y = -0) ∨ (x = -0 ∧ y = 0) := by
  have number := read_ne_notANumber first
  rcases left : read x with ⟨negative, mantissa, exponent⟩ | negative | _
  · rw [amount?_finite left] at first
    rcases right : read y with ⟨negative', mantissa', exponent'⟩ | negative' | _
    · rw [amount?_finite right] at second
      cases first
      have same : fraction negative mantissa exponent = fraction negative' mantissa' exponent' := by
        injection (Option.some.inj second).symm
      have magnitudes : (mantissa : ℚ) * 2 ^ exponent = mantissa' * 2 ^ exponent' := by
        rw [← abs_fraction negative, ← abs_fraction negative', same]
      obtain ⟨rfl, rfl⟩ :=
        (canonical_of_read left).eq_of_fraction_eq (canonical_of_read right) magnitudes
      by_cases signs : negative = negative'
      · subst signs
        exact .inl (eq_of_read_eq number (left.trans right.symm))
      · obtain rfl := eq_zero_of_fraction_eq signs same
        rw [eq_zero_of_read left, eq_zero_of_read right]
        cases negative <;> cases negative' <;> simp at signs ⊢
    · rw [amount?, right] at second
      cases first
      cases second
    · exact absurd right (read_ne_notANumber second)
  · rw [amount?, left] at first
    cases first
    rcases right : read y with ⟨negative', mantissa', exponent'⟩ | negative' | _
    · rw [amount?_finite right] at second
      cases second
    · rw [amount?, right] at second
      cases second
      exact .inl (eq_of_read_eq number (left.trans right.symm))
    · exact absurd right (read_ne_notANumber second)
  · exact absurd left number

theorem beq_iff_amount_eq {amount' : Amount} (first : amount? x = some amount)
    (second : amount? y = some amount') : (x == y) = true ↔ amount = amount' := by
  have ordinary : ∀ {z : Float} {amount : Amount}, amount? z = some amount → z ≠ Float.nan := by
    rintro z amount stands rfl
    exact read_ne_notANumber stands read_nan
  rw [Float.beq_iff_ne_nan_and_eq]
  constructor
  · rintro ⟨-, -, rfl | ⟨rfl, rfl⟩ | ⟨rfl, rfl⟩⟩
    · exact Option.some.inj (first.symm.trans second)
    · rw [amount?_finite read_neg_zero] at second
      exact Option.some.inj (first.symm.trans second)
    · rw [amount?_finite read_neg_zero] at first
      exact Option.some.inj (first.symm.trans second)
  · rintro rfl
    exact ⟨ordinary first, ordinary second, eq_or_zero_of_amount?_eq first second⟩

/-- The order of a number to an equal one is neither less nor greater. -/
theorem not_lt_of_beq (equal : (x == y) = true) : ¬ x < y := by
  have same : (x.toModel.unpack.compare y.toModel.unpack == some .eq) = true := equal
  intro less
  have other : (x.toModel.unpack.compare y.toModel.unpack == some .lt) = true :=
    of_decide_eq_true less
  rw [eq_of_beq same] at other
  cases other

theorem orderFloats_eq_iff {amount' : Amount} (first : amount? x = some amount)
    (second : amount? y = some amount') : orderFloats x y = some .eq ↔ amount = amount' := by
  rw [← beq_iff_amount_eq first second, orderFloats]
  constructor
  · intro ordered
    split_ifs at ordered with less greater equal <;> trivial
  · intro equal
    have back : (y == x) = true := by
      rw [beq_iff_amount_eq second first]
      exact ((beq_iff_amount_eq first second).mp equal).symm
    rw [if_neg (not_lt_of_beq equal), if_neg (not_lt_of_beq back), if_pos equal]

theorem compareInt_eq_iff (n : Int) (negative : Bool) (mantissa : Nat) (exponent : Int) :
    compareInt n negative mantissa exponent = .eq ↔
      (n : ℚ) = fraction negative mantissa exponent := by
  have sign : (if negative then -(mantissa : ℚ) else mantissa) =
      ((if negative then -(mantissa : Int) else mantissa : Int) : ℚ) := by
    cases negative <;> simp
  rw [fraction, sign, compareInt]
  have nonzero : ∀ more, (2 : ℚ) ^ more ≠ 0 := fun more => pow_ne_zero _ (by norm_num)
  by_cases whole : 0 ≤ exponent
  · obtain ⟨more, rfl⟩ := Int.eq_ofNat_of_zero_le whole
    rw [if_pos whole, compare_eq_iff_eq]
    exact_mod_cast Iff.rfl
  · obtain ⟨less, rfl⟩ : ∃ less : ℕ, exponent = -less := ⟨(-exponent).toNat, by omega⟩
    rw [if_neg whole, compare_eq_iff_eq, zpow_neg, zpow_natCast, ← div_eq_mul_inv,
      eq_div_iff (nonzero less), twoTo, neg_neg]
    exact_mod_cast Iff.rfl

theorem orderWhole_eq_iff (n : Int) (stands : amount? x = some amount) :
    orderWhole n x = some .eq ↔ Amount.finite n = amount := by
  rw [orderWhole]
  rcases reading : read x with ⟨negative, _, _⟩ | negative | _
  · rw [amount?_finite reading] at stands
    cases stands
    simp only [Option.some.injEq, compareInt_eq_iff, Amount.finite.injEq]
  · rw [amount?, reading] at stands
    cases stands
    cases negative <;> simp
  · exact absurd reading (read_ne_notANumber stands)

end Number

end DeviceScript
