import DeviceScript.Text.Blank
import DeviceScript.Text.Digit

/-!
# Letters, digits and blanks exclude each other

The classes of characters are tables of code point ranges. Two tables whose ranges stand in
ascending order are walked through together: at each step the lower of the two next ranges has
to begin above everything passed so far. A walk that reaches the end of both tables shows that no
code point lies in both (`walkApart_sound`), and the walks through the tables of letters, digits
and blanks are evaluated.

The lexer needs this to tell apart what begins a word, a number or a gap.
-/

namespace DeviceScript.Text

variable {range : Nat × Nat} {table : List (Nat × Nat)} {point : Nat} {c : Char}

/-- The code point lies in one of the ranges. -/
def Inside (table : List (Nat × Nat)) (point : Nat) : Prop :=
  ∃ range ∈ table, range.1 ≤ point ∧ point ≤ range.2

theorem inside_cons : Inside (range :: table) point ↔
      (range.1 ≤ point ∧ point ≤ range.2) ∨ Inside table point := by
  simp [Inside]

theorem not_inside_nil : ¬ Inside [] point := by
  simp [Inside]

/-- The character lies in a table exactly when its code point lies inside. -/
theorem contains_iff_inside (table : Ranges) (c : Char) :
    table.contains c = true ↔ Inside table.toList c.toNat := by
  rw [Ranges.contains, ← Array.any_toList, List.any_eq_true]
  simp only [Inside, Bool.and_eq_true, decide_eq_true_eq]

/-- Walks through two tables in ascending order; every range has to begin at `low` or above,
where `low` follows the last range passed. -/
def walkApart : (steps low : Nat) → List (Nat × Nat) → List (Nat × Nat) → Bool
  | 0, _, _, _ => false
  | _ + 1, _, [], [] => true
  | steps + 1, low, range :: first, [] =>
    low.ble range.1 && range.1.ble range.2 && walkApart steps (range.2 + 1) first []
  | steps + 1, low, [], range :: second =>
    low.ble range.1 && range.1.ble range.2 && walkApart steps (range.2 + 1) [] second
  | steps + 1, low, range :: first, range' :: second =>
    if range.1.blt range'.1 then
      low.ble range.1 && range.1.ble range.2 &&
        walkApart steps (range.2 + 1) first (range' :: second)
    else
      low.ble range'.1 && range'.1.ble range'.2 &&
        walkApart steps (range'.2 + 1) (range :: first) second

/-- A range that begins at `low` or above, followed by a table above it, is a table from `low`
on. -/
theorem le_of_inside_cons {low : Nat} (start : low ≤ range.1) (order : range.1 ≤ range.2)
    (above : Inside table point → range.2 + 1 ≤ point) (inside : Inside (range :: table) point) :
    low ≤ point := by
  rcases inside_cons.mp inside with ⟨_, _⟩ | later
  · omega
  · have := above later
    omega

/-- A range that another table stands above has no point in common with it. -/
theorem apart_cons {others : List (Nat × Nat)} (above : Inside others point → range.2 + 1 ≤ point)
    (apart : ¬ (Inside table point ∧ Inside others point)) :
    ¬ (Inside (range :: table) point ∧ Inside others point) := by
  rintro ⟨inside, other⟩
  rcases inside_cons.mp inside with ⟨_, _⟩ | later
  · have := above other
    omega
  · exact apart ⟨later, other⟩

/-- Tables that pass the walk begin at `low` and have no point in common. -/
theorem walkApart_sound (point : Nat) : ∀ (steps low : Nat) (first second : List (Nat × Nat)),
    walkApart steps low first second = true →
      (Inside first point → low ≤ point) ∧ (Inside second point → low ≤ point) ∧
        ¬ (Inside first point ∧ Inside second point)
  | 0, _, _, _, passed => by simp [walkApart] at passed
  | _ + 1, _, [], [], _ => by simp [not_inside_nil]
  | steps + 1, low, range :: first, [], passed => by
    simp only [walkApart, Bool.and_eq_true, Nat.ble_eq] at passed
    obtain ⟨above, -, -⟩ := walkApart_sound point steps _ first [] passed.2
    exact ⟨le_of_inside_cons passed.1.1 passed.1.2 above,
      fun inside => absurd inside not_inside_nil,
      fun both => not_inside_nil both.2⟩
  | steps + 1, low, [], range :: second, passed => by
    simp only [walkApart, Bool.and_eq_true, Nat.ble_eq] at passed
    obtain ⟨-, above, -⟩ := walkApart_sound point steps _ [] second passed.2
    exact ⟨fun inside => absurd inside not_inside_nil,
      le_of_inside_cons passed.1.1 passed.1.2 above,
      fun both => not_inside_nil both.1⟩
  | steps + 1, low, range :: first, range' :: second, passed => by
    simp only [walkApart] at passed
    split at passed
    · simp only [Bool.and_eq_true, Nat.ble_eq] at passed
      obtain ⟨aboveFirst, aboveSecond, apart⟩ :=
        walkApart_sound point steps _ first (range' :: second) passed.2
      refine ⟨le_of_inside_cons passed.1.1 passed.1.2 aboveFirst, fun inside => ?_,
        apart_cons aboveSecond apart⟩
      have := aboveSecond inside
      omega
    · simp only [Bool.and_eq_true, Nat.ble_eq] at passed
      obtain ⟨aboveFirst, aboveSecond, apart⟩ :=
        walkApart_sound point steps _ (range :: first) second passed.2
      refine ⟨fun inside => ?_, le_of_inside_cons passed.1.1 passed.1.2 aboveSecond,
        fun both => apart_cons aboveFirst (fun swapped => apart swapped.symm) both.symm⟩
      have := aboveFirst inside
      omega

/-- No point lies in both of two tables that pass the walk. -/
theorem not_inside_of_walkApart {steps : Nat} {first second : List (Nat × Nat)}
    (passed : walkApart steps 0 first second = true) (inside : Inside first point) :
    ¬ Inside second point :=
  fun other => (walkApart_sound point steps 0 first second passed).2.2 ⟨inside, other⟩

/-! ## The tables of the library -/

/-- The decimal digits as ranges of ten. -/
def decimalRanges : List (Nat × Nat) := zeroPoints.toList.map fun start => (start, start + 9)

theorem decimalValue?_isSome_iff (c : Char) :
    (decimalValue? c).isSome = true ↔ Inside decimalRanges c.toNat := by
  simp only [decimalValue?, Option.isSome_map, Array.find?_isSome, Bool.and_eq_true,
    decide_eq_true_eq, decimalRanges, Inside, List.mem_map, Array.mem_toList_iff]
  constructor
  · rintro ⟨start, mem, lower, upper⟩
    exact ⟨_, ⟨start, mem, rfl⟩, lower, Nat.le_of_lt_succ upper⟩
  · rintro ⟨_, ⟨start, mem, rfl⟩, lower, upper⟩
    exact ⟨start, mem, lower, Nat.lt_succ_of_le upper⟩

/-- The tables of the letters, of the digits and of the blanks are apart. -/
theorem tables_apart :
    walkApart 1000 0 letterRanges.toList blankRanges.toList = true ∧
      walkApart 1000 0 letterRanges.toList decimalRanges = true ∧
      walkApart 1000 0 letterRanges.toList enclosedDigitRanges.toList = true ∧
      walkApart 1000 0 decimalRanges blankRanges.toList = true ∧
      walkApart 1000 0 enclosedDigitRanges.toList blankRanges.toList = true := by
  decide +kernel

/-- Below 128 the only blanks are the controls and the space. -/
theorem le_space_of_isBlank (blank : isBlank c = true) (ascii : c.toNat < 128) : c.toNat ≤ 32 := by
  obtain ⟨_, mem, _, _⟩ := (contains_iff_inside blankRanges c).mp blank
  simp only [blankRanges, List.mem_cons, List.not_mem_nil, or_false] at mem
  rcases mem with rfl | rfl | rfl | rfl | rfl | rfl | rfl | rfl | rfl | rfl <;> omega

/-- The characters between the space and 128 are no blanks. -/
theorem isBlank_eq_false_of_visible (visible : 32 < c.toNat) (ascii : c.toNat < 128) :
    isBlank c = false := by
  rw [Bool.eq_false_iff]
  intro blank
  exact absurd (le_space_of_isBlank blank ascii) (Nat.not_le.mpr visible)

/-- The letters below 128 stand above the space and the digits. -/
theorem lt_toNat_of_isAlpha (letter : c.isAlpha = true) : 64 < c.toNat := by
  rcases (Bool.or_eq_true _ _).mp letter with upper | lower
  · have bounds : 65 ≤ c.toNat ∧ c.toNat ≤ 90 := of_decide_eq_true upper
    omega
  · have inside : (decide (97 ≤ c.toNat) && decide (c.toNat ≤ 122)) = true := lower
    have bounds := of_decide_eq_true ((Bool.and_eq_true _ _).mp inside).1
    omega

/-- The digits below 128 stand above the space and below the letters. -/
theorem toNat_of_isDigit (digit : c.isDigit = true) : 47 < c.toNat ∧ c.toNat < 58 := by
  simp only [Char.isDigit, Bool.and_eq_true, decide_eq_true_eq, ge_iff_le,
    UInt32.le_iff_toNat_le] at digit
  have zero : ('0'.val.toNat : Nat) = 48 := rfl
  have nine : ('9'.val.toNat : Nat) = 57 := rfl
  have : c.toNat = c.val.toNat := rfl
  omega

/-- **No letter is a blank.** -/
theorem isBlank_eq_false_of_isLetter (letter : isLetter c = true) : isBlank c = false := by
  rw [Bool.eq_false_iff]
  intro blank
  unfold isLetter at letter
  split at letter
  · have := le_space_of_isBlank blank (by assumption)
    have := lt_toNat_of_isAlpha letter
    omega
  · exact not_inside_of_walkApart tables_apart.1
      ((contains_iff_inside _ c).mp letter) ((contains_iff_inside _ c).mp blank)

/-- **No digit is a blank.** -/
theorem isBlank_eq_false_of_isDigit (digit : isDigit c = true) : isBlank c = false := by
  rw [Bool.eq_false_iff]
  intro blank
  unfold isDigit at digit
  split at digit
  · have := le_space_of_isBlank blank (by assumption)
    have := toNat_of_isDigit digit
    omega
  · have inside := (contains_iff_inside _ c).mp blank
    obtain ⟨-, -, -, decimals, encloseds⟩ := tables_apart
    rcases Bool.or_eq_true _ _ ▸ digit with decimal | enclosed
    · exact not_inside_of_walkApart decimals
        ((decimalValue?_isSome_iff c).mp decimal) inside
    · exact not_inside_of_walkApart encloseds
        ((contains_iff_inside _ c).mp enclosed) inside

/-- **No letter is a digit.** -/
theorem isDigit_eq_false_of_isLetter (letter : isLetter c = true) : isDigit c = false := by
  rw [Bool.eq_false_iff]
  intro digit
  unfold isDigit at digit
  unfold isLetter at letter
  split at digit
  · rename_i ascii
    rw [if_pos ascii] at letter
    have := lt_toNat_of_isAlpha letter
    have := toNat_of_isDigit digit
    omega
  · rename_i beyond
    rw [if_neg beyond] at letter
    have inside := (contains_iff_inside _ c).mp letter
    obtain ⟨-, decimals, encloseds, -⟩ := tables_apart
    rcases Bool.or_eq_true _ _ ▸ digit with decimal | enclosed
    · exact not_inside_of_walkApart decimals inside
        ((decimalValue?_isSome_iff c).mp decimal)
    · exact not_inside_of_walkApart encloseds inside
        ((contains_iff_inside _ c).mp enclosed)

end DeviceScript.Text
