import DeviceScript.Proofs.Execution.Operating

/-!
# The order of operations

In a chain of operands with operators between them and no brackets, multiplication and division are
usually worked out before addition and subtraction. `usual` does that: it splits the chain into
groups of factors, works each group out from left to right, and then adds and subtracts the groups.
`leftToRight` treats all operators alike.

Both orders give the same if no multiplication or division stands behind an addition or a
subtraction (`leftToRight_eq_usual`). Otherwise there are whole numbers for which they differ: a
first group of ones, and zeros behind it. From left to right the zeros take the one away, and in the
usual order they are added to it (`exists_leftToRight_ne_usual`).
-/

namespace DeviceScript.Execution

open List Script Value

variable {k : TokenKind} {v : Value} {kinds : List TokenKind}

/-! ## Two orders -/

/-- The kind is multiplication or division. -/
def isProduct (k : TokenKind) : Bool := k = .times || k = .divide

/-- Operators and operands to the right of a first operand, worked out from left to right. -/
def leftToRight (start : Value) (parts : List (TokenKind × Value)) : Calculation Value :=
  parts.foldlM (fun left part => work part.1 left part.2) start

/-- A chain as groups of factors, each with its first factor in front, and with the operators of
addition and subtraction between the groups. -/
def groups (start : Value) : List (TokenKind × Value) →
    (Value × List (TokenKind × Value)) × List (TokenKind × Value × List (TokenKind × Value))
  | [] => ((start, []), [])
  | (k, operand) :: parts =>
    let (head, others) := groups operand parts
    if isProduct k then ((start, (k, head.1) :: head.2), others)
    else ((start, []), (k, head) :: others)

/-- The usual order: multiplication and division before addition and subtraction, each from left to
right. -/
def usual (start : Value) (parts : List (TokenKind × Value)) : Calculation Value := do
  let (head, others) := groups start parts
  let first ← leftToRight head.1 head.2
  others.foldlM (fun sum other => do
    let group ← leftToRight other.2.1 other.2.2
    work other.1 sum group) first

/-- No multiplication or division stands behind an addition or a subtraction. -/
def ProductsFirst (ks : List TokenKind) : Prop :=
  ∃ products sums, ks = products ++ sums ∧ (∀ k ∈ products, isProduct k = true) ∧
    ∀ k ∈ sums, isProduct k = false

/-! ## Chains for which the orders agree -/

theorem groups_of_sums (start : Value) {sums : List (TokenKind × Value)}
    (only : ∀ part ∈ sums, isProduct part.1 = false) :
    groups start sums = ((start, []), sums.map fun part => (part.1, part.2, [])) := by
  induction sums generalizing start with
  | nil => rfl
  | cons part _ ih =>
    rw [forall_mem_cons] at only
    simp only [groups, ih part.2 only.2, only.1, map_cons]
    rfl

theorem groups_append (start : Value) {products sums : List (TokenKind × Value)}
    (factors : ∀ part ∈ products, isProduct part.1 = true)
    (only : ∀ part ∈ sums, isProduct part.1 = false) :
    groups start (products ++ sums) =
      ((start, products), sums.map fun part => (part.1, part.2, [])) := by
  induction products generalizing start with
  | nil => exact groups_of_sums start only
  | cons part _ ih =>
    rw [forall_mem_cons] at factors
    rw [cons_append]
    simp only [groups, ih part.2 factors.2, factors.1, if_true]

theorem leftToRight_eq_usual (start : Value) {parts : List (TokenKind × Value)}
    (ordered : ProductsFirst (parts.map Prod.fst)) :
    leftToRight start parts = usual start parts := by
  obtain ⟨_, _, split, factors, only⟩ := ordered
  obtain ⟨front, back, rfl, rfl, rfl⟩ := map_eq_append_iff.mp split
  have grouped : groups start (front ++ back) =
      ((start, front), back.map fun part => (part.1, part.2, [])) :=
    groups_append start (by simpa using factors) (by simpa using only)
  rw [usual, grouped, leftToRight, foldlM_append]
  simp only [foldlM_map, leftToRight, foldlM_nil, pure_bind]

/-! ## Chains for which they do not -/

/-- Whatever numbers are taken, the calculation gives a value with the property. -/
def Yields {α : Type} (calculation : Calculation α) (P : α → Prop) : Prop :=
  ∀ serials, ∃ v later, calculation.run serials = .ok (v, later) ∧ P v

namespace Yields

variable {α β : Type} {calculation : Calculation α} {property : α → Prop}

theorem pure {v : α} (holds : property v) : Yields (Pure.pure v) property :=
  fun serials => ⟨v, serials, rfl, holds⟩

theorem bind {f : α → Calculation β} {wanted : β → Prop} (first : Yields calculation property)
    (second : ∀ v, property v → Yields (f v) wanted) : Yields (calculation >>= f) wanted := by
  intro serials
  obtain ⟨v, middle, calculated, holds⟩ := first serials
  obtain ⟨result, later, finished, wanted⟩ := second v holds middle
  refine ⟨result, later, ?_, wanted⟩
  rw [StateT.run_bind, calculated]
  exact finished

/-- What each step keeps, all steps keep. -/
theorem foldlM {γ : Type} {step : α → γ → Calculation α} {xs : List γ}
    (keeps : ∀ x ∈ xs, ∀ v, property v → Yields (step v x) property)
    {v : α} (holds : property v) : Yields (xs.foldlM step v) property := by
  induction xs generalizing v with
  | nil => exact pure holds
  | cons _ _ ih =>
    rw [forall_mem_cons] at keeps
    exact (keeps.1 v holds).bind fun next holds => ih keeps.2 holds

end Yields

/-- One, as a whole number or as a real. -/
def IsOne (v : Value) : Prop := v = .int 1 ∨ v = .float 1.0

/-- Zero that has been worked out from whole numbers. -/
def IsNought (v : Value) : Prop := v = .int 0 ∨ v = .float 0.0

theorem IsOne.ne {one nought : Value} (isOne : IsOne one) (isNought : IsNought nought) :
    one ≠ nought := by
  have apart : (1.0 : Float) ≠ 0.0 := by decide
  rcases isOne with rfl | rfl <;> rcases isNought with rfl | rfl <;> simp [apart]

section Working

variable {a b outcome : Value} (done : worked k a b = .ok outcome)

include done

/-- A value that is one or zero is not told apart by a number. -/
theorem yields_outcome (near : IsOne outcome ∨ IsNought outcome) :
    Yields (work k a b) fun v => v = outcome := by
  have real : ∀ {x : Float}, x.isNaN = false →
      Yields (Calculation.of (.ok (.float x)) >>= renewed) fun v => v = .float x := by
    intro x number serials
    refine ⟨_, serials + 1, rfl, ?_⟩
    rw [ofReal, number, if_neg Bool.false_ne_true]
  rw [work, done]
  rcases near with (rfl | rfl) | (rfl | rfl)
  · exact .pure rfl
  · exact real (by decide)
  · exact .pure rfl
  · exact real (by decide)

theorem yields_one (isOne : IsOne outcome) : Yields (work k a b) IsOne := by
  intro serials
  obtain ⟨v, later, calculated, rfl⟩ := yields_outcome done (.inl isOne) serials
  exact ⟨v, later, calculated, isOne⟩

theorem yields_zero (isNought : IsNought outcome) : Yields (work k a b) IsNought := by
  intro serials
  obtain ⟨v, later, calculated, rfl⟩ := yields_outcome done (.inr isNought) serials
  exact ⟨v, later, calculated, isNought⟩

end Working

theorem equal_zero (n : Int) : (int n).equal (.int 0) = decide (n = 0) := by
  by_cases zero : n = 0 <;> simp [equal, orderNumbers?, real?, whole?, zero]

theorem worked_divide_zero (v : Value) : worked .divide v (.int 0) = .ok (.int 0) := by
  rw [worked, equal_zero]
  rfl

theorem worked_divide_one (isOne : IsOne v) : worked .divide v (.int 1) = .ok (.float 1.0) := by
  have real : (1.0 : Float) / 1.0 = 1.0 := by decide +kernel
  rw [worked, equal_zero]
  rcases isOne with rfl | rfl
  · show Value.quotient 1 1 = _
    rw [Value.quotient]
    rfl
  · show Except.ok (float (1.0 / 1.0)) = _
    rw [real]

/-- One stays one if it is multiplied or divided by one. -/
theorem yields_one_of_product (product : isProduct k = true) (isOne : IsOne v) :
    Yields (work k v (.int 1)) IsOne := by
  cases k <;> cases product
  · rcases isOne with rfl | rfl
    · exact yields_one rfl (.inl rfl)
    · exact yields_one rfl (.inr rfl)
  · exact yields_one (worked_divide_one isOne) (.inr rfl)

/-- One stays one if zero is added or subtracted. -/
theorem yields_one_of_sum (arithmetic : isArithmetic k = true) (sum : isProduct k = false)
    (isOne : IsOne v) : Yields (work k v (.int 0)) IsOne := by
  rcases isOne with rfl | rfl <;> cases k <;> cases arithmetic <;> cases sum
  · exact yields_one rfl (.inl rfl)
  · exact yields_one rfl (.inl rfl)
  · exact yields_one rfl (.inr rfl)
  · exact yields_one rfl (.inr rfl)

/-- Whatever is multiplied or divided by zero is zero. -/
theorem yields_nought_of_product (product : isProduct k = true)
    (near : IsOne v ∨ IsNought v) : Yields (work k v (.int 0)) IsNought := by
  cases k <;> cases product
  · rcases near with (rfl | rfl) | (rfl | rfl)
    · exact yields_zero rfl (.inl rfl)
    · exact yields_zero rfl (.inr rfl)
    · exact yields_zero rfl (.inl rfl)
    · exact yields_zero rfl (.inr rfl)
  · exact yields_zero (worked_divide_zero v) (.inl rfl)

/-- Zero stays zero, whatever is done to it with zero. -/
theorem yields_nought (arithmetic : isArithmetic k = true) (isNought : IsNought v) :
    Yields (work k v (.int 0)) IsNought := by
  cases sum : isProduct k with
  | true => exact yields_nought_of_product sum (.inr isNought)
  | false =>
    rcases isNought with rfl | rfl <;> cases k <;> cases arithmetic <;> cases sum
    · exact yields_zero rfl (.inl rfl)
    · exact yields_zero rfl (.inl rfl)
    · exact yields_zero rfl (.inr rfl)
    · exact yields_zero rfl (.inr rfl)

/-- Operators, each with the same whole number on its right. -/
def withOperand (number : Int) (ks : List TokenKind) : List (TokenKind × Value) :=
  ks.map fun k => (k, .int number)

/-- From left to right, a multiplication or division by zero takes everything before it away. -/
theorem leftToRight_nought (arithmetic : ∀ k ∈ kinds, isArithmetic k = true)
    (some : ∃ k ∈ kinds, isProduct k = true) (isOne : IsOne v) :
    Yields (leftToRight v (withOperand 0 kinds)) IsNought := by
  induction kinds generalizing v with
  | nil =>
    obtain ⟨k, impossible, -⟩ := some
    cases impossible
  | cons k _ ih =>
    rw [forall_mem_cons] at arithmetic
    rw [leftToRight]
    cases product : isProduct k with
    | true =>
      refine (yields_nought_of_product product (.inl isOne)).bind fun next isNought =>
        Yields.foldlM (fun part mem v holds => ?_) isNought
      obtain ⟨k, listed, rfl⟩ := mem_map.mp mem
      exact yields_nought (arithmetic.2 k listed) holds
    | false =>
      refine (yields_one_of_sum arithmetic.1 product isOne).bind fun next isOne =>
        ih arithmetic.2 ?_ isOne
      obtain ⟨other, listed, isProduct'⟩ := some
      rcases mem_cons.mp listed with rfl | later
      · rw [product] at isProduct'
        cases isProduct'
      · exact ⟨other, later, isProduct'⟩

/-- In the usual order, the factors in front of an addition or subtraction are a group. -/
theorem groups_of_sum (start operand : Value) {front back : List (TokenKind × Value)}
    (factors : ∀ part ∈ front, isProduct part.1 = true) (sum : isProduct k = false) :
    groups start (front ++ (k, operand) :: back) =
      ((start, front), (k, (groups operand back).1) :: (groups operand back).2) := by
  induction front generalizing start with
  | nil => simp [groups, sum]
  | cons part _ ih =>
    rw [forall_mem_cons] at factors
    simp [groups, ih part.2 factors.2, factors.1]

def ZeroGroup (group : Value × List (TokenKind × Value)) : Prop :=
  group.1 = .int 0 ∧ ∀ part ∈ group.2, isProduct part.1 = true ∧ part.2 = .int 0

theorem yields_zeroGroup {group : Value × List (TokenKind × Value)} (zero : ZeroGroup group) :
    Yields (leftToRight group.1 group.2) fun v => v = .int 0 := by
  refine Yields.foldlM (fun part mem v holds => ?_) zero.1
  obtain ⟨product, operand⟩ := zero.2 part mem
  rw [holds, operand]
  cases k : part.1 <;> rw [k] at product <;> cases product
  · exact yields_outcome rfl (.inr (.inl rfl))
  · exact yields_outcome (worked_divide_zero _) (.inr (.inl rfl))

theorem groups_of_zeros (arithmetic : ∀ k ∈ kinds, isArithmetic k = true) :
    ZeroGroup (groups (.int 0) (withOperand 0 kinds)).1 ∧
      ∀ other ∈ (groups (.int 0) (withOperand 0 kinds)).2,
        isArithmetic other.1 = true ∧ isProduct other.1 = false ∧ ZeroGroup other.2 := by
  induction kinds with
  | nil => exact ⟨⟨rfl, by simp [groups, withOperand]⟩, by simp [groups, withOperand]⟩
  | cons k _ ih =>
    rw [forall_mem_cons] at arithmetic
    obtain ⟨⟨first, factors⟩, others⟩ := ih arithmetic.2
    rw [withOperand] at first factors others ⊢
    rw [map_cons]
    cases product : isProduct k with
    | true =>
      simp only [groups, product, if_true]
      refine ⟨⟨rfl, forall_mem_cons.mpr ⟨⟨product, first⟩, factors⟩⟩, others⟩
    | false =>
      simp only [groups, product, Bool.false_eq_true, if_false]
      exact ⟨⟨rfl, by simp⟩, forall_mem_cons.mpr ⟨⟨arithmetic.1, product, first, factors⟩, others⟩⟩

/-- Ones that are multiplied or divided are one. -/
theorem leftToRight_one (factors : ∀ k ∈ kinds, isProduct k = true) (isOne : IsOne v) :
    Yields (leftToRight v (withOperand 1 kinds)) IsOne := by
  refine Yields.foldlM (fun part mem v holds => ?_) isOne
  obtain ⟨k, listed, rfl⟩ := mem_map.mp mem
  exact yields_one_of_product (factors k listed) holds

/-- In the usual order, zeros that are multiplied are added to what stands before them. -/
theorem usual_one {products more : List TokenKind} {sum : TokenKind}
    (factors : ∀ k ∈ products, isProduct k = true) (isSum : isProduct sum = false)
    (arithmetic : ∀ k ∈ sum :: more, isArithmetic k = true) :
    Yields (usual (.int 1) (withOperand 1 products ++ withOperand 0 (sum :: more))) IsOne := by
  rw [forall_mem_cons] at arithmetic
  obtain ⟨head, others⟩ := groups_of_zeros arithmetic.2
  have grouped : groups (.int 1) (withOperand 1 products ++ (sum, .int 0) :: withOperand 0 more) =
      _ := groups_of_sum (.int 1) (.int 0) (by simpa [withOperand] using factors) isSum
  have all : ∀ other ∈ (sum, (groups (.int 0) (withOperand 0 more)).1) ::
      (groups (.int 0) (withOperand 0 more)).2,
      isArithmetic other.1 = true ∧ isProduct other.1 = false ∧ ZeroGroup other.2 :=
    forall_mem_cons.mpr ⟨⟨arithmetic.1, isSum, head⟩, others⟩
  rw [usual, withOperand, withOperand, map_cons, ← withOperand, ← withOperand, grouped]
  refine (leftToRight_one factors (.inl rfl)).bind fun v isOne =>
    Yields.foldlM (fun other mem v holds => ?_) isOne
  obtain ⟨arithmetic, isSum, zero⟩ := all other mem
  refine (yields_zeroGroup zero).bind fun group same => ?_
  rw [same]
  exact yields_one_of_sum arithmetic isSum holds

/-- Operators that are not in order: the first addition or subtraction, with a multiplication or
division behind it. -/
theorem exists_split_of_mixed (mixed : ¬ ProductsFirst kinds) :
    ∃ products sum more, kinds = products ++ sum :: more ∧
      (∀ k ∈ products, isProduct k = true) ∧ isProduct sum = false ∧
      ∃ k ∈ more, isProduct k = true := by
  have split := takeWhile_append_dropWhile (p := isProduct) (l := kinds)
  have factors : ∀ k ∈ kinds.takeWhile isProduct, isProduct k = true :=
    all_eq_true.mp all_takeWhile
  cases rest : kinds.dropWhile isProduct with
  | nil =>
    rw [rest] at split
    exact absurd ⟨_, [], split.symm, factors, by simp⟩ mixed
  | cons sum more =>
    have isSum : isProduct sum = false := by
      have first := head?_dropWhile_not isProduct kinds
      rw [rest] at first
      simpa using first
    rw [rest] at split
    by_cases product : ∃ k ∈ more, isProduct k = true
    · exact ⟨_, sum, more, split.symm, factors, isSum, product⟩
    · have others : ∀ k ∈ more, isProduct k = false := fun k mem =>
        Bool.eq_false_iff.mpr fun isProduct => product ⟨k, mem, isProduct⟩
      exact absurd ⟨_, sum :: more, split.symm, factors, forall_mem_cons.mpr ⟨isSum, others⟩⟩
        mixed

/-- Where a multiplication or division stands behind an addition or subtraction, there are whole
numbers for which the orders differ. -/
theorem exists_leftToRight_ne_usual (arithmetic : ∀ k ∈ kinds, isArithmetic k = true)
    (mixed : ¬ ProductsFirst kinds) :
    ∃ numbers : List Int, numbers.length = kinds.length ∧ ∀ serials,
      ((leftToRight (.int 1) (kinds.zip (numbers.map int))).run serials).map Prod.fst ≠
        ((usual (.int 1) (kinds.zip (numbers.map int))).run serials).map Prod.fst := by
  obtain ⟨products, sum, more, rfl, factors, isSum, some⟩ := exists_split_of_mixed mixed
  let numbers : List Int := products.map (fun _ => 1) ++ (sum :: more).map fun _ => 0
  have paired : (products ++ sum :: more).zip (numbers.map int) =
      withOperand 1 products ++ withOperand 0 (sum :: more) := by
    rw [map_append, zip_append (by simp), map_map, map_map, ← map_prod_left_eq_zip,
      ← map_prod_left_eq_zip]
    rfl
  refine ⟨numbers, by simp [numbers], fun serials => ?_⟩
  rw [forall_mem_append] at arithmetic
  have nought : Yields (leftToRight (.int 1) (withOperand 1 products ++
      withOperand 0 (sum :: more))) IsNought := by
    rw [leftToRight, foldlM_append]
    obtain ⟨k, later, product⟩ := some
    exact (leftToRight_one factors (.inl rfl)).bind fun v isOne =>
      leftToRight_nought arithmetic.2 ⟨k, mem_cons_of_mem _ later, product⟩ isOne
  obtain ⟨v, later, a, isNought⟩ := nought serials
  obtain ⟨_, _, b, isOne⟩ := usual_one factors isSum arithmetic.2 serials
  rw [paired, a, b]
  intro same
  exact isOne.ne isNought (Except.ok.inj same).symm

end DeviceScript.Execution
