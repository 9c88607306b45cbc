import DeviceScript.Proofs.Number.Amounts

/-!
# Equality of plain values

Plain values are what a script computes without the help of a device: nothing, numbers, texts, and
lists and tuples of plain values. `Equals` says when two of them are equal, numbers by what they
stand for and sequences by their length and their items. It comes in two forms: in the strict one a
list is equal to lists only, and a tuple to tuples only.

The function that compares values decides the strict form (`equal_iff_equals`).
-/

namespace DeviceScript.Value

open DeviceScript.Number

variable {a b v : Value} {amount amount' : Amount}

variable {strict : Bool} {lefts rights : List Value}

/-- What a number stands for. -/
def amount? : Value → Option Amount
  | .int v => some (.finite v)
  | .float v => Number.amount? v
  | _ => Option.none

theorem sequence?_list (xs : List Value) : (list xs).sequence? = some xs := rfl

theorem sequence?_tuple (xs : List Value) : (tuple xs).sequence? = some xs := rfl

/-- A value made of nothing, numbers, texts, lists and tuples. -/
inductive Plain : Value → Prop
  | nothing : Plain .none
  | int (v : Int) : Plain (.int v)
  | float {v : Float} {amount : Amount} (stands : Number.amount? v = some amount) :
      Plain (.float v)
  | text (s : String) : Plain (.text s)
  | list {xs : List Value} (plain : ∀ x ∈ xs, Plain x) : Plain (.list xs)
  | tuple {xs : List Value} (plain : ∀ x ∈ xs, Plain x) : Plain (.tuple xs)

theorem Plain.of_mem {x : Value} {xs : List Value} (plain : Plain v)
    (sequence : v.sequence? = some xs) (mem : x ∈ xs) : Plain x := by
  cases plain <;> cases sequence
  all_goals
    rename_i plain
    exact plain x mem

/-- The values are equal: numbers if they stand for the same, texts if they have the same
characters, sequences if they have the same length and equal items. If equality is strict, a list
is equal to no tuple. -/
@[mk_iff]
inductive Equals (strict : Bool) : Value → Value → Prop
  | nothing : Equals strict .none .none
  | number {left right : Value} {amount : Amount} (first : left.amount? = some amount)
      (second : right.amount? = some amount) : Equals strict left right
  | text (s : String) : Equals strict (.text s) (.text s)
  | sequence {left right : Value} {lefts rights : List Value}
      (first : left.sequence? = some lefts) (second : right.sequence? = some rights)
      (sorts : strict = true → left.typeName = right.typeName)
      (lengths : lefts.length = rights.length)
      (items : ∀ p ∈ lefts.zip rights, Equals strict p.1 p.2) : Equals strict left right

theorem Equals.of_strict (equals : Equals true a b) : Equals false a b := by
  induction equals with
  | nothing => exact .nothing
  | number first second => exact .number first second
  | text s => exact .text s
  | sequence first second _ lengths _ ih => exact .sequence first second nofun lengths ih

/-- Outside of sequences both forms of equality are the same. -/
theorem equals_iff_of_not_sequences (single : a.sequence? = Option.none ∨ b.sequence? = Option.none)
    (strict : Bool) : Equals strict a b ↔ Equals false a b := by
  constructor <;>
  · intro equals
    cases equals with
    | nothing => exact .nothing
    | number first second => exact .number first second
    | text s => exact .text s
    | sequence first second => simp [first, second] at single

/-! ## Comparison -/

/-- Only what is no number can be one and the same without being equal. -/
theorem Plain.same_eq_false (plain : Plain v) (other : Value) : same v other = false := by
  cases plain <;> rfl

theorem alikeAll_iff : ∀ lefts rights,
    (∀ x ∈ lefts, Plain x) →
      (alikeAll lefts rights = true ↔
        lefts.length = rights.length ∧ ∀ p ∈ lefts.zip rights, p.1.equal p.2 = true)
  | [], [], _ => by simp [alikeAll]
  | [], _ :: _, _ => by simp [alikeAll]
  | _ :: _, [], _ => by simp [alikeAll]
  | a :: lefts, b :: rights, plain => by
    rw [List.forall_mem_cons] at plain
    have first := plain.1.same_eq_false b
    have rest := alikeAll_iff lefts rights plain.2
    simp only [alikeAll, first, Bool.false_or, Bool.and_eq_true, rest, List.length_cons,
      List.zip_cons_cons, List.forall_mem_cons, Nat.add_right_cancel_iff]
    tauto

theorem exists_of_amount? (stands : v.amount? = some amount) :
    (∃ n, v = .int n ∧ amount = .finite n) ∨
      ∃ x, v = .float x ∧ Number.amount? x = some amount := by
  unfold amount? at stands
  split at stands
  · cases stands
    exact .inl ⟨_, rfl, rfl⟩
  · exact .inr ⟨_, rfl, stands⟩
  · cases stands

/-- Two numbers have the order of equal ones exactly if they stand for the same. -/
theorem orderNumbers?_eq_iff (first : a.amount? = some amount) (second : b.amount? = some amount') :
    orderNumbers? a b = some (some .eq) ↔ amount = amount' := by
  rcases exists_of_amount? first with ⟨n, rfl, rfl⟩ | ⟨x, rfl, first⟩ <;>
    rcases exists_of_amount? second with ⟨m, rfl, rfl⟩ | ⟨y, rfl, second⟩
  · show some (some (compare n m)) = _ ↔ _
    rw [Option.some.injEq, Option.some.injEq, compare_eq_iff_eq, Amount.finite.injEq, Int.cast_inj]
  · show some (orderWhole n y) = _ ↔ _
    rw [Option.some.injEq, orderWhole_eq_iff n second]
  · show some ((orderWhole m x).map Ordering.swap) = _ ↔ _
    rw [eq_comm (a := amount), ← orderWhole_eq_iff m first]
    rcases orderWhole m x with _ | _ | _ | _ <;> simp
  · show some (orderFloats x y) = _ ↔ _
    rw [Option.some.injEq, orderFloats_eq_iff first second]

theorem equals_iff_of_numbers (first : a.amount? = some amount)
    (second : b.amount? = some amount') : Equals strict a b ↔ amount = amount' := by
  constructor
  · intro equals
    cases equals with
    | nothing | text => cases first
    | number first' second' =>
      rw [first] at first'
      rw [second] at second'
      cases first'
      cases second'
      rfl
    | sequence sequence =>
      rcases exists_of_amount? first with ⟨_, rfl, _⟩ | ⟨_, rfl, _⟩ <;> cases sequence
  · rintro rfl
    exact .number first second

theorem equals_iff_of_sequences (first : a.sequence? = some lefts)
    (second : b.sequence? = some rights) :
    Equals strict a b ↔ (strict = true → a.typeName = b.typeName) ∧
      lefts.length = rights.length ∧ ∀ p ∈ lefts.zip rights, Equals strict p.1 p.2 := by
  constructor
  · intro equals
    cases equals with
    | nothing | text => cases first
    | number number =>
      rcases exists_of_amount? number with ⟨_, rfl, _⟩ | ⟨_, rfl, _⟩ <;> cases first
    | sequence first' second' sorts lengths items =>
      rw [first] at first'
      rw [second] at second'
      cases first'
      cases second'
      exact ⟨sorts, lengths, items⟩
  · rintro ⟨sorts, lengths, items⟩
    exact .sequence first second sorts lengths items

theorem equal_iff_of_numbers (first : a.amount? = some amount)
    (second : b.amount? = some amount') : a.equal b = true ↔ Equals true a b := by
  rw [equals_iff_of_numbers first second, ← orderNumbers?_eq_iff first second]
  rcases exists_of_amount? first with ⟨n, rfl, _⟩ | ⟨x, rfl, _⟩ <;>
    rcases exists_of_amount? second with ⟨m, rfl, _⟩ | ⟨y, rfl, _⟩ <;>
    simp only [equal, beq_iff_eq]

/-- Sequences of one sort are equal if their items are, one by one. -/
theorem alikeAll_iff_equals (first : a.sequence? = some lefts) (second : b.sequence? = some rights)
    (sorts : a.typeName = b.typeName) (plain : ∀ x ∈ lefts, Plain x)
    (items : ∀ p ∈ lefts.zip rights, (p.1.equal p.2 = true ↔ Equals true p.1 p.2)) :
    alikeAll lefts rights = true ↔ Equals true a b := by
  rw [alikeAll_iff lefts rights plain, equals_iff_of_sequences first second]
  constructor
  · rintro ⟨lengths, equal⟩
    exact ⟨fun _ => sorts, lengths, fun p mem => (items p mem).mp (equal p mem)⟩
  · rintro ⟨-, lengths, equals⟩
    exact ⟨lengths, fun p mem => (items p mem).mpr (equals p mem)⟩

/-- **The comparison of plain values decides strict equality.** The induction is on the first value;
of the second one only the sort matters, except that items are compared with items. -/
theorem equal_iff_equals (plain : Plain a) (plain' : Plain b) :
    a.equal b = true ↔ Equals true a b := by
  induction plain generalizing b with
  | nothing =>
    cases plain' <;> rw [equals_iff] <;>
      simp [amount?, sequence?, equal, orderNumbers?, real?, whole?]
  | int =>
    cases plain' with
    | int => exact equal_iff_of_numbers rfl rfl
    | float stands => exact equal_iff_of_numbers rfl stands
    | _ =>
      rw [equals_iff]
      simp [amount?, sequence?, equal, orderNumbers?, real?, whole?]
  | float stands =>
    cases plain' with
    | int => exact equal_iff_of_numbers stands rfl
    | float stands' => exact equal_iff_of_numbers stands stands'
    | _ =>
      rw [equals_iff]
      simp [amount?, sequence?, equal, orderNumbers?, real?, whole?]
  | text =>
    cases plain' with
    | text other =>
      rw [equals_iff]
      simp [amount?, sequence?, equal, eq_comm (a := other)]
    | _ =>
      rw [equals_iff]
      simp [amount?, sequence?, equal, orderNumbers?, real?, whole?]
  | @list xs plain ih =>
    cases plain' with
    | @list others plain' =>
      rw [equal]
      refine alikeAll_iff_equals (sequence?_list xs) (sequence?_list others) rfl plain
        fun p mem => ?_
      obtain ⟨first, second⟩ := List.of_mem_zip mem
      exact ih _ first (plain' _ second)
    | _ =>
      rw [equals_iff]
      simp [amount?, sequence?, typeName, equal, orderNumbers?, real?, whole?]
  | @tuple xs plain ih =>
    cases plain' with
    | @tuple others plain' =>
      rw [equal]
      refine alikeAll_iff_equals (sequence?_tuple xs) (sequence?_tuple others) rfl plain
        fun p mem => ?_
      obtain ⟨first, second⟩ := List.of_mem_zip mem
      exact ih _ first (plain' _ second)
    | _ =>
      rw [equals_iff]
      simp [amount?, sequence?, typeName, equal, orderNumbers?, real?, whole?]

end DeviceScript.Value
