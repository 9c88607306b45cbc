import DeviceScript.Proofs.Execution.Variables
import DeviceScript.Proofs.Value.Equality

/-!
# When comparisons tell whether values are equal

A condition that compares two values for equality is meant to hold exactly if they are equal, and
one that compares them for inequality exactly if they are not. Comparisons of single values do
that, with four exceptions. With a text on the left nothing is compared at all, and neither is
anything with nothing on the right and something that counts as true on the left: both conditions
then have the same outcome. Sequences are compared item by item up to the end of the shorter one,
and either condition asks for all the items that are compared, so that both can hold or fail
together; items that are sequences themselves are compared strictly. Finally, both conditions fail
if a whole number in one of the values is too long to be written. `Faithful` says what is left, and
`visit_equality_iff` that these are exactly the values that are compared as they are meant to be.
-/

namespace DeviceScript.Execution

open List Script
open DeviceScript.Value (Plain Equals)

variable {v : Value} {lefts rights : List Value}

/-- No whole number in the value has too many digits to be written. -/
inductive Short : Value → Prop
  | nothing : Short .none
  | int {v : Int} (few : v.natAbs < Number.tenTo Number.digitLimit) : Short (.int v)
  | float (v : Float) : Short (.float v)
  | text (s : String) : Short (.text s)
  | list {xs : List Value} (short : ∀ x ∈ xs, Short x) : Short (.list xs)
  | tuple {xs : List Value} (short : ∀ x ∈ xs, Short x) : Short (.tuple xs)

/-- An action ends with a value that counts as true. -/
def ActHolds (act : Act Value) (w : World) : Prop :=
  ∃ v w', act.perform w = (.ok v, w') ∧ v.truthy = true

/-- Comparing the values tells whether they are equal. -/
structure Faithful (left right : Value) : Prop where
  noText : ∀ content, left ≠ .text content
  compared : right = .none → left.truthy = false
  short : Short left ∧ Short right
  /-- Of two sequences some items are compared, and either all of them are equal and none is left
  over, or none of them are equal and neither are the sequences. -/
  sequences : ∀ lefts rights, left.sequence? = some lefts → right.sequence? = some rights →
    lefts.zip rights ≠ [] ∧
      ((lefts.length = rights.length ∧ ∀ pair ∈ lefts.zip rights, Equals true pair.1 pair.2) ∨
        (¬ Equals false left right ∧ ∀ pair ∈ lefts.zip rights, ¬ Equals true pair.1 pair.2))

/-! ## Written forms -/

/-- What cannot fail does not matter to whether something succeeds. -/
theorem isOk_bind {α β : Type} (first : Except Failure α) {f : α → Except Failure β}
    (total : ∀ v, (f v).isOk = true) : (first >>= f).isOk = first.isOk := by
  cases first with
  | error => rfl
  | ok v => exact total v

theorem isOk_insideAll (xs : List Value) : (Value.insideAll xs).isOk = xs.all (·.inside.isOk) := by
  induction xs with
  | nil => rfl
  | cons x _ ih =>
    rw [all_cons, ← ih, Value.insideAll]
    cases x.inside with
    | error => rfl
    | ok =>
      refine isOk_bind (Value.insideAll _) fun _ => ?_
      rfl

theorem isOk_inside_of_sequence? {xs : List Value} (sequence : v.sequence? = some xs) :
    v.inside.isOk = xs.all (·.inside.isOk) := by
  rw [← isOk_insideAll]
  cases v with
  | list =>
    cases sequence
    rw [Value.inside, isOk_bind]
    exact fun _ => rfl
  | tuple =>
    cases sequence
    rw [Value.inside, isOk_bind]
    rintro (_ | ⟨_, _ | _⟩) <;> rfl
  | _ => cases sequence

/-- A plain value has a written form inside a list exactly if it is short. -/
theorem isOk_inside_iff (plain : Plain v) : v.inside.isOk = true ↔ Short v := by
  induction plain with
  | nothing => exact iff_of_true rfl .nothing
  | int =>
    rw [Value.inside, wholeText]
    split
    · rename_i many
      refine iff_of_false Bool.false_ne_true fun short => ?_
      cases short with
      | int few => exact absurd few (Nat.not_lt.mpr many)
    · rename_i few
      exact iff_of_true rfl (.int (Nat.not_le.mp few))
  | float => exact iff_of_true rfl (.float _)
  | text s => exact iff_of_true rfl (.text s)
  | list _ ih =>
    rw [isOk_inside_of_sequence? rfl, all_eq_true, forall₂_congr ih]
    refine ⟨.list, fun short => ?_⟩
    cases short with
    | list short => exact short
  | tuple _ ih =>
    rw [isOk_inside_of_sequence? rfl, all_eq_true, forall₂_congr ih]
    refine ⟨.tuple, fun short => ?_⟩
    cases short with
    | tuple short => exact short

theorem isOk_display_iff (plain : Plain v) : v.display.isOk = true ↔ Short v := by
  rw [← isOk_inside_iff plain]
  cases plain with
  | text => exact iff_of_true rfl rfl
  | _ => simp only [Value.display]

/-! ## Single comparisons -/

/-- The sign of equality, or of inequality. -/
def equalitySign (wanted : Bool) : TokenKind := if wanted then .equal else .notEqual

theorem outcome?_equalitySign (wanted : Bool) (a b : Value) :
    outcome? (equalitySign wanted) a b = some (pure (.bool (a.equal b == wanted))) := by
  cases wanted <;> simp [outcome?, equalitySign]

/-- Both values are written to the log before the answer is given. -/
theorem holds_after_note (k : TokenKind) {a b : Value} (plain : Plain a)
    (plain' : Plain b) (answer : Bool) (w : World) :
    ActHolds (note k a b >>= fun _ => pure (.bool answer)) w ↔
      (Short a ∧ Short b) ∧ answer = true := by
  rw [← isOk_display_iff plain, ← isOk_display_iff plain']
  unfold note Act.shown
  rcases a.display with e | _
  · exact iff_of_false (by rintro ⟨_, _, ⟨⟩, _⟩) (by rintro ⟨⟨⟨⟩, _⟩, _⟩)
  rcases b.display with e | _
  · exact iff_of_false (by rintro ⟨_, _, ⟨⟩, _⟩) (by rintro ⟨⟨_, ⟨⟩⟩, _⟩)
  constructor
  · rintro ⟨_, _, outcome, holds⟩
    cases outcome
    exact ⟨⟨rfl, rfl⟩, holds⟩
  · rintro ⟨_, holds⟩
    exact ⟨_, _, rfl, holds⟩

theorem scalar_equalitySign (wanted : Bool) (a b : Value) :
    scalar (equalitySign wanted) a b = note (equalitySign wanted) a b >>= fun _ =>
        pure (.bool (a.equal b == wanted)) := by
  rw [scalar, outcome?_equalitySign]

/-! ## Comparisons item by item -/

theorem pointwise_equalitySign (wanted : Bool) : ∀ lefts rights,
    pointwise (equalitySign wanted) lefts rights =
      pure ((lefts.zip rights).map fun p => .bool (p.1.equal p.2 == wanted))
  | [], _ => rfl
  | _ :: _, [] => rfl
  | left :: lefts, b :: rights => by
    rw [pointwise, outcome?_equalitySign, pointwise_equalitySign wanted lefts rights]
    rfl

theorem among_false_map {γ : Type} (test : γ → Bool) (xs : List γ) :
    Value.among (.bool false) (xs.map fun x => .bool (test x)) = !xs.all test := by
  induction xs with
  | nil => rfl
  | cons x _ ih =>
    have first : Value.alike (.bool false) (.bool (test x)) = !test x := by
      cases test x <;>
        simp [Value.alike, Value.same, Value.equal, Value.orderNumbers?, Value.real?, Value.whole?]
    rw [Value.among] at ih ⊢
    rw [map_cons, any_cons, ih, first, all_cons, Bool.not_and]

theorem items_of_sequence? {xs : List Value}
    (sequence : v.sequence? = some xs) : v.items = .ok xs := by
  unfold Value.sequence? at sequence
  split at sequence <;> cases sequence <;> rfl

theorem vector_equalitySign (wanted : Bool) {a b : Value}
    (first : a.sequence? = some lefts) (second : b.sequence? = some rights) :
    vector (equalitySign wanted) a b = note (equalitySign wanted) a b >>= fun _ =>
        pure (.bool ((lefts.zip rights).all fun p => p.1.equal p.2 == wanted)) := by
  have comparison : isArithmetic (equalitySign wanted) = false := by cases wanted <;> rfl
  have negated : ∀ xs : List (Value × Value),
      (!Value.among (.bool false)
        (xs.map fun p => .bool (p.1.equal p.2 == wanted))) =
          xs.all fun p => p.1.equal p.2 == wanted := by
    intro xs
    rw [among_false_map, Bool.not_not]
  rw [vector, comparison, outcome?_equalitySign, items_of_sequence? first,
    items_of_sequence? second]
  simp only [Act.ofExcept, pointwise_equalitySign, pure_bind, negated]
  rfl

/-! ## Comparisons of any two values -/

theorem isVector_eq_of_plain (plain : Plain v) : isVector v = v.sequence?.isSome := by
  cases plain <;> rfl

/-- The operator is not looked at if a text is on the left. -/
theorem operate_text (k k' : TokenKind) (s : String) (b : Value) :
    operate k (.text s) b = operate k' (.text s) b := by
  rw [operate, operate]

/-- The operator is not looked at if something that counts as true is compared with nothing. -/
theorem operate_truthy_none (k k' : TokenKind) {a : Value} (truthy : a.truthy = true) :
    operate k a .none = operate k' a .none := by
  cases a <;> simp [operate, truthy]

theorem operate_sequences (k : TokenKind) {a b : Value} (plain : Plain a) (plain' : Plain b)
    (first : a.sequence? = some lefts) (second : b.sequence? = some rights) :
    operate k a b = vector k a b := by
  cases plain <;> cases first <;> cases plain' <;> cases second <;> rfl

theorem operate_single (k : TokenKind) {a b : Value} (plain : Plain a) (plain' : Plain b)
    (noText : ∀ s, a ≠ .text s) (compared : b = .none → a.truthy = false)
    (single : a.sequence? = none ∨ b.sequence? = none) : operate k a b = scalar k a b := by
  have notBoth : (isVector a && isVector b) = false := by
    rw [isVector_eq_of_plain plain, isVector_eq_of_plain plain']
    rcases single with single | single <;> simp [single]
  unfold operate
  split
  · exact absurd rfl (noText _)
  · rw [compared rfl, if_neg Bool.false_ne_true]
  · rw [notBoth, if_neg Bool.false_ne_true]

/-! ## Faithful comparisons -/

section Faithfulness

variable {a b : Value} (w : World)

/-- Conditions that have the same outcome do not tell anything apart. -/
theorem not_iff_not_of_eq {first second : Act Value} (same : second = first) :
    ¬ (ActHolds second w ↔ ¬ ActHolds first w) := by
  rw [same]
  exact fun contrary => iff_not_self contrary

theorem holds_equality_single (plain : Plain a) (plain' : Plain b) (noText : ∀ s, a ≠ .text s)
    (compared : b = .none → a.truthy = false) (single : a.sequence? = none ∨ b.sequence? = none) :
    (ActHolds (operate .equal a b) w ↔ (Short a ∧ Short b) ∧ Equals false a b) ∧
    (ActHolds (operate .notEqual a b) w ↔ (Short a ∧ Short b) ∧ ¬ Equals false a b) := by
  have outcome : ∀ wanted, ActHolds (operate (equalitySign wanted) a b) w ↔
      (Short a ∧ Short b) ∧ a.equal b = wanted := by
    intro wanted
    rw [operate_single _ plain plain' noText compared single, scalar_equalitySign,
      holds_after_note _ plain plain', beq_iff_eq]
  have equality : a.equal b = true ↔ Equals false a b :=
    (Value.equal_iff_equals plain plain').trans (Value.equals_iff_of_not_sequences single true)
  refine ⟨(outcome true).trans (and_congr_right fun _ => equality),
    (outcome false).trans (and_congr_right fun _ => ?_)⟩
  rw [← equality, Bool.not_eq_true]

theorem holds_equality_sequences (plain : Plain a) (plain' : Plain b)
    (first : a.sequence? = some lefts) (second : b.sequence? = some rights) :
    (ActHolds (operate .equal a b) w ↔
      (Short a ∧ Short b) ∧ ∀ p ∈ lefts.zip rights, Equals true p.1 p.2) ∧
    (ActHolds (operate .notEqual a b) w ↔
      (Short a ∧ Short b) ∧ ∀ p ∈ lefts.zip rights, ¬ Equals true p.1 p.2) := by
  have outcome : ∀ wanted, ActHolds (operate (equalitySign wanted) a b) w ↔
      (Short a ∧ Short b) ∧ ∀ p ∈ lefts.zip rights, p.1.equal p.2 = wanted := by
    intro wanted
    rw [operate_sequences _ plain plain' first second, vector_equalitySign wanted first second,
      holds_after_note _ plain plain', all_eq_true]
    simp only [beq_iff_eq]
  have equality : ∀ p ∈ lefts.zip rights, (p.1.equal p.2 = true ↔ Equals true p.1 p.2) := by
    intro p mem
    obtain ⟨inFirst, inSecond⟩ := of_mem_zip mem
    exact Value.equal_iff_equals (plain.of_mem first inFirst) (plain'.of_mem second inSecond)
  refine ⟨(outcome true).trans (and_congr_right fun _ => forall₂_congr equality),
    (outcome false).trans (and_congr_right fun _ => forall₂_congr fun p mem => ?_)⟩
  rw [← equality p mem, Bool.not_eq_true]

/-- Two tests that need short values are opposite, and the first one is right, exactly if the values
are short. -/
theorem opposite_iff_short {short equal : Prop} :
    ((short ∧ equal ↔ equal) ∧ (short ∧ ¬ equal ↔ ¬ (short ∧ equal))) ↔ short := by
  tauto

/-- The tests whether all pairs and whether no pairs are equal are opposite, and the first one is
right, exactly if the values are short, there are pairs, and either all pairs are equal and nothing
is left over, or no pairs are equal and neither is the whole. -/
theorem opposite_iff_of_pairs {γ : Type} {pairs : List γ} {equal : γ → Prop}
    {short same long : Prop} (whole : long → (∀ pair ∈ pairs, equal pair) → same)
    (lengths : same → long) :
    ((short ∧ (∀ pair ∈ pairs, equal pair) ↔ same) ∧
      (short ∧ (∀ pair ∈ pairs, ¬ equal pair) ↔ ¬ (short ∧ ∀ pair ∈ pairs, equal pair))) ↔
    short ∧ pairs ≠ [] ∧
      ((long ∧ ∀ pair ∈ pairs, equal pair) ∨ (¬ same ∧ ∀ pair ∈ pairs, ¬ equal pair)) := by
  cases pairs with
  | nil => simp
  | cons => tauto

/-- Both comparisons tell whether the values are equal exactly if they are faithful. -/
theorem faithful_iff (plain : Plain a) (plain' : Plain b) :
    ((ActHolds (operate .equal a b) w ↔ Equals false a b) ∧
      (ActHolds (operate .notEqual a b) w ↔ ¬ ActHolds (operate .equal a b) w)) ↔ Faithful a b := by
  -- Where the operator is not looked at, both comparisons have one outcome.
  by_cases noText : ∀ s, a ≠ .text s
  swap
  · obtain ⟨s, rfl⟩ := not_forall_not.mp noText
    refine iff_of_false (fun both => ?_) (fun faithful => faithful.noText s rfl)
    exact not_iff_not_of_eq w (operate_text _ _ s b) both.2
  by_cases compared : b = .none → a.truthy = false
  swap
  · obtain ⟨rfl, truthy⟩ := Classical.not_imp.mp compared
    rw [Bool.not_eq_false] at truthy
    refine iff_of_false (fun both => ?_) (fun faithful => compared faithful.compared)
    exact not_iff_not_of_eq w (operate_truthy_none _ _ truthy) both.2
  by_cases single : a.sequence? = none ∨ b.sequence? = none
  · obtain ⟨equal, notEqual⟩ := holds_equality_single w plain plain' noText compared single
    rw [equal, notEqual, opposite_iff_short]
    refine ⟨fun short => ⟨noText, compared, short, fun lefts rights first second => ?_⟩,
      Faithful.short⟩
    simp [first, second] at single
  · rw [not_or, ← ne_eq, ← ne_eq, Option.ne_none_iff_exists', Option.ne_none_iff_exists'] at single
    obtain ⟨⟨lefts, first⟩, ⟨rights, second⟩⟩ := single
    obtain ⟨equal, notEqual⟩ := holds_equality_sequences w plain plain' first second
    have whole : lefts.length = rights.length →
        (∀ p ∈ lefts.zip rights, Equals true p.1 p.2) → Equals false a b :=
      fun lengths xs => .sequence first second nofun lengths fun p mem =>
        (xs p mem).of_strict
    have lengths : Equals false a b → lefts.length = rights.length := fun same =>
      ((Value.equals_iff_of_sequences first second).mp same).2.1
    rw [equal, notEqual, opposite_iff_of_pairs whole lengths]
    constructor
    · rintro ⟨short, pairs⟩
      refine ⟨noText, compared, short, fun lefts' rights' first' second' => ?_⟩
      rw [first] at first'
      rw [second] at second'
      cases first'
      cases second'
      exact pairs
    · rintro ⟨-, -, short, pairs⟩
      exact ⟨short, pairs lefts rights first second⟩

end Faithfulness

/-- A condition of two operands holds exactly if the operator does, on what they evaluate to. -/
theorem holds_binary_iff {host : Host} {most d : Nat} {site : Site}
    {a b : Tree Value} {m m' m'' : Machine} {w w' w'' : World}
    {first second : Value} (operator : Token)
    (evaluated : (visit host ⟨most, d⟩ ((0, 0) :: site) a).perform m w = ((.ok first, m'), w'))
    (evaluated' : (visit host ⟨most, d⟩ ((0, 1) :: site) b).perform m' w' =
      ((.ok second, m''), w'')) :
    Holds (visit host ⟨most, d + 1⟩ site (.binary a operator b)) m w ↔
      ActHolds (operate operator.kind first second) w'' := by
  have performed : (visit host ⟨most, d + 1⟩ site (.binary a operator b)).perform
      m w = (Exec.ofAct (operate operator.kind first second)).perform m'' w'' := by
    show (unlessStopped _).perform m w = _
    rw [perform_unlessStopped_of_running (running_of_visitWithin_ok evaluated)]
    exact (Exec.perform_bind_ok evaluated).trans (Exec.perform_bind_ok evaluated')
  rw [Holds, ActHolds, performed, Exec.perform_ofAct]
  rcases (operate operator.kind first second).perform w'' with ⟨_ | _, _⟩
  · constructor
    · rintro ⟨_, _, _, outcome, _⟩
      cases outcome
    · rintro ⟨_, _, outcome, _⟩
      cases outcome
  · constructor
    · rintro ⟨_, _, _, outcome, truthy⟩
      cases outcome
      exact ⟨_, _, rfl, truthy⟩
    · rintro ⟨_, _, outcome, truthy⟩
      cases outcome
      exact ⟨_, _, _, rfl, truthy⟩

/-- **When a condition tells whether two values are equal.** For operands that evaluate to plain
values, the comparison for equality holds exactly if the values are equal, and the comparison for
inequality exactly if it does not, just if the values are compared faithfully. -/
theorem visit_equality_iff (host : Host) (most depth : Nat) (site : Site)
    (left right : Script.Tree Value) (machine middle later : Machine)
    (world between after : World) (first second : Value) (plain : Plain first)
    (plain' : Plain second)
    (evaluated : (visit host ⟨most, depth⟩ ((0, 0) :: site) left).perform machine world =
      ((.ok first, middle), between))
    (evaluated' : (visit host ⟨most, depth⟩ ((0, 1) :: site) right).perform middle between =
      ((.ok second, later), after)) :
    let equal := visit host ⟨most, depth + 1⟩ site (.binary left ⟨.equal, "=="⟩ right)
    let notEqual := visit host ⟨most, depth + 1⟩ site (.binary left ⟨.notEqual, "!="⟩ right)
    ((Holds equal machine world ↔ Equals false first second) ∧
      (Holds notEqual machine world ↔ ¬ Holds equal machine world)) ↔ Faithful first second := by
  intro equal notEqual
  rw [holds_binary_iff ⟨.equal, "=="⟩ evaluated evaluated',
    holds_binary_iff ⟨.notEqual, "!="⟩ evaluated evaluated']
  exact faithful_iff after plain plain'

/-- Different texts are compared as equal, and as unequal too. -/
theorem different_texts_hold_as_equal :
    let compare := fun operator =>
      visit Host.bare ⟨0, 2⟩ [] (.binary (.string "a") operator (.string "b"))
    ¬ Equals false (.text "a") (.text "b") ∧
      Holds (compare ⟨.equal, "=="⟩) (Machine.initial Path.here) default ∧
      Holds (compare ⟨.notEqual, "!="⟩) (Machine.initial Path.here) default := by
  refine ⟨?_, ⟨.text "a b", _, _, rfl, rfl⟩, ⟨.text "a b", _, _, rfl, rfl⟩⟩
  rw [Value.equals_iff]
  simp [Value.amount?, Value.sequence?]

/-- A state with a list and a tuple of the same items. -/
def twoSequences : Machine :=
  { Machine.initial Path.here with
    globals := [("x", .list [.int 1, .text "a"]), ("y", .tuple [.int 1, .text "a"])] }

theorem visit_equality_iff_twoSequences :
    let first := Value.list [.int 1, .text "a"]
    let second := Value.tuple [.int 1, .text "a"]
    let equal := visit Host.bare ⟨0, 2⟩ [] (.binary (.variable "x") ⟨.equal, "=="⟩ (.variable "y"))
    let notEqual :=
      visit Host.bare ⟨0, 2⟩ [] (.binary (.variable "x") ⟨.notEqual, "!="⟩ (.variable "y"))
    (Plain first ∧ Plain second) ∧
    (visit Host.bare ⟨0, 1⟩ [(0, 0)] (.variable "x")).perform twoSequences default =
      ((.ok first, twoSequences), default) ∧
    (visit Host.bare ⟨0, 1⟩ [(0, 1)] (.variable "y")).perform twoSequences default =
      ((.ok second, twoSequences), default) ∧
    Faithful first second ∧
    (((Holds equal twoSequences default ↔ Equals false first second) ∧
      (Holds notEqual twoSequences default ↔ ¬ Holds equal twoSequences default)) ↔
        Faithful first second) := by
  have plain : ∀ item ∈ [Value.int 1, .text "a"], Plain item := by
    intro item member
    rcases mem_pair.mp member with rfl | rfl
    · exact .int 1
    · exact .text "a"
  have few : ∀ limit, limit ≠ 0 → 1 < Number.tenTo limit := fun limit positive =>
    Nat.one_lt_pow positive (by decide)
  have short : ∀ item ∈ [Value.int 1, .text "a"], Short item := by
    intro item member
    rcases mem_pair.mp member with rfl | rfl
    · exact .int (few _ (by decide))
    · exact .text "a"
  have faithful : Faithful (.list [.int 1, .text "a"]) (.tuple [.int 1, .text "a"]) := by
    refine ⟨nofun, nofun, ⟨.list short, .tuple short⟩, ?_⟩
    rintro _ _ ⟨⟩ ⟨⟩
    refine ⟨cons_ne_nil _ _, .inl ⟨rfl, fun pair member => ?_⟩⟩
    rcases mem_pair.mp member with rfl | rfl
    · exact .number rfl rfl
    · exact .text "a"
  exact ⟨⟨.list plain, .tuple plain⟩, rfl, rfl, faithful,
    visit_equality_iff Host.bare 0 1 [] (.variable "x") (.variable "y") twoSequences twoSequences
      twoSequences default default default _ _ (.list plain) (.tuple plain) rfl rfl⟩

end DeviceScript.Execution
