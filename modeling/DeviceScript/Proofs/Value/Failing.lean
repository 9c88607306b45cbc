import DeviceScript.Value.Arithmetic

/-!
# How writing and computing fail

A value cannot be written if it holds a whole number that is too long, and neither can a tree of two
operands that stands alone (`display_error`). Computing fails because operands do not fit an
operator or because the outcome is too large (`OfComputing`). The two have no failure in common, and
no division by zero is among them unless something is divided by zero.
-/

namespace DeviceScript.Value

variable {α : Type} {e : Failure} {n : Int} {a b : Value}

/-! ## Written forms -/

theorem bind_eq_error_iff {β : Type} {first : Except Failure α} {f : α → Except Failure β}
    : first >>= f = .error e ↔ first = .error e ∨ ∃ v, first = .ok v ∧ f v = .error e := by
  cases first with
  | error | ok => simp [bind, Except.bind]

theorem wholeText_error (unwritten : wholeText n = .error e) : e = .wholeTooLong := by
  unfold wholeText at unwritten
  split at unwritten <;> cases unwritten
  rfl

mutual

/-- Inside a list only a number that is too long cannot be written. -/
theorem inside_error (v : Value) {e : Failure}
    (unwritten : v.inside = .error e) : e = .wholeTooLong := by
  cases v with
  | int => exact wholeText_error unwritten
  | list xs =>
    rw [inside, bind_eq_error_iff] at unwritten
    rcases unwritten with unwritten | ⟨texts, -, unwritten⟩
    · exact insideAll_error xs unwritten
    · cases unwritten
  | tuple xs | set xs =>
    rw [inside, bind_eq_error_iff] at unwritten
    rcases unwritten with unwritten | ⟨texts, -, unwritten⟩
    · exact insideAll_error xs unwritten
    · split at unwritten <;> cases unwritten
  | dict es =>
    rw [inside, bind_eq_error_iff] at unwritten
    rcases unwritten with unwritten | ⟨texts, -, unwritten⟩
    · exact insidePairs_error es unwritten
    · cases unwritten
  | _ => cases unwritten

theorem insideAll_error (xs : List Value) {e : Failure}
    (unwritten : insideAll xs = .error e) : e = .wholeTooLong := by
  cases xs with
  | nil => cases unwritten
  | cons x xs =>
    simp only [insideAll, bind_eq_error_iff] at unwritten
    rcases unwritten with unwritten | ⟨_, -, unwritten | ⟨_, -, unwritten⟩⟩
    · exact inside_error x unwritten
    · exact insideAll_error xs unwritten
    · cases unwritten

theorem insidePairs_error (es : List (Value × Value)) {e : Failure}
    (unwritten : insidePairs es = .error e) : e = .wholeTooLong := by
  rcases es with _ | ⟨⟨key, v⟩, es⟩
  · cases unwritten
  · simp only [insidePairs, bind_eq_error_iff] at unwritten
    rcases unwritten with unwritten | ⟨_, -, unwritten | ⟨_, -, unwritten | ⟨_, -, unwritten⟩⟩⟩
    · exact inside_error key unwritten
    · exact inside_error v unwritten
    · exact insidePairs_error es unwritten
    · cases unwritten

end

/-- What cannot be written is a number that is too long, or a tree without a written form. -/
theorem display_error (v : Value) (unwritten : v.display = .error e) :
    e = .wholeTooLong ∨ e = .noAttribute "BinOp" "mode" := by
  have leaf : ∀ {v : Value}, v.displayLeaf = .error e → e = .wholeTooLong := by
    intro v unwritten
    unfold displayLeaf at unwritten
    split at unwritten
    · cases unwritten
    · exact inside_error _ unwritten
  fun_induction display v with
  | case8 _ _ _ a b =>
    simp only [bind_eq_error_iff] at unwritten
    rcases unwritten with unwritten | ⟨_, -, unwritten | ⟨_, -, unwritten⟩⟩
    · exact a unwritten
    · exact b unwritten
    · cases unwritten
  | case12 =>
    cases unwritten
    exact .inr rfl
  | case13 =>
    simp only [bind_eq_error_iff] at unwritten
    rcases unwritten with unwritten | ⟨_, -, unwritten | ⟨_, -, unwritten⟩⟩
    · exact .inl (leaf unwritten)
    · exact .inl (leaf unwritten)
    · cases unwritten
  | case15 => exact .inl (inside_error _ unwritten)
  | _ => cases unwritten

/-! ## Arithmetic -/

/-- The failure is one of computing: the operands do not fit the operator, or the outcome is too
large. -/
def OfComputing (e : Failure) : Prop :=
  e.kind = .operandType ∨ e.kind = .overflow ∨ e.kind = .memory

theorem realOfWhole_error (failed : realOfWhole n = .error e) : OfComputing e := by
  unfold realOfWhole at failed
  split at failed <;> cases failed
  exact .inr (.inl rfl)

/-- Numbers fail as whole numbers do, or because one of them is too large to be a real. -/
theorem numeric?_error {onWholes : Int → Int → Except Failure Value}
    {onReals : Float → Float → Float}
    (wholes : ∀ n m, a.numeral? = some (.whole n) → b.numeral? = some (.whole m) →
      onWholes n m = .error e → OfComputing e)
    (failed : numeric? onWholes onReals a b = some (.error e)) :
    OfComputing e := by
  have converted : ∀ {n : Int} {make : Float → Value},
      (realOfWhole n).map make = .error e → OfComputing e := by
    intro n make failed
    rcases conversion : realOfWhole n with _ | x
    · rw [conversion] at failed
      cases failed
      exact realOfWhole_error conversion
    · rw [conversion] at failed
      cases failed
  unfold numeric? at failed
  split at failed
  · exact wholes _ _ ‹_› ‹_› (Option.some.inj failed)
  · exact converted (Option.some.inj failed)
  · exact converted (Option.some.inj failed)
  · cases failed
  · cases failed

theorem add_error (failed : a.add b = .error e) : OfComputing e := by
  unfold add addAs at failed
  split at failed
  · rename_i o computed
    subst failed
    refine numeric?_error (fun _ _ _ _ impossible => ?_) computed
    cases impossible
  · split at failed <;> cases failed <;> exact .inl rfl

theorem subtract_error (failed : a.subtract b = .error e) : OfComputing e := by
  unfold subtract at failed
  split at failed
  · rename_i o computed
    subst failed
    refine numeric?_error (fun _ _ _ _ impossible => ?_) computed
    cases impossible
  · split at failed <;> cases failed
    exact .inl rfl

theorem repeated_error {xs : List α} {times : Int}
    (failed : repeated xs times = .error e) : OfComputing e := by
  unfold repeated at failed
  split at failed
  · cases failed
    exact .inr (.inl rfl)
  · split at failed
    · cases failed
    · split at failed <;> cases failed
      exact .inr (.inr rfl)

theorem eq_error_of_map {β : Type} {o : Except Failure α} {make : α → β}
    (failed : o.map make = .error e) : o = .error e := by
  cases o with
  | error =>
    cases failed
    rfl
  | ok => cases failed

theorem repeatedText_error {s : String} {times : Int}
    (failed : repeatedText s times = .error e) : OfComputing e := by
  unfold repeatedText at failed
  split at failed
  · cases failed
    exact .inr (.inl rfl)
  · exact repeated_error (eq_error_of_map failed)

theorem repeat?_error {sequence times : Value}
    (failed : repeat? sequence times = some (.error e)) : OfComputing e := by
  unfold repeat? at failed
  split at failed
  · rw [Option.some.injEq] at failed
    split at failed
    · exact repeatedText_error (eq_error_of_map failed)
    · cases failed
      exact .inl rfl
  · rw [Option.some.injEq] at failed
    split at failed
    · exact repeated_error (eq_error_of_map failed)
    · cases failed
      exact .inl rfl
  · rw [Option.some.injEq] at failed
    split at failed
    · exact repeated_error (eq_error_of_map failed)
    · cases failed
      exact .inl rfl
  · cases failed

theorem multiply_error (failed : a.multiply b = .error e) : OfComputing e := by
  unfold multiply at failed
  split at failed
  · rename_i o computed
    subst failed
    refine numeric?_error (fun _ _ _ _ impossible => ?_) computed
    cases impossible
  · split at failed
    · rename_i o computed
      subst failed
      exact repeat?_error computed
    · split at failed
      · rename_i o computed
        subst failed
        exact repeat?_error computed
      · cases failed
        exact .inl rfl

theorem ne_zero_of_not_equal {v : Value} (number : v.numeral? = some (.whole n))
    (other : v.equal (.int 0) = false) : n ≠ 0 := by
  cases v <;> simp_all [numeral?, real?, whole?, equal, orderNumbers?]

theorem divide_error (other : b.equal (.int 0) = false) (failed : a.divide b = .error e) :
    OfComputing e := by
  unfold divide at failed
  split at failed
  · rename_i o computed
    subst failed
    refine numeric?_error (fun n m _ number failed => ?_) computed
    unfold quotient at failed
    rw [if_neg (ne_zero_of_not_equal number other)] at failed
    split at failed <;> cases failed
    exact .inr (.inl rfl)
  · split at failed <;> cases failed
    exact .inl rfl

mutual

theorem ordered_error {sign : OrderSign} (a b : Value) {e : Failure}
    (failed : ordered sign a b = .error e) : e.kind = .operandType := by
  unfold ordered at failed
  split at failed
  · cases failed
  · exact orderedAll_error _ _ failed
  · exact orderedAll_error _ _ failed
  · cases failed
  · cases failed
  · split at failed <;> cases failed
    rfl
  · split at failed <;> cases failed
    rfl

theorem orderedAll_error {sign : OrderSign} (lefts rights : List Value) {e : Failure}
    (failed : orderedAll sign lefts rights = .error e) : e.kind = .operandType := by
  unfold orderedAll at failed
  split at failed
  · cases failed
  · cases failed
  · cases failed
  · split at failed
    · exact orderedAll_error _ _ failed
    · exact ordered_error _ _ failed

end

end DeviceScript.Value
