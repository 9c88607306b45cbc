import DeviceScript.Value.Arithmetic

/-!
# Values without the numbers that tell them apart

Where arithmetic gives no number, the outcome is told apart from others by a serial number. What an
operator of arithmetic does with a value does not depend on these numbers: `erase` forgets them, in
lists and tuples too, and it commutes with writing values and with the four operations. In sets they
stay, because which items a difference of sets keeps does depend on them; but the outcomes of
arithmetic never get into a set.
-/

namespace DeviceScript.Value

variable (xs : List Value) (a b v : Value)

mutual

/-- The value without the numbers that tell undefined outcomes apart. -/
def erase : Value → Value
  | .undefined _ => .undefined 0
  | .list xs => .list (eraseAll xs)
  | .tuple xs => .tuple (eraseAll xs)
  | v => v

/-- The values of a list without these numbers. -/
def eraseAll : List Value → List Value
  | [] => []
  | x :: xs => erase x :: eraseAll xs

end

theorem eraseAll_eq_map : eraseAll xs = xs.map erase := by
  induction xs with
  | nil => rw [eraseAll, List.map_nil]
  | cons _ _ ih => rw [eraseAll, ih, List.map_cons]

@[simp]
theorem erase_list : erase (.list xs) = .list (xs.map erase) := by
  rw [erase, eraseAll_eq_map]

@[simp]
theorem erase_tuple : erase (.tuple xs) = .tuple (xs.map erase) := by
  rw [erase, eraseAll_eq_map]

mutual

@[simp]
theorem erase_erase (v : Value) : erase (erase v) = erase v := by
  cases v with
  | list | tuple => rw [erase, erase, eraseAll_eraseAll]
  | _ => simp only [erase]

theorem eraseAll_eraseAll (xs : List Value) : eraseAll (eraseAll xs) = eraseAll xs := by
  cases xs with
  | nil => simp only [eraseAll]
  | cons => rw [eraseAll, eraseAll, erase_erase, eraseAll_eraseAll]

end

/-! ## What does not depend on the numbers -/

@[simp]
theorem typeName_erase : (erase v).typeName = v.typeName := by
  cases v <;> simp [erase, typeName]

@[simp]
theorem truthy_erase : (erase v).truthy = v.truthy := by
  cases v <;> simp [erase, truthy, eraseAll_eq_map]

@[simp]
theorem whole?_erase : (erase v).whole? = v.whole? := by
  cases v <;> simp [erase, whole?]

@[simp]
theorem numeral?_erase : (erase v).numeral? = v.numeral? := by
  cases v <;> simp [erase, numeral?, real?, whole?]

theorem sequence?_erase : (erase v).sequence? = v.sequence?.map (List.map erase) := by
  cases v <;> simp [erase, sequence?, eraseAll_eq_map]

theorem equal_zero_erase : (erase v).equal (.int 0) = v.equal (.int 0) := by
  cases v <;> simp [erase, equal, orderNumbers?, real?, whole?]

mutual

theorem inside_erase (v : Value) : (erase v).inside = v.inside := by
  cases v with
  | list | tuple => rw [erase, inside, inside, insideAll_erase]
  | undefined => rw [erase, inside, inside]
  | _ => simp only [erase]

theorem insideAll_erase (xs : List Value) : insideAll (eraseAll xs) = insideAll xs := by
  cases xs with
  | nil => rw [eraseAll]
  | cons => rw [eraseAll, insideAll, insideAll, inside_erase, insideAll_erase]

end

@[simp]
theorem display_erase : (erase v).display = v.display := by
  cases v with
  | list xs => simpa only [display, erase] using inside_erase (.list xs)
  | tuple xs => simpa only [display, erase] using inside_erase (.tuple xs)
  | undefined serial => simpa only [display, erase] using inside_erase (.undefined serial)
  | _ => simp only [erase]

/-! ## Arithmetic -/

/-- Numbers give numbers, which have nothing to forget. -/
theorem numeric?_erase {onWholes : Int → Int → Except Failure Value}
    (wholes : ∀ n m, (onWholes n m).map erase = onWholes n m) (onReals : Float → Float → Float)
    (a b : Value) :
    numeric? onWholes onReals (erase a) (erase b) =
      (numeric? onWholes onReals a b).map fun o => o.map erase := by
  have real : ∀ (n : Int) (make : Float → Float),
      ((realOfWhole n).map fun x => Value.float (make x)).map erase =
        (realOfWhole n).map fun x => Value.float (make x) := by
    intro n make
    cases realOfWhole n <;> simp [Except.map, erase]
  rw [numeric?, numeric?, numeral?_erase, numeral?_erase]
  rcases a.numeral? with _ | (n | x) <;> rcases b.numeral? with _ | (m | y)
  · rfl
  · rfl
  · rfl
  · rfl
  · exact congrArg some (wholes n m).symm
  · exact congrArg some (real n (onReals · y)).symm
  · rfl
  · exact congrArg some (real m (onReals x)).symm
  · rfl

theorem add_erase : (erase a).add (erase b) = (a.add b).map erase := by
  unfold add addAs
  rw [numeric?_erase (fun n m => by simp [Except.map, erase])]
  cases numeric? (fun n m => .ok (.int (n + m))) (· + ·) a b with
  | some => rfl
  | none =>
    cases a with
    | list =>
      cases b with
      | list => simp [Except.map]
      | _ => rfl
    | tuple =>
      cases b with
      | tuple => simp [Except.map]
      | _ => rfl
    | _ => cases b <;> rfl

theorem subtract_erase : (erase a).subtract (erase b) = (a.subtract b).map erase := by
  unfold subtract
  rw [numeric?_erase (fun n m => by simp [Except.map, erase])]
  cases numeric? (fun n m => .ok (.int (n - m))) (· - ·) a b with
  | some => rfl
  | none => cases a <;> cases b <;> rfl

theorem repeated_map {α β : Type} (f : α → β) (xs : List α) (times : Int) :
    repeated (xs.map f) times = (repeated xs times).map (List.map f) := by
  unfold repeated
  rw [List.length_map, List.isEmpty_map]
  split
  · rfl
  · split
    · rfl
    · split
      · rfl
      · simp [Except.map, List.map_flatten]

theorem repeat?_erase (sequence times : Value) :
    repeat? (erase sequence) (erase times) = (repeat? sequence times).map fun o => o.map erase := by
  have lists : ∀ (xs : List Value) (n : Int),
      (repeated (xs.map erase) n).map Value.list = ((repeated xs n).map Value.list).map erase := by
    intro xs n
    rw [repeated_map]
    cases repeated xs n <;> simp [Except.map]
  have tuples : ∀ (xs : List Value) (n : Int),
      (repeated (xs.map erase) n).map Value.tuple =
        ((repeated xs n).map Value.tuple).map erase := by
    intro xs n
    rw [repeated_map]
    cases repeated xs n <;> simp [Except.map]
  have texts : ∀ (s : String) (n : Int),
      (repeatedText s n).map Value.text = ((repeatedText s n).map Value.text).map erase := by
    intro s n
    cases repeatedText s n <;> simp [Except.map, erase]
  cases sequence with
  | text s =>
    simp only [repeat?, erase, whole?_erase, typeName_erase, Option.map_some]
    cases times.whole? with
    | none => rfl
    | some n => exact congrArg some (texts s n)
  | list xs =>
    rw [erase_list]
    simp only [repeat?, whole?_erase, typeName_erase, Option.map_some]
    cases times.whole? with
    | none => rfl
    | some n => exact congrArg some (lists xs n)
  | tuple xs =>
    rw [erase_tuple]
    simp only [repeat?, whole?_erase, typeName_erase, Option.map_some]
    cases times.whole? with
    | none => rfl
    | some n => exact congrArg some (tuples xs n)
  | _ => rfl

theorem multiply_erase : (erase a).multiply (erase b) = (a.multiply b).map erase := by
  unfold multiply
  rw [numeric?_erase (fun n m => by simp [Except.map, erase]), repeat?_erase, repeat?_erase,
    typeName_erase, typeName_erase]
  cases numeric? (fun n m => .ok (.int (n * m))) (· * ·) a b with
  | some => rfl
  | none =>
    cases repeat? a b with
    | some => rfl
    | none => cases repeat? b a <;> rfl

theorem divide_erase : (erase a).divide (erase b) = (a.divide b).map erase := by
  have quotients : ∀ n m, (quotient n m).map erase = quotient n m := by
    intro n m
    unfold quotient
    split
    · rfl
    · split <;> simp [Except.map, erase]
  unfold divide
  rw [numeric?_erase quotients]
  cases numeric? quotient (· / ·) a b with
  | some => rfl
  | none => cases a <;> cases b <;> rfl

end DeviceScript.Value
