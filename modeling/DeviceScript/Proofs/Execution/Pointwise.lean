import DeviceScript.Proofs.Execution.Comparison
import DeviceScript.Proofs.Execution.Operating

/-!
# Operators item by item

On two sequences an operator is meant to do what it does on the pairs of their items, one after
another up to the end of the shorter sequence (`Pointwise`). The order is not quite the same: on two
single values the operator writes them to the log and then works itself out, on sequences it works
out all pairs first and then writes the sequences as a whole. A value with a whole number that is
too long cannot be written, and neither can a tree of two operands that stands alone, so that
another failure can come first, or none at all, and items that have no partner can make the operator
fail.
`Undisturbed` says that none of this happens, and `vector_pointwise_iff` that exactly then the
operator works item by item.
-/

namespace DeviceScript.Execution

open List Script

variable {e : Failure} {v : Value}

variable {γ : Type} {serials later : Nat} {pairs : List (Value × Value)} {xs : List Value}
  {zero : Value}

/-- What an operator on two sequences gives for the outcomes of their pairs of items: arithmetic
gives the list of them, and a comparison holds if all of them do. -/
def gathered (k : TokenKind) (xs : List Value) : Value :=
  if isArithmetic k then .list xs else .bool (xs.all Value.truthy)

/-! ## Operations on sequences -/

section Sequences

variable {k : TokenKind} {a b : Value} {lefts rights : List Value}

/-- An operator on two sequences works out all pairs of items, and then writes the sequences. -/
theorem carries_vector (operation : isOperation k = true) (first : a.sequence? = some lefts)
    (second : b.sequence? = some rights) :
    Carries (vector k a b) (do
      let xs ← (lefts.zip rights).mapM fun p => work k p.1 p.2
      let _ ← Calculation.of (written a b)
      return if isArithmetic k then .list xs
        else .bool (!Value.among (.bool false) xs)) := by
  obtain ⟨_, outcome, -⟩ := exists_outcome operation a b
  have pairs := carries_pointwise operation lefts rights
  rw [vector, outcome, items_of_sequence? first, items_of_sequence? second]
  cases isArithmetic k with
  | true | false => exact pairs.bind fun _ => (carries_note k a b).bind fun _ => .pure _

/-- A comparison is worked out as a truth value. -/
theorem exists_worked_bool (operation : isOperation k = true) (comparison : isArithmetic k = false)
    (a b : Value) : ∃ o : Except Failure Bool, worked k a b = o.map Value.bool := by
  cases k with
  | equal => exact ⟨.ok (a.equal b), rfl⟩
  | notEqual => exact ⟨.ok (!a.equal b), rfl⟩
  | less | greater | atMost | atLeast => exact ⟨_, rfl⟩
  | plus | minus | times | divide => cases comparison
  | _ => cases operation

/-- What calculations give one after another, each of them has given. -/
theorem forall₂_of_mapM {α : Type} {each : γ → Calculation α} (P : γ → α → Prop)
    (gives : ∀ x serials v later, (each x).run serials = .ok (v, later) → P x v) (xs : List γ)
    {vs : List α} (result : (xs.mapM each).run serials = .ok (vs, later)) :
    List.Forall₂ P xs vs := by
  induction xs generalizing serials vs with
  | nil =>
    cases result
    exact .nil
  | cons x xs ih =>
    rw [mapM_cons, StateT.run_bind] at result
    rcases first : (each x).run serials with e | ⟨v, middle⟩
    · rw [first] at result
      cases result
    · rw [first] at result
      change ((xs.mapM each) >>= fun vs => pure (v :: vs)).run middle = _ at result
      rw [StateT.run_bind] at result
      rcases rest : (xs.mapM each).run middle with e | ⟨_, _⟩
      · rw [rest] at result
        cases result
      · rw [rest] at result
        cases result
        exact .cons (gives x serials v middle first) (ih rest)

/-- Comparisons of pairs, worked out one after another, are truth values. -/
theorem exists_answers (operation : isOperation k = true) (comparison : isArithmetic k = false)
    (result : (pairs.mapM fun p => work k p.1 p.2).run serials = .ok (xs, later)) :
    ∃ answers : List Bool, xs = answers.map Value.bool := by
  have each := forall₂_of_mapM (fun _ x => ∃ answer, x = Value.bool answer)
    (fun p serials v later result => by
      obtain ⟨o, same⟩ := exists_worked_bool operation comparison p.1 p.2
      rw [work, same] at result
      cases o with
      | error => cases result
      | ok answer =>
        cases result
        exact ⟨answer, rfl⟩) pairs result
  clear result
  induction each with
  | nil => exact ⟨[], rfl⟩
  | cons answered _ ih =>
    obtain ⟨answer, rfl⟩ := answered
    obtain ⟨answers, rfl⟩ := ih
    exact ⟨answer :: answers, rfl⟩

/-- No false answer is among the outcomes exactly if all of them are true. -/
theorem not_among_false (answers : List Bool) :
    (!Value.among (.bool false) (answers.map Value.bool)) =
      (answers.map Value.bool).all Value.truthy := by
  rw [all_map]
  exact (congrArg not (among_false_map id answers)).trans (Bool.not_not _)

/-- Working out an operator on sequences: first the pairs, then the written forms. -/
def workAll (k : TokenKind) (left right : Value) (pairs : List (Value × Value)) :
    Calculation Value := do
  let xs ← pairs.mapM fun p => work k p.1 p.2
  let _ ← Calculation.of (written left right)
  return gathered k xs

theorem carries_vector_workAll (operation : isOperation k = true)
    (first : a.sequence? = some lefts) (second : b.sequence? = some rights) :
    Carries (vector k a b) (workAll k a b (lefts.zip rights)) := by
  have carries := carries_vector operation first second
  convert carries using 1
  refine StateT.ext fun serials => ?_
  rw [workAll, StateT.run_bind, StateT.run_bind]
  rcases result : ((lefts.zip rights).mapM fun p => work k p.1 p.2).run serials with
    e | ⟨xs, later⟩
  · rw [result]
    rfl
  · have same : gathered k xs =
        if isArithmetic k then .list xs else .bool (!Value.among (.bool false) xs) := by
      cases comparison : isArithmetic k with
      | true => simp only [gathered, comparison, if_true]
      | false =>
        obtain ⟨_, rfl⟩ := exists_answers operation comparison result
        rw [gathered, comparison, not_among_false]
    rw [result]
    exact congrArg (fun v => StateT.run (do
      let _ ← Calculation.of (written a b)
      return v) later) same

theorem failsWith_workAll (k : TokenKind) (a b : Value) (pairs : List (Value × Value)) :
    FailsWith (workAll k a b pairs)
      ((pairs.findSome? fun p => fault? (worked k p.1 p.2)).or
        (fault? (written a b))) := by
  have fails := (FailsWith.mapM (fun p => failsWith_work k p.1 p.2) pairs).bind
    fun xs => (FailsWith.of (written a b)).bind fun _ => .pure (gathered k xs)
  rwa [Option.or_none] at fails

/-! ## Which failure comes first -/

theorem written_error (unwritten : written a b = .error e) :
    e = .wholeTooLong ∨ e = .noAttribute "BinOp" "mode" := by
  simp only [written, Value.bind_eq_error_iff] at unwritten
  rcases unwritten with unwritten | ⟨_, -, unwritten | ⟨_, -, unwritten⟩⟩
  · exact Value.display_error a unwritten
  · exact Value.display_error b unwritten
  · cases unwritten

theorem worked_error (operation : isOperation k = true)
    (failed : worked k a b = .error e) : Value.OfComputing e := by
  have ordered : ∀ {sign}, (Value.ordered sign a b).map Value.bool = .error e →
      Value.OfComputing e :=
    fun failed => .inl (Value.ordered_error a b (Value.eq_error_of_map failed))
  cases k with
  | plus => exact Value.add_error failed
  | minus => exact Value.subtract_error failed
  | times => exact Value.multiply_error failed
  | divide =>
    rw [worked] at failed
    split at failed
    · cases failed
    · exact Value.divide_error (Bool.eq_false_iff.mpr ‹_›) failed
  | equal | notEqual => cases failed
  | less | greater | atMost | atLeast => exact ordered failed
  | _ => cases operation

/-- Writing and computing have no failure in common. -/
theorem not_written_error (computing : Value.OfComputing e)
    (a b : Value) : fault? (written a b) ≠ some e := by
  intro unwritten
  rcases written_error (fault?_eq_some_iff.mp unwritten) with rfl | rfl <;>
    rcases computing with k | k | k <;> cases k

theorem findSome?_or_of_none {δ : Type} {first second : γ → Option δ} {xs : List γ}
    (none : ∀ x ∈ xs, second x = none) :
    (xs.findSome? fun x => (first x).or (second x)) = xs.findSome? first := by
  induction xs with
  | nil => rfl
  | cons _ _ ih =>
    rw [forall_mem_cons] at none
    rw [findSome?_cons, findSome?_cons, none.1, Option.or_none, ih none.2]

/-- No failure of working out the pairs is kept from coming first by one of writing, and the
sequences can be written if the pairs can. -/
structure Undisturbed (k : TokenKind) (left right : Value) (pairs : List (Value × Value)) :
    Prop where
  /-- Up to the first pair that cannot be worked out all pairs can be written. -/
  halted : ∀ e,
    (pairs.findSome? fun pair => fault? (worked k pair.1 pair.2)) = some e →
      ∃ reached pair rest, pairs = reached ++ pair :: rest ∧
        worked k pair.1 pair.2 = .error e ∧ fault? (written pair.1 pair.2) = none ∧
        ∀ other ∈ reached, fault? (worked k other.1 other.2) = none ∧
          fault? (written other.1 other.2) = none
  /-- If all pairs can be worked out, then writing the sequences fails as writing the pairs. -/
  finished : (pairs.findSome? fun pair => fault? (worked k pair.1 pair.2)) = none →
    (pairs.findSome? fun pair => fault? (written pair.1 pair.2)) = fault? (written left right)

/-- The pairs one after another fail as the sequences do, exactly if nothing disturbs them. -/
theorem findSome?_eq_iff (operation : isOperation k = true) (pairs : List (Value × Value)) :
    ((pairs.findSome? fun p => fault? (worked k p.1 p.2)).or
        (fault? (written a b)) = pairs.findSome? fun p =>
        (fault? (written p.1 p.2)).or (fault? (worked k p.1 p.2))) ↔
      Undisturbed k a b pairs := by
  rcases first : pairs.findSome? fun p => fault? (worked k p.1 p.2) with _ | e
  · rw [first, findSome?_or_of_none (findSome?_eq_none_iff.mp first)]
    refine ⟨fun equal => ⟨fun e found => ?_, fun _ => equal.symm⟩,
      fun undisturbed => (undisturbed.finished first).symm⟩
    rw [first] at found
    cases found
  · have computing : Value.OfComputing e := by
      obtain ⟨p, -, failed⟩ := exists_of_findSome?_eq_some first
      exact worked_error operation (fault?_eq_some_iff.mp failed)
    rw [first, Option.some_or, eq_comm, findSome?_eq_some_iff]
    constructor
    · rintro ⟨reached, p, rest, rfl, failed, before⟩
      have here : fault? (written p.1 p.2) = none := by
        cases unwritten : fault? (written p.1 p.2) with
        | none => rfl
        | some =>
          rw [unwritten, Option.some_or] at failed
          rw [failed] at unwritten
          exact absurd unwritten (not_written_error computing p.1 p.2)
      rw [here] at failed
      refine ⟨fun other found => ?_, fun nowhere => ?_⟩
      · rw [first] at found
        cases found
        refine ⟨reached, p, rest, rfl, fault?_eq_some_iff.mp failed, here, fun other mem => ?_⟩
        have neither := Option.or_eq_none_iff.mp (before other mem)
        exact ⟨neither.2, neither.1⟩
      · rw [first] at nowhere
        cases nowhere
    · intro undisturbed
      obtain ⟨reached, p, rest, split, failed, here, before⟩ := undisturbed.halted e first
      refine ⟨reached, p, rest, split, ?_, fun other mem => ?_⟩
      · rw [here]
        exact fault?_eq_some_iff.mpr failed
      · exact Option.or_eq_none_iff.mpr (before other mem).symm

/-! ## Values that can be written -/

theorem isOk_inside_of_display (writable : fault? v.display = none) : v.inside.isOk = true := by
  cases v with
  | int | list | tuple | set | dict =>
    obtain ⟨_, written⟩ := fault?_eq_none_iff.mp writable
    simp only [Value.display] at written
    rw [written]
    rfl
  | _ => rfl

theorem fault?_display_of_items (sequence : v.sequence? = some xs)
    (writable : ∀ x ∈ xs, fault? x.display = none) : fault? v.display = none := by
  have inside : v.inside.isOk = true := by
    rw [isOk_inside_of_sequence? sequence, all_eq_true]
    exact fun x mem => isOk_inside_of_display (writable x mem)
  have same : v.display = v.inside := by
    cases v with
    | list | tuple => simp only [Value.display]
    | _ => cases sequence
  rw [same]
  cases written : v.inside with
  | error =>
    rw [written] at inside
    cases inside
  | ok => rfl

theorem fault?_written (a b : Value) :
    fault? (written a b) = (fault? a.display).or (fault? b.display) := by
  unfold written
  cases a.display with
  | error => rfl
  | ok => cases b.display <;> rfl

/-- If all items can be written, then nothing disturbs the pairs. -/
theorem Undisturbed.of_writable (first : a.sequence? = some lefts)
    (second : b.sequence? = some rights)
    (writable : ∀ x ∈ lefts ++ rights, fault? x.display = none) :
    Undisturbed k a b (lefts.zip rights) := by
  have pairs : ∀ p ∈ lefts.zip rights, fault? (written p.1 p.2) = none := by
    intro p mem
    rw [fault?_written, writable p.1 (mem_append_left _ (of_mem_zip mem).1),
      writable p.2 (mem_append_right _ (of_mem_zip mem).2), Option.none_or]
  constructor
  · intro _ found
    obtain ⟨reached, p, rest, split, failed, before⟩ := findSome?_eq_some_iff.mp found
    rw [split] at pairs
    refine ⟨reached, p, rest, split, fault?_eq_some_iff.mp failed, pairs p (by simp),
      fun other mem => ⟨before other mem, pairs other (by simp [mem])⟩⟩
  · intro _
    have sequences : fault? (written a b) = none := by
      rw [fault?_written,
        fault?_display_of_items first fun x mem => writable x (mem_append_left _ mem),
        fault?_display_of_items second fun x mem =>
          writable x (mem_append_right _ mem), Option.none_or]
    rw [sequences, findSome?_eq_none_iff]
    exact pairs

/-! ## Sequences and pairs -/

/-- Where the pairs can be written, working them out is all there is to do. -/
theorem mapM_single_eq (writable : ∀ p ∈ pairs, fault? (written p.1 p.2) = none) :
    (pairs.mapM fun p => single k p.1 p.2) = pairs.mapM fun p => work k p.1 p.2 := by
  induction pairs with
  | nil => rfl
  | cons _ _ ih =>
    rw [forall_mem_cons] at writable
    obtain ⟨_, wrote⟩ := fault?_eq_none_iff.mp writable.1
    rw [mapM_cons, mapM_cons, ih writable.2, single, wrote]
    rfl

/-- An operator on sequences does what it does on the pairs of their items one after another. -/
structure Pointwise (k : TokenKind) (left right : Value) (pairs : List (Value × Value))
    (w : World) : Prop where
  /-- It fails exactly if it does so on a pair, and then as on the first such pair. -/
  fails : ∀ e, ((vector k left right).perform w).1 = .error e ↔
    ∃ reached pair rest, pairs = reached ++ pair :: rest ∧
      ((scalar k pair.1 pair.2).perform w).1 = .error e ∧
      ∀ other ∈ reached, ∃ v, ((scalar k other.1 other.2).perform w).1 = .ok v
  /-- Otherwise it gives what the pairs give in order. -/
  gives : (∀ pair ∈ pairs, ∃ v, ((scalar k pair.1 pair.2).perform w).1 = .ok v) →
    ∃ items, ((pairs.mapM fun pair => scalar k pair.1 pair.2).perform w).1 = .ok items ∧
      ((vector k left right).perform w).1 = .ok (gathered k items)

section Pairs

variable (operation : isOperation k = true) (first : a.sequence? = some lefts)
  (second : b.sequence? = some rights) (w : World)
include operation

theorem fault?_scalar (a b : Value) :
    fault? ((scalar k a b).perform w).1 = (fault? (written a b)).or (fault? (worked k a b)) :=
  (failsWith_single k a b).outcome (carries_scalar operation a b) w

include first second

/-- The sequences fail as the first pair that does exactly if nothing disturbs the pairs. -/
theorem fails_iff_undisturbed :
    (∀ e, ((vector k a b).perform w).1 = .error e ↔
      ∃ reached p rest, lefts.zip rights = reached ++ p :: rest ∧
        ((scalar k p.1 p.2).perform w).1 = .error e ∧
        ∀ other ∈ reached, ∃ v, ((scalar k other.1 other.2).perform w).1 = .ok v) ↔
      Undisturbed k a b (lefts.zip rights) := by
  have whole := (failsWith_workAll k a b (lefts.zip rights)).outcome
    (carries_vector_workAll operation first second) w
  rw [← findSome?_eq_iff operation, ← whole, Option.ext_iff]
  refine forall_congr' fun e => iff_congr fault?_eq_some_iff.symm ?_
  rw [findSome?_eq_some_iff]
  simp only [← fault?_scalar operation w, fault?_eq_some_iff, fault?_eq_none_iff]

theorem gives_of_undisturbed (undisturbed : Undisturbed k a b (lefts.zip rights))
    (succeed : ∀ p ∈ lefts.zip rights, ∃ v, ((scalar k p.1 p.2).perform w).1 = .ok v) :
    ∃ xs, (((lefts.zip rights).mapM fun p => scalar k p.1 p.2).perform w).1 =
        .ok xs ∧ ((vector k a b).perform w).1 = .ok (gathered k xs) := by
  have neither : ∀ p ∈ lefts.zip rights, fault? (written p.1 p.2) = none ∧
      fault? (worked k p.1 p.2) = none := by
    intro p mem
    rw [← Option.or_eq_none_iff, ← fault?_scalar operation w]
    exact fault?_eq_none_iff.mpr (succeed p mem)
  have workable : ((lefts.zip rights).findSome? fun p => fault? (worked k p.1 p.2)) =
      none := findSome?_eq_none_iff.mpr fun p mem => (neither p mem).2
  have writable : fault? (written a b) = none := by
    rw [← undisturbed.finished workable, findSome?_eq_none_iff]
    exact fun p mem => (neither p mem).1
  obtain ⟨_, wrote⟩ := fault?_eq_none_iff.mp writable
  obtain ⟨⟨xs, _⟩, result⟩ := fault?_eq_none_iff.mp
    ((FailsWith.mapM (fun p : Value × Value => failsWith_work k p.1 p.2)
      (lefts.zip rights) w.serials).trans workable)
  have singles := Carries.mapM
    (fun p : Value × Value => carries_scalar operation p.1 p.2) (lefts.zip rights)
  rw [mapM_single_eq fun p mem => (neither p mem).1] at singles
  refine ⟨xs, ?_, ?_⟩
  · rw [singles.outcome w, result]
    rfl
  · rw [(carries_vector_workAll operation first second).outcome w, workAll, StateT.run_bind,
      result, wrote]
    rfl

theorem pointwise_iff_undisturbed :
    Pointwise k a b (lefts.zip rights) w ↔ Undisturbed k a b (lefts.zip rights) := by
  have fails := fails_iff_undisturbed operation first second w
  exact ⟨fun pointwise => fails.mp pointwise.fails, fun undisturbed =>
    ⟨fails.mpr undisturbed, gives_of_undisturbed operation first second w undisturbed⟩⟩

end Pairs

/-! ## Division by zero -/

/-- Zero, as a number or as a truth value. -/
def IsZero (v : Value) : Prop := v = .bool false ∨ v.amount? = some (.finite 0)

theorem equal_zero_of_isZero (zero : IsZero v) : v.equal (.int 0) = true := by
  rcases zero with rfl | zero
  · simp [Value.equal, Value.orderNumbers?, Value.real?, Value.whole?]
  · have zero' : (Value.int 0).amount? = some (.finite 0) := by simp [Value.amount?]
    exact (Value.equal_iff_of_numbers zero zero').mpr (.number zero zero')

theorem work_divide_zero (a : Value) (isZero : IsZero zero) :
    work .divide a zero = pure (.int 0) := by
  rw [work, worked, if_pos (equal_zero_of_isZero isZero)]
  rfl

theorem scalar_divide_zero (a : Value) (isZero : IsZero zero) (w : World) :
    ((scalar .divide a zero).perform w).1 = (written a zero).map fun _ => .int 0 := by
  rw [(carries_scalar (by decide) a zero).outcome w, single, work_divide_zero a isZero]
  cases written a zero <;> rfl

theorem vector_divide_zero (first : a.sequence? = some lefts) (second : b.sequence? = some rights)
    {w : World} (result : ((vector .divide a b).perform w).1 = .ok v) :
    ∃ xs, v = .list xs ∧
      List.Forall₂ (fun p x => IsZero p.2 → x = .int 0) (lefts.zip rights) xs := by
  have operation : isOperation .divide = true := by decide
  rw [(carries_vector_workAll operation first second).outcome w, workAll, StateT.run_bind] at result
  rcases calculated : ((lefts.zip rights).mapM fun p => work .divide p.1 p.2).run
      w.serials with _ | ⟨xs, later⟩
  · rw [calculated] at result
    cases result
  · rw [calculated] at result
    refine ⟨xs, ?_, forall₂_of_mapM _ (fun p serials x later done zero => ?_) _ calculated⟩
    · cases wrote : written a b with
      | error =>
        rw [wrote] at result
        cases result
      | ok =>
        rw [wrote] at result
        cases result
        rfl
    · rw [work_divide_zero p.1 zero] at done
      cases done
      rfl

/-- No failure is one of dividing by zero. -/
theorem kind_ne_of_fault (operation : isOperation k = true)
    (failed : (∃ a b, fault? (worked k a b) = some e) ∨ ∃ a b, fault? (written a b) = some e) :
    e.kind ≠ .other "ZeroDivisionError" := by
  rcases failed with ⟨a, b, failed⟩ | ⟨a, b, failed⟩
  · rcases worked_error operation (fault?_eq_some_iff.mp failed) with cause | cause | cause <;>
      simp [cause]
  · rcases written_error (fault?_eq_some_iff.mp failed) with rfl | rfl <;> simp [Failure.kind]

theorem kind_ne_of_scalar (operation : isOperation k = true) {w : World}
    (failed : ((scalar k a b).perform w).1 = .error e) : e.kind ≠ .other "ZeroDivisionError" := by
  have fault := (fault?_scalar operation w a b).symm.trans
    (fault?_eq_some_iff.mpr failed)
  rcases Option.or_eq_some_iff.mp fault with unwritten | ⟨-, unworked⟩
  · exact kind_ne_of_fault operation (.inr ⟨a, b, unwritten⟩)
  · exact kind_ne_of_fault operation (.inl ⟨a, b, unworked⟩)

theorem kind_ne_of_vector (operation : isOperation k = true) (first : a.sequence? = some lefts)
    (second : b.sequence? = some rights) {w : World}
    (failed : ((vector k a b).perform w).1 = .error e) : e.kind ≠ .other "ZeroDivisionError" := by
  have fault := ((failsWith_workAll k a b (lefts.zip rights)).outcome
    (carries_vector_workAll operation first second) w).symm.trans
      (fault?_eq_some_iff.mpr failed)
  rcases Option.or_eq_some_iff.mp fault with unworked | ⟨-, unwritten⟩
  · obtain ⟨p, -, unworked⟩ := exists_of_findSome?_eq_some unworked
    exact kind_ne_of_fault operation (.inl ⟨p.1, p.2, unworked⟩)
  · exact kind_ne_of_fault operation (.inr ⟨a, b, unwritten⟩)

/-- **When operators work item by item.** An operator on two sequences does what it does on the
pairs of their items exactly if nothing disturbs the pairs, and nothing does if all items can be
written. Nothing is ever divided by zero: such a quotient is zero. -/
theorem vector_pointwise_iff (kind : TokenKind) (left right : Value) (lefts rights : List Value)
    (world : World) (operation : isOperation kind = true) (first : left.sequence? = some lefts)
    (second : right.sequence? = some rights) :
    (Pointwise kind left right (lefts.zip rights) world ↔
      Undisturbed kind left right (lefts.zip rights)) ∧
    ((∀ item ∈ lefts ++ rights, ∃ text, item.display = .ok text) →
      Undisturbed kind left right (lefts.zip rights)) ∧
    (∀ failure, (((vector kind left right).perform world).1 = .error failure ∨
        ∃ left' right', ((scalar kind left' right').perform world).1 = .error failure) →
      failure.kind ≠ .other "ZeroDivisionError") ∧
    (∀ divided zero, IsZero zero →
      ((scalar .divide divided zero).perform world).1 =
        (written divided zero).map fun _ => .int 0) ∧
    ∀ value, ((vector .divide left right).perform world).1 = .ok value → ∃ items,
      value = .list items ∧ List.Forall₂ (fun pair item => IsZero pair.2 → item = .int 0)
        (lefts.zip rights) items := by
  refine ⟨pointwise_iff_undisturbed operation first second world, fun writable => ?_,
    fun failure failed => ?_, fun divided zero isZero => scalar_divide_zero divided isZero world,
    fun value result => vector_divide_zero first second result⟩
  · exact .of_writable first second fun item member =>
      fault?_eq_none_iff.mpr (writable item member)
  · rcases failed with failed | ⟨left', right', failed⟩
    · exact kind_ne_of_vector operation first second failed
    · exact kind_ne_of_scalar operation failed

end Sequences

/-- The items are divided although one of the divisors is zero and one item is left over. -/
theorem vector_pointwise_iff_quotients :
    let lefts := [Value.text "a", .bool true, .none]
    let rights := [Value.bool false, .bool true]
    (isOperation .divide = true ∧ (Value.list lefts).sequence? = some lefts ∧
      (Value.tuple rights).sequence? = some rights) ∧
    Pointwise .divide (.list lefts) (.tuple rights) (lefts.zip rights) default := by
  intro lefts rights
  have all := vector_pointwise_iff .divide (.list lefts) (.tuple rights) lefts rights default
    (by decide) rfl rfl
  refine ⟨⟨by decide, rfl, rfl⟩, all.1.mpr (all.2.1 fun item member => ?_)⟩
  simp only [lefts, rights, cons_append, nil_append, mem_cons, not_mem_nil, or_false] at member
  rcases member with rfl | rfl | rfl | rfl | rfl <;> exact ⟨_, rfl⟩

theorem display_int_of_le {n : Int} (many : Number.tenTo Number.digitLimit ≤ n.natAbs) :
    (Value.int n).display = .error .wholeTooLong := by
  simp only [Value.display, Value.inside]
  exact if_pos many

/-- The least whole number that has too many digits to be written. -/
def wide : Value := .int (Number.tenTo Number.digitLimit : Nat)

/-- A difference of sequences fails at a text that comes after a number with too many digits. One by
one the pairs fail at that number already, because it cannot be written. -/
theorem subtract_wide_not_pointwise :
    let lefts := [wide, .text "a"]
    let rights := [Value.int 1, .int 1]
    ((vector .minus (.list lefts) (.list rights)).perform default).1 =
      .error (.operands "-" "str" "int") ∧
    ((scalar .minus wide (.int 1)).perform default).1 = .error .wholeTooLong ∧
    ¬ Pointwise .minus (.list lefts) (.list rights) (lefts.zip rights) default := by
  intro lefts rights
  have together : ((vector .minus (.list lefts) (.list rights)).perform default).1 =
      .error (.operands "-" "str" "int") := by
    rw [← fault?_eq_some_iff]
    exact (failsWith_workAll .minus (.list lefts) (.list rights) (lefts.zip rights)).outcome
      (carries_vector_workAll (by decide) rfl rfl) default
  have alone : ((scalar .minus wide (.int 1)).perform default).1 = .error .wholeTooLong := by
    rw [← fault?_eq_some_iff, fault?_scalar (by decide), fault?_written, wide,
      display_int_of_le (by rw [Int.natAbs_natCast])]
    rfl
  refine ⟨together, alone, fun pointwise => ?_⟩
  have fails := (pointwise.fails .wholeTooLong).mpr ⟨[], _, _, rfl, alone, by simp⟩
  rw [together] at fails
  cases fails

end DeviceScript.Execution
