import DeviceScript.Proofs.Execution.Perform
import DeviceScript.Proofs.Value.Failing
import DeviceScript.Script.Grammar

/-!
# What operators come to

An operator writes its operands to the log and gives a new value. Of the world it needs nothing but
the next number for a value that is told apart by one. A `Calculation` is what is left of an action
if the rest of the world is put aside, and `Carries` says that an action comes to a calculation in
every world.

A single operation is worked out after both its operands have been written (`carries_scalar`), and
operations on the items of sequences are worked out pair by pair (`carries_pointwise`).
-/

namespace DeviceScript.Execution

open Script

variable (k : TokenKind) (a b : Value)

/-! ## Calculations -/

/-- A calculation may fail, and it may take numbers for values that are told apart by one. -/
abbrev Calculation := StateT Nat (Except Failure)

/-- An outcome for which no number is taken. -/
def Calculation.of {α : Type} (o : Except Failure α) : Calculation α := fun serials =>
  o.map fun v => (v, serials)

/-- In every world the action comes to what the calculation does: it fails in the same way, or it
gives the same value and has taken the same numbers. -/
def Carries {α : Type} (act : Act α) (calculation : Calculation α) : Prop :=
  ∀ w,
    match calculation.run w.serials with
    | .ok (v, serials) =>
      ∃ w', act.perform w = (.ok v, w') ∧ w'.serials = serials
    | .error e => ∃ w', act.perform w = (.error e, w')

namespace Carries

variable {α β : Type} {act : Act α} {calculation : Calculation α}

theorem pure (v : α) : Carries (Pure.pure v) (Pure.pure v) :=
  fun w => ⟨w, rfl, rfl⟩

theorem ofExcept (o : Except Failure α) : Carries (Act.ofExcept o) (Calculation.of o) := by
  cases o with
  | ok v => exact pure v
  | error => exact fun w => ⟨w, rfl⟩

/-- What is written to the log takes no number. -/
theorem log (level : Level) (s : String) : Carries (Act.log level s) (Pure.pure ()) := by
  intro w
  refine ⟨_, rfl, ?_⟩
  show (if w.threshold.keeps level then _ else w).serials = w.serials
  split <;> rfl

theorem bind {f : α → Act β} {f' : α → Calculation β} (first : Carries act calculation)
    (second : ∀ v, Carries (f v) (f' v)) : Carries (act >>= f) (calculation >>= f') := by
  intro w
  have reached := first w
  rw [StateT.run_bind, perform_act_bind]
  rcases calculated : calculation.run w.serials with _ | ⟨v, serials⟩
  · rw [calculated] at reached
    obtain ⟨w', performed⟩ := reached
    rw [performed]
    exact ⟨w', rfl⟩
  · rw [calculated] at reached
    obtain ⟨w', performed, taken⟩ := reached
    have later := second v w'
    rw [taken] at later
    rw [performed]
    exact later

theorem mapM {γ : Type} {each : γ → Act α} {each' : γ → Calculation α}
    (carries : ∀ x, Carries (each x) (each' x)) (xs : List γ) :
    Carries (xs.mapM each) (xs.mapM each') := by
  induction xs with
  | nil => exact pure _
  | cons x _ ih =>
    rw [List.mapM_cons, List.mapM_cons]
    exact (carries x).bind fun _ => ih.bind fun _ => pure _

theorem outcome (carries : Carries act calculation) (w : World) :
    (act.perform w).1 = (calculation.run w.serials).map Prod.fst := by
  have reached := carries w
  rcases calculated : calculation.run w.serials with _ | ⟨_, serials⟩
  · rw [calculated] at reached
    obtain ⟨w', performed⟩ := reached
    rw [performed]
    rfl
  · rw [calculated] at reached
    obtain ⟨w', performed, -⟩ := reached
    rw [performed]
    rfl

end Carries

/-! ## Faults -/

/-- The failure of an outcome, if it is one. -/
def fault? {α : Type} : Except Failure α → Option Failure
  | .ok _ => none
  | .error e => some e

@[simp]
theorem fault?_map {α β : Type} (o : Except Failure α) (make : α → β) :
    fault? (o.map make) = fault? o := by
  cases o <;> rfl

theorem fault?_eq_none_iff {α : Type} {o : Except Failure α} :
    fault? o = none ↔ ∃ v, o = .ok v := by
  cases o <;> simp [fault?]

theorem fault?_eq_some_iff {α : Type} {o : Except Failure α} {e : Failure} :
    fault? o = some e ↔ o = .error e := by
  cases o <;> simp [fault?]

/-- What a calculation fails with, where that does not depend on the numbers it takes. -/
def FailsWith {α : Type} (calculation : Calculation α) (e : Option Failure) : Prop :=
  ∀ serials, fault? (calculation.run serials) = e

namespace FailsWith

variable {α β : Type} {calculation : Calculation α} {next : α → Calculation β}

theorem pure (v : α) : FailsWith (Pure.pure v) none := fun _ => rfl

theorem of (o : Except Failure α) : FailsWith (Calculation.of o) (fault? o) :=
  fun _ => fault?_map o _

theorem bind {first second : Option Failure} (before : FailsWith calculation first)
    (after : ∀ v, FailsWith (next v) second) :
    FailsWith (calculation >>= next) (first.or second) := by
  intro serials
  have begun := before serials
  rw [StateT.run_bind]
  rcases calculated : calculation.run serials with _ | ⟨v, later⟩
  · rw [calculated] at begun
    rw [← begun]
    rfl
  · rw [calculated] at begun
    rw [← begun]
    exact after v later

/-- Calculations one after another fail with the first failure. -/
theorem mapM {γ : Type} {each : γ → Calculation α} {e : γ → Option Failure}
    (fails : ∀ x, FailsWith (each x) (e x)) (xs : List γ) :
    FailsWith (xs.mapM each) (xs.findSome? e) := by
  induction xs with
  | nil => exact pure _
  | cons x xs ih =>
    have first : (x :: xs).findSome? e = (e x).or ((xs.findSome? e).or none) := by
      rw [List.findSome?_cons, Option.or_none]
      cases e x <;> rfl
    rw [List.mapM_cons, first]
    exact (fails x).bind fun _ => ih.bind fun _ => pure _

/-- An action fails as the calculation that it carries out. -/
theorem outcome {act : Act α} {e : Option Failure} (fails : FailsWith calculation e)
    (carries : Carries act calculation) (w : World) : fault? (act.perform w).1 = e := by
  rw [carries.outcome w, fault?_map]
  exact fails w.serials

end FailsWith

/-! ## Single operations -/

def isOperation (k : TokenKind) : Bool := isArithmetic k || Reading.isComparison k

/-- What an operator makes of two single values. -/
def worked (k : TokenKind) (left right : Value) : Except Failure Value :=
  match k with
  | .plus => left.add right
  | .minus => left.subtract right
  | .times => left.multiply right
  | .divide => if right.equal (.int 0) then .ok (.int 0) else left.divide right
  | .equal => .ok (.bool (left.equal right))
  | .notEqual => .ok (.bool (!left.equal right))
  | .less => (Value.ordered .less left right).map Value.bool
  | .greater => (Value.ordered .greater left right).map Value.bool
  | .atMost => (Value.ordered .atMost left right).map Value.bool
  | .atLeast => (Value.ordered .atLeast left right).map Value.bool
  | other => .error (.unknownOperator other.label)

/-- A computed value as a new one, which takes a number if it is a real. -/
def renewed : Value → Calculation Value
  | .float outcome => modifyGet fun serials => (Value.ofReal serials outcome, serials + 1)
  | v => return v

/-- Working out an operator on two single values. -/
def work (k : TokenKind) (left right : Value) : Calculation Value :=
  Calculation.of (worked k left right) >>= renewed

/-- Writing two values down. -/
def written (left right : Value) : Except Failure Unit := do
  let _ ← left.display
  let _ ← right.display
  return ()

/-- Writing two single values down and working an operator out on them. -/
def single (k : TokenKind) (left right : Value) : Calculation Value :=
  Calculation.of (written left right) >>= fun _ => work k left right

theorem failsWith_renewed (v : Value) : FailsWith (renewed v) none := by
  cases v with
  | float => exact fun _ => rfl
  | _ => exact .pure _

theorem failsWith_work : FailsWith (work k a b) (fault? (worked k a b)) := by
  have fails := (FailsWith.of (worked k a b)).bind failsWith_renewed
  rwa [Option.or_none] at fails

theorem failsWith_single : FailsWith (single k a b)
      ((fault? (written a b)).or (fault? (worked k a b))) :=
  (FailsWith.of _).bind fun _ => failsWith_work k a b

theorem carries_distinct (v : Value) : Carries (Act.distinct v) (renewed v) := by
  cases v with
  | float => exact fun w => ⟨_, rfl, rfl⟩
  | _ => exact .pure _

theorem carries_computed (o : Except Failure Value) :
    Carries (computed o) (Calculation.of o >>= renewed) :=
  (Carries.ofExcept o).bind carries_distinct

theorem carries_divide : Carries (divide a b) (work .divide a b) := by
  unfold divide work worked
  split
  · exact (Carries.log _ _).bind fun _ => .pure _
  · exact carries_computed _

/-- An outcome that holds no real is renewed without a number. -/
theorem carries_tested (o : Except Failure Bool) :
    Carries (Act.ofExcept (o.map Value.bool)) (Calculation.of (o.map Value.bool) >>= renewed) := by
  cases o with
  | ok => exact .pure _
  | error => exact fun w => ⟨w, rfl⟩

/-- Every operator has an outcome, which works it out. -/
theorem exists_outcome {k : TokenKind} (operation : isOperation k = true) (a b : Value) :
    ∃ act, outcome? k a b = some act ∧ Carries act (work k a b) := by
  cases k with
  | plus | minus | times => exact ⟨_, rfl, carries_computed _⟩
  | divide => exact ⟨_, rfl, carries_divide a b⟩
  | equal | notEqual => exact ⟨_, rfl, .pure _⟩
  | less | greater | atMost | atLeast => exact ⟨_, rfl, carries_tested _⟩
  | _ => cases operation

/-- Both values are written before anything is noted. -/
theorem carries_note : Carries (note k a b) (Calculation.of (written a b)) := by
  unfold note written Act.shown
  rcases a.display with e | _
  · exact fun w => ⟨w, rfl⟩
  rcases b.display with e | _
  · exact fun w => ⟨w, rfl⟩
  exact Carries.log _ _

/-- An operator on two single values writes them down and works itself out. -/
theorem carries_scalar {k : TokenKind} (operation : isOperation k = true)
    (a b : Value) : Carries (scalar k a b) (single k a b) := by
  obtain ⟨_, outcome, carries⟩ := exists_outcome operation a b
  rw [scalar, outcome]
  exact (carries_note k a b).bind fun _ => carries

/-- An operator on sequences is worked out pair by pair. -/
theorem carries_pointwise {k : TokenKind} (operation : isOperation k = true) :
    ∀ lefts rights, Carries (pointwise k lefts rights)
      ((lefts.zip rights).mapM fun p => work k p.1 p.2)
  | [], _ => .pure _
  | _ :: _, [] => .pure _
  | a :: lefts, b :: rights => by
    obtain ⟨_, outcome, carries⟩ := exists_outcome operation a b
    rw [pointwise, outcome, List.zip_cons_cons, List.mapM_cons]
    exact carries.bind fun _ => (carries_pointwise operation lefts rights).bind fun _ => .pure _

end DeviceScript.Execution
