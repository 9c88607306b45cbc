import DeviceScript.Proofs.Execution.Operating
import DeviceScript.Proofs.Execution.Variables

/-!
# What expressions evaluate to

Evaluating an expression leaves the state as it is, and of the world it needs nothing but the next
number for a value that is told apart by one. So it comes to a calculation, which follows the tree:
`evaluation` is that calculation, and `conveys_visit` says that a visit which is deep enough carries
it out, wherever the expression stands.
-/

namespace DeviceScript.Execution

open Exec Script Calculation
open DeviceScript.Script.Tree (IsArithmetic IsFormula)

variable {k : TokenKind} {m' : Machine} {w w' : World}

/-- Where two computations one after the other have a value, so does the first one. -/
theorem exists_of_perform_bind {α β : Type} {first : Exec α} {f : α → Exec β} {m : Machine}
    {v : β} (performed : (first >>= f).perform m w = ((.ok v, m'), w')) :
    ∃ middle state w'', first.perform m w = ((.ok middle, state), w'') ∧
      (f middle).perform state w'' = ((.ok v, m'), w') := by
  rcases reached : first.perform m w with ⟨⟨_ | middle, state⟩, w''⟩
  · rw [perform_bind_error reached] at performed
    cases performed
  · rw [perform_bind_ok reached] at performed
    exact ⟨middle, state, w'', rfl, performed⟩

/-! ## Computations of a script that are calculations -/

/-- In the state, the computation comes to what the calculation does in every world, and it leaves
the state as it is. -/
def Conveys {α : Type} (m : Machine) (exec : Exec α) (calculation : Calculation α) : Prop :=
  ∀ w,
    match calculation.run w.serials with
    | .ok (v, serials) =>
      ∃ w', exec.perform m w = ((.ok v, m), w') ∧ w'.serials = serials
    | .error e =>
      ∃ w', exec.perform m w = ((.error (.failed e), m), w')

namespace Conveys

variable {α β : Type} {m : Machine} {exec : Exec α} {calculation : Calculation α}

theorem pure (v : α) : Conveys m (Pure.pure v) (Pure.pure v) :=
  fun w => ⟨w, rfl, rfl⟩

theorem ofAct {act : Act α} (carries : Carries act calculation) :
    Conveys m (Exec.ofAct act) calculation := by
  intro w
  have reached := carries w
  rcases calculated : calculation.run w.serials with _ | ⟨_, serials⟩
  · rw [calculated] at reached
    obtain ⟨w', performed⟩ := reached
    exact ⟨w', by rw [perform_ofAct, performed]⟩
  · rw [calculated] at reached
    obtain ⟨w', performed, taken⟩ := reached
    exact ⟨w', by rw [perform_ofAct, performed], taken⟩

theorem ofExcept (o : Except Failure α) : Conveys m (Exec.ofExcept o) (of o) := by
  cases o with
  | ok v => exact pure v
  | error => exact fun w => ⟨w, rfl⟩

theorem bind {f : α → Exec β} {f' : α → Calculation β} (first : Conveys m exec calculation)
    (second : ∀ v, Conveys m (f v) (f' v)) : Conveys m (exec >>= f) (calculation >>= f') := by
  intro w
  have reached := first w
  rw [StateT.run_bind]
  rcases calculated : calculation.run w.serials with _ | ⟨v, serials⟩
  · rw [calculated] at reached
    obtain ⟨w', performed⟩ := reached
    exact ⟨w', perform_bind_error performed⟩
  · rw [calculated] at reached
    obtain ⟨w', performed, taken⟩ := reached
    have rest := second v w'
    rw [taken] at rest
    rw [perform_bind_ok performed]
    exact rest

/-- Whether the computation succeeds can be read off the calculation. -/
theorem ok_iff (conveys : Conveys m exec calculation) (w : World) :
    (∃ v m' w', exec.perform m w = ((.ok v, m'), w')) ↔
      fault? (calculation.run w.serials) = none := by
  have reached := conveys w
  rcases calculated : calculation.run w.serials with _ | ⟨v, serials⟩
  · rw [calculated] at reached
    obtain ⟨w', performed⟩ := reached
    rw [performed]
    constructor
    · rintro ⟨_, _, _, outcome⟩
      cases outcome
    · intro impossible
      cases impossible
  · rw [calculated] at reached
    obtain ⟨w', performed, -⟩ := reached
    exact ⟨fun _ => rfl, fun _ => ⟨_, _, _, performed⟩⟩

end Conveys

/-! ## Operators of arithmetic -/

/-- Working an operator of arithmetic out on the items of two values, and writing the values
down. -/
def itemwise (k : TokenKind) (left right : Value) : Calculation Value := do
  let lefts ← of left.items
  let rights ← of right.items
  let xs ← (lefts.zip rights).mapM fun p => work k p.1 p.2
  let _ ← of (written left right)
  return .list xs

/-- What an operator of arithmetic makes of two values. -/
def operated (k : TokenKind) (left right : Value) : Calculation Value :=
  match left, right with
  | .text s, right => of (right.display.map fun shown => .text (s ++ " " ++ shown))
  | left, .none =>
    if left.truthy then
      return .bool (((left.sequence?.map fun xs => xs.all Value.truthy)).getD true)
    else single k left .none
  | left, right =>
    if isVector left && isVector right then itemwise k left right else single k left right

theorem isOperation_of_isArithmetic (arithmetic : isArithmetic k = true) :
    isOperation k = true := by
  rw [isOperation, arithmetic, Bool.true_or]

theorem carries_itemwise (arithmetic : isArithmetic k = true) (a b : Value) :
    Carries (vector k a b) (itemwise k a b) := by
  have operation := isOperation_of_isArithmetic arithmetic
  rw [vector, if_pos arithmetic]
  exact (Carries.ofExcept _).bind fun lefts => (Carries.ofExcept _).bind fun rights =>
    (carries_pointwise operation lefts rights).bind fun _ =>
      (carries_note k a b).bind fun _ => .pure _

theorem carries_joined (s : String) (b : Value) :
    Carries (do return .text (s ++ " " ++ (← Act.shown b)))
      (of (b.display.map fun shown => Value.text (s ++ " " ++ shown))) := by
  unfold Act.shown
  cases b.display with
  | ok => exact .pure _
  | error => exact fun w => ⟨w, rfl⟩

theorem carries_operate (arithmetic : isArithmetic k = true) (a b : Value) :
    Carries (operate k a b) (operated k a b) := by
  have operation := isOperation_of_isArithmetic arithmetic
  fun_cases operated k a b
  · exact carries_joined _ _
  · rename_i truthy
    rw [operate, if_pos truthy]
    · exact .pure _
    · assumption
  · rename_i falsy
    rw [operate, if_neg falsy]
    · exact carries_scalar operation _ _
    · assumption
  · rename_i vectors
    rw [operate, if_pos vectors]
    · exact carries_itemwise arithmetic _ _
    · assumption
    · assumption
  · rename_i singles
    rw [operate, if_neg singles]
    · exact carries_scalar operation _ _
    · assumption
    · assumption

/-! ## Expressions -/

/-- The number that a numeral stands for. -/
def numeralValue (s : String) : Except Failure Value :=
  if s.contains '.' then (Value.toReal (.text s)).map Value.float
  else (Value.toWhole (.text s)).map Value.int

/-- What an expression evaluates to. -/
def evaluation (m : Machine) : Tree Value → Calculation Value
  | .number s => of (numeralValue s)
  | .string s => return .text s
  | .variable name => return m.read name
  | .binary left operator right => do
    let left ← evaluation m left
    let right ← evaluation m right
    operated operator.kind left right
  | _ => return .none

/-- How deep the visit of an expression goes. -/
def height : Tree Value → Nat
  | .binary left _ right => max (height left) (height right) + 1
  | _ => 1

section Visits

variable {host : Host} {most d : Nat} {p : Site} {m : Machine}
  {t : Tree Value}

/-- A visit that is not to stop conveys what the step does. -/
theorem conveys_visit_succ {calculation : Calculation Value} (running : m.stopped = false)
    (conveys : Conveys m (step host (visit host ⟨most, d⟩) most p t) calculation) :
    Conveys m (visit host ⟨most, d + 1⟩ p t) calculation := by
  intro w
  have performed : (visit host ⟨most, d + 1⟩ p t).perform m w =
      (step host (visit host ⟨most, d⟩) most p t).perform m w :=
    perform_unlessStopped_of_running running _ w
  rw [performed]
  exact conveys w

/-- **A visit of an expression carries its evaluation out**, if it is deep enough. -/
theorem conveys_visit (arithmetic : IsArithmetic t) (running : m.stopped = false)
    (enough : height t ≤ d) : Conveys m (visit host ⟨most, d⟩ p t) (evaluation m t) := by
  induction arithmetic generalizing d p with
  | missing | string =>
    obtain ⟨d, rfl⟩ := Nat.exists_eq_add_of_le' enough
    exact conveys_visit_succ running (.pure _)
  | number =>
    obtain ⟨d, rfl⟩ := Nat.exists_eq_add_of_le' enough
    exact conveys_visit_succ running (.ofExcept _)
  | name =>
    obtain ⟨d, rfl⟩ := Nat.exists_eq_add_of_le' enough
    exact conveys_visit_succ running fun w => ⟨w, rfl, rfl⟩
  | @binary first second op listed _ _ a b =>
    have deeper : max (height first) (height second) + 1 ≤ d := enough
    obtain ⟨d, rfl⟩ : ∃ less, d = less + 1 := ⟨d - 1, by omega⟩
    exact conveys_visit_succ running ((a (by omega)).bind fun _ =>
      (b (by omega)).bind fun _ => .ofAct (carries_operate listed _ _))

/-- Only a visit that is deep enough gives a value. -/
theorem height_le_of_visit (arithmetic : IsArithmetic t) {v : Value}
    (evaluated : (visit host ⟨most, d⟩ p t).perform m w = ((.ok v, m'), w')) : height t ≤ d := by
  induction arithmetic generalizing d p m m' w w' v with
  | binary _ _ _ a b =>
    have running := running_of_visitWithin_ok evaluated
    cases d with
    | zero => cases evaluated
    | succ =>
      have stepped := (perform_unlessStopped_of_running running _ w).symm.trans evaluated
      obtain ⟨_, _, _, first, rest⟩ := exists_of_perform_bind stepped
      obtain ⟨_, _, _, second, -⟩ := exists_of_perform_bind rest
      exact Nat.succ_le_succ (Nat.max_le.mpr ⟨a first, b second⟩)
  | _ =>
    cases d with
    | zero => cases evaluated
    | succ d => exact Nat.succ_le_succ (Nat.zero_le d)

end Visits

end DeviceScript.Execution
