import DeviceScript.Proofs.Execution.Comparison
import DeviceScript.Proofs.Script.Bounds

/-!
# When a value counts as a condition

A condition may be one expression alone. It is then meant to hold exactly if the value counts as
true and, for a list or a tuple, all its items do too (`Affirms`). The expression is read as a
comparison with nothing, and how that is decided depends on the value: a text is joined with the
name of nothing, which makes a text that is never empty; any other value that counts as true is
tested as it is meant to be; and what is left is compared with nothing, to which only nothing is
equal. So there are two values that hold though they should not, nothing and the empty text
(`visit_condition_affirms_iff`).
-/

namespace DeviceScript.Execution

open Script Value Reading

variable {tested : Tree Value}

/-- The value counts as true, and so does every item of a list or a tuple. -/
def Affirms (v : Value) : Prop :=
  v.truthy = true ∧ ∀ xs, v.sequence? = some xs → ∀ x ∈ xs, x.truthy = true

/-- A value that counts as false has a written form. -/
theorem display_of_falsy {v : Value} (falsy : v.truthy = false) : ∃ s, v.display = .ok s := by
  cases v with
  | int n =>
    have zero : n = 0 := by simpa [Value.truthy] using falsy
    have few : ¬ Number.tenTo Number.digitLimit ≤ n.natAbs := by
      simp [zero, Number.tenTo]
    rw [display, inside, wholeText, if_neg few]
    all_goals simp
  | list xs | tuple xs | set xs =>
    have empty : xs = [] := by simpa [Value.truthy] using falsy
    subst empty
    exact ⟨_, rfl⟩
  | dict es =>
    have empty : es = [] := by simpa [Value.truthy] using falsy
    subst empty
    exact ⟨_, rfl⟩
  | none | bool | float | text | bytes => exact ⟨_, rfl⟩
  | _ => cases falsy

/-- Only nothing is equal to nothing. -/
theorem equal_none_iff (v : Value) : v.equal .none = true ↔ v = .none := by
  cases v <;> simp [equal, orderNumbers?, real?, whole?]

/-! ## The answer of a condition -/

theorem affirms_text_iff (s : String) : Affirms (.text s) ↔ s ≠ "" := by
  simp [Affirms, Value.truthy, sequence?]

theorem not_affirms_none : ¬ Affirms .none := fun affirms => Bool.false_ne_true affirms.1

/-- A value that counts as true is tested item by item. -/
theorem operate_none_of_truthy {v : Value} (truthy : v.truthy = true) (noText : ∀ s, v ≠ .text s) :
    ∃ answer, operate .equal v .none = pure (.bool answer) ∧ (answer = true ↔ Affirms v) := by
  refine ⟨(v.sequence?.map fun xs => xs.all Value.truthy).getD true, ?_, ?_⟩
  · cases v with
    | text s => exact absurd rfl (noText s)
    | _ => simp [operate, truthy]
  · cases sequence : v.sequence? <;> simp [Affirms, truthy, sequence]

/-- What counts as false is compared with nothing. -/
theorem operate_none_of_falsy {v : Value} (falsy : v.truthy = false)
    (noText : ∀ content, v ≠ .text content) (w : World) :
    ∃ w', (operate .equal v .none).perform w = (.ok (.bool (v.equal .none)), w') := by
  obtain ⟨s, written⟩ := display_of_falsy falsy
  have single : operate .equal v .none = scalar .equal v .none := by
    cases v with
    | text content => exact absurd rfl (noText content)
    | _ => simp [operate, falsy]
  rw [single, scalar, note, Act.shown, written]
  exact ⟨_, rfl⟩

/-- Comparing a value with nothing always gives an answer. -/
theorem exists_answer (v : Value) (w : World) :
    ∃ answer w', (operate .equal v .none).perform w = (.ok answer, w') ∧
      (answer.truthy = true ↔ Affirms v ∨ v = .none ∨ v = .text "") := by
  by_cases text : ∃ s, v = .text s
  · obtain ⟨s, rfl⟩ := text
    refine ⟨.text (s ++ " " ++ "None"), w, rfl, ?_⟩
    have filled : s ++ " " ++ "None" ≠ "" := by simp [String.append_eq_empty_iff]
    simp [affirms_text_iff, Value.truthy, filled, em']
  · have noText : ∀ s, v ≠ .text s := fun s same => text ⟨s, same⟩
    cases truthy : v.truthy with
    | true =>
      obtain ⟨answer, performed, holds⟩ := operate_none_of_truthy truthy noText
      refine ⟨.bool answer, w, by rw [performed]; rfl, ?_⟩
      have something : v ≠ .none := by
        rintro rfl
        cases truthy
      simp [Value.truthy, holds, something, noText]
    | false =>
      obtain ⟨w', performed⟩ := operate_none_of_falsy truthy noText w
      refine ⟨_, w', performed, ?_⟩
      have denied : ¬ Affirms v := fun affirms =>
        Bool.false_ne_true (truthy.symm.trans affirms.1)
      simp [Value.truthy, equal_none_iff, denied, noText]

/-! ## Conditions of one expression -/

/-- An expression in front of the closing bracket is a condition. -/
theorem run_condition {r r' : Reader} (read : expression.run.run r = (.ok tested, r'))
    (closed : r'.source.current.kind = .closeBracket) :
    condition.run.run r = (.ok (.binary tested ⟨.equal, "=="⟩ .missing), r') := by
  have looked : ∀ f : Reader → Reading (Tree Value),
      (get >>= f).run.run r' = (f r').run.run r' := fun _ => rfl
  rw [condition, run_bind, read]
  simp only [looked, closed]
  rfl

section Visits

variable {host : Host} {most d : Nat} {site : Site} {m : Machine} {w between : World}
  {v : Value}

/-- Where an expression has been evaluated, nothing can be evaluated too. -/
theorem perform_visit_missing {place place' : Site}
    (evaluated : (visit host ⟨most, d⟩ place tested).perform m w = ((.ok v, m), between)) :
    (visit host ⟨most, d⟩ place' .missing).perform m between = ((.ok .none, m), between) := by
  cases d with
  | zero => cases evaluated
  | succ =>
    show (unlessStopped _).perform m between = _
    rw [perform_unlessStopped_of_running (running_of_visitWithin_ok evaluated)]
    rfl

theorem perform_visit_condition
    (evaluated : (visit host ⟨most, d⟩ ((0, 0) :: site) tested).perform m w =
      ((.ok v, m), between)) :
    ∃ answer w', (visit host ⟨most, d + 1⟩ site
        (.binary tested ⟨.equal, "=="⟩ .missing)).perform m w = ((.ok answer, m), w') ∧
      (answer.truthy = true ↔ Affirms v ∨ v = .none ∨ v = .text "") := by
  obtain ⟨answer, w', performed, holds⟩ := exists_answer v between
  refine ⟨answer, w', ?_, holds⟩
  show (unlessStopped _).perform m w = _
  rw [perform_unlessStopped_of_running (running_of_visitWithin_ok evaluated)]
  refine (Exec.perform_bind_ok evaluated).trans
    ((Exec.perform_bind_ok (perform_visit_missing evaluated)).trans ?_)
  rw [Exec.perform_ofAct, performed]

/-- A branch without alternatives runs the body that the answer of its condition selects. -/
theorem perform_visit_branch {head : Tree Value} {answer : Value}
    {m' : Machine} {w' : World} (body otherwise : List (Tree Value))
    (reached : (visit host ⟨most, d⟩ ((0, 0) :: site) head).perform m w = ((.ok answer, m'), w')) :
    (visit host ⟨most, d + 1⟩ site (.branch head body [] otherwise)).perform m w =
      (do
        runBody (visit host ⟨most, d⟩) site (if answer.truthy then 1 else 2) 0
          (if answer.truthy then body else otherwise)
        return .none : Exec Value).perform m' w' := by
  show (unlessStopped _).perform m w = _
  rw [perform_unlessStopped_of_running (running_of_visitWithin_ok reached)]
  refine (Exec.perform_bind_ok reached).trans ?_
  cases answer.truthy <;> rfl

end Visits

/-- **When one expression is a truth test.** The expression is read as a condition, and the
condition gives an answer, which selects the body that a branch runs. It holds exactly if the value
affirms, just if the value is neither nothing nor the empty text. -/
theorem visit_condition_affirms_iff (host : Host) (most depth : Nat) (site : Site)
    (reader after : Reader) (tested : Script.Tree Value) (machine later : Machine)
    (world between : World) (value : Value)
    (read : expression.run.run reader = (.ok tested, after))
    (closed : after.source.current.kind = .closeBracket)
    (evaluated : (visit host ⟨most, depth⟩ ((0, 0) :: (0, 0) :: site) tested).perform machine
      world = ((.ok value, later), between)) :
    ∃ head answer last, condition.run.run reader = (.ok head, after) ∧
      (visit host ⟨most, depth + 1⟩ ((0, 0) :: site) head).perform machine world =
        ((.ok answer, machine), last) ∧
      ((answer.truthy = true ↔ Affirms value) ↔ value ≠ .none ∧ value ≠ .text "") ∧
      ∀ body otherwise : List (Script.Tree Value),
        (visit host ⟨most, depth + 2⟩ site (.branch head body [] otherwise)).perform machine
          world =
        (do
          runBody (visit host ⟨most, depth + 1⟩) site (if answer.truthy then 1 else 2) 0
            (if answer.truthy then body else otherwise)
          return .none : Exec Value).perform machine last := by
  have formula : tested.IsFormula := (isArithmetic_of_read read).isFormula
  obtain rfl : later = machine := eq_of_visitWithin_ok formula evaluated
  obtain ⟨answer, last, reached, holds⟩ := perform_visit_condition evaluated
  refine ⟨_, answer, last, run_condition read closed, reached, ?_,
    fun body otherwise => perform_visit_branch body otherwise reached⟩
  have nothing : value = .none → ¬ Affirms value := by
    rintro rfl
    exact not_affirms_none
  have empty : value = .text "" → ¬ Affirms value := by
    rintro rfl
    simp [affirms_text_iff]
  tauto

/-- A name in front of a closing bracket. -/
def nameInBrackets (name : String) : Reader :=
  ⟨⟨[⟨⟨.identifier, name⟩, 1, 1⟩, ⟨⟨.closeBracket, ")"⟩, 1, 2⟩], .finished 1 2⟩, ""⟩

/-- A state with one variable. -/
def oneVariable (name : String) (v : Value) : Machine :=
  { Machine.initial Path.here with globals := [(name, v)] }

/-- A list in which one item does not count as true is no condition that holds. -/
theorem visit_condition_affirms_iff_list :
    let value := list [.text "a", .text ""]
    let reader := nameInBrackets "x"
    let after : Reader := ⟨reader.source.advance, ""⟩
    expression.run.run reader = (.ok (.variable "x" : Script.Tree Value), after) ∧
    after.source.current.kind = .closeBracket ∧
    (visit Host.bare ⟨0, 1⟩ [(0, 0), (0, 0)] (.variable "x")).perform (oneVariable "x" value)
      default = ((.ok value, oneVariable "x" value), default) ∧
    ¬ Affirms value ∧
    ∃ head answer last,
      (visit Host.bare ⟨0, 2⟩ [(0, 0)] head).perform (oneVariable "x" value) default =
        ((.ok answer, oneVariable "x" value), last) ∧ answer.truthy = false := by
  intro value reader after
  have read : expression.run.run reader =
    (.ok (.variable "x" : Script.Tree Value), after) := rfl
  have evaluated : (visit Host.bare ⟨0, 1⟩ [(0, 0), (0, 0)] (.variable "x")).perform
    (oneVariable "x" value) default = ((.ok value, oneVariable "x" value), default) := rfl
  have denied : ¬ Affirms value := by
    intro affirms
    have empty := affirms.2 _ rfl (.text "") (by simp)
    cases empty
  obtain ⟨head, answer, last, -, reached, tests, -⟩ :=
    visit_condition_affirms_iff Host.bare 0 1 [] reader after _ _ _ _ _ value read rfl evaluated
  refine ⟨read, rfl, evaluated, denied, head, answer, last, reached, ?_⟩
  rw [← Bool.not_eq_true, tests.mpr ⟨by simp [value], by simp [value]⟩]
  exact denied

/-- Nothing, which a search gives that finds nothing, is a condition that holds. -/
theorem nothing_holds_as_condition :
    (condition.run.run (nameInBrackets "n")).1 =
      .ok (.binary (.variable "n") ⟨.equal, "=="⟩ .missing : Script.Tree Value) ∧
    (oneVariable "n" .none).read "n" = .none ∧ ¬ Affirms .none ∧
    Holds (visit Host.bare ⟨0, 2⟩ [] (.binary (.variable "n") ⟨.equal, "=="⟩ .missing))
      (oneVariable "n" .none) default := by
  have evaluated : (visit Host.bare ⟨0, 1⟩ [(0, 0)] (.variable "n")).perform
    (oneVariable "n" .none) default = ((.ok .none, oneVariable "n" .none), default) := rfl
  obtain ⟨answer, last, reached, holds⟩ := perform_visit_condition evaluated
  exact ⟨rfl, rfl, not_affirms_none, answer, _, last, reached, holds.mpr (.inr (.inl rfl))⟩

end DeviceScript.Execution
