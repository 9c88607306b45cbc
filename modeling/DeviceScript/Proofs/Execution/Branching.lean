import DeviceScript.Proofs.Execution.Perform

/-!
# Which part of a branch is run

A chain of conditions is meant to run the body under the first condition that holds, and to visit no
condition after it. `firstTrue` is that rule, as a computation of its own.

A branch follows the rule among its alternatives, but its first condition does not end the search:
if it holds, the alternatives are visited all the same, and the body of the first one that holds
takes the place of the body under the first condition. So the rule is followed just if the first
condition does not hold or there is no alternative (`visit_branch_firstTrue_iff`).
-/

namespace DeviceScript.Execution

open Script

/-- A condition with the body under it. The condition stands in the given part of its statement, the
body in the next part. -/
structure Arm where
  part : Nat
  condition : Tree Value
  body : List (Tree Value)

/-- Visits conditions up to the first one that holds and runs the body under it, or the last body if
none holds. -/
def firstTrue (visit : Visitor) (site : Site) (part : Nat) (otherwise : List (Tree Value)) :
    List Arm → Exec Value
  | [] => do
    runBody visit site part 0 otherwise
    return .none
  | arm :: arms => do
    if (← visit ((arm.part, 0) :: site) arm.condition).truthy then do
      runBody visit site (arm.part + 1) 0 arm.body
      return .none
    else firstTrue visit site part otherwise arms

/-- The alternatives of a branch, from the given one on. -/
def elseIfs : Nat → List (Tree Value × List (Tree Value)) → List Arm
  | _, [] => []
  | i, (condition, body) :: alts =>
    ⟨2 * i + 3, condition, body⟩ :: elseIfs (i + 1) alts

theorem mem_of_mem_elseIfs {i : Nat} {arm : Arm} {alts : List (Tree Value × List (Tree Value))}
    (mem : arm ∈ elseIfs i alts) : (arm.condition, arm.body) ∈ alts := by
  induction alts generalizing i with
  | nil => cases mem
  | cons _ _ ih =>
    cases mem with
    | head => exact List.mem_cons_self
    | tail _ m' => exact .tail _ (ih m')

/-- All conditions of a branch, the first one in front. -/
def arms (condition : Tree Value) (body : List (Tree Value))
    (alts : List (Tree Value × List (Tree Value))) : List Arm :=
  ⟨0, condition, body⟩ :: elseIfs 0 alts

/-- A computation ends with a value that counts as true. -/
def Holds (condition : Exec Value) (m : Machine) (w : World) : Prop :=
  ∃ v m' w', condition.perform m w = ((.ok v, m'), w') ∧ v.truthy = true

/-! ## What a branch does -/

section Step

variable (host : Host) (visit : Visitor) (most : Nat) (site p : Site)
variable (condition c c : Tree Value) (body : List (Tree Value))
variable (alternatives alts : List (Tree Value × List (Tree Value)))
variable (otherwise : List (Tree Value))

/-- Choosing among alternatives and running what was chosen follows the rule. -/
theorem chooseBranch_bind_runBody (part : Nat) (chosen : List (Tree Value)) (i : Nat) :
    (do
      let (part, chosen) ← chooseBranch visit p (part, chosen) i alts
      runBody visit p part 0 chosen
      return .none) =
    firstTrue visit p part chosen (elseIfs i alts) := by
  induction alts generalizing i with
  | nil => rfl
  | cons _ _ ih =>
    simp only [chooseBranch, elseIfs, firstTrue, bind_assoc]
    congr 1
    funext v
    split
    · rfl
    · exact ih (i + 1)

/-- The first condition decides only what is run if no alternative holds. -/
theorem step_branch :
    step host visit most p (.branch c body alts otherwise) = (do
      if (← visit ((0, 0) :: p) c).truthy then
        firstTrue visit p 1 body (elseIfs 0 alts)
      else firstTrue visit p 2 otherwise (elseIfs 0 alts)) := by
  simp only [step]
  congr 1
  funext v
  by_cases holds : v.truthy = true
  · simp only [holds, if_true, ← chooseBranch_bind_runBody]
  · simp only [holds, ← chooseBranch_bind_runBody]
    rfl

/-- Whatever the visits of its other subtrees do, the branch runs the body under the first condition
that holds and visits no condition after it. -/
def FollowsRule (m : Machine) (w : World) : Prop :=
  ∀ other : Visitor,
    (other ((0, 0) :: site) condition).perform m w =
      (visit ((0, 0) :: site) condition).perform m w →
    (step host other most site
      (.branch condition body alternatives otherwise)).perform m w =
    (firstTrue other site 2 otherwise (arms condition body alternatives)).perform m w

variable {host visit most p c body alts otherwise}
variable {m m' : Machine} {w w' : World} {v : Value}

/-- A branch whose first condition holds is decided by its alternatives, with the body under that
condition as the last resort. -/
theorem perform_step_branch_of_holds
    (reached : (visit ((0, 0) :: p) c).perform m w = ((.ok v, m'), w')) (holds : v.truthy = true) :
    (step host visit most p
      (.branch c body alts otherwise)).perform m w =
    (firstTrue visit p 1 body (elseIfs 0 alts)).perform m' w' := by
  rw [step_branch, Exec.perform_bind_ok reached, if_pos holds]

/-- Unless the first condition holds and there is an alternative, the rule is followed. -/
theorem perform_step_branch_eq_firstTrue
    (decisive : ¬ (Holds (visit ((0, 0) :: p) c) m w ∧ alts ≠ [])) :
    (step host visit most p
      (.branch c body alts otherwise)).perform m w =
    (firstTrue visit p 2 otherwise
      (arms c body alts)).perform m w := by
  rw [step_branch, arms, firstTrue]
  rcases reached : (visit ((0, 0) :: p) c).perform m w with
    ⟨⟨i | v, m'⟩, w'⟩
  · rw [Exec.perform_bind_error reached, Exec.perform_bind_error reached]
  · rw [Exec.perform_bind_ok reached, Exec.perform_bind_ok reached]
    by_cases holds : v.truthy = true
    · cases alts with
      | nil => rfl
      | cons => exact absurd ⟨⟨v, m', w', reached, holds⟩, List.cons_ne_nil _ _⟩ decisive
    · rw [if_neg holds, if_neg holds]

/-! ## When the rule is broken -/

/-- Visits the first condition as before, gets stuck in the condition of the first alternative, and
does nothing elsewhere. -/
def stuckInAlternative (visit : Visitor) (site : Site) : Visitor := fun place t =>
  if place = (0, 0) :: site then visit place t
  else if place = (3, 0) :: site then throw .exhausted
  else return .none

theorem runBody_stuckInAlternative (i : Nat) (ts : List (Tree Value)) :
    runBody (stuckInAlternative visit p) p 1 i ts = pure () := by
  induction ts generalizing i with
  | nil => rfl
  | cons t _ ih =>
    have idle : stuckInAlternative visit p ((1, i) :: p) t = pure .none := by
      simp [stuckInAlternative]
    rw [runBody, idle, pure_bind, ih]

/-- If the first condition holds, what the first alternative does is seen. -/
theorem not_followsRule (holds : Holds (visit ((0, 0) :: p) c) m w) (several : alts ≠ []) :
    ¬ FollowsRule host visit most p c body alts otherwise m w := by
  intro followed
  obtain ⟨v, m', w', reached, holds⟩ := holds
  obtain ⟨⟨second, _⟩, _, rfl⟩ := List.exists_cons_of_ne_nil several
  have first : (stuckInAlternative visit p ((0, 0) :: p) c).perform m w = ((.ok v, m'), w') := by
    simpa [stuckInAlternative] using reached
  have stuck : stuckInAlternative visit p ((3, 0) :: p) second = throw .exhausted := by
    simp [stuckInAlternative]
  have same := followed (stuckInAlternative visit p) (first.trans reached.symm)
  rw [perform_step_branch_of_holds first holds, arms, firstTrue, Exec.perform_bind_ok first,
    if_pos holds, runBody_stuckInAlternative] at same
  simp only [elseIfs, firstTrue, stuck] at same
  -- On the left the alternative has got stuck, on the right nothing has happened.
  exact Bool.false_ne_true (congrArg (fun res => res.1.1.isOk) same)

theorem followsRule_iff :
    FollowsRule host visit most p c body alts otherwise m w ↔
      ¬ (Holds (visit ((0, 0) :: p) c) m w ∧ alts ≠ []) := by
  constructor
  · intro followed ⟨holds, several⟩
    exact not_followsRule holds several followed
  · intro _ _ same
    apply perform_step_branch_eq_firstTrue
    rwa [Holds, same]

end Step

/-! ## Visits of branches -/

/-- **When a branch runs the body under its first true condition.** A script that is to stop leaves
the branch at once. Otherwise the rule is followed, whatever the subtrees do, just if the first
condition does not hold or there is no alternative; the visit then is what the rule says. If the
first condition holds, the alternatives are visited nevertheless, and the body under that condition
is run only if none of them holds. -/
theorem visit_branch_firstTrue_iff (host : Host) (most depth : Nat) (site : Site)
    (condition : Script.Tree Value) (body : List (Script.Tree Value))
    (alternatives : List (Script.Tree Value × List (Script.Tree Value)))
    (otherwise : List (Script.Tree Value)) (machine : Machine) (world : World) :
    let inner := visit host ⟨most, depth⟩
    let first := inner ((0, 0) :: site) condition
    let result := (visit host ⟨most, depth + 1⟩ site
      (.branch condition body alternatives otherwise)).perform machine world
    (machine.stopped = true → result.1 = (.error .leave, machine)) ∧
    (machine.stopped = false →
      (FollowsRule host inner most site condition body alternatives otherwise machine world ↔
        ¬ (Holds first machine world ∧ alternatives ≠ [])) ∧
      (¬ (Holds first machine world ∧ alternatives ≠ []) →
        result = (firstTrue inner site 2 otherwise
          (arms condition body alternatives)).perform machine world) ∧
      (∀ value later after, first.perform machine world = ((.ok value, later), after) →
        value.truthy = true →
          result = (firstTrue inner site 1 body
            (elseIfs 0 alternatives)).perform later after)) := by
  intro inner first result
  refine ⟨fun stopped => perform_unlessStopped_of_stopped stopped _ world, fun running => ?_⟩
  have stepped : result = (step host inner most site
      (.branch condition body alternatives otherwise)).perform machine world :=
    perform_unlessStopped_of_running running _ world
  refine ⟨followsRule_iff, fun decisive => ?_, fun value later after reached holds => ?_⟩
  · rw [stepped]
    exact perform_step_branch_eq_firstTrue decisive
  · rw [stepped]
    exact perform_step_branch_of_holds reached holds

/-- A text as a condition; it always holds. -/
def given (s : String) : Tree Value := .binary (.string s) ⟨.equal, "=="⟩ .missing

/-- Both conditions hold, and the body under the second one is run. -/
theorem alternative_overrides_first :
    let inner := visit Host.bare ⟨0, 3⟩
    let body := [.assign "x" (.string "first")]
    let alternatives := [(given "b", [.assign "x" (.string "second")])]
    let visited := (visit Host.bare ⟨0, 4⟩ []
      (.branch (given "a") body alternatives [])).perform (Machine.initial Path.here) default
    let ruled := (firstTrue inner [] 2 []
      (arms (given "a") body alternatives)).perform (Machine.initial Path.here) default
    visited.1.2.globals.lookup "x" = some (.text "second") ∧
      ruled.1.2.globals.lookup "x" = some (.text "first") :=
  ⟨rfl, rfl⟩

end DeviceScript.Execution
