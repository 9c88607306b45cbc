import DeviceScript.Proofs.Execution.Signals

/-!
# The rounds of a loop

A loop has a course, which is what it still has before it: a number of rounds, rounds as long as a
condition holds, or rounds for items. `Course.Opens` says how the next round begins, and
`Course.Begins` which rounds begin in the end. What a loop does from the beginning of one of its
rounds on is that round and then the rest of its course (`perform_step_of_begins`).

A continue is meant to skip what is left of its round. It skips only what is left of the statement
of the body that it stands in: the statements after that one are run, and then the loop goes on. So
a continue does what it is meant to do, whatever comes after it, just if it stands in the last
statement of the body (`visit_continue_skips_iff`).
-/

namespace DeviceScript.Execution

open Exec Script

/-! ## Items -/

/-- The items for which a loop over a value does its rounds; other values are not looped over. -/
def roundItems? : Value → Option (List Value)
  | .int count => some ((List.range' 0 count.toNat).map fun n : Nat => .int n)
  | .bool flag => some (if flag then [.int 0] else [])
  | .list xs => some xs
  | .tuple xs => some xs
  | .set xs => some xs
  | _ => none

/-- Counting is going through the numbers. -/
theorem forCount_eq_forItems (round : Exec Unit) (start count : Nat) :
    forCount round start count =
      forItems round ((List.range' start count).map fun n : Nat => .int n) := by
  induction count generalizing start with
  | zero => rfl
  | succ _ ih => rw [List.range'_succ, List.map_cons, forCount, forItems, ih]

theorem overItems_eq_forItems (round : Exec Unit) {v : Value} {xs : List Value}
    (looped : roundItems? v = some xs) : overItems round v = forItems round xs := by
  unfold roundItems? at looped
  split at looped <;> cases looped
  · exact forCount_eq_forItems round 0 _
  · rename_i flag
    cases flag <;> rfl
  · rfl
  · rfl
  · rfl

/-! ## Courses -/

/-- What a loop still has before it. -/
inductive Course where
  | times (n : Nat)
  | rounds (condition : Exec Value) (bound : Nat)
  | items (items : List Value)

namespace Course

/-- Does the rounds that are left. -/
def run (round : Exec Unit) : Course → Exec Unit
  | .times n => Execution.times round n
  | .rounds condition bound => Execution.rounds condition round bound
  | .items left => forItems round left

/-- From the first state the next round begins in the second one, and the second course is left
after it. -/
inductive Opens : Course → Machine → World → Course → Machine → World → Prop
  | times (n : Nat) (m : Machine) (w : World) :
      Opens (.times (n + 1)) m w (.times n) m w
  | rounds {condition : Exec Value} {v : Value} {m m' : Machine} {w w' : World}
      (bound : Nat) : condition.perform m w = ((.ok v, m'), w') →
      v.truthy = true → Opens (.rounds condition (bound + 1)) m w (.rounds condition bound) m' w'
  | items (x : Value) (left : List Value) (m : Machine) (w : World) :
      Opens (.items (x :: left)) m w (.items left) (m.setItem x) w

/-- From the first state some round begins in the second one, after the rounds before it have come
to their end, and the second course is left after it. -/
inductive Begins (round : Exec Unit) : Course → Machine → World → Course → Machine → World → Prop
  | next {course left : Course} {m later : Machine} {w w' : World} :
      Opens course m w left later w' → Begins round course m w left later w'
  | later {course middle left : Course} {m opened done later : Machine} {w w₁ w₂ w' : World} :
      Opens course m w middle opened w₁ → round.perform opened w₁ = ((.ok (), done), w₂) →
      Begins round middle done w₂ left later w' → Begins round course m w left later w'

variable {round : Exec Unit} {course left : Course} {m later : Machine} {w after : World}

theorem Opens.perform_run (opens : Opens course m w left later after) (round : Exec Unit) :
    (course.run round).perform m w =
      (do round; left.run round : Exec Unit).perform later after := by
  cases opens with
  | times | items => rfl
  | rounds _ holds counts =>
    rw [run, Execution.rounds, perform_bind_ok holds, if_pos counts]
    rfl

/-- From the beginning of a round on, a loop does that round and then what is left. -/
theorem Begins.perform_run (begins : Begins round course m w left later after) :
    (course.run round).perform m w =
      (do round; left.run round : Exec Unit).perform later after := by
  induction begins with
  | next opens => exact opens.perform_run round
  | later opens done _ ih =>
    rw [opens.perform_run, perform_bind_ok done]
    exact ih

end Course

/-! ## Loops -/

/-- A loop with the given body is visited in the first state and comes to its rounds in the second
one, with the given course before it. What it does after its rounds is the last computation. -/
inductive Starts (visit : Visitor) (most : Nat) (site : Site) (body : List (Tree Value)) :
    Tree Value → Machine → World → Course → Exec Value → Machine → World → Prop
  | loop {count : Tree Value} {v : Value} {number : Int} {m m' : Machine}
      {w w' : World} :
      (visit ((0, 0) :: site) count).perform m w = ((.ok v, m'), w') →
      Value.toWhole v = .ok number →
        Starts visit most site body (.loop count body) m w (.times number.toNat)
          (return .none) m' w'
  | whileLoop (condition : Tree Value) (m : Machine) (w : World) :
      Starts visit most site body (.whileLoop condition body) m w
        (.rounds (visit ((0, 0) :: site) condition) most) (return .none) m w
  | each {name : String} {t : Tree Value} {v whole : Value} {xs : List Value}
      {m m' : Machine} {w w' : World} :
      (visit ((0, 0) :: site) t).perform (m.enterLoop site name) w = ((.ok v, m'), w') →
      (wholeItems v).perform m' w' = ((.ok whole, m'), w') →
      roundItems? whole = some xs →
        Starts visit most site body (.each name t body) m w (.items xs)
          (do
            modify fun m'' => m''.leaveLoop site m.loops.length
            return .none) m' w'

section Loops

variable {host : Host} {visit : Visitor} {most : Nat} {p : Site}
variable {body : List (Tree Value)} {t : Tree Value}
variable {course left : Course} {finish : Exec Value}
variable {m middle later : Machine} {w w' after : World}

theorem perform_catching_bind_ok {α : Type} {first : Exec α} {v : α} {f : α → Exec Unit}
    (reached : first.perform m w = ((.ok v, later), after)) :
    (Exec.catchLeave (first >>= f)).perform m w = (Exec.catchLeave (f v)).perform later after := by
  rw [perform_catching, perform_catching, perform_bind_ok reached]

/-- A visit of a loop runs its course, up to a break, and does what is to be done at the end. -/
theorem perform_step_of_starts (starts : Starts visit most p body t m w course finish later after) :
    (step host visit most p t).perform m w =
      (do
        Exec.catchLeave (course.run (runRound visit p 1 0 body))
        finish : Exec Value).perform later after := by
  cases starts with
  | loop counted whole =>
    rw [step, perform_bind, perform_catching_bind_ok counted, whole, ← perform_bind]
    rfl
  | whileLoop => rfl
  | each visited whole looped =>
    rw [step, perform_get_bind, perform_modify_bind, perform_bind_ok visited,
      perform_bind_ok whole, overItems_eq_forItems _ looped]
    rfl

/-- From the beginning of a round on, a visit of a loop does that round and then what is left of its
course, up to a break, and then what is to be done at the end. -/
theorem perform_step_of_begins (starts : Starts visit most p body t m w course finish middle w')
    (begins : course.Begins (runRound visit p 1 0 body) middle w' left later after) :
    (step host visit most p t).perform m w =
      (do
        Exec.catchLeave (do
          runRound visit p 1 0 body
          left.run (runRound visit p 1 0 body))
        finish : Exec Value).perform later after := by
  rw [perform_step_of_starts starts, perform_bind, perform_bind, perform_catching,
    perform_catching, begins.perform_run]

end Loops

/-! ## Statements of a round -/

section Statements

variable {visit other : Visitor} {p : Site} {part : Nat}

/-- A round does the statements at its front and then the others. -/
theorem runRound_append (visit : Visitor) (p : Site) (part i : Nat)
    (front rest : List (Tree Value)) :
    runRound visit p part i (front ++ rest) = (do
      runRound visit p part i front
      runRound visit p part (i + front.length) rest) := by
  induction front generalizing i with
  | nil => rfl
  | cons _ _ ih =>
    rw [List.cons_append, runRound, runRound, ih, bind_assoc, List.length_cons,
      Nat.add_right_comm, ← Nat.add_assoc]

/-- A round depends only on how its own statements are visited. -/
theorem runRound_congr {i : Nat} {ts : List (Tree Value)}
    (same : ∀ place < i + ts.length, ∀ t,
      other ((part, place) :: p) t = visit ((part, place) :: p) t) :
    runRound other p part i ts = runRound visit p part i ts := by
  induction ts generalizing i with
  | nil => rfl
  | cons t ts ih =>
    have length : i + (t :: ts).length = i + 1 + ts.length := by
      rw [List.length_cons]
      omega
    rw [runRound, runRound, same i (by omega), ih fun place below => same place (by omega)]

variable {front rest : List (Tree Value)} {s : Tree Value}
variable {m middle continued : Machine} {w w' after : World}

/-- A round in which a statement is left by a continue goes on with the next statement. -/
theorem perform_runRound_of_continue
    (before : (runRound visit p part 0 front).perform m w = ((.ok (), middle), w'))
    (reached : (visit ((part, front.length) :: p) s).perform middle w' =
      ((.error .skip, continued), after)) :
    (runRound visit p part 0 (front ++ s :: rest)).perform m w =
      (runRound visit p part (front.length + 1) rest).perform continued after := by
  have caught : (Exec.catchSkip (do let _ ← visit ((part, front.length) :: p) s)).perform
      middle w' = ((.ok (), continued), after) := by
    rw [perform_catching, perform_bind_error reached]
    rfl
  rw [runRound_append, perform_bind_ok before, Nat.zero_add, runRound, perform_bind_ok caught]

/-- Whatever the statements after it do, the round is over once the statement has been left by a
continue. -/
def SkipsRest (visit : Visitor) (site : Site) (front : List (Tree Value))
    (statement : Tree Value) (rest : List (Tree Value)) (m : Machine)
    (w : World) (continued : Machine) (w' : World) : Prop :=
  ∀ other : Visitor,
    (∀ place < front.length + 1, ∀ t, other ((1, place) :: site) t = visit ((1, place) :: site) t) →
    (runRound other site 1 0 (front ++ statement :: rest)).perform m w = ((.ok (), continued), w')

/-- Visits everything as before but gets stuck at one place of the body. -/
def stuckAt (visit : Visitor) (site : Site) (place : Nat) : Visitor := fun site' t =>
  if site' = (1, place) :: site then throw .exhausted else visit site' t

/-- The next statement is visited after a continue, so what it does is seen. -/
theorem skipsRest_iff
    (before : (runRound visit p 1 0 front).perform m w = ((.ok (), middle), w'))
    (reached : (visit ((1, front.length) :: p) s).perform middle w' =
      ((.error .skip, continued), after)) :
    SkipsRest visit p front s rest m w continued after ↔ rest = [] := by
  have goesOn : ∀ other, (∀ place < front.length + 1, ∀ t,
      other ((1, place) :: p) t = visit ((1, place) :: p) t) →
      (runRound other p 1 0 (front ++ s :: rest)).perform m w =
        (runRound other p 1 (front.length + 1) rest).perform continued after := by
    intro other same
    have start : (runRound other p 1 0 front).perform m w = ((.ok (), middle), w') := by
      rw [runRound_congr fun place below => same place (by omega)]
      exact before
    have left : (other ((1, front.length) :: p) s).perform middle w' =
        ((.error .skip, continued), after) := by
      rw [same front.length (by omega)]
      exact reached
    exact perform_runRound_of_continue start left
  constructor
  · intro skips
    cases rest with
    | nil => rfl
    | cons next =>
      have same : ∀ place < front.length + 1, ∀ t,
          stuckAt visit p (front.length + 1) ((1, place) :: p) t = visit ((1, place) :: p) t := by
        intro place below t
        rw [stuckAt, if_neg]
        simp only [List.cons.injEq, Prod.mk.injEq, true_and, and_true]
        omega
      have stuck : stuckAt visit p (front.length + 1) ((1, front.length + 1) :: p) next =
          throw .exhausted := if_pos rfl
      have ended := skips _ same
      rw [goesOn _ same, runRound, stuck] at ended
      cases ended
  · rintro rfl other same
    exact goesOn other same

end Statements

/-! ## Continuing a loop -/

/-- **When a continue skips the rest of its round.** A loop of any kind is visited, one of its
rounds begins, the statements at the front of its body have been done, and the next statement is
left by a continue. Then the statements after it are run, and after them the loop goes on with what
is left of its course. The rest of the round is skipped, whatever it would do, just if there is no
further statement; only then does the loop go on at once. -/
theorem visit_continue_skips_iff (host : Host) (most depth : Nat) (site : Site)
    (tree : Script.Tree Value) (front rest : List (Script.Tree Value))
    (statement : Script.Tree Value) (course left : Course) (finish : Exec Value)
    (machine started begun middle continued : Machine) (world world₁ world₂ world₃ after : World)
    (running : machine.stopped = false)
    (starts : Starts (visit host ⟨most, depth⟩) most site (front ++ statement :: rest) tree machine
      world course finish started world₁)
    (begins : course.Begins (runRound (visit host ⟨most, depth⟩) site 1 0
      (front ++ statement :: rest)) started world₁ left begun world₂)
    (before : (runRound (visit host ⟨most, depth⟩) site 1 0 front).perform begun world₂ =
      ((.ok (), middle), world₃))
    (reached : (visit host ⟨most, depth⟩ ((1, front.length) :: site) statement).perform middle
      world₃ = ((.error .skip, continued), after)) :
    let inner := visit host ⟨most, depth⟩
    let round := runRound inner site 1 0 (front ++ statement :: rest)
    let result := (visit host ⟨most, depth + 1⟩ site tree).perform machine world
    result = (do
      Exec.catchLeave (do
        runRound inner site 1 (front.length + 1) rest
        left.run round)
      finish : Exec Value).perform continued after ∧
    (SkipsRest inner site front statement rest begun world₂ continued after ↔ rest = []) ∧
    (rest = [] → result = (do
      Exec.catchLeave (left.run round)
      finish : Exec Value).perform continued after) := by
  intro inner round result
  have goesOn : result = (do
      Exec.catchLeave (do
        runRound inner site 1 (front.length + 1) rest
        left.run round)
      finish : Exec Value).perform continued after := by
    have stepped : result = (step host inner most site tree).perform machine world :=
      perform_unlessStopped_of_running running _ world
    rw [stepped, perform_step_of_begins starts begins, perform_bind, perform_bind, perform_catching,
      perform_catching, perform_bind, perform_bind, perform_runRound_of_continue before reached]
  refine ⟨goesOn, skipsRest_iff before reached, ?_⟩
  rintro rfl
  exact goesOn

/-- A loop of two rounds in which an assignment follows a continue. -/
def continuedLoop : Tree Value :=
  .loop (.variable "n") [.skip, .assign "x" (.string "late")]

/-- A state with the number of rounds. -/
def twoRounds : Machine :=
  { Machine.initial Path.here with globals := [("n", .int 2)] }

/-- The assignment after the continue is done. -/
theorem continue_runs_next_statement :
    let inner := visit Host.bare ⟨0, 3⟩
    let result := (visit Host.bare ⟨0, 4⟩ [] continuedLoop).perform twoRounds default
    (inner [(1, 0)] .skip).perform twoRounds default = ((.error .skip, twoRounds), default) ∧
      twoRounds.globals.lookup "x" = none ∧ result.1.1 = .ok .none ∧
      result.1.2.globals.lookup "x" = some (.text "late") :=
  ⟨rfl, rfl, rfl, rfl⟩

theorem starts_continuedLoop :
    Starts (visit Host.bare ⟨0, 3⟩) 0 [] [.skip, .assign "x" (.string "late")] continuedLoop
      twoRounds default (.times 2) (return .none) twoRounds default := by
  show Starts _ _ _ _ _ _ _ (.times (Int.toNat 2)) _ _ _
  exact .loop rfl rfl

/-- The second round begins after the first one has come to its end. -/
theorem begins_continuedLoop :
    (Course.times 2).Begins
      (runRound (visit Host.bare ⟨0, 3⟩) [] 1 0 [.skip, .assign "x" (.string "late")]) twoRounds
      default (.times 0) (twoRounds.write "x" (.text "late")) default :=
  .later (.times 1 twoRounds default) rfl (.next (.times 0 _ default))

theorem visit_continue_skips_iff_continuedLoop :
    let inner := visit Host.bare ⟨0, 3⟩
    let rest := [.assign "x" (.string "late")]
    let round := runRound inner [] 1 0 (.skip :: rest)
    let result := (visit Host.bare ⟨0, 4⟩ [] continuedLoop).perform twoRounds default
    let second := twoRounds.write "x" (.text "late")
    Starts inner 0 [] (.skip :: rest) continuedLoop twoRounds default (.times 2) (return .none)
      twoRounds default ∧
    (Course.times 2).Begins round twoRounds default (.times 0) second default ∧
    result = (do
      Exec.catchLeave (do
        runRound inner [] 1 1 rest
        (Course.times 0).run round)
      return .none : Exec Value).perform second default ∧
    (SkipsRest inner [] [] .skip rest second default second default ↔ rest = []) ∧
    (rest = [] → result = (do
      Exec.catchLeave ((Course.times 0).run round)
      return .none : Exec Value).perform second default) :=
  ⟨starts_continuedLoop, begins_continuedLoop,
    visit_continue_skips_iff Host.bare 0 3 [] continuedLoop [] [.assign "x" (.string "late")] .skip
      (.times 2) (.times 0) (return .none) twoRounds twoRounds _ _ _ default default default default
      default rfl starts_continuedLoop begins_continuedLoop rfl rfl⟩

end DeviceScript.Execution
