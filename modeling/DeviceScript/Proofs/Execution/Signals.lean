import DeviceScript.Proofs.Execution.Simulation
import DeviceScript.Proofs.Script.Produced

/-!
# Where breaks and continues come from

A break and a continue are signals: they end a visit early, but in an orderly way. A formula sends
none, unless the script has been asked to stop, and leaves the state as it is
(`silent_visitWithin`). The rounds of a loop send no continue, because each of their statements is
guarded (`avoids_skip_overItems`).
-/

namespace DeviceScript.Execution

open Exec Script

variable {other : Interrupt} {host : Host} {most d : Nat} {p : Site} {t : Tree Value}

def Interrupt.isFailure : Interrupt → Bool
  | .failed _ => true
  | _ => false

theorem Interrupt.isFailure_of_isSignal {i : Interrupt}
    (signal : i.isSignal = true) : i.isFailure = false := by
  cases i with
  | failed => cases signal
  | _ => rfl

/-- The outcome is a value, a break or a continue. -/
def orderly {α : Type} : Except Interrupt α → Bool
  | .ok _ => true
  | .error i => i.isSignal

/-! ## Formulas -/

/-- The names that a formula reads. -/
def mentions : Tree Value → List String
  | .variable name => [name]
  | .binary left _ right => mentions left ++ mentions right
  | _ => []

/-- Two states stay as they are, and no signal is sent. -/
def Simulation.staying (first second : Machine) : Simulation where
  states m m' := m = first ∧ m' = second
  may i := i.isSignal = false

section Staying

variable {first second : Machine} (running : first.stopped = false)
  (running' : second.stopped = false)

include running running'

/-- Visits stay if their steps do, while the script is not asked to stop. -/
theorem Simulates.visit
    (stepped : ∀ d, Simulates (.staying first second) Eq
      (step host (visitWithin host most d) most p t)
      (step host (visitWithin host most d) most p t)) :
    Simulates (.staying first second) Eq (visitWithin host most d p t)
      (visitWithin host most d p t) := by
  cases d with
  | zero => exact .throw rfl
  | succ d =>
    rintro _ _ w ⟨rfl, rfl⟩
    rw [visitWithin, perform_unlessStopped_of_running running,
      perform_unlessStopped_of_running running']
    exact stepped d _ _ w ⟨rfl, rfl⟩

/-- A formula sends no signal and leaves states as they are in which its names read the same, while
the script is not asked to stop. -/
theorem simulates_formula (formula : t.IsFormula) (host : Host) (most d : Nat) (p : Site)
    (same : ∀ x ∈ mentions t, first.read x = second.read x) :
    Simulates (.staying first second) Eq (visitWithin host most d p t)
      (visitWithin host most d p t) := by
  have failed : ∀ e, (Simulation.staying first second).may (.failed e) := fun _ => rfl
  induction formula generalizing d p with
  | missing | string => exact .visit running running' fun _ => .pure rfl
  | number => exact .visit running running' fun _ => .ofExcept failed _
  | name x =>
    refine .visit running running' fun _ => .inspect ?_
    rintro _ _ ⟨rfl, rfl⟩
    exact .pure (same x List.mem_cons_self)
  | binary _ _ _ left right =>
    rw [mentions, List.forall_mem_append] at same
    exact .visit running running' fun d => .andThen (left d _ same.1) fun _ =>
      .andThen (right d _ same.2) fun _ => .ofAct failed _

end Staying

/-- From the given state the computation sends no signal and leaves the state as it is. -/
abbrev Silent {α : Type} (exec : Exec α) (m : Machine) : Prop :=
  Simulates (.staying m m) Eq exec exec

theorem Silent.perform {α : Type} {exec : Exec α} {m : Machine} (silent : Silent exec m)
    (w : World) : ∃ o w', exec.perform m w = ((o, m), w') ∧
      ∀ i, o = .error i → i.isSignal = false := by
  obtain ⟨_, _, _, _, w', reached, -, ⟨rfl, -⟩, alike⟩ := silent _ _ w ⟨rfl, rfl⟩
  refine ⟨_, w', reached, ?_⟩
  rintro _ rfl
  cases alike with
  | error quiet => exact quiet

theorem silent_visitWithin (formula : t.IsFormula) (host : Host) (most d : Nat) (p : Site)
    {m : Machine} (running : m.stopped = false) : Silent (visitWithin host most d p t) m :=
  simulates_formula running running formula host most d p fun _ _ => rfl

/-! ## Loops -/

/-- The state is the same, and the given interrupt does not come. -/
def Simulation.avoiding (i : Interrupt) : Simulation := ⟨Eq, fun other => other ≠ i⟩

section Avoiding

variable {α : Type} {interrupt i : Interrupt}

/-- The computation never ends with the given interrupt. -/
abbrev Exec.Avoids (i : Interrupt) (exec : Exec α) : Prop :=
  Simulates (.avoiding i) Eq exec exec

theorem avoids_iff {exec : Exec α} : Avoids i exec ↔ ∀ m w, (exec.perform m w).1.1 ≠ .error i := by
  constructor
  · intro avoids m w ended
    obtain ⟨_, _, _, _, _, reached, -, -, alike⟩ := avoids m m w rfl
    rw [reached] at ended
    subst ended
    cases alike with
    | error other => exact other rfl
  · rintro avoids m _ w rfl
    have other := avoids m w
    rcases reached : exec.perform m w with ⟨⟨_ | _, _⟩, _⟩ <;> rw [reached] at other
    · refine ⟨_, _, _, _, _, rfl, rfl, rfl, .error ?_⟩
      rintro rfl
      exact other rfl
    · exact ⟨_, _, _, _, _, rfl, rfl, rfl, .ok rfl⟩

theorem lawful_avoiding (other : i.isFailure = false) :
    Simulation.Lawful True (.avoiding i) where
  failed := by
    rintro _ rfl
    cases other
  stopped same := same ▸ rfl
  title same := same ▸ rfl
  stop _ _ same := same ▸ rfl
  write _ _ _ _ _ same := same ▸ rfl

/-- A modest computation ends with a value or a failure. -/
theorem Exec.Avoids.modest (other : i.isFailure = false) {exec : Exec α}
    (modest : Modest True exec) : Avoids i exec :=
  (lawful_avoiding other).modest modest

theorem avoids_modify (f : Machine → Machine) : Avoids i (modify f : Exec PUnit) :=
  .modify fun _ _ same => same ▸ rfl

/-- What is caught does not get out. -/
theorem avoids_caught (exec : Exec Unit) : Avoids i (Exec.catching i exec) := by
  rw [avoids_iff]
  intro m w
  rw [perform_catching]
  rcases exec.perform m w with ⟨⟨_ | ⟨⟩, _⟩, _⟩
  · dsimp only
    rw [Exec.caught]
    split
    · rintro ⟨⟩
    · rename_i different
      rintro ⟨⟩
      exact different rfl
  · rintro ⟨⟩

end Avoiding

theorem congruent_avoiding_skip :
    Congruent True fun {_} exec exec' => Simulates (.avoiding .skip) Eq exec exec' :=
  (lawful_avoiding rfl).congruent (by rintro ⟨⟩)

theorem avoids_skip_runRound (visit : Visitor) (p : Site) (part i : Nat)
    (ts : List (Tree Value)) : Avoids .skip (runRound visit p part i ts) := by
  induction ts generalizing i with
  | nil => exact .pure rfl
  | cons _ _ ih => exact .andThen (avoids_caught _) fun _ => ih (i + 1)

/-- If no round ends with a continue, neither does the loop over items. -/
theorem avoids_skip_overItems {round : Exec Unit} (avoids : Avoids .skip round) (xs : Value) :
    Avoids .skip (overItems round xs) :=
  overItems_related congruent_avoiding_skip avoids
    (fun _ => avoids_modify _) xs

/-- The rounds of a loop over items, with the items visited first. -/
def loopOver (visit : Visitor) (site : Site) (items : Tree Value)
    (body : List (Tree Value)) : Exec Unit := do
  let items ← wholeItems (← visit ((0, 0) :: site) items)
  Exec.catchLeave (overItems (runRound visit site 1 0 body) items)

/-- A loop over items enters its scope, does its rounds and, if they are done, leaves its scope. -/
theorem perform_step_each (host : Host) (visit : Visitor) (most : Nat) (p : Site) (x : String)
    (xs : Tree Value) (body : List (Tree Value)) (m : Machine) (w : World) :
    (step host visit most p (.each x xs body)).perform m w =
      (do
        loopOver visit p xs body
        modify fun m' => m'.leaveLoop p m.loops.length
        return .none : Exec Value).perform (m.enterLoop p x) w := by
  rw [step, perform_get_bind, perform_modify_bind, loopOver]
  simp only [bind_assoc]

/-- The rounds of a loop over the items that a formula gives send no signal, while the script is not
asked to stop before them. -/
theorem not_isSignal_loopOver {xs : Tree Value} (formula : xs.IsFormula)
    {body : List (Tree Value)} {m : Machine} {w : World}
    (running : m.stopped = false) {i : Interrupt}
    (ended : ((loopOver (visitWithin host most d) p xs body).perform
      m w).1.1 = .error i) : i.isSignal = false := by
  let round := runRound (visitWithin host most d) p 1 0 body
  have avoids : ∀ (signal : Interrupt) (v : Value), signal.isSignal = true →
      Avoids signal (do Exec.catchLeave (overItems round (← wholeItems v))) := by
    intro signal v isSignal
    have whole := Avoids.modest (Interrupt.isFailure_of_isSignal isSignal) (modest_wholeItems v)
    refine whole.andThen fun xs => ?_
    cases signal with
    | leave => exact avoids_caught _
    | skip => exact .catching (avoids_skip_overItems (avoids_skip_runRound _ _ _ _ _) xs)
    | failed | exhausted => cases isSignal
  obtain ⟨o, w', reached, quiet⟩ :=
    (silent_visitWithin formula host most d ((0, 0) :: p) running).perform w
  rcases o with _ | v
  · rw [loopOver, perform_bind_error reached] at ended
    cases ended
    exact quiet i rfl
  · rw [loopOver, perform_bind_ok reached] at ended
    cases signal : i.isSignal with
    | false => rfl
    | true => exact absurd ended (avoids_iff.mp (avoids i v signal) m w')

end DeviceScript.Execution
