import DeviceScript.Proofs.Execution.Compatible

/-!
# Computations that go together

Much is shown by comparing two runs: of a computation in two states, or of two computations that are
put together alike. `Simulates` is what these comparisons have in common. From states that go
together both computations change the world in the same way, end alike and leave states that go
together. A `Simulation` says which states do, and which interrupts may come. If it is `Lawful`,
modest computations go together with themselves, so that steps respect it (`Lawful.congruent`).
-/

namespace DeviceScript.Execution

open Exec

/-- Which states go together, and which interrupts may come. -/
structure Simulation where
  states : Machine → Machine → Prop
  may : Interrupt → Prop

/-- Ends that are alike: values that are related, or the same interrupt. -/
inductive Corresponds {α β : Type} (may : Interrupt → Prop) (rel : α → β → Prop) :
    Except Interrupt α → Except Interrupt β → Prop
  | ok {v : α} {v' : β} (related : rel v v') :
      Corresponds may rel (.ok v) (.ok v')
  | error {i : Interrupt} (comes : may i) :
      Corresponds may rel (.error i) (.error i)

/-- From states that go together, the computations change the world in the same way, end alike and
leave states that go together. -/
def Simulates (simulation : Simulation) {α β : Type} (rel : α → β → Prop) (exec : Exec α)
    (exec' : Exec β) : Prop :=
  ∀ m m' w, simulation.states m m' →
    ∃ o o' m'' m''' w', exec.perform m w = ((o, m''), w') ∧
      exec'.perform m' w = ((o', m'''), w') ∧ simulation.states m'' m''' ∧
      Corresponds simulation.may rel o o'

variable {simulation : Simulation}

namespace Simulates

variable {α β γ δ : Type} {rel : α → β → Prop} {rel' : γ → δ → Prop}

theorem pure {v : α} {v' : β} (related : rel v v') :
    Simulates simulation rel (Pure.pure v) (Pure.pure v') := by
  intro _ _ _ going
  exact ⟨_, _, _, _, _, rfl, rfl, going, .ok related⟩

theorem throw {i : Interrupt} (comes : simulation.may i) :
    Simulates simulation rel (MonadExcept.throw i) (MonadExcept.throw i) := by
  intro _ _ _ going
  exact ⟨_, _, _, _, _, rfl, rfl, going, .error comes⟩

section Failing

variable (failed : ∀ e, simulation.may (.failed e))

include failed

theorem ofAct (act : Act α) : Simulates simulation Eq (ofAct act) (ofAct act) := by
  intro _ _ w going
  rw [perform_ofAct, perform_ofAct]
  rcases act.perform w with ⟨e | _, _⟩
  · exact ⟨_, _, _, _, _, rfl, rfl, going, .error (failed e)⟩
  · exact ⟨_, _, _, _, _, rfl, rfl, going, .ok rfl⟩

theorem ofExcept (o : Except Failure α) : Simulates simulation Eq (ofExcept o) (ofExcept o) := by
  cases o with
  | ok => exact pure rfl
  | error e => exact throw (failed e)

end Failing

theorem bind {first : Exec α} {first' : Exec β} {f : α → Exec γ} {f' : β → Exec δ}
    (before : Simulates simulation rel first first')
    (following : ∀ v v', rel v v' → Simulates simulation rel' (f v) (f' v')) :
    Simulates simulation rel' (first >>= f) (first' >>= f') := by
  intro m m' w going
  obtain ⟨_, _, m'', m''', w', reached, reached', kept, alike⟩ :=
    before m m' w going
  cases alike with
  | error comes =>
    exact ⟨_, _, m'', m''', w', perform_bind_error reached, perform_bind_error reached',
      kept, .error comes⟩
  | ok related =>
    rw [perform_bind_ok reached, perform_bind_ok reached']
    exact following _ _ related m'' m''' w' kept

/-- What follows computations that give the same value. -/
theorem andThen {first first' : Exec α} {f : α → Exec γ} {f' : α → Exec δ}
    (before : Simulates simulation Eq first first')
    (following : ∀ v, Simulates simulation rel' (f v) (f' v)) :
    Simulates simulation rel' (first >>= f) (first' >>= f') := by
  refine before.bind ?_
  rintro v _ rfl
  exact following v

/-- What looks at the state sees one of two that go together. -/
theorem inspect {f : Machine → Exec α} {f' : Machine → Exec β}
    (following : ∀ m m', simulation.states m m' → Simulates simulation rel (f m) (f' m')) :
    Simulates simulation rel (get >>= f) (get >>= f') := by
  intro m m' w going
  exact following m m' going m m' w going

theorem modify {f f' : Machine → Machine}
    (keeps : ∀ m m', simulation.states m m' → simulation.states (f m) (f' m')) :
    Simulates simulation Eq (modify f : Exec PUnit) (modify f') := by
  intro m m' _ going
  exact ⟨_, _, _, _, _, rfl, rfl, keeps m m' going, .ok rfl⟩

theorem set {m m' : Machine} (going : simulation.states m m') :
    Simulates simulation Eq (set m : Exec PUnit) (set m') := by
  intro _ _ _ _
  exact ⟨_, _, _, _, _, rfl, rfl, going, .ok rfl⟩

theorem catching {i : Interrupt} {exec exec' : Exec Unit}
    (simulates : Simulates simulation Eq exec exec') :
    Simulates simulation Eq (catching i exec) (catching i exec') := by
  intro m m' w going
  obtain ⟨_, _, m'', m''', w', first, second, kept, alike⟩ :=
    simulates m m' w going
  rw [perform_catching, perform_catching, first, second]
  refine ⟨_, _, m'', m''', w', rfl, rfl, kept, ?_⟩
  cases alike with
  | ok => exact .ok rfl
  | error comes =>
    rw [caught]
    split
    · exact .ok rfl
    · exact .error comes

theorem thenAlways {exec : Exec α} {exec' : Exec β} {f f' : Machine → Machine}
    (simulates : Simulates simulation rel exec exec')
    (keeps : ∀ m m', simulation.states m m' → simulation.states (f m) (f' m')) :
    Simulates simulation rel (thenAlways exec f) (thenAlways exec' f') := by
  intro m m' w going
  obtain ⟨_, _, m'', m''', _, first, second, kept, alike⟩ :=
    simulates m m' w going
  rw [perform_thenAlways, perform_thenAlways, first, second]
  exact ⟨_, _, _, _, _, rfl, rfl, keeps m'' m''' kept, alike⟩

theorem guarded {exec exec' : Exec Value} (simulates : Simulates simulation Eq exec exec')
    (warning : String → String) :
    Simulates simulation Eq (guarded exec warning) (guarded exec' warning) := by
  intro m m' w going
  obtain ⟨_, _, _, _, _, first, second, kept, alike⟩ := simulates m m' w going
  rw [perform_guarded, perform_guarded, first, second]
  cases alike with
  | ok same => exact ⟨_, _, _, _, _, rfl, rfl, kept, .ok same⟩
  | @error i comes =>
    cases i with
    | failed => exact ⟨_, _, _, _, _, rfl, rfl, kept, .ok rfl⟩
    | leave | skip | exhausted => exact ⟨_, _, _, _, _, rfl, rfl, kept, .error comes⟩

end Simulates

namespace Simulation

variable {writing : Prop} {α : Type}

/-- Failures may come, and states that go together still do after what modest computations do to
them. -/
structure Lawful (writing : Prop) (simulation : Simulation) : Prop where
  failed : ∀ e, simulation.may (.failed e)
  stopped : ∀ {m m' : Machine}, simulation.states m m' → m'.stopped = m.stopped
  title : ∀ {m m' : Machine}, simulation.states m m' → m'.title = m.title
  stop : ∀ m m', simulation.states m m' →
    simulation.states { m with stopped := true } { m' with stopped := true }
  write : writing → ∀ name v m m', simulation.states m m' →
    simulation.states (m.write name v) (m'.write name v)

namespace Lawful

theorem modest (lawful : Lawful writing simulation) {exec : Exec α} (modest : Modest writing exec) :
    Simulates simulation Eq exec exec := by
  induction modest with
  | pure => exact .pure rfl
  | ofAct act => exact .ofAct lawful.failed act
  | fail e => exact .throw (lawful.failed e)
  | write allowed x v => exact .modify (lawful.write allowed x v)
  | stop => exact .modify lawful.stop
  | whileRunning _ ih =>
    refine .inspect fun m m' going => ?_
    rw [lawful.stopped going]
    split
    · exact .pure rfl
    · exact ih
  | guarded warning _ ih => exact ih.guarded warning
  | bind _ _ before following => exact before.andThen following

variable (lawful : Lawful writing simulation) (leave : simulation.may .leave)

include lawful leave

theorem unlessStopped {exec exec' : Exec Value} {rel : Value → Value → Prop}
    (simulates : Simulates simulation rel exec exec') :
    Simulates simulation rel (unlessStopped exec) (unlessStopped exec') := by
  refine .inspect fun m m' going => ?_
  rw [lawful.stopped going, lawful.title going]
  split
  · exact (lawful.modest (.log _ _)).andThen fun _ => .throw leave
  · exact simulates

theorem congruent : Congruent writing fun {_} exec exec' => Simulates simulation Eq exec exec' :=
  ⟨lawful.modest, lawful.unlessStopped leave, .andThen, fun _ => .catching⟩

end Lawful

end Simulation

end DeviceScript.Execution
