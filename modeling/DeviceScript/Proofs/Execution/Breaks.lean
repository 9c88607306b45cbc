import DeviceScript.Proofs.Execution.Signals

/-!
# Breaks that nothing catches

A loop and a call of a function catch every break that is sent inside them. So a visit ends with a
break for two reasons only: a break stands in the tree outside of all loops and functions
(`HasBreak`), or the script has been asked to stop (`leavesStopped_visitWithin`).
-/

namespace DeviceScript.Execution

open Script

open Exec (Avoids Modest)

/-! ## Functions -/

theorem avoids_leave_runActivation (visit : Visitor) (routine : Routine) (x : String)
    (locals : Bindings) : Avoids .leave (runActivation visit routine x locals) := by
  refine .inspect ?_
  rintro m _ rfl
  refine .andThen (.set rfl) fun _ => ?_
  refine .andThen (.thenAlways (avoids_caught _) fun _ _ same => same ▸ rfl) fun _ => ?_
  refine .andThen (avoids_modify _) fun _ => .inspect ?_
  rintro m' _ rfl
  exact Avoids.modest rfl (.bind (.log _ _) fun _ => .pure _)

/-- A break does not get out of a function. -/
theorem avoids_leave_callFunction (visit : Visitor) (routine : Routine) (x : String)
    (args : List (Tree Value)) : Avoids .leave (callFunction visit routine x args) := by
  refine .inspect ?_
  rintro m _ rfl
  split
  · exact Avoids.modest rfl (.fail _)
  · refine (Avoids.modest rfl (.ofAct _)).andThen fun serial => ?_
    refine (Avoids.modest rfl (.ofExcept _)).andThen fun locals => ?_
    exact avoids_leave_runActivation visit routine x locals

/-! ## Breaks in trees -/

/-- The subtrees of a tree that stand outside of its loops and functions. -/
def exposed : Tree Value → List (Tree Value)
  | .loop _ _ => []
  | .whileLoop _ _ => []
  | .each _ items _ => [items]
  | .function _ _ params => params
  | t => children t

/-- A break stands in the tree outside of all loops and functions. -/
inductive HasBreak : Tree Value → Prop
  | leave : HasBreak .leave
  | inside {t part : Tree Value} (member : part ∈ exposed t) (breaks : HasBreak part) :
      HasBreak t

/-- The computation ends with a break only if the script has been asked to stop. -/
def Exec.LeavesStopped {α : Type} (exec : Exec α) : Prop :=
  ∀ m w, (exec.perform m w).1.1 = .error .leave → (exec.perform m w).1.2.stopped = true

open Exec (LeavesStopped)

namespace Exec.LeavesStopped

variable {α β : Type}

theorem of_avoids {exec : Exec α} (avoids : Avoids .leave exec) : LeavesStopped exec := by
  intro m w ended
  exact absurd ended (avoids_iff.mp avoids m w)

theorem get : LeavesStopped (MonadState.get : Exec Machine) := by
  intro _ _ ended
  cases ended

theorem bind {first : Exec α} {f : α → Exec β} (before : LeavesStopped first)
    (after : ∀ v, LeavesStopped (f v)) : LeavesStopped (first >>= f) := by
  intro m w ended
  have stopped := before m w
  rcases reached : first.perform m w with ⟨⟨_ | v, m'⟩, w'⟩
  · rw [perform_bind_error reached] at ended ⊢
    rw [reached] at stopped
    cases ended
    exact stopped rfl
  · rw [perform_bind_ok reached] at ended ⊢
    exact after v m' w' ended

theorem unlessStopped {exec : Exec Value} (leaves : LeavesStopped exec) :
    LeavesStopped (unlessStopped exec) := by
  intro m w
  cases stopped : m.stopped with
  | true =>
    intro _
    rw [perform_unlessStopped_of_stopped stopped]
    exact stopped
  | false =>
    rw [perform_unlessStopped_of_running stopped]
    exact leaves m w

theorem catching {i : Interrupt} {exec : Exec Unit} (leaves : LeavesStopped exec) :
    LeavesStopped (Exec.catching i exec) := by
  intro m w ended
  have stopped := leaves m w
  rw [perform_catching] at ended ⊢
  rcases reached : exec.perform m w with ⟨⟨_ | ⟨⟩, _⟩, _⟩ <;>
    rw [reached] at stopped ended
  · dsimp only [caught] at ended
    split at ended
    · cases ended
    · exact stopped ended
  · cases ended

end Exec.LeavesStopped

theorem congruent_leavesStopped :
    Congruent True fun {_} first second => first = second ∧ LeavesStopped first where
  modest := fun modest => ⟨rfl, .of_avoids (.modest rfl modest)⟩
  unlessStopped := by
    rintro exec _ ⟨rfl, leaves⟩
    exact ⟨rfl, leaves.unlessStopped⟩
  bind := by
    rintro _ _ first _ f f' ⟨rfl, before⟩ after
    have same : f = f' := funext fun v => (after v).1
    exact ⟨same ▸ rfl, .bind before fun v => (after v).2⟩
  catching := by
    rintro _ exec _ - ⟨rfl, leaves⟩
    exact ⟨rfl, leaves.catching⟩

/-! ## Visits -/

theorem descends_not_hasBreak : Descends fun t => ¬ HasBreak t where
  item := fun unbroken mem breaks => unbroken (.inside mem breaks)
  literal := by
    rintro _ _ _ (_ | ⟨mem, _⟩)
    cases mem

/-- A step of a tree without a break ends with one only if the script has been asked to stop. -/
theorem leavesStopped_step {visit : Visitor}
    (visits : ∀ p t, ¬ HasBreak t → LeavesStopped (visit p t)) (host : Host) (most : Nat) (p : Site)
    {t : Tree Value} (unbroken : ¬ HasBreak t) : LeavesStopped (step host visit most p t) := by
  have below : ∀ part ∈ exposed t, ¬ HasBreak part := fun part mem breaks =>
    unbroken (.inside mem breaks)
  have related : ∀ p t, ¬ HasBreak t → visit p t = visit p t ∧ LeavesStopped (visit p t) :=
    fun p t inTree => ⟨rfl, visits p t inTree⟩
  have other : ∀ (parts : ∀ part ∈ performed t, ¬ HasBreak part),
      isContextual t = false → LeavesStopped (step host visit most p t) :=
    fun parts free => (step_congruent congruent_leavesStopped related descends_not_hasBreak
      trivial host most most p parts free).2
  cases t with
  | leave => exact absurd .leave unbroken
  | skip => exact .of_avoids (.throw (by rintro ⟨⟩))
  | «variable» x => exact .bind .get fun _ => .of_avoids (.pure rfl)
  | whileLoop | loop => exact .of_avoids (.andThen (avoids_caught _) fun _ => .pure rfl)
  | each =>
    simp only [exposed, List.forall_mem_cons] at below
    refine .bind .get fun m => .bind (.of_avoids (avoids_modify _)) fun _ => ?_
    refine .bind (visits _ _ below.1) fun _ => .of_avoids ?_
    exact (Avoids.modest rfl (modest_wholeItems _)).andThen fun _ =>
      .andThen (avoids_caught _) fun _ => .andThen (avoids_modify _) fun _ => .pure rfl
  | call x =>
    refine .bind .get fun m => ?_
    split
    · exact .of_avoids (avoids_leave_callFunction _ _ _ _)
    · exact (callOperation_related congruent_leavesStopped related host p x below).2
  | function => exact .of_avoids (.andThen (avoids_modify _) fun _ => Avoids.modest rfl (.ofAct _))
  | gather _ _ source =>
    simp only [exposed, children, List.forall_mem_cons] at below
    refine other (List.forall_mem_cons.mpr ⟨below.1, fun argument mem breaks => ?_⟩) rfl
    have inSource : argument ∈ exposed source := by
      cases source with
      | call | function => exact mem
      | _ => cases mem
    exact below.2.1 (.inside inSource breaks)
  | _ => exact other below rfl

/-- **Where a break comes from.** A visit of a tree that has no break outside of all loops and
functions ends with a break only if the script has been asked to stop. -/
theorem leavesStopped_visitWithin (host : Host) (most d : Nat) :
    ∀ (p : Site) (t : Tree Value), ¬ HasBreak t → LeavesStopped (visitWithin host most d p t) := by
  induction d with
  | zero => exact fun _ _ _ => .of_avoids (.throw (by rintro ⟨⟩))
  | succ _ ih =>
    intro p t unbroken
    exact (leavesStopped_step ih host most p unbroken).unlessStopped

end DeviceScript.Execution
