import DeviceScript.Execution.Visit

/-!
# Performing computations

Equations for `Exec.perform`, one for each way in which computations of a running script are put
together. Whatever is proved about the outcome of a computation goes through them, so that no other
proof looks into the layers of the monad.
-/

namespace DeviceScript.Execution

variable {m' : Machine} {w' : World} {exec : Exec Value} {i : Interrupt}

theorem perform_act_bind {α β : Type} (first : Act α) (f : α → Act β) (w : World) :
    (first >>= f).perform w =
      match first.perform w with
      | (.ok v, w) => (f v).perform w
      | (.error e, w) => (.error e, w) := by
  simp only [Act.perform, ExceptT.run_bind, StateT.run_bind]
  rcases first.run.run w with ⟨_ | _, _⟩ <;> rfl

theorem perform_ofExcept_ok_bind {α β : Type} (v : α) (f : α → Act β) (w : World) :
    (Act.ofExcept (.ok v) >>= f).perform w = (f v).perform w := rfl

/-- The interrupt is a break or a continue. -/
def Interrupt.isSignal : Interrupt → Bool
  | .leave => true
  | .skip => true
  | .failed _ => false
  | .exhausted => false

namespace Exec

variable {α β : Type} (m : Machine) (w : World)

@[simp]
theorem perform_pure (v : α) :
    (pure v : Exec α).perform m w = ((.ok v, m), w) := rfl

/-- What comes next is performed only if what comes first has a value. -/
theorem perform_bind (first : Exec α) (f : α → Exec β) :
    (first >>= f).perform m w =
      match first.perform m w with
      | ((.ok v, m), w) => (f v).perform m w
      | ((.error i, m), w) => ((.error i, m), w) := by
  show (match first m w with
    | (reached, w) => (ExceptT.bindCont f reached.1 reached.2) w) = _
  rcases reached : first m w with ⟨⟨i | v, _⟩, _⟩
  · simp [perform, ExceptT.run, StateT.run, reached, ExceptT.bindCont]
    rfl
  · simp [perform, ExceptT.run, StateT.run, reached, ExceptT.bindCont]

theorem perform_bind_ok {m : Machine} {w : World} {first : Exec α} {f : α → Exec β}
    {v : α} (reached : first.perform m w = ((.ok v, m'), w')) :
    (first >>= f).perform m w = (f v).perform m' w' := by
  rw [perform_bind, reached]

theorem perform_bind_error {m : Machine} {w : World} {first : Exec α} {f : α → Exec β}
    (reached : first.perform m w = ((.error i, m'), w')) :
    (first >>= f).perform m w = ((.error i, m'), w') := by
  rw [perform_bind, reached]

theorem outcome_bind_error {m : Machine} {w : World} {first : Exec α} {f : α → Exec β}
    (ended : (first.perform m w).1.1 = .error i) : ((first >>= f).perform m w).1.1 = .error i := by
  rcases reached : first.perform m w with ⟨⟨_, _⟩, _⟩
  rw [reached] at ended
  subst ended
  rw [perform_bind_error reached]

@[simp]
theorem perform_get_bind (f : Machine → Exec β) :
    ((get : Exec Machine) >>= f).perform m w = (f m).perform m w := rfl

@[simp]
theorem perform_modify (f : Machine → Machine) :
    (modify f : Exec PUnit).perform m w = ((.ok ⟨⟩, f m), w) := rfl

@[simp]
theorem perform_modify_bind (f : Machine → Machine) (next : PUnit → Exec β) :
    ((modify f : Exec PUnit) >>= next).perform m w = (next ⟨⟩).perform (f m) w := rfl

@[simp]
theorem perform_set_bind (m' : Machine) (f : PUnit → Exec β) :
    ((set m' : Exec PUnit) >>= f).perform m w = (f ⟨⟩).perform m' w := rfl

theorem perform_ofAct (act : Act α) :
    (ofAct act).perform m w =
      match act.perform w with
      | (.ok v, w) => ((.ok v, m), w)
      | (.error e, w) => ((.error (.failed e), m), w) := rfl

/-- An action on the world leaves the state as it is. -/
theorem perform_ofAct_bind (act : Act α) (f : α → Exec β) :
    (ofAct act >>= f).perform m w =
      match act.perform w with
      | (.ok v, w) => (f v).perform m w
      | (.error e, w) => ((.error (.failed e), m), w) := by
  rw [perform_bind, perform_ofAct]
  rcases act.perform w with ⟨_ | _, _⟩ <;> rfl

theorem perform_catching (i : Interrupt) (exec : Exec Unit) :
    (catching i exec).perform m w =
      match exec.perform m w with
      | ((o, m), w) => ((caught i o, m), w) := rfl

theorem perform_thenAlways (exec : Exec α) (f : Machine → Machine) :
    (thenAlways exec f).perform m w =
      match exec.perform m w with
      | ((o, m), w) => ((o, f m), w) := rfl

theorem perform_guarded (exec : Exec Value) (warning : String → String) :
    (guarded exec warning).perform m w =
      match exec.perform m w with
      | ((.error (.failed e), m), w) =>
        ((.ok .none, m), ((Act.log .warning (warning e.message)).perform w).2)
      | other => other := by
  show guarded exec warning m w = _
  unfold guarded
  rcases exec.perform m w with ⟨⟨i | _, _⟩, _⟩
  · cases i <;> rfl
  · rfl

theorem perform_guarded_congr {m m' : Machine} {w w' : World} {exec' : Exec Value}
    (same : exec.perform m w = exec'.perform m' w') (warning : String → String) :
    (guarded exec warning).perform m w = (guarded exec' warning).perform m' w' := by
  rw [perform_guarded, perform_guarded, same]

theorem perform_guarded_ok {m : Machine} {w : World} {v : Value}
    (reached : exec.perform m w = ((.ok v, m'), w')) (warning : String → String) :
    (guarded exec warning).perform m w = ((.ok v, m'), w') := by
  rw [perform_guarded, reached]

/-- A failure is only told in the log. -/
theorem perform_guarded_failed {m : Machine} {w : World} {e : Failure}
    (reached : exec.perform m w = ((.error (.failed e), m'), w')) (warning : String → String) :
    (guarded exec warning).perform m w = ((.ok .none, m'),
      ((Act.log .warning (warning e.message)).perform w').2) := by
  rw [perform_guarded, reached]

/-- Computations that are performed alike are the same. -/
theorem ext_perform {first second : Exec α} (same : ∀ m w, first.perform m w = second.perform m w) :
    first = second :=
  funext fun m => funext fun w => same m w

end Exec

/-! ## Visits -/

theorem perform_unlessStopped_of_running {m : Machine} (running : m.stopped = false)
    (exec : Exec Value) (w : World) : (unlessStopped exec).perform m w = exec.perform m w := by
  rw [unlessStopped, Exec.perform_get_bind, if_neg (by simp [running])]

theorem perform_unlessStopped_of_stopped {m : Machine} (stopped : m.stopped = true)
    (exec : Exec Value) (w : World) :
    ((unlessStopped exec).perform m w).1 = (.error .leave, m) := by
  rw [unlessStopped, Exec.perform_get_bind, if_pos stopped]
  rfl

/-- Where the script has been asked to stop, it does not matter what would have been done. -/
theorem perform_unlessStopped_congr {m : Machine} (stopped : m.stopped = true)
    (exec exec' : Exec Value) (w : World) :
    (unlessStopped exec).perform m w = (unlessStopped exec').perform m w := by
  rw [unlessStopped, unlessStopped, Exec.perform_get_bind, Exec.perform_get_bind, if_pos stopped,
    if_pos stopped]

/-! ## Hosts -/

/-- The host takes everything that is written, and each text changes the world as is said. -/
def Host.Takes (host : Host) (changes : String → World → World → Prop) : Prop :=
  ∃ emit, host.emit = some emit ∧ ∀ s w, ∃ stop w',
    (emit s).perform w = (.ok stop, w') ∧ changes s w w'

/-- A host that takes no output and knows no operation. -/
def Host.bare : Host := ⟨none, pure false, fun _ => Act.fail (.notCallable "NoneType")⟩

end DeviceScript.Execution
