import DeviceScript.Proofs.Execution.Frames
import DeviceScript.Proofs.Execution.Signals

/-!
# What an assignment makes visible

A name is read from the innermost loop, if that is its item, and otherwise from outside of all
loops: from the innermost activation, if the value there counts as true, and else from the globals.
An assignment goes by other rules. Inside a function it writes to the globals if the name is there,
and to the activation only if it is not.

So an assigned value can be hidden in two ways. An activation that has a true value of its own under
the name of a global hides what is written to the global, and a local value that does not count as
true is passed over. In all other cases the value is read back, and no assignment changes what any
other name reads as (`visit_assign_visible_iff`).
-/

namespace DeviceScript.Execution

open Script

variable {other : String} {frame : Activation} {stack : List Activation} {host : Host}
  {most d : Nat} {p : Site} {t : Tree Value} {later : Machine} {w after : World}
  {v : Value}

/-! ## Bindings -/

/-- An assigned variable has its new value, and every other one the value that it had. -/
theorem lookup_assign (x other : String) (v : Value) (bindings : Bindings) :
    (Bindings.assign x v bindings).lookup other =
      if other = x then some v else bindings.lookup other := by
  induction bindings with
  | nil =>
    by_cases same : other = x
    · simp [Bindings.assign, same]
    · have different : (other == x) = false := by simpa using same
      simp [Bindings.assign, List.lookup_cons, different, same]
  | cons e _ ih =>
    obtain ⟨first, _⟩ := e
    by_cases here : first = x
    · subst here
      by_cases same : other = first
      · simp [Bindings.assign, same]
      · have different : (other == first) = false := by simpa using same
        simp [Bindings.assign, List.lookup_cons, different, same]
    · rw [Bindings.assign, if_neg here, List.lookup_cons, List.lookup_cons, ih]
      by_cases same : other = first
      · subst same
        simp [here]
      · have different : (other == first) = false := by simpa using same
        rw [different]

theorem lookup_assign_self (x : String) (v : Value) (bindings : Bindings) :
    (Bindings.assign x v bindings).lookup x = some v := by
  rw [lookup_assign, if_pos rfl]

theorem lookup_assign_of_ne {x : String} (different : other ≠ x) (v : Value) (bindings : Bindings) :
    (Bindings.assign x v bindings).lookup other = bindings.lookup other := by
  rw [lookup_assign, if_neg different]

/-! ## Reading -/

namespace Machine

variable {m : Machine} {x : String}

def outside (m : Machine) (name : String) : Value :=
  { m with loops := [] }.read name

theorem outside_eq (m : Machine) (x : String) :
    m.outside x = ((m.local? x).orElse fun _ => m.globals.lookup x).getD (.int 0) := rfl

/-- Only the innermost loop hides what is outside. -/
theorem read_of_loops_cons {loop : ItemLoop} {loops : List ItemLoop}
    (stack : m.loops = loop :: loops) (x : String) :
    m.read x = if loop.name = x then loop.item else m.outside x := by
  simp only [read, stack]
  rfl

theorem read_of_loops_nil (empty : m.loops = []) (x : String) : m.read x = m.outside x := by
  simp only [read, empty]
  rfl

/-- The name is not that of the innermost loop's item. -/
def Unlooped (m : Machine) (name : String) : Prop :=
  ∀ loop ∈ m.loops.head?, loop.name ≠ name

theorem read_of_unlooped (unlooped : m.Unlooped x) : m.read x = m.outside x := by
  cases stack : m.loops with
  | nil => exact read_of_loops_nil stack x
  | cons loop =>
    have other : loop.name ≠ x := unlooped loop (by rw [stack]; rfl)
    rw [read_of_loops_cons stack, if_neg other]

/-- Inside a function a local value that counts as true hides the global. -/
theorem outside_of_frames_cons {frames : List Activation}
    (stack : m.frames = frame :: frames) (x : String) :
    m.outside x =
      (((frame.locals.lookup x).filter Value.truthy).orElse
        fun _ => m.globals.lookup x).getD (.int 0) := by
  rw [outside_eq, local?, stack]

/-! ## Writing -/

theorem write_loops (m : Machine) (x : String) (v : Value) : (m.write x v).loops = m.loops := by
  rcases m.write_cases x v with ⟨_, written⟩ | ⟨_, _, _, written⟩ <;> rw [written]

/-- An assignment changes nothing under other names. -/
theorem outside_write_of_ne (different : other ≠ x) (v : Value) :
    (m.write x v).outside other = m.outside other := by
  rcases m.write_cases x v with ⟨_, written⟩ | ⟨_, _, stack, written⟩
  · rw [written, outside_eq, outside_eq]
    simp only [local?, lookup_assign_of_ne different]
  · rw [written, outside_of_frames_cons stack, outside_of_frames_cons rfl]
    simp only [lookup_assign_of_ne different]

theorem read_write_of_ne (different : other ≠ x) (v : Value) :
    (m.write x v).read other = m.read other := by
  have outer : (m.write x v).outside other = m.outside other :=
    outside_write_of_ne different v
  have loops := m.write_loops x v
  cases stack : m.loops with
  | nil => rw [read_of_loops_nil (loops.trans stack), read_of_loops_nil stack, outer]
  | cons => rw [read_of_loops_cons (loops.trans stack), read_of_loops_cons stack, outer]

/-- At top level, and under the name of a global, an assignment goes to the globals. -/
theorem write_eq_of_global
    (global : m.frames = [] ∨ (m.globals.lookup x).isSome = true) (v : Value) :
    m.write x v = { m with globals := m.globals.assign x v } := by
  unfold write
  cases frames : m.frames with
  | nil => rfl
  | cons =>
    have bound := global.resolve_left (by simp [frames])
    simp only [bound, if_true]

/-- Inside a function an assignment to any other name goes to the innermost activation. -/
theorem write_eq_of_new (frames : m.frames = frame :: stack)
    (new : m.globals.lookup x = none) (v : Value) :
    m.write x v = { m with
      frames := { frame with locals := frame.locals.assign x v } :: stack } := by
  simp [write, frames, new]

/-- What is written to the globals is seen unless a local value that counts as true hides it. -/
theorem outside_write_of_global (global : m.frames = [] ∨ (m.globals.lookup x).isSome = true)
    (v : Value) : (m.write x v).outside x = (m.local? x).getD v := by
  have same : { m with globals := m.globals.assign x v }.local? x = m.local? x := rfl
  rw [write_eq_of_global global, outside_eq, same, lookup_assign_self]
  cases m.local? x <;> rfl

/-- What is written to an activation is seen if it counts as true. -/
theorem outside_write_of_new (frames : m.frames = frame :: stack) (new : m.globals.lookup x = none)
    (v : Value) : (m.write x v).outside x = if v.truthy then v else .int 0 := by
  rw [write_eq_of_new frames new, outside_of_frames_cons rfl, lookup_assign_self, new]
  cases counts : v.truthy <;> simp [Option.filter, counts]

/-- The value written to a name can be read back, apart from loops: at top level always, under the
name of a global unless the activation has another true value there, and under a new name if the
value counts as true or is the zero that a name without a value reads as. -/
def Restores (m : Machine) (name : String) (v : Value) : Prop :=
  m.frames = [] ∨
  ((m.globals.lookup name).isSome = true ∧ ∀ own, m.local? name = some own → own = v) ∨
  (m.globals.lookup name = none ∧ (v.truthy = true ∨ v = .int 0))

theorem outside_write_iff (m : Machine) (x : String) (v : Value) :
    (m.write x v).outside x = v ↔ m.Restores x v := by
  cases frames : m.frames with
  | nil =>
    have none : m.local? x = none := by rw [local?, frames]
    rw [outside_write_of_global (.inl frames), none]
    exact iff_of_true rfl (.inl frames)
  | cons =>
    have inside : m.frames ≠ [] := by simp [frames]
    cases global : m.globals.lookup x with
    | none =>
      rw [outside_write_of_new frames global]
      cases counts : v.truthy <;> simp [Restores, inside, global, counts, eq_comm]
    | some =>
      rw [outside_write_of_global (.inr (by simp [global]))]
      cases own : m.local? x <;> simp [Restores, inside, global, own]

end Machine

/-- What is passed for an argument depends on the state only if the argument is a variable, and then
on what it reads as. -/
theorem argumentValue_congr {m m' : Machine} {argument : Tree Value}
    (same : ∀ x, argument = .variable x → m.read x = m'.read x) (serial : Nat) :
    argumentValue m serial argument = argumentValue m' serial argument := by
  cases argument with
  | number s | string s =>
    show (ite _ _ _ : Except Failure Value) = ite _ _ _
    split
    · rfl
    · cases Number.readFloat? s <;> rfl
  | «variable» x =>
    show (ite _ _ _ : Except Failure Value) = ite _ _ _
    split
    · rfl
    · cases Number.readFloat? x with
      | none => exact congrArg Except.ok (same x rfl)
      | some => rfl
  | _ => rfl

/-! ## Assignments -/

/-- A script that has been asked to stop evaluates nothing. -/
theorem running_of_visitWithin_ok {m : Machine}
    (evaluated : (visitWithin host most d p t).perform m w =
      ((.ok v, later), after)) : m.stopped = false := by
  cases d with
  | zero => cases evaluated
  | succ d =>
    cases stopped : m.stopped with
    | false => rfl
    | true =>
      have left := perform_unlessStopped_of_stopped stopped
        (step host (visitWithin host most d) most p t) w
      rw [visitWithin] at evaluated
      rw [evaluated] at left
      cases left

/-- A formula that has a value leaves the state as it is. -/
theorem eq_of_visitWithin_ok (formula : t.IsFormula) {m : Machine}
    (evaluated : (visitWithin host most d p t).perform m w =
      ((.ok v, later), after)) : later = m := by
  have running := running_of_visitWithin_ok evaluated
  obtain ⟨o, w', reached, _⟩ :=
    (silent_visitWithin formula host most d p running).perform w
  rw [evaluated] at reached
  cases reached
  rfl

/-- **When an assigned value can be read back.** An assignment of a formula that has a value writes
that value, and every other name reads as before. A name that is not the item of the innermost loop
then reads as the value just if the value is written where reading finds it: at top level, to a
global that no true local value hides, or to the activation as a value that counts as true. The only
other value that is read back is the zero. -/
theorem visit_assign_visible_iff (host : Host) (most depth : Nat) (site : Site) (name : String)
    (expression : Script.Tree Value) (machine later : Machine) (world after : World) (value : Value)
    (formula : expression.IsFormula)
    (evaluated : (visit host ⟨most, depth⟩ ((0, 0) :: site) expression).perform machine world =
      ((.ok value, later), after)) :
    let assigned := machine.write name value
    (visit host ⟨most, depth + 1⟩ site (.assign name expression)).perform machine world =
      ((.ok value, assigned), after) ∧
    (∀ other, other ≠ name → assigned.read other = machine.read other) ∧
    (machine.Unlooped name → (assigned.read name = value ↔ machine.Restores name value)) := by
  intro assigned
  have running := running_of_visitWithin_ok evaluated
  obtain rfl := (eq_of_visitWithin_ok formula evaluated).symm
  refine ⟨?_, fun other different => Machine.read_write_of_ne different value, fun unlooped => ?_⟩
  · show (unlessStopped _).perform machine world = _
    rw [perform_unlessStopped_of_running running, step]
    exact Exec.perform_bind_ok evaluated
  · have still : assigned.Unlooped name := by
      rw [Machine.Unlooped, Machine.write_loops]
      exact unlooped
    rw [Machine.read_of_unlooped still]
    exact Machine.outside_write_iff _ name value

/-- Inside a function that has no variables yet. -/
def emptyActivation : Machine :=
  { Machine.initial Path.here with frames := [⟨"f", []⟩] }

/-- An empty text that is assigned inside a function reads as zero. -/
theorem empty_text_reads_as_zero :
    let evaluated := (visit Host.bare ⟨0, 1⟩ [(0, 0)] (.string "")).perform emptyActivation default
    let result := (visit Host.bare ⟨0, 2⟩ []
      (.assign "x" (.string ""))).perform emptyActivation default
    emptyActivation.loops = [] ∧ evaluated.1.1 = .ok (.text "") ∧ result.1.1 = .ok (.text "") ∧
      result.1.2.read "x" = .int 0 :=
  ⟨rfl, rfl, rfl, rfl⟩

/-- Inside a loop and a function with a parameter that has the name of a global. -/
def hiddenGlobal : Machine :=
  { Machine.initial Path.here with
    globals := [("x", .text "old")]
    frames := [⟨"f", [("x", .text "own")]⟩]
    loops := [⟨"i", .int 1⟩] }

theorem visit_assign_visible_iff_hiddenGlobal :
    let assigned := hiddenGlobal.write "x" (.text "new")
    (visit Host.bare ⟨0, 1⟩ [(0, 0)] (.string "new")).perform hiddenGlobal default =
      ((.ok (.text "new"), hiddenGlobal), default) ∧
    (visit Host.bare ⟨0, 2⟩ [] (.assign "x" (.string "new"))).perform hiddenGlobal default =
      ((.ok (.text "new"), assigned), default) ∧
    (∀ other, other ≠ "x" → assigned.read other = hiddenGlobal.read other) ∧
    (hiddenGlobal.Unlooped "x" →
      (assigned.read "x" = .text "new" ↔ hiddenGlobal.Restores "x" (.text "new"))) :=
  ⟨rfl, visit_assign_visible_iff Host.bare 0 1 [] "x" (.string "new") hiddenGlobal hiddenGlobal
    default default (.text "new") (.string "new") rfl⟩

end DeviceScript.Execution
