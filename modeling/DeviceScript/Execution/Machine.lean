import DeviceScript.Calling.Operation

/-!
# The state of a running script

A running script has global variables, registered functions, a stack of function activations
and a stack of loops over items. Reading a name looks at the innermost loop, then at the
innermost activation, then at the globals; a local value that does not count as true is
passed over, and a name without a value reads as zero.
-/

namespace DeviceScript.Execution

open Script

/-- Variables with their values. -/
abbrev Bindings := List (String × Value)

/-- A variable keeps its place when it gets a value. -/
def Bindings.assign (name : String) (v : Value) : Bindings → Bindings
  | [] => [(name, v)]
  | entry :: entries =>
    if entry.1 = name then (name, v) :: entries
    else entry :: Bindings.assign name v entries

/-- A registered function. -/
structure Routine where
  name : String
  body : List (Tree Value)
  parameters : List (Tree Value)
  /-- The variables that every call begins with. -/
  locals : Bindings
  deriving Inhabited

/-- A call of a function that has not ended. -/
structure Activation where
  function : String
  locals : Bindings
  deriving Inhabited

/-- A loop over items that has not ended. -/
structure ItemLoop where
  name : String
  item : Value
  deriving Inhabited

/-- Where a subtree stands in its statement: the steps to it, the last one first. -/
abbrev Site := List (Nat × Nat)

/-- The state of a running script. -/
structure Machine where
  globals : Bindings
  functions : List (String × Routine)
  frames : List Activation
  loops : List ItemLoop
  /-- The last item of each finished loop of the current statement or activation. -/
  memory : List (Site × Value)
  title : String
  stopped : Bool
  deriving Inhabited

/-- How a visit ends other than with a value. -/
inductive Interrupt where
  | leave
  /-- The current statement of the innermost loop is skipped. -/
  | skip
  | failed (e : Failure)
  | exhausted
  deriving DecidableEq, Inhabited

/-- What is done with the state of a script, and in the world. -/
abbrev Exec := ExceptT Interrupt (StateT Machine (StateM World))

namespace Machine

/-- A script before its first statement, which knows the folder it works in. -/
def initial (folder : Path) : Machine where
  globals := [("work_path", .path folder)]
  functions := []
  frames := []
  loops := []
  memory := []
  title := ""
  stopped := false

/-- The local value of a name, if it counts as true. -/
def local? (m : Machine) (name : String) : Option Value :=
  match m.frames with
  | [] => none
  | frame :: _ => (frame.locals.lookup name).filter Value.truthy

/-- A variable: that of the innermost loop, of the call, of the script, or nought. -/
def read (m : Machine) (name : String) : Value :=
  let outer := ((m.local? name).orElse fun _ => m.globals.lookup name).getD (.int 0)
  match m.loops with
  | [] => outer
  | loop :: _ => if loop.name = name then loop.item else outer

/-- Gives a name a value: inside a function a name that is no global becomes local. -/
def write (m : Machine) (name : String) (v : Value) : Machine :=
  match m.frames with
  | [] => { m with globals := m.globals.assign name v }
  | frame :: frames =>
    if (m.globals.lookup name).isSome then
      { m with globals := m.globals.assign name v }
    else
      { m with frames := { frame with locals := frame.locals.assign name v } :: frames }

/-- The functions with one more; it takes the place of a function of the same name. -/
def withRoutine (routine : Routine) : List (String × Routine) → List (String × Routine)
  | [] => [(routine.name, routine)]
  | entry :: entries =>
    if entry.1 = routine.name then (routine.name, routine) :: entries
    else entry :: withRoutine routine entries

/-- Keeps a function of the script. -/
def register (m : Machine) (routine : Routine) : Machine :=
  { m with functions := withRoutine routine m.functions }

/-- The innermost loop goes on to an item. -/
def setItem (m : Machine) (item : Value) : Machine :=
  match m.loops with
  | [] => m
  | loop :: loops => { m with loops := { loop with item } :: loops }

/-- Enters a loop over items; the loop still has the last item of its last round, if it has
been run before. -/
def enterLoop (m : Machine) (site : Site) (name : String) : Machine :=
  { m with loops := ⟨name, (m.memory.lookup site).getD .none⟩ :: m.loops }

/-- Takes away what stands at the given height of a stack, counted from its bottom. -/
def dropAt {α : Type} (stack : List α) (height : Nat) : List α :=
  stack.eraseIdx (stack.length - 1 - height)

/-- Leaves all loops above the height; the outermost keeps its item. -/
def leaveLoop (m : Machine) (site : Site) (height : Nat) : Machine :=
  let item := (m.loops[m.loops.length - 1 - height]?.map (·.item)).getD .none
  { m with
    loops := dropAt m.loops height
    memory := (site, item) :: m.memory.filter fun e => e.1 ≠ site }

/-- Begins an activation, for which no loop has been run before. -/
def enterFrame (m : Machine) (function : String) (locals : Bindings) : Machine :=
  { m with frames := ⟨function, locals⟩ :: m.frames, memory := [] }

/-- Leaves all calls above the height. -/
def leaveFrame (m : Machine) (height : Nat) : Machine :=
  { m with frames := dropAt m.frames height }

end Machine

namespace Exec

/-- How it ends, with the state and the world after it. -/
def perform {α : Type} (exec : Exec α) (m : Machine) (w : World) :
    (Except Interrupt α × Machine) × World :=
  (exec.run.run m).run w

/-- An action that leaves the state of the script alone. -/
def ofAct {α : Type} (act : Act α) : Exec α := fun m w =>
  match act.perform w with
  | (.ok v, w) => ((.ok v, m), w)
  | (.error e, w) => ((.error (.failed e), m), w)

def ofExcept {α : Type} : Except Failure α → Exec α
  | .ok v => pure v
  | .error e => throw (.failed e)

def log (level : Level) (message : String) : Exec Unit := ofAct (Act.log level message)

def fail {α : Type} (e : Failure) : Exec α := throw (.failed e)

/-- An ending, if the interrupt does not count. -/
def caught (interrupt : Interrupt) : Except Interrupt Unit → Except Interrupt Unit
  | .ok () => .ok ()
  | .error other => if other = interrupt then .ok () else .error other

/-- Does something that the interrupt only ends. -/
def catching (interrupt : Interrupt) (exec : Exec Unit) : Exec Unit := fun m w =>
  match exec.perform m w with
  | ((outcome, m), w) => ((caught interrupt outcome, m), w)

abbrev catchLeave : Exec Unit → Exec Unit := catching .leave

abbrev catchSkip : Exec Unit → Exec Unit := catching .skip

/-- Runs a computation and then, however it ends, changes the state. -/
def thenAlways {α : Type} (exec : Exec α) (change : Machine → Machine) : Exec α :=
  fun m w =>
    match exec.perform m w with
    | ((outcome, m), w) => ((outcome, change m), w)

end Exec

/-- What a running script is attached to. -/
structure Host where
  /-- Takes what the script writes and tells whether the script is to stop. -/
  emit : Option (String → Act Bool)
  /-- Waits for a hundredth of a second and tells whether the script is to stop. -/
  tick : Act Bool
  find : Value → Act Member

namespace Host

/-- Stops the script if that is wanted. -/
def obey (wanted : Act Bool) : Exec Unit := do
  if ← Exec.ofAct wanted then modify fun m => { m with stopped := true }

/-- Writes a text, if there is someone to write to. -/
def write (host : Host) (s : String) : Exec Unit :=
  match host.emit with
  | some emit => obey (emit s)
  | none => Exec.fail (.notCallable "NoneType")

end Host

end DeviceScript.Execution
