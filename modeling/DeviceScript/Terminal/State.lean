import DeviceScript.Execution.Script
import DeviceScript.Lua.Script
import DeviceScript.Terminal.InputDesk
import DeviceScript.Terminal.Kind
import DeviceScript.Terminal.Task
import DeviceScript.Terminal.Widget

/-!
# The state of the terminal program

All screens that have been made so far are kept, each under its number, and one of them is on
top. Beside them stand the scripts that run, the queues of workers and threads, and what the user
does with keys and focus.
-/

namespace DeviceScript.Terminal

/-- What a screen holds apart from its widgets. -/
inductive Page where
  | program
  | home
  | plain
  /-- The log; `shown` says whether its widget has been made. -/
  | journal (shown : Bool)
  | code (title text : Value)
  /-- The output; `simple` is the view that can be copied, and `ofScripts` says whether the list
  of scripts has opened it. -/
  | output (title message : Value) (simple ofScripts : Bool)
  | dialog (description prompt : Value)
  | scripts (files : List Path)
  | devices (groups : List (String × List Nat))
  deriving Inhabited

def Page.kind : Page → Kind
  | .program => .program
  | .home => .home
  | .plain => .plain
  | .journal _ => .journal
  | .code .. => .code
  | .output .. => .output
  | .dialog .. => .dialog
  | .scripts _ => .scripts
  | .devices _ => .devices

/-- A page with what it was opened with and its widgets. -/
structure Screen where
  page : Page
  arguments : List Value
  children : List Widget
  deriving Inhabited

/-- What the user does with a question: the button pressed, and the text typed before. -/
structure Answer where
  button : String
  text : String
  deriving DecidableEq, Inhabited

structure Focus where
  maximized : Bool
  focused : Value
  /-- What has the focus can be maximized. -/
  works : Bool
  deriving Inhabited

/-- What scripts get at while they run. -/
structure Scene where
  screens : Array Screen
  top : Option Nat
  written : String
  /-- The number of the screen that shows what scripts write. -/
  view : Option Nat
  /-- How often a screen with output has been closed that no list of scripts has opened. -/
  closed : Nat
  desk : InputDesk
  lua : Lua.Session
  runner : Execution.Runner
  plays : List (String × Lua.Play)
  answers : List Answer
  bound : Execution.Bound
  deriving Inhabited

/-- The state of the terminal program. -/
structure State extends Scene where
  tasks : Tasks
  workers : List Worker
  threads : List Thread
  running : List Nat
  workerCount : Nat
  threadCount : Nat
  /-- What has ended workers and threads. -/
  failures : List Failure
  /-- The example script is looked for in the working directory. -/
  localExample : Bool
  mode : Value
  focus : Focus
  keys : List (String × String)
  /-- When the user last asked to leave, in whole seconds. -/
  exitMark : Int
  deriving Inhabited

/-- Nothing is shown and nothing runs. -/
def State.initial (bound : Execution.Bound) : State where
  screens := #[]
  top := none
  written := ""
  view := none
  closed := 0
  tasks := []
  desk := InputDesk.empty
  workers := []
  threads := []
  running := []
  workerCount := 0
  threadCount := 0
  failures := []
  lua := Lua.Session.initial true
  runner := Execution.Runner.initial
  plays := []
  answers := []
  localExample := false
  bound := bound
  mode := .none
  focus := ⟨false, .none, false⟩
  keys := []
  exitMark := 0

/-- What changes the screens. -/
abbrev Showing := ActOn Scene

/-- What changes the terminal. -/
abbrev Doing := ActOn State

instance (priority := low) : MonadLift Showing Doing where
  monadLift act := fun state w =>
    match act.perform state.toScene w with
    | (outcome, scene, w) => ((outcome, { state with toScene := scene }), w)

def screenAt (id : Nat) : Showing Screen := return (← get).screens.getD id default

def modifyScreen (id : Nat) (change : Screen → Screen) : Showing Unit :=
  modify fun scene => { scene with screens := scene.screens.modify id change }

def setPage (id : Nat) (page : Page) : Showing Unit :=
  modifyScreen id fun screen => { screen with page }

def addScreen (page : Page) (args : List Value) : Showing Nat :=
  modifyGet fun scene =>
    (scene.screens.size, { scene with screens := scene.screens.push ⟨page, args, []⟩ })

/-- The widget with the name on a screen. -/
def query (id : Nat) (name : String) : Showing Widget := do
  let screen ← screenAt id
  match Widget.findAmong? name screen.children with
  | some widget => return widget
  | none =>
    throw (.raised .noWidget
      ("No nodes match '#" ++ name ++ "' on " ++ screen.page.kind.label ++ "()"))

/-- Changes the widget with a name, which must be there. -/
def changeWidget (id : Nat) (name : String) (change : Widget → Widget) : Showing Unit := do
  let _ ← query id name
  modifyScreen id fun screen =>
    { screen with children := Widget.changeAll name change screen.children }

/-- Notifies the user. -/
def tell {σ : Type} (message : String) (named : List (String × Value)) : ActOn σ Unit :=
  ActOn.ofAct (Act.notify [.text message] named)

/-- Asks for something outside. -/
def ask {σ : Type} (channel : Channel) (verb : String) (args : List Value)
    (named : List (String × Value)) : ActOn σ Unit :=
  ActOn.ofAct (Act.request channel verb args named)

def severity (word : String) : String × Value := ("severity", .text word)

def titled (title : String) : String × Value := ("title", .text title)

end DeviceScript.Terminal
