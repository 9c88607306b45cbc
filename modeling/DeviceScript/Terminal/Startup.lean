import DeviceScript.Terminal.Screens
import DeviceScript.World.SettingsFile

/-!
# The start of the program

The program reads its settings, takes two keys of the keyboard for itself and runs until the user
leaves it. One of the keys stops all scripts.
-/

namespace DeviceScript.Terminal

/-- What a key of the keyboard does, whatever has the focus. -/
inductive HotKey where
  | stopScripts
  | runLast
  deriving DecidableEq, Inhabited

def HotKey.label : HotKey → String
  | .stopScripts => "stop_script"
  | .runLast => "run_last_script"

abbrev HotKeys := List (String × HotKey)

/-- Gives a key something to do, in place of what it did. -/
def HotKeys.put (key : String) (hotKey : HotKey) : HotKeys → HotKeys
  | [] => [(key, hotKey)]
  | entry :: entries =>
    if entry.1 = key then (key, hotKey) :: entries else entry :: HotKeys.put key hotKey entries

def takeKey (key : String) (hotKey : HotKey) (taken : HotKeys) : Doing HotKeys := do
  ask .program "add_hotkey" [.text key, .text hotKey.label] []
  return taken.put key hotKey

def begin_ : Doing HotKeys := do
  ActOn.ofAct (SettingsFile.enforce "")
  if (← ActOn.ofAct get).surroundings.system = "Windows" then
    ask .program "SetConsoleTitleW" [.text "脚本执行器"] []
  let settings ← ActOn.ofAct (Act.settings "stop_key")
  let taken ← takeKey settings.stopKey .stopScripts []
  let taken ← takeKey settings.startKey .runLast taken
  ask .program "app.run" [] []
  return taken

def announce (message : String) : Doing Unit := do
  tell message []
  ActOn.ofAct (Act.log .info message)

def HotKey.act : HotKey → Doing Unit
  | .runLast => tell "尝试运行上一个脚本" []
  | .stopScripts => do
    announce "尝试停止所有脚本"
    let running := (← get).running
    for number in running do
      ask .program "SetAsyncExc" [.int number, .text "SystemExit"] []
    announce ("强行停止了运行中的 " ++ toString running.length ++ " 个任务")
    modify fun state => { state with running := [] }

/-- Presses a key of the keyboard; a key that has not been taken does nothing. -/
def pressKey (taken : HotKeys) (key : String) : Doing Unit :=
  match taken.lookup key with
  | some hotKey => hotKey.act
  | none => return ()

def addThreads : Nat → Doing Unit
  | 0 => return ()
  | count + 1 => do
    modify fun state =>
      { state with
        running := state.running ++ [state.threadCount + 1]
        threadCount := state.threadCount + 1 }
    addThreads count

def leave : Doing Unit := ask .program "exit" [] []

end DeviceScript.Terminal
