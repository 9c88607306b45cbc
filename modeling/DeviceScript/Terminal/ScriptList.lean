import DeviceScript.Terminal.Dialog

/-!
# The list of scripts

Scripts are files with one of two endings in the working directory and in the folders of the
settings. A script that is started gets a worker; the worker starts a thread, and the thread runs
the script.
-/

namespace DeviceScript.Terminal

/-! ## Files -/

/-- The entries of a folder whose names have an ending, in the order of their names. -/
def entriesEnding (ending : String) (folder : Path) : Act (List Path) := do
  let files := (← get).files
  let entries :=
    match ← Act.found folder.render with
    | .ok (place, _) => files.children place
    | .error _ => []
  let names := entries.map fun entry => entry.1.getLastD ""
  let fitting := names.filter fun name => name.endsWith ending
  return (fitting.mergeSort fun first second => !(second < first)).map fun name =>
    folder.append (Path.ofText name)

/-- All scripts: first those in Lua, then those in the plain language, each from the working
directory and then from the folders of the settings. -/
def findScripts : Act (List Path) := do
  let home := (← get).home
  let settings ← Act.settings "scripts_path"
  let folders ← Act.ofExcept (settings.scriptFolders.mapM Value.toPath)
  let collect := fun ending => do
    return (← (home :: folders).mapM (entriesEnding ending)).flatten
  return (← collect ".lua") ++ (← collect ".txt")

/-- Scripts in the order of their names, where capital letters count as small ones. -/
def byName (files : List Path) : List Path :=
  files.mergeSort fun first second =>
    !(Text.lowerCase second.name < Text.lowerCase first.name)

/-- Looks for scripts again and shows a button for each. -/
def renewScripts (id : Nat) : Doing Unit := do
  let files := byName (← ActOn.ofAct findScripts)
  setPage id (.scripts files)
  ask (.widget Kind.scripts.label) "refresh" [] []
  let buttons ← ActOn.ofExcept (scriptButtons files)
  changeWidget id listName (Widget.withChildren buttons)
  ask (.widget "ScrollableContainer") "refresh" [] [("layout", .bool true)]
  tell "成功刷新了脚本列表" []

/-- Looks for scripts again; what goes wrong is only told. -/
def refreshScripts (id : Nat) : Doing Unit := do
  match ← ActOn.attempt (renewScripts id) with
  | .ok _ => return ()
  | .error e => do
    tell "请尝试返回主页重新进入" [titled "刷新失败", severity "error"]
    ActOn.ofAct (Act.log .warning e.message)

/-- The text of a script, if it can be read. -/
def readScript (file : String) : Act (Option String) := do
  if file = "" then return none
  else
    match ← Act.attempt (Act.readText file) with
    | .ok s => return some s
    | .error _ => return none

/-! ## Starting scripts -/

/-- The languages a script is started in, by pieces of its name. -/
def languages (name : String) : List Language :=
  (if Text.hasPiece "lua" name then [.lua] else []) ++
    (if Text.hasPiece "txt" name then [.plain] else [])

/-- Hands a job to a new worker. -/
def enqueue (job : Job) : Doing Worker :=
  modifyGet fun state =>
    let worker : Worker := ⟨state.workerCount + 1, job⟩
    (worker, { state with
      workers := state.workers ++ [worker], workerCount := worker.number })

/-- Notes that a worker runs the script. -/
def enterTask (file : String) (worker : Worker) : Doing Unit :=
  modify fun state => { state with tasks := state.tasks.enter file worker }

/-- Starts a script in one language. -/
def launch (run : ScriptRun) (language : Language) : Doing Unit := do
  if language = .lua then
    modify fun state => { state with lua := state.lua.start (Path.ofText run.file) }
  let worker ← enqueue (language.job run)
  enterTask run.file worker

/-- Starts a script that is there and does not run yet. -/
def startScript (file : String) : Doing Unit := do
  let name := (Path.ofText file).name
  if !(← ActOn.ofAct (Act.pathExists (Path.ofText file))) then
    tell ("文件不存在: " ++ file) [severity "error"]
  else if (← get).tasks.has file then
    tell ("脚本: " ++ name ++ " 已经在运行中了...") [severity "warning"]
  else do
    ActOn.ofAct (Act.log .info ("尝试执行脚本 " ++ name))
    tell ("脚本 " ++ name ++ " 开始运行") []
    match ← ActOn.ofAct (readScript file) with
    | none | some "" => do
      ask .journal "warning" [.text ("无法读取文件: " ++ file)] []
      tell "文件读取失败" [severity "error"]
    | some code =>
      for language in languages name do launch ⟨code, name, file⟩ language

/-! ## Running scripts -/

/-- What Lua scripts find in the terminal. -/
def luaHost : Lua.Host Scene where
  session := Scene.lua
  update change scene := { scene with lua := change scene.lua }
  ask := some askUser
  canNotify := true

/-- Writes what the session has heard. -/
def passOn : Showing Unit := do
  let heard := (← get).lua.buffer.heard
  modify fun scene =>
    { scene with lua := { scene.lua with buffer := { scene.lua.buffer with heard := [] } } }
  for piece in heard do writeValue piece

/-- Runs a Lua script. -/
def runLua (run : ScriptRun) : Showing Value := do
  let play := ((← get).plays.lookup run.code).getD Lua.Play.idle
  let (_, outcome) ← luaHost.run play
  passOn
  ActOn.ofExcept outcome

/-- What a script in the plain language is attached to. -/
def plainHost (folder : Path) (script : Nat) : Execution.Host where
  emit := some fun s => do
    modify fun w => { w with written := w.written.push s }
    return false
  tick := return false
  find := Library.find folder script true

/-- Runs a plain script. -/
def runPlain (run : ScriptRun) : Showing Value := do
  let file := Path.ofText run.file
  let script ← ActOn.ofAct Library.begin
  let v ← (fun scene w =>
    let (v, runner, w) := scene.runner.run (plainHost file.parent script) scene.bound
      run.code run.name file { w with written := #[] }
    ((.ok v, { scene with runner }), w) : Showing Value)
  for s in (← ActOn.ofAct get).written do write s
  return v

/-- Takes a thread from those that run. -/
def leaveThread (number : Nat) : Doing Unit := do
  if number ∈ (← get).running then
    modify fun state => { state with running := state.running.erase number }
  else throw (.raised .badValue "list.remove(x): x not in list")

/-- Takes a script from those that run. -/
def leaveTask (file : String) : Doing Unit := do
  if (← get).tasks.has file then
    modify fun state => { state with tasks := state.tasks.leave file }
  else throw (.missingKey file (Text.quoted file))

/-- Runs a script and tells how it ended. -/
def report (run : ScriptRun) (script : Showing Value) : Showing Unit := do
  let fault ← script
  if fault.truthy then
    let shown ← ActOn.ofExcept fault.display
    tell ("脚本执行错误 " ++ shown ++ " 详情可见日志") [severity "error"]
  tell ("脚本 " ++ run.name ++ " 执行完毕") []

/-- What a thread does: it runs a script, tells how it went, and takes the script from the lists
of what is running. -/
def threadBody (thread : Thread) (run : ScriptRun) (script : Showing Value) : Doing Unit := do
  report run script
  leaveTask run.file
  leaveThread thread.number

/-- Does what a thread was started for. -/
def runThread (thread : Thread) : Doing Unit :=
  match thread.job with
  | .runLua run => threadBody thread run (runLua run)
  | .runPlain run => threadBody thread run (runPlain run)
  | .testDevice _ => return ()

/-- Starts a thread for a job. -/
def startThread (job : Job) : Doing Unit :=
  modify fun state =>
    let thread : Thread := ⟨state.threadCount + 1, job⟩
    { state with
      running := state.running ++ [thread.number]
      threads := state.threads ++ [thread]
      threadCount := thread.number }

/-- Cancels all workers and stops all threads. -/
def stopAll : Doing Unit := do
  for task in (← get).tasks do
    ask .worker "cancel" [.text task.2.job.label] []
    modify fun state =>
      { state with workers := state.workers.filter fun worker =>
          worker.number ≠ task.2.number }
  for number in (← get).running do
    ask .program "SetAsyncExc" [.int number, .text "SystemExit"] []
    modify fun state =>
      { state with threads := state.threads.filter fun thread => thread.number ≠ number }
  tell ("强行停止了运行中的 " ++ toString (← get).running.length ++ " 个任务") []
  modify fun state => { state with running := [], tasks := [] }

end DeviceScript.Terminal
