import DeviceScript.Calling.Thing
import DeviceScript.Device.Access

/-!
# Applications

A program that the desktop starts in the background. Whether its process still runs is asked of
the surroundings, once for every question.
-/

namespace DeviceScript.Application

open Act

/-- The number of every process that is started. -/
def processId : Int := 4242

/-- Asks how the process ended; nothing means that it runs. -/
def poll : Act Value :=
  modifyGet fun w =>
    ((w.surroundings.desktop.polls[w.polled]?).getD .none, { w with polled := w.polled + 1 })

/-- The program was started and its process still runs. -/
def runs (app : Application) : Act Bool := do
  if app.started then
    match ← poll with
    | .none => return true
    | _ => return false
  else return false

/-- The number of the process, if it runs. -/
def runningId (app : Application) : Act Value := do
  if ← app.runs then return .int processId else return .none

/-- The arguments as one text with blanks between them; `place` is the number of the first. -/
def commandLine (place : Nat) : List Value → Except Failure String
  | [] => .ok ""
  | .text s :: vs => do
    let rest ← commandLine (place + 1) vs
    return if vs.isEmpty then s else s ++ " " ++ rest
  | v :: _ =>
    .error (.raised .operandType ("sequence item " ++ toString place ++
      ": expected str instance, " ++ v.typeName ++ " found"))

/-- The folder that a program starts in, which only a path has. -/
def folderOf : Value → Except Failure Value
  | .path path => .ok (.path path.parent)
  | v => .error (.noAttribute v.typeName "parent")

/-- Starts the process. -/
def launch (app : Application) : Act Unit := do
  let executable := app.executable
  let args := app.arguments
  let command ←
    if args.truthy then Act.ofExcept (Value.add (.list [executable]) args)
    else pure (.list [executable])
  let folder ← Act.ofExcept (folderOf executable)
  request .process "Popen" [command] [("cwd", folder), ("shell", .bool false)]
  match (← get).surroundings.desktop.startError with
  | some "missing" => throw (.file .missing "")
  | some cause => throw (.raised .runtime cause)
  | none => return ()

/-- Waits for the process to end. -/
def accompany (app : Application) : Act Unit := do
  let line ← Act.ofExcept (do commandLine 0 (← app.arguments.items))
  log .debug ("启动程序: " ++ (← shown app.executable) ++ " " ++ line)
  demand .process "process.wait" [] [("timeout", .none)]
  log .debug "程序已关闭。"

/-- Does something; what goes wrong is only noted. -/
def noted (app : Application) (act : Act Unit) : Act Bool := do
  match ← attempt act with
  | .ok _ => return true
  | .error (.file .missing _) => do
    log .debug ("未找到可执行文件: " ++ (← shown app.executable))
    return false
  | .error e => do
    log .debug ("启动程序时发生错误: " ++ e.message)
    return false

/-- Starts a program that does not run, and waits for its end. -/
def start (app : Application) : Act Application := do
  if ← app.runs then
    log .debug "程序已在运行。"
    return app
  else if ← app.noted app.launch then
    let _ ← app.noted app.accompany
    return { app with started := true }
  else return app

/-- Looks for a window of a process twice a second, at most `rounds` times. -/
def findWindow (id : Value) (until_ : Value) (start : Float) : Nat → Act Value
  | 0 => return .none
  | rounds + 1 => do
    let world ← get
    if ← Act.ofExcept (Value.ordered .less (.float (world.clock - start)) until_) then
      match world.surroundings.desktop.windows.find? fun w => (Value.int w.2).equal id with
      | some window => do
        log .debug ("找到窗口: " ++ window.1)
        return .text window.1
      | none => do
        sleep (.float 0.5) 0.5
        findWindow id until_ start rounds
    else do
      log .debug "未找到对应窗口。"
      return .none

/-- Rounds that are enough for the time. -/
def searchRounds (timeout : Value) : Nat :=
  match timeout.toReal with
  | .ok seconds => 2 * ((Number.wholePart? seconds).getD 0).toNat + 3
  | .error _ => 1

/-- The title of the window of a program. -/
def title (app : Application) (timeout : Value) : Act Value := do
  let start := (← get).clock
  let id ← app.runningId
  findWindow id timeout start (searchRounds timeout)

/-- Ends the process after those that it has started. -/
def terminateAll : Act Unit := do
  let desktop := (← get).surroundings.desktop
  if desktop.noProcess then throw (.raised .runtime "no such process")
  else do
    for child in desktop.children do
      demand .processTree "terminate" [.int child] []
    demand .processTree "terminate" [.int processId] []
    demand .processTree "wait" [.int processId] [("timeout", .int 5)]
    log .debug "程序已被强制终止。"

/-- Ends a program that runs; what goes wrong is only noted. -/
def forceClose (app : Application) : Act Unit := do
  if app.started then
    match ← poll with
    | .none =>
      match ← attempt terminateAll with
      | .ok _ => return ()
      | .error e => log .debug ("强制终止程序时发生错误: " ++ e.message)
    | _ => log .debug "程序已关闭。"
  else log .debug "程序未启动。"

/-- Closes a program. Its window cannot be asked to close, so it is ended by force. -/
def close (app : Application) : Act Unit := do
  if app.started then
    match ← poll with
    | .none => do
      let e := Failure.noAttribute "Application" "get_window_title"
      log .debug ("尝试关闭程序时发生错误: " ++ e.message)
      log .debug "尝试强制终止程序。"
      forceClose app
    | _ => log .debug "程序已关闭。"
  else log .debug "程序未启动。"

/-- A method of programs. -/
def method (name : String) (params : List Parameter)
    (action : List Value → ActOn Application Value) : String × Method Application :=
  (name, ⟨⟨"Application.", name, true, params, none⟩, action⟩)

/-- An action for which a program is only looked at. -/
def reading {α : Type} (act : Application → Act α) : ActOn Application α := do
  ActOn.ofAct (act (← get))

/-- The methods of programs. -/
def methods : List (String × Method Application) :=
  [method "__init__"
      [.required "exe_path" (some "Path"), .optional "args" (some "list") (.list [])] fun
      | [executable, args] => do
        set (Application.mk executable args false)
        return .none
      | _ => return .none,
    method "start" [] fun _ => do
      set (← reading start)
      return .none,
    method "title" [.optional "timeout" (some "int") (.int 10)] fun
      | [timeout] => reading fun app => app.title timeout
      | _ => return .none,
    method "close" [] fun _ => do
      reading close
      return .none,
    method "force_close" [] fun _ => do
      reading forceClose
      return .none,
    method "process_id" [] fun _ => reading runningId]

/-- What a script reads from a program. -/
def part? (app : Application) : String → Option Value
  | "exe_path" => some app.executable
  | "args" => some app.arguments
  | "process" => some (if app.started then .object "Popen" else .none)
  | "thread" => some (if app.started then .object "Thread" else .none)
  | _ => none

/-- The program with a part replaced by a script. -/
def withPart? (name : String) (v : Value) (app : Application) : Option Application :=
  match name with
  | "exe_path" => some { app with executable := v }
  | "args" => some { app with arguments := v }
  | _ => none

/-- How scripts use programs. -/
def interface : Interface Application := .of "Application" methods part? withPart?

end DeviceScript.Application
