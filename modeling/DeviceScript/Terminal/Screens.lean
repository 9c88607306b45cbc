import DeviceScript.Terminal.DeviceList

/-!
# What can be done on the screens

A screen is made of the values that it is given, and it has actions and properties that are
reached by their names.
-/

namespace DeviceScript.Terminal

open ActOn

/-! ## Pages -/

/-- The text of the example script: one in the working directory, or the one that comes with the
program. Nothing is told of a script that cannot be read. -/
def exampleText : Doing (Option String) := do
  if (← get).localExample then
    match ← attempt (ofAct (Act.readText "example/test.lua")) with
    | .ok s => return some s
    | .error _ => return none
  else return some Guide.sampleScript

def hasExample : Doing Bool := do
  if (← get).localExample then ofAct (Act.pathExists (Path.ofText "example/test.lua"))
  else return true

def showExample : Doing Unit := do
  let excuse := [titled "展示代码", severity "error"]
  if !(← hasExample) then tell "无法获取示范代码 (你可能在运行单文件版本)" excuse
  else
    match ← exampleText with
    | none => tell "无法获取示范代码 (文件被清空)" excuse
    | some s => do let _ ← push (.code (.text "示范代码") (.text s))

def clearJournal (id : Nat) : Doing Unit := do
  match (← screenAt id).page with
  | .journal true => do
    ask .logView "clear" [] []
    tell "日志已清空" []
  | _ => throw (.noAttribute Kind.journal.label "logwidget")

/-! ## The program -/

def maximize : Doing Unit := do
  let title := titled "组件最大化"
  let focus := (← get).focus
  if focus.maximized then return ()
  else
    match focus.focused with
    | .none => tell "无需最大化 (尝试按 [b]tab[/b] 键)" [title, severity "warning"]
    | widget => do
      ask .program "maximize" [widget] []
      if focus.works then tell "全屏浏览页面中 按 [b]escape (Esc)[/b] 退出全屏" [title]
      else tell "此部件可能未被最大化" [title, severity "warning"]

/-- Whether an action can be started now: not the change to the mode that is on. -/
def checkAction (action params : Value) : Doing Value := do
  if action.equal (.text "switch_mode") && params.truthy then
    let wanted ← ActOn.ofExcept (params.index (.int 0))
    return if (← get).mode.equal wanted then .none else .bool true
  else return .bool true

/-- How soon a second wish to leave must follow to be obeyed at once, in seconds. -/
def patience : Int := 3

/-- Tells how the program is left, or leaves it when asked twice within a short time. -/
def helpQuit : Doing Unit := do
  let now ← ActOn.ofExcept (Value.float (← ofAct get).clock).toWhole
  let state ← get
  if now - state.exitMark < patience then throw (.raised .forcedExit "0")
  else
    match state.keys.find? fun key => key.2 = "quit" || key.2 = "app.quit" with
    | none => return ()
    | some (key, _) => do
      tell ("[b]" ++ key ++ "[/b] 安全退出 或 再按一次 [b]ctrl+c[/b] 强制退出")
        [titled "你想退出程序?"]
      modify fun state => { state with exitMark := now }

/-! ## Actions by name -/

def action (k : Kind) (name : String) (params : List Parameter)
    (body : List Value → Doing Value) : String × Method State :=
  (name, ⟨⟨k.label ++ ".", name, true, params, none⟩, body⟩)

def plainAction (k : Kind) (name : String) (body : Doing Unit) : String × Method State :=
  action k name [] fun _ => do
    body
    return .none

def actionOn (k : Kind) (name p : String) (body : Value → Doing Unit) :
    String × Method State :=
  action k name [.required p none] fun vs => do
    body (vs.headD .none)
    return .none

def closing (k : Kind) (id : Nat) : String × Method State :=
  action k "dismiss" [.optional "result" none .none] fun vs => do
    dismiss id (vs.headD .none)
    return .none

def fileOf (v : Value) : Doing String := do
  match v with
  | .text s => return s
  | v => return (← ActOn.ofExcept v.toPath).render

def scriptActions (id : Nat) : List (String × Method State) :=
  let k := Kind.scripts
  [plainAction k "action_get_script_list" (refreshScripts id),
    actionOn k "action_run_script" "path" fun v => do startScript (← fileOf v),
    plainAction k "action_stop_tasks" stopAll,
    action k "get_code" [.required "source_file" none] fun vs => do
      let s ← ofAct (readScript (← fileOf (vs.headD .none)))
      return (s.map Value.text).getD .none,
    plainAction k "action_clear_log" clearWritten,
    actionOn k "update_log" "message" (writeValue ·),
    plainAction k "log_dismiss_callback" (modify fun state => { state with view := none }),
    plainAction k "action_show_log" openView,
    action k "user_input_handler" [.required "description" none, .required "prompt" none] fun
      | [description, prompt] => askUser description prompt
      | _ => return .none,
    action k "get_script_list" [] fun _ => do
      return .list ((← ofAct findScripts).map .path),
    closing k id]

def actions (k : Kind) (id : Nat) : List (String × Method State) :=
  match k with
  | .program =>
    [plainAction k "action_maximize" maximize,
      action k "check_action" [.required "action" none, .required "parameters" none] fun
        | [name, params] => checkAction name params
        | _ => return .none,
      plainAction k "action_help_quit" helpQuit]
  | .home | .plain => [plainAction .plain "action_show_code" showExample, closing k id]
  | .journal =>
    [plainAction .plain "action_show_code" showExample,
      plainAction k "action_clear_log" (clearJournal id), closing k id]
  | .code => [plainAction k "on_mount" (onMount id), closing k id]
  | .output =>
    [plainAction k "on_mount" (onMount id), closing k id,
      actionOn k "update_log" "message" (showMessage id ·),
      plainAction k "action_toggle_view" (toggleView id)]
  | .dialog => [closing k id]
  | .scripts => scriptActions id
  | .devices =>
    [plainAction k "action_get_script_list" (refreshDevices id),
      actionOn k "action_device_test" "device" requestTest, closing k id]

def perform (id : Nat) (name : String) (args : List Value) : Doing Value := do
  let k := (← screenAt id).page.kind
  match (actions k id).lookup name with
  | some method => method.call args []
  | none => throw (.noAttribute k.label name)

def property? (page : Page) (name : String) (state : State) : Option Value :=
  match page, name with
  | .program, "exit_flag" => some (.int state.exitMark)
  | .program, "title" => some (.text "脚本执行器")
  | .program, "current_mode" => some state.mode
  | .code title _, "title" => some title
  | .code _ s, "code" => some s
  | .output title .., "title" => some title
  | .output _ message _ _, "message" => some message
  | .output _ _ simple _, "use_simple_view" => some (.bool simple)
  | .dialog description _, "description" => some description
  | .dialog _ prompt, "prompt" => some prompt
  | .scripts files, "lua_files" => some (.list (files.map .path))
  | .scripts _, "script_message" => some (.text state.written)
  | .devices _, "script_message" => some (.text "")
  | _, _ => none

def property (id : Nat) (name : String) : Doing Value := do
  let page := (← screenAt id).page
  match property? page name (← get) with
  | some v => return v
  | none => throw (.noAttribute page.kind.label name)

def click (id number : Nat) : Doing Value := do
  match (Widget.buttonsAmong (← screenAt id).children)[number]? with
  | none => throw (.indexOut "list")
  | some button =>
    match button.press? with
    | none => return .none
    | some (.runScript file) => perform id "action_run_script" [.text file]
    | some (.testDevice name) => perform id "action_device_test" [name]

/-! ## Making screens -/

def ingredients : Kind → List Parameter
  | .code => [.required "title" none, .required "code" none]
  | .output =>
    [.required "title" none, .required "message" none, .required "log_dismiss_callback" none]
  | .dialog => [.required "description" none, .required "prompt" none]
  | .scripts | .devices =>
    [.optional "name" none .none, .optional "id" none .none, .optional "classes" none .none]
  | _ => []

def pageOf (k : Kind) (vs : List Value) : Act Page :=
  match k, vs with
  | .code, title :: s :: _ => return .code title s
  | .output, title :: message :: _ => return .output title message false false
  | .dialog, description :: prompt :: _ => return .dialog description prompt
  | .scripts, _ => do return .scripts (← findScripts)
  | .devices, _ => do return .devices (← findDevices)
  | .journal, _ => return .journal false
  | .home, _ => return .home
  | .plain, _ => return .plain
  | _, _ => return .program

/-- Makes a screen. A screen with output is also given something to be told to when it is
closed. -/
def create (k : Kind) (args : List Value) : Doing Nat := do
  let given := if k = .output then args ++ [.callable] else args
  let sig : Signature := ⟨k.label ++ ".", "__init__", true, ingredients k, none⟩
  let vs ← ActOn.ofExcept (sig.bind given [])
  let page ← ofAct (pageOf k vs)
  addScreen page (if k = .scripts ∨ k = .devices then vs else [])

end DeviceScript.Terminal
