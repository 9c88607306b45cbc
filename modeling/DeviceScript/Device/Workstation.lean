import DeviceScript.Device.Application

/-!
# The desktop

The desktop takes clicks, swipes, keys and texts, once as programs usually read them and once
as games read them. It also runs commands, starts programs and brings their windows to the
front.
-/

namespace DeviceScript.Workstation

open Act

/-- A desktop that clicks around a place if the settings say so. -/
def create : Act Workstation := do
  let settings ← settings "extra"
  return {
    name := .text "Windows"
    applications := []
    spread := (Value.lookup? (.text "random") settings.extra).getD (.bool true)
    shot := .bytes [] }

/-- The desktop with the number. -/
def state (id : Nat) : Act Workstation := do
  match ← deviceAt? id with
  | some (.workstation workstation) => return workstation
  | _ => return default

/-- Changes the desktop with the number. -/
def modify (id : Nat) (change : Workstation → Workstation) : Act Unit := do
  setDevice id (.workstation (change (← state id)))

/-! ## Pointer and keys -/

/-- The button that is meant if none is given. -/
def button : Value → Value
  | .none => .text "primary"
  | key => key

/-- Clicks near a place. -/
def click (channel : Channel) (id : Nat) (x y key : Value) : Act Value := do
  let workstation ← state id
  let x ← scatter workstation.spread x
  let y ← scatter workstation.spread y
  demand channel "click" [x, y] [("button", button key)]
  tip ("Windows 点击位置 " ++ (← shown x) ++ " " ++ (← shown y))

/-- Clicks where the pointer is. -/
def clickHere (channel : Channel) (key : Value) : Act Value := do
  demand channel "click" [] [("button", key)]
  tip ("点击鼠标按钮: " ++ (← shown key))

/-- Where the pointer is. -/
def pointer : Act Value := do
  let (x, y) := (← get).surroundings.desktop.mouse
  let tip ← tip ("当前鼠标位置: (" ++ (← shown x) ++ ", " ++ (← shown y) ++ ")")
  return .tuple [tip, x, y]

/-- Moves from one place to another with the button held. The second place is reached on the
height of the first one. -/
def swipe (channel : Channel) (id : Nat) (x1 y1 x2 y2 time : Value) : Act Value := do
  let workstation ← state id
  let x1 ← scatter workstation.spread x1
  let y1 ← scatter workstation.spread y1
  let x2 ← scatter workstation.spread x2
  let y2 ← scatter workstation.spread y2
  let left := ("button", Value.text "left")
  let duration := ("duration", ← Act.ofExcept (time.divide (.int 1000)))
  demand channel "moveTo" [x1, y1] [duration]
  demand channel "mouseDown" [] [left]
  demand channel "moveTo" [x2, y1] [duration]
  demand channel "mouseUp" [] [left]
  tip ("Windows 鼠标滑动 " ++ (← shown x1) ++ " " ++ (← shown y1) ++ " => " ++
    (← shown x2) ++ " " ++ (← shown y2) ++ " 耗时 " ++ (← shown time))

/-- Presses a key, or holds it for a time. -/
def pressKey (channel : Channel) (key time : Value) : Act Value := do
  if time.equal (.int 0) then
    demand channel "press" [key] []
    tip ("Windows 单击按键 " ++ (← shown key))
  else do
    demand channel "keyDown" [key] []
    rest time
    demand channel "keyUp" [key] []
    tip ("Windows 按住按键 " ++ (← shown key) ++ " 耗时 " ++ (← shown time))

/-- Presses keys together. -/
def pressKeys (keys : Value) : Act Value := do
  demand .desktop "hotkey" [keys] []
  tip ("Windows 按组合键 " ++ (← shown keys))

/-! ## Texts -/

/-- The value is one character below 128. -/
def isPlainCharacter : Value → Except Failure Bool
  | .text s =>
    match s.toList with
    | [c] => .ok (decide (c.toNat < 128))
    | characters => .error (.characterLength characters.length)
  | v => .error (.characterType v.typeName)

/-- One of the values is a plain character; the first that is none of one character fails. -/
def anyPlain : List Value → Except Failure Bool
  | [] => .ok false
  | v :: vs => do
    if ← isPlainCharacter v then return true else anyPlain vs

/-- The text, or the list, has a plain character. -/
def hasPlainCharacter (s : Value) : Except Failure Bool := do anyPlain (← s.items)

/-- Enters a text: key by key, or through the clipboard if it has no plain character. -/
def enterText (s : Value) : Act Value := do
  if ← Act.ofExcept (hasPlainCharacter s) then
    demand .desktop "typewrite" [s] []
  else do
    demand .clipboard "copy" [s] []
    demand .desktop "hotkey" [.text "ctrl", .text "v"] []
  let s ← Act.ofExcept (joined s)
  tip ("windows 输入文本 " ++ (← shown s))

/-! ## Commands and programs -/

/-- Runs a command and gives its exit code. -/
def shell (command : Value) : Act Value := do
  demand .command "run" [command] [("shell", .bool true), ("check", .bool true)]
  match command with
  | .text s => return .int (((← get).surroundings.desktop.exitCodes.lookup s).getD 0)
  | _ => return .int 0

/-- The program that was started under the name. -/
def application? (name : Value) : List (Value × Application) → Option Application
  | [] => none
  | entry :: entries =>
    if entry.1.alike name then some entry.2 else application? name entries

/-- Keeps a program under a name. -/
def putApplication (name : Value) (app : Application) :
    List (Value × Application) → List (Value × Application)
  | [] => [(name, app)]
  | entry :: entries =>
    if entry.1.alike name then (entry.1, app) :: entries
    else entry :: putApplication name app entries

/-- Refuses a name that cannot be a key. -/
def checkName (name : Value) : Except Failure Unit :=
  match name.unhashable? with
  | some sort => .error (.unhashable sort)
  | none => .ok ()

/-- The file of a program, a text being its path. -/
def executableOf : Value → Value
  | .text s => .path (Path.ofText s)
  | v => v

/-- Starts a program and keeps it under a name. -/
def openApp (id : Nat) (name executable args : Value) : Act Value := do
  let app : Application := ⟨executableOf executable, args, false⟩
  Act.ofExcept (checkName name)
  let put := fun (app : Application) => modify id fun workstation =>
    { workstation with
      applications := putApplication name app workstation.applications }
  put app
  put (← app.start)
  log .debug ("Windows 打开了 应用程序 " ++ (← shown name))
  return .none

/-- The window with a title in it that is brought to the front. -/
def windowWith (windows : List (String × Int)) : Value → Except Failure String
  | .text title =>
    match windows.find? fun window => Text.hasPiece title window.1 with
    | some window => .ok window.1
    | none => .error (.indexOut "list")
  | v =>
    if windows.isEmpty then .error (.indexOut "list")
    else .error (.raised .operandType
      ("'in <string>' requires string as left operand, not " ++ v.typeName))

/-- How many seconds a window is looked for. -/
def searchTime : Value := .int 10

/-- Brings the window of a program to the front. -/
def activateWindow (id : Nat) (name : Value) : Act Value := do
  Act.ofExcept (checkName name)
  match application? name (← state id).applications with
  | none => tip ("Windows 未找到窗口 " ++ (← shown name))
  | some app => do
    let title ← app.title searchTime
    let window ← Act.ofExcept (windowWith (← get).surroundings.desktop.windows title)
    demand .window "activate" [.text window] []
    tip ("Windows 切换到窗口 " ++ (← shown name))

/-- The titles of all windows. -/
def windowTitles : Act Value := do
  return .list ((← get).surroundings.desktop.windows.map fun window => .text window.1)

/-! ## Pictures of the screen -/

/-- Takes a picture of the screen and hands it out. -/
def screenshot (id : Nat) (wanted : Value) : Act Value := do
  setShot id (.bytes [])
  let target ← pictureTarget "windows" wanted
  let desktop := (← get).surroundings.desktop
  let screen := desktop.screen.elim (.error (.raised .runtime desktop.screenError)) .ok
  takePicture id screen target "对 Windows 截图并保存到 "
    (handOut id "对 Windows 的截图并保存到了内存")
    fun e => tip ("无法为 Windows 设备 截图 请检查设备状态 " ++ e.message)

/-! ## Operations -/

/-- The operations that programs and games read in different ways. -/
def pointerOperations (id : Nat) : List (String × Member) :=
  let op := deviceOperation "WindowsDevice"
  let whole := fun (name : String) => Parameter.required name (some "int")
  let text := fun (name : String) => Parameter.required name (some "str")
  let key := Parameter.optional "key" (some "str") .none
  let places := [whole "x1", whole "y1", whole "x2", whole "y2", .required "time" (some "float")]
  let held := [text "key_id", .optional "time" (some "int") (.int 0)]
  [("click", "mouseClick", "doubleClick", "swipe", "keyevent", Channel.desktop),
    ("gameClick", "gameMouseClick", "gameDoubleClick", "gameSwipe", "gameKeyevent", .game)].flatMap
    fun (clickName, hereName, doubleName, swipeName, keyName, channel) =>
      [op clickName [whole "x", whole "y", key] none fun
          | [x, y, key] => click channel id x y key
          | _ => return .none,
        op hereName [text "key"] none fun
          | [key] => clickHere channel key
          | _ => return .none,
        op doubleName [key] none fun _ => throw (.unassigned "x"),
        op swipeName places none fun
          | [x1, y1, x2, y2, time] => swipe channel id x1 y1 x2 y2 time
          | _ => return .none,
        op keyName held none fun
          | [key, time] => pressKey channel key time
          | _ => return .none]

/-- The operations of the desktop, without the call by name. -/
def ownOperations (id : Nat) : List (String × Member) :=
  let op := deviceOperation "WindowsDevice"
  let text := fun (name : String) => Parameter.required name (some "str")
  pointerOperations id ++
  [op "__init__" [] none fun _ => do
      let fresh ← create
      modify id fun _ => fresh
      return .none,
    op "_offset" [.optional "offset" none .none] (some "偏移") fun
      | [most] => offset most
      | _ => return .none,
    op "openApp"
      [text "name", .required "exePath" (some "Path"), .variadic "args" none] none fun
      | [name, executable, args] => openApp id name executable args
      | _ => return .none,
    op "getMouse" [] none fun _ => pointer,
    op "textInput" [.required "text" (some "Union")] none fun
      | [text] => enterText text
      | _ => return .none,
    op "hotkey" [.variadic "hotkey" none] none fun
      | [keys] => pressKeys keys
      | _ => return .none,
    op "shell" [text "cmd"] none fun
      | [command] => shell command
      | _ => return .none,
    op "activateWindow" [text "name"] none fun
      | [name] => activateWindow id name
      | _ => return .none,
    op "get_all_windows_titles" [] none fun _ => windowTitles,
    op "get_screenshot" [] none fun _ => lastShot id,
    op "screenshot" [.optional "filePath" (some "Path") .none] none fun
      | [wanted] => screenshot id wanted
      | _ => return .none]

/-- What the desktop has under the name, without the call by name. -/
def ownMember? (id : Nat) (name : String) : Act (Option Member) := do
  let workstation ← state id
  match (ownOperations id).lookup name with
  | some found => return some found
  | none =>
    match name with
    | "name" => return some (.value workstation.name)
    | "random" => return some (.value workstation.spread)
    | "applications" =>
      return some (.value (.dict (workstation.applications.map fun entry =>
        (entry.1, .object "Application"))))
    | "screenshot_file" => return some (.value (.object "BytesIO"))
    | _ => return none

/-- All operations of the desktop. -/
def operations (id : Nat) : List (String × Member) :=
  callOperation (ownMember? id) :: ownOperations id

/-- What a script reads from the desktop under the name. -/
def member? (id : Nat) (name : String) : Act (Option Member) := do
  return (← ownMember? id name).or ((operations id).lookup name)

/-- The desktop with a part replaced by a script. -/
def withPart? (name : String) (v : Value) (workstation : Workstation) : Option Workstation :=
  match name with
  | "name" => some { workstation with name := v }
  | "random" => some { workstation with spread := v }
  | _ => none

end DeviceScript.Workstation
