import DeviceScript.Device.Access

/-!
# Phones

A phone takes clicks, swipes, keys, texts and commands, and gives pictures of its screen.
-/

namespace DeviceScript.Phone

open Act

/-- A phone that clicks around a place if the settings say so. -/
def create (name : String) : Act Phone := do
  let settings ← settings "extra"
  return {
    name := .text name
    serial := name
    spread := (Value.lookup? (.text "random") settings.extra).getD (.bool true)
    shot := .bytes [] }

/-- The phone with the number. -/
def state (id : Nat) : Act Phone := do
  match ← deviceAt? id with
  | some (.phone phone) => return phone
  | _ => return default

/-- How hints name a phone. -/
def label (phone : Phone) : String := "AdbDevice(serial=" ++ phone.serial ++ ")"

/-- Asks a phone, by its serial number, to do something. -/
def ask (phone : Phone) (verb : String) (args : List Value)
    (named : List (String × Value)) : Act Unit :=
  demand .phone verb (.text phone.serial :: args) named

/-- Runs a command on a phone and gives its answer. -/
def runCommand (phone : Phone) (command : Value) : Act String := do
  ask phone "shell" [command] [("timeout", .int 2)]
  match command with
  | .text s => return ((← get).surroundings.phones.shell.lookup s).getD ""
  | _ => return ""

/-- A hint that is given more than its text, which hints do not take. -/
def overfullHint : Failure := .tooManyArguments "Tip.__init__" 2 2 3 0

/-- Clicks near a place. -/
def click (id : Nat) (x y : Value) : Act Value := do
  let phone ← state id
  let x ← scatter phone.spread x
  let y ← scatter phone.spread y
  ask phone "click" [x, y] []
  tip (phone.label ++ " 点击位置 " ++ (← shown x) ++ " " ++ (← shown y))

/-- Swipes from near a place to near another. -/
def swipe (id : Nat) (x1 y1 x2 y2 time : Value) : Act Value := do
  let phone ← state id
  let x1 ← scatter phone.spread x1
  let y1 ← scatter phone.spread y1
  let x2 ← scatter phone.spread x2
  let y2 ← scatter phone.spread y2
  ask phone "swipe" [x1, y1, x2, y2, time] []
  tip (phone.label ++ " 滑动 " ++ (← shown x1) ++ " " ++ (← shown y1) ++ " => " ++
    (← shown x2) ++ " " ++ (← shown y2) ++ " 耗时 " ++ (← shown time))

/-- Presses a key by its number. -/
def pressKey (id : Nat) (key : Value) : Act Value := do
  let phone ← state id
  ask phone "keyevent" [key] []
  tip (phone.label ++ " 单击按键 " ++ (← shown key))

/-- Starts an app. -/
def openApp (id : Nat) (name activity : Value) : Act Value := do
  let phone ← state id
  let _ ← runCommand phone (.text ("am start " ++ (← shown activity)))
  tip (phone.label ++ " 打开了 APP " ++ (← shown name))

/-- Types a text, or the texts of a list in one. -/
def enterText (id : Nat) (s : Value) : Act Value := do
  let phone ← state id
  let s ← shown (← Act.ofExcept (joined s))
  let _ ← runCommand phone (.text ("input text \"" ++ s ++ "\""))
  tip (phone.label ++ " 输入文本 " ++ s)

/-- Runs a command. The answer is handed to the hint, which does not take it. -/
def shell (id : Nat) (command : Value) : Act Value := do
  let phone ← state id
  let _ ← shown command
  let _ ← runCommand phone command
  throw overfullHint

/-- Asks for the app in front. The answer is handed to the hint, which does not take it. -/
def frontApp (id : Nat) : Act Value := do
  let phone ← state id
  let _ ← runCommand phone (.text "dumpsys activity activities | grep \"mResumedActivity\"")
  throw overfullHint

/-- Takes a picture of the screen and hands it out. -/
def screenshot (id : Nat) (wanted : Value) : Act Value := do
  let phone ← state id
  setShot id (.bytes [])
  let target ← pictureTarget (← shown phone.name) wanted
  let screen := (← get).surroundings.phones.screen.elim (.error (.raised .runtime "")) .ok
  takePicture id screen target ("对 " ++ phone.serial ++ " 的截图并保存到了 ")
    (handOut id ("对 " ++ phone.serial ++ " 进行截图并保存到内存"))
    fun _ => tip ("无法为 " ++ phone.serial ++ " 截图 请检查设备状态")

/-- The operations of a phone, without the call by name. -/
def ownOperations (id : Nat) : List (String × Member) :=
  let op := deviceOperation "AdbDevice"
  let whole := fun (name : String) => Parameter.required name (some "int")
  let text := fun (name : String) => Parameter.required name (some "str")
  [op "__init__" [text "name", .required "device" (some "AdbDevice")] none fun
      | [name, _] => do
        let fresh ← create (← state id).serial
        setDevice id (.phone { fresh with name })
        return .none
      | _ => return .none,
    op "_offset" [.optional "offset" none .none] (some "偏移") fun
      | [most] => offset most
      | _ => return .none,
    op "click" [whole "x", whole "y"] none fun
      | [x, y] => click id x y
      | _ => return .none,
    op "swipe"
      [whole "x1", whole "y1", whole "x2", whole "y2", .required "time" (some "float")] none fun
      | [x1, y1, x2, y2, time] => swipe id x1 y1 x2 y2 time
      | _ => return .none,
    op "keyevent" [whole "key_id"] none fun
      | [key] => pressKey id key
      | _ => return .none,
    op "openApp" [text "name", text "appActivity"] none fun
      | [name, activity] => openApp id name activity
      | _ => return .none,
    op "textInput" [.required "text" (some "Union")] none fun
      | [text] => enterText id text
      | _ => return .none,
    op "shell" [text "cmd"] (some "终端执行命令") fun
      | [command] => shell id command
      | _ => return .none,
    op "appName" [] (some "前台APP名") fun _ => frontApp id,
    op "get_screenshot" [] none fun _ => lastShot id,
    op "screenshot" [.optional "filePath" (some "Path") .none] none fun
      | [wanted] => screenshot id wanted
      | _ => return .none]

/-- What a phone has under the name, without the call by name. -/
def ownMember? (id : Nat) (name : String) : Act (Option Member) := do
  let phone ← state id
  match (ownOperations id).lookup name with
  | some found => return some found
  | none =>
    match name with
    | "name" => return some (.value phone.name)
    | "random" => return some (.value phone.spread)
    | "device" => return some (.value (.object "AdbDevice"))
    | "screenshot_file" => return some (.value (.object "BytesIO"))
    | _ => return none

/-- All operations of a phone. -/
def operations (id : Nat) : List (String × Member) :=
  callOperation (ownMember? id) :: ownOperations id

/-- What a script reads from a phone under the name. -/
def member? (id : Nat) (name : String) : Act (Option Member) := do
  return (← ownMember? id name).or ((operations id).lookup name)

/-- The phone with a part replaced by a script. -/
def withPart? (name : String) (v : Value) (phone : Phone) : Option Phone :=
  match name with
  | "name" => some { phone with name := v }
  | "random" => some { phone with spread := v }
  | _ => none

end DeviceScript.Phone
