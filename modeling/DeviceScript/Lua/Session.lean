import DeviceScript.Http.Client
import DeviceScript.Library
import DeviceScript.Lua.Buffer
import DeviceScript.Lua.Location
import DeviceScript.Lua.Table

/-!
# Sessions of Lua scripts

A Lua script reaches the program through global names. Behind them stand the output buffer, the
folder of the script, the device in use and a picture, which a session holds; the program around
it decides whether the user can be asked and told something.
-/

namespace DeviceScript.Lua

open ActOn

/-- A device as a script uses it: what it has under a name. -/
abbrev Handle := String → Act (Option Member)

/-- What stands behind the global names. -/
structure Session where
  folder : Path
  location : Location
  buffer : Buffer
  device : Option Handle
  picture : Image
  defaults : Http.Defaults
  deriving Inhabited

def Session.initial (listens : Bool) : Session :=
  ⟨Path.here, ⟨.path Path.here⟩, Buffer.empty listens, none, ⟨0, none, .bytes []⟩,
    Http.Defaults.initial⟩

/-- Makes everything new for the script in a file, but for the defaults of web requests. -/
def Session.start (file : Path) (session : Session) : Session where
  folder := file.parent
  location := ⟨.path file.parent⟩
  buffer := session.buffer.clear
  device := none
  picture := ⟨0, none, .bytes []⟩
  defaults := session.defaults

/-- The program around a session. -/
structure Host (σ : Type) where
  session : σ → Session
  update : (Session → Session) → σ → σ
  ask : Option (Value → Value → ActOn σ Value)
  canNotify : Bool

inductive Global where
  | print
  | input
  | notify
  | clearBuffer
  | workPath
  | path
  | table
  | exit
  | bufferFile
  | sleep
  | selectDevice
  | device
  | image
  | requests
  deriving DecidableEq, Inhabited

namespace Global

def all : List Global :=
  [.device, .image, .path, .requests, .clearBuffer, .exit, .input, .table, .notify, .print,
    .bufferFile, .selectDevice, .sleep, .workPath]

def label : Global → String
  | .print => "print"
  | .input => "input"
  | .notify => "notify"
  | .clearBuffer => "clear_buffer"
  | .workPath => "work_path"
  | .path => "Path"
  | .table => "lua_table"
  | .exit => "exit"
  | .bufferFile => "python_buffer_file"
  | .sleep => "sleep"
  | .selectDevice => "select_device"
  | .device => "Device"
  | .image => "Image"
  | .requests => "Requests"

def ofLabel? (label : String) : Option Global := all.find? fun global => global.label == label

def sort : Global → String
  | .workPath => "LuaPath"
  | .bufferFile => "VirtualFile"
  | .device => "LuaDevice"
  | .image => "LuaImage"
  | .path | .requests => "type"
  | .sleep => "function"
  | _ => "method"

end Global

namespace Host

variable {σ : Type}

def focus {τ α : Type} (host : Host σ) (read : Session → τ) (write : τ → Session → Session)
    (act : ActOn τ α) : ActOn σ α := fun state w =>
  match act.perform (read (host.session state)) w with
  | (outcome, part, w) => ((outcome, host.update (write part) state), w)

def onBuffer {α : Type} (host : Host σ) (act : ActOn Buffer α) : ActOn σ α :=
  host.focus Session.buffer (fun buffer session => { session with buffer }) act

def onLocation {α : Type} (host : Host σ) (act : ActOn Location α) : ActOn σ α :=
  host.focus Session.location (fun location session => { session with location }) act

def onPicture {α : Type} (host : Host σ) (act : ActOn Image α) : ActOn σ α :=
  host.focus Session.picture (fun picture session => { session with picture }) act

def onDefaults {α : Type} (host : Host σ) (act : Http.Asking α) : ActOn σ α :=
  host.focus Session.defaults (fun defaults session => { session with defaults }) act

def writeLine (host : Host σ) (line : String) : ActOn σ Unit :=
  host.onBuffer (modify (Buffer.write (.text (line ++ "\n"))))

def writeValue (host : Host σ) (v : Value) : ActOn σ Unit := do
  host.writeLine (← ActOn.ofExcept v.display)

/-! ## Functions -/

/-- Told when a script asks the user although nobody can be asked. -/
def deaf : String := "脚本使用了用户输入, 但当前运行环境不支持!"

/-- Asks the user for a text, which is empty if nobody can be asked. -/
def input (host : Host σ) (prompt description : Value) : ActOn σ Value :=
  match host.ask with
  | some ask => ask prompt description
  | none => do
    if host.canNotify then ofAct (Act.notify [.text deaf] [])
    return .text ""

def select (host : Host σ) (name : Value) : ActOn σ Value := do
  let _ ← ofAct (Library.selectDevice host.canNotify name)
  let current := (← ofAct Act.fleet).current
  modify (host.update fun session => { session with device := current.map Act.deviceMember? })
  return .none

def handler (name : String) (params : List Parameter) (action : List Value → ActOn σ Value) :
    Method σ :=
  ⟨⟨"LuaScriptRuntime.", name, true, params, none⟩, action⟩

def function? (host : Host σ) : Global → Option (Method σ)
  | .print => some (handler "print_handler" [.variadic "args" none] fun
    | [.tuple vs] => do
      host.writeLine (Text.join " " (← ActOn.ofExcept (vs.mapM Value.display)))
      return .none
    | _ => return .none)
  | .input => some (handler "user_input_handler"
    [.optional "prompt" (some "str") (.text ""), .optional "description" (some "str") (.text "")]
    fun
    | [prompt, description] => host.input prompt description
    | _ => return .none)
  | .notify =>
    if host.canNotify then
      some (handler "notify_handler" [.required "message" (some "str")] fun vs => do
        ofAct (Act.notify vs [])
        return .none)
    else
      some (handler "output_handler" [.optional "message" (some "str") (.text "")] fun vs => do
        for v in vs do host.writeValue v
        return .none)
  | .clearBuffer =>
    some ⟨⟨"VirtualFile.", "clear", true, [], none⟩, fun _ => do
      host.onBuffer (modify Buffer.clear)
      return .none⟩
  | .path =>
    some ⟨⟨"LuaPath.", "__init__", true, [.required "path" none], none⟩, fun
      | [v] => do
        return .hostPath (Path.ofText (← ActOn.ofExcept (Location.ofValue v).place.display))
      | _ => return .none⟩
  | .table => some (handler "lua_table" [.required "python_list" (some "list")] fun
    | [v] => return toTable v
    | _ => return .none)
  | .exit => some (handler "stop_handler" [.optional "message" (some "str") (.text "")] fun
    | [message] => throw (.raised .luaExit (message.display.toOption.getD ""))
    | _ => return .none)
  | .sleep =>
    some ⟨⟨"LuaScriptRuntime.", "sleep_handler", false,
      [.optional "seconds" (some "float") (.float 1)], none⟩, fun
      | [seconds] => do
        ofAct (Act.rest seconds)
        return .none
      | _ => return .none⟩
  | .selectDevice => some (handler "select_device" [.required "name" (some "str")] fun
    | [name] => host.select name
    | _ => return .none)
  | .requests =>
    some ⟨⟨"", "Requests", false, [.variadic "args" none], none⟩, fun
      | [.tuple []] => return .object "Requests"
      | _ => throw (.raised .operandType "Requests() takes no arguments")⟩
  | _ => none

/-! ## The device and the picture -/

def deviceMember (host : Host σ) (name : Value) : ActOn σ Member := do
  match (host.session (← get)).device with
  | none => throw (.raised .luaError "请先使用 select_device 选择设备!")
  | some handle =>
    match name with
    | .text s =>
      match ← ofAct (handle s) with
      | some member => return member
      | none => throw (.raised .luaError ("设备不存在 " ++ s ++ " 操作!"))
    | name => throw (.attributeName name.typeName)

/-- Calls what the device has under a name. The user sees the hints, and the script gets the
rest. -/
def callDevice (host : Host σ) (member : Member) (args : List Value) : ActOn σ Value := do
  let result ← ofAct (member.callLoosely (.tuple args))
  for hint in hints result do host.writeValue hint
  return delivered result

/-- Opens a picture that is named from the working directory or from the folder of the
script. -/
def openPicture (host : Host σ) (name : Value) : ActOn σ Value := do
  let near ← ActOn.ofExcept name.toPath
  let candidates := [near, (host.session (← get)).folder.append near]
  match ← ofAct (candidates.filterM Act.pathExists) with
  | [] => return .none
  | path :: _ => host.onPicture (Image.openFile (.path path))

def opening (host : Host σ) : Method σ :=
  ⟨⟨"LuaImage.", "_open", true, [.required "path" (some "str")], some "打开图像文件"⟩, fun
    | [name] => host.openPicture name
    | _ => return .none⟩

def ofPicture (host : Host σ) (method : Method Image) : Method σ :=
  ⟨method.signature, fun vs => host.onPicture (method.action vs)⟩

def ofOperation (op : Operation) : Method σ :=
  ⟨op.signature, fun vs => ofAct (op.action vs)⟩

def pictureMethod? (host : Host σ) (name : String) : Option (Method σ) :=
  if name = "open" then some host.opening
  else if name = "crop" then (Image.methods.lookup name).map host.ofPicture
  else ((Words.operations ++ Templates.operations).lookup name).map ofOperation

def pictureMember (host : Host σ) (name : Value) : ActOn σ (Method σ ⊕ Value) := do
  match name.unhashable?, name with
  | some sort, _ => throw (.unhashable sort)
  | none, .text "resolution" => do
    return .inr (← ActOn.ofExcept (host.session (← get)).picture.size)
  | none, name =>
    let s ← ActOn.ofExcept name.display
    match name, host.pictureMethod? s with
    | .text _, some method => return .inl method
    | _, _ => throw (.raised .luaError ("Image 不存在 " ++ s ++ " 操作!"))

end Host

end DeviceScript.Lua
