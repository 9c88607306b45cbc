import DeviceScript.Lua.Session

/-!
# Running a Lua script

The program sees a Lua script only through what it does: it uses global names one after
another, and then it returns a value or fails. How it ends is written to the output.
-/

namespace DeviceScript

/-- Runs an action on a thing and gives its outcome. -/
def ActOn.attempt {σ α : Type} (act : ActOn σ α) : ActOn σ (Except Failure α) :=
  fun thing w =>
    match act.perform thing w with
    | (outcome, thing, w) => ((.ok outcome, thing), w)

/-- The failure that a script raises with some values: one value is its message, and several
are shown as a tuple. -/
def Failure.ofValues (k : FailureKind) (vs : List Value) : Except Failure Failure :=
  match vs with
  | [] => .ok (.reported k none "")
  | [v] => do
    let first ← v.display
    let message ← if k = .missingKey then v.inside else .ok first
    return .reported k (some first) message
  | first :: others => do
    return .reported k (some (← first.display)) (← (Value.tuple (first :: others)).inside)

namespace Lua

/-- How a global name is used. -/
inductive Use where
  | call
  | text
  | index
  | method (name : String)
  /-- What stands under a name is called. -/
  | item (name : String)
  deriving DecidableEq, Inhabited

structure Step where
  global : String
  use : Use
  arguments : List Value

structure Play where
  steps : List Step
  ending : Except Failure Value

def Play.idle : Play := ⟨[], .ok .none⟩

namespace Host

variable {σ : Type}

/-- The failure of looking for something under a name where nothing can stand. -/
def notIndexed : Global → Failure
  | .path => .raised .operandType "type 'LuaPath' is not subscriptable"
  | .requests => .raised .operandType "type 'Requests' is not subscriptable"
  | global => .notSubscriptable global.sort

def lookUp (host : Host σ) (global : Global) (name : Value) : ActOn σ Value := do
  match global with
  | .device => do
    let _ ← host.deviceMember name
    return .callable
  | .image => do
    match ← host.pictureMember name with
    | .inl _ => return .callable
    | .inr v => return v
  | global => throw (notIndexed global)

def callItem (host : Host σ) (global : Global) (name : Value) (args : List Value) :
    ActOn σ Value := do
  match global with
  | .device => do host.callDevice (← host.deviceMember name) args
  | .image => do
    match ← host.pictureMember name with
    | .inl method => return toTable (← method.call args [])
    | .inr v => throw (.notCallable v.typeName)
  | global => throw (notIndexed global)

/-- Web requests that a script has to wait for, which it cannot. -/
def pendingRequests : List String := ["stream", "client_session"]

def askWeb (name : String) (args : List Value) : Http.Asking Value :=
  match (Http.methods (return ())).lookup name with
  | none => throw (.noClassAttribute "Requests" name)
  | some method =>
    if name ∈ pendingRequests then return .object "_AsyncGeneratorContextManager"
    else method.call args []

/-- The change of the device in use as a method. No device stands for what counts as false, and
any other value is one that can do nothing. -/
def deviceChange (host : Host σ) : Method σ :=
  ⟨⟨"LuaDevice.", "update_device", true, [.required "device" none], some "更新当前设备"⟩, fun
    | [device] => do
      let handle : Option Handle := if device.truthy then some fun _ => return none else none
      modify (host.update fun session => { session with device := handle })
      return .none
    | _ => return .none⟩

def callMember (host : Host σ) (global : Global) (name : String) (args : List Value) :
    ActOn σ Value :=
  match global with
  | .workPath => host.onLocation (Location.interface.invoke name args [])
  | .bufferFile => host.onBuffer (Buffer.interface.invoke name args [])
  | .image =>
    if name = "_open" then host.opening.call args []
    else if name = "path" then throw (.notCallable "PosixPath")
    else host.onPicture ((Image.interface global.sort).invoke name args [])
  | .requests => host.onDefaults (askWeb name args)
  | .path => throw (.noClassAttribute "LuaPath" name)
  | .device =>
    if name = "update_device" then host.deviceChange.call args []
    else throw (.noAttribute global.sort name)
  | global => throw (.noAttribute global.sort name)

def textOf (host : Host σ) (global : Global) : ActOn σ Value := do
  let session := host.session (← get)
  match global with
  | .workPath => return .text (← ActOn.ofExcept session.location.place.display)
  | .image => return .text session.picture.render
  | global => return .text (Value.anonymous global.sort)

def use (host : Host σ) (step : Step) : ActOn σ Value :=
  match Global.ofLabel? step.global with
  | none => throw (.notCallable "NoneType")
  | some global =>
    match step.use with
    | .call =>
      match host.function? global with
      | some method => method.call step.arguments []
      | none => throw (.notCallable global.sort)
    | .text => host.textOf global
    | .index => host.lookUp global (step.arguments.headD .none)
    | .method name => host.callMember global name step.arguments
    | .item name => host.callItem global (.text name) step.arguments

/-- Uses global names one after another, up to the first failure. The results of those that
have worked are in order. -/
def useAll (host : Host σ) : List Step → ActOn σ (List Value × Option Failure)
  | [] => return ([], none)
  | step :: steps => do
    match ← ActOn.attempt (host.use step) with
    | .error e => return ([], some e)
    | .ok v => do
      let (vs, e) ← host.useAll steps
      return (v :: vs, e)

/-- What a fault of the script tells behind its second colon. -/
def faultDetail (message : String) : String :=
  Text.join "" (((Text.splitChar ':' message.toList).drop 2).map String.ofList)

def conclude (host : Host σ) : Except Failure Value → ActOn σ Value
  | .ok v => do
    if !(v.equal (.int 0) || v.equal .none) then
      host.writeLine ("程序返回 " ++ (← ActOn.ofExcept v.display))
    return .none
  | .error e =>
    match e.kind with
    | .luaExit => return .none
    | .luaError => do
      host.writeLine
        ("你的脚本存在错误!\n错误信息：行数: " ++ faultDetail e.message ++ "\n")
      return .text ("脚本语法错误 " ++ e.message)
    | _ =>
      match e.headline with
      | none => throw (.indexOut "tuple")
      | some first => do
        ActOn.ofAct (Act.log .error ("发生错误 " ++ first))
        let silent := e.message == ""
        host.writeLine "本程序异常!"
        host.writeLine ("错误 " ++ if silent then "未知错误" else e.message)
        if silent then return .text "未知错误"
        else ActOn.ofAct (modifyGet (World.keepFailure e))

/-- Runs a script. The results of its uses of global names come with what is told about its
end. -/
def run (host : Host σ) (play : Play) : ActOn σ (List Value × Except Failure Value) := do
  let (vs, e) ← host.useAll play.steps
  let outcome := match e with
    | some e => .error e
    | none => play.ending
  return (vs, ← ActOn.attempt (host.conclude outcome))

end Host

end Lua

end DeviceScript
