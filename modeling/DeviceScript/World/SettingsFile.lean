import DeviceScript.Document.Writing
import DeviceScript.World.FileAction
import DeviceScript.World.Markup

/-!
# The settings file

The settings are kept in a document that is read, changed entry by entry and written again. A
file that cannot be read counts as holding nothing.
-/

namespace DeviceScript.SettingsFile

open Act

/-! ## The document -/

/-- Reads the document; what is wrong with it is only noted. -/
def read (file : FileName) : Act Value := do
  match (← get).files.read (← routeOf file.text) with
  | .error .missing => do
    log .error ("File not found: " ++ file.text)
    return .none
  | .error fault => throw (.file fault file.shown)
  | .ok content =>
    match Document.read (← Act.ofExcept (textOf content)) with
    | .ok v => return v
    | .error (.failed e) => throw e
    | .error (.refused fault) => do
      log .error ("Error reading YAML file: " ++ fault.message)
      return .none

def unwritable (v : Value) : Except Failure String := do
  return "('cannot represent an object', " ++ (← v.inside) ++ ")"

/-- Writes a document. A value that cannot be written leaves the file empty and is handed to
`refuse`. -/
def store (file : FileName) (v : Value) (refuse : String → Act Unit) : Act Unit := do
  let put := fun s => do
    writeFile file.text (.text s)
  match Document.write v with
  | .ok s => put s
  | .error (.value culprit) => do
    put ""
    refuse (← Act.ofExcept (unwritable culprit))
  | .error (.failure e) => do
    put ""
    throw e

/-- Writes a value to a file; failures are logged. -/
def write (file : FileName) (v : Value) : Act Unit :=
  store file v fun words => log .error ("Error writing YAML file: " ++ words)

/-- Makes a file with a document; what goes wrong is only noted. -/
def create (file : FileName) (v : Value) : Act Unit := do
  let outcome ← attempt do
    store file v fun words => throw (.raised .general words)
    logColored .debug ("<g>File '" ++ file.text ++ "' created successfully.</g>")
  match outcome with
  | .ok _ => return ()
  | .error e =>
    log .error ("Error creating file '" ++ file.text ++ "': " ++ e.message)

/-! ## Entries -/

/-- What a file has under a key. -/
def entry (file : FileName) (key : Value) : Act Value := do
  let document ← read file
  if document.truthy then
    match document with
    | .dict entries =>
      match key.unhashable? with
      | some sort => throw (.unhashable sort)
      | none => return (Value.lookup? key entries).getD .none
    | v => throw (.noAttribute v.typeName "get")
  else do
    log .warning ("Could not read config to get the value for key: " ++ (← shown key))
    return .none

def itemPlace (length : Nat) (key : Value) : Except Failure Nat :=
  match key.whole? with
  | none => .error (.indexType "list" key.typeName)
  | some n =>
    let place := if n < 0 then n + length else n
    if !Number.fits Value.lengthBits n then .error .indexTooLarge
    else if 0 ≤ place ∧ place < length then .ok place.toNat
    else .error (.raised .badIndex "list assignment index out of range")

def withEntry (key v : Value) : Value → Except Failure Value
  | .dict entries =>
    match key.unhashable? with
    | some sort => .error (.unhashable sort)
    | none => .ok (.dict (Value.insertEntry key v entries))
  | .list xs => do return .list (xs.set (← itemPlace xs.length key) v)
  | document =>
    .error (.raised .operandType
      ("'" ++ document.typeName ++ "' object does not support item assignment"))

/-- The document is a run of things that no key leads to. -/
def isRun : Value → Bool
  | .set _ | .bytes _ => true
  | _ => false

def withoutEntry (key : Value) : Value → Except Failure Value
  | .dict entries => .ok (.dict (Value.eraseEntry key entries))
  | .list xs => do return .list (xs.eraseIdx (← itemPlace xs.length key))
  | document =>
    let refusal := if isRun document && key.whole?.isSome then "doesn't" else "does not"
    .error (.raised .operandType
      ("'" ++ document.typeName ++ "' object " ++ refusal ++ " support item deletion"))

def holds (key : Value) : Value → Except Failure Bool
  | .dict entries =>
    match key.unhashable? with
    | some sort => .error (.unhashable sort)
    | none => .ok (Value.lookup? key entries).isSome
  | .list xs => .ok (Value.among key xs)
  | .set xs =>
    match key with
    | .set _ => .ok false
    | key =>
      match key.unhashable? with
      | some sort => .error (.unhashable sort)
      | none => .ok (Value.among key xs)
  | .bytes data =>
    match key.whole? with
    | none =>
      .error (.raised .operandType
        ("a bytes-like object is required, not '" ++ key.typeName ++ "'"))
    | some n =>
      if n < 0 ∨ 255 < n then .error (.raised .badValue "byte must be in range(0, 256)")
      else .ok ((match data with
        | .bytes bytes => bytes
        | .raster _ => []).contains (UInt8.ofNat n.toNat))
  | .text s =>
    match key with
    | .text piece => .ok (Text.hasPiece piece s)
    | key =>
      .error (.raised .operandType
        ("'in <string>' requires string as left operand, not " ++ key.typeName))
  | document => .error (.notContainer document.typeName)

/-- Sets an entry of a file. -/
def update (file : FileName) (key v : Value) : Act Unit := do
  match ← read file with
  | .none =>
    log .warning ("Could not read config to update the value for key: " ++ (← shown key))
  | document => do write file (← Act.ofExcept (withEntry key v document))

/-- Takes an entry out of a file. -/
def remove (file : FileName) (key : Value) : Act Unit := do
  let document ← read file
  let present ← if document.truthy then Act.ofExcept (holds key document) else pure false
  if present then write file (← Act.ofExcept (withoutEntry key document))
  else log .warning ("Key " ++ (← shown key) ++ " not found in config")

/-! ## The settings -/

def namedEntries : List (Value × Value) → Except Failure (List (String × Value))
  | [] => .ok []
  | (.text name, v) :: entries => do return (name, v) :: (← namedEntries entries)
  | _ => .error (.raised .operandType "keywords must be strings")

def settingsOf : Value → Except Failure Settings
  | .dict entries => do return Settings.ofEntries (← namedEntries entries)
  | document =>
    .error (.raised .operandType
      ("config.Setting() argument after ** must be a mapping, not " ++ document.typeName))

/-- Reads the settings. A missing file is made with the settings of a fresh installation; an
empty document holds no settings. -/
def load (file : FileName) : Act (Option Settings) := do
  let place ← fromHome file.path
  if !(← leadsSomewhere place.render) then
    create (FileName.ofPath place) (.dict Settings.initial.declared)
  let document ← read file
  if document.truthy then return some (← Act.ofExcept (settingsOf document)) else return none

/-- Writes the settings to a file. -/
def save (settings : Settings) (file : FileName) : Act Unit := write file (.dict settings.declared)

def fileName : String := "config.yaml"

/-- The file that a text names: the usual settings file if it is empty. -/
def fileOf (s : String) : Act FileName := do
  if s = "" then return FileName.ofPath ((← get).home.append (Path.ofText fileName))
  else return FileName.ofPath (Path.ofText s)

/-- Loads the settings and follows them. -/
def enforce (s : String) : Act Unit := do
  let file ← fileOf s
  let settings ← load file
  modify fun w => { w with settings }
  match settings with
  | none => throw (.noAttribute "NoneType" "log_level")
  | some settings => do
    modify fun w => { w with threshold := .named settings.logLevel }
    log .info ("成功载入配置文件 " ++ file.text)
    log .debug ("使用快捷键 " ++ settings.startKey ++ " 快捷启动上一个脚本")
    log .debug ("使用快捷键 " ++ settings.stopKey ++ " 停止所有脚本")

end DeviceScript.SettingsFile
