import DeviceScript.Device.Fleet
import DeviceScript.Image.Opening
import DeviceScript.Recognition.Templates
import DeviceScript.Recognition.Words

/-!
# What scripts can call

A script finds operations by their names: first among those that need no device, then among
those of the device that it keeps.
-/

namespace DeviceScript.Library

/-- The picture in a file of a name, in the working directory or else in the folder. -/
def findPicture (folder : Path) (name : Value) : Act Value := do
  let near ← Act.ofExcept name.toPath
  let candidates := [near, folder.append near]
  match ← candidates.filterM Act.pathExists with
  | [] => return .none
  | path :: _ => do
    let data ← Image.read path
    Act.picture (some path.name) data

/-- Makes the device with a name the one in use. The user is told if no device is in use after
that; `canNotify` says whether the user can be told. -/
def selectDevice (canNotify : Bool) (name : Value) : Act Value := do
  Act.loadPlatforms
  Act.selectDevice name
  if (← Act.fleet).current.isNone then
    let message := "尝试切换设备 " ++ (← Act.shown name) ++ " 但它不存在"
    if canNotify then
      Act.notify [.text message]
        [("title", .text "一个脚本执行错误"), ("severity", .text "error")]
    else throw (.notCallable "NoneType")
  return .none

/-- Selects a device for a plain script, which keeps the one that is in use then. -/
def selectFor (script : Nat) (canNotify : Bool) (name : Value) : Act Value := do
  let _ ← selectDevice canNotify name
  Act.hold script
  return .none

/-- The number of a plain script that begins; it keeps the device in use. -/
def begin : Act Nat := do
  let script ← Act.serial
  Act.hold script
  return script

/-- Values as one text. -/
def joinShown (separator : String) (vs : List Value) : Except Failure Value := do
  return .text (Text.join separator (← vs.mapM Value.display))

/-- A function that is no method. -/
def plain (owner name : String) (params : List Parameter) (documentation : Option String)
    (action : List Value → Act Value) : Operation :=
  ⟨⟨owner, name, false, params, documentation⟩, action⟩

/-- An operation that joins the texts of its arguments. -/
def joiner (name separator documentation : String) : Operation :=
  plain "" name [.variadic "paths" (some "list")] (some documentation) fun
    | [.tuple vs] => Act.ofExcept (joinShown separator vs)
    | _ => return .none

/-- A parameter for a file. -/
def file (name : String) : Parameter := .required name (some "Path")

/-- The operations on files. -/
def fileOperations : List (String × Operation) :=
  [("fileMove", plain "FileHelper." "file_move" [file "src", file "dest"] none fun
      | [source, target] =>
        Act.moveFile source target
      | _ => return .none),
    ("fileRename", plain "FileHelper." "file_rename" [file "old_name", file "new_name"] none fun
      | [source, target] => do
        let source ← Act.ofExcept (FileName.ofValue "rename: src" source)
        Act.renameFile source (← Act.ofExcept (FileName.ofValue "rename: dst" target))
        return .none
      | _ => return .none),
    ("folderCreate", plain "FileHelper." "folder_create" [file "folder_name"] none fun
      | [name] => do
        Act.makeDirectory (← Act.ofExcept (FileName.ofValue "mkdir: path" name))
        return .none
      | _ => return .none)]

/-- The operations on pictures. -/
def pictureOperations (folder : Path) : List (String × Operation) :=
  let whole := fun (name : String) => Parameter.required name (some "int")
  [("openImage", ⟨⟨"InternalMethods.", "_open", true, [.required "path" (some "str")],
      some "打开图像文件"⟩, fun
      | [name] => findPicture folder name
      | _ => return .none⟩),
    ("cropImage", plain "Image." "crop"
      [.required "self" none, .required "image_bytes" (some "bytes"), whole "x1", whole "y1",
        whole "x2", whole "y2"] none fun
      | _ :: content :: _ => do
        let _ ← Act.ofExcept (do Image.decode (← Image.contentOf content))
        return .none
      | _ => return .none),
    ("resolutionImage", plain "Image." "get_resolution" [.required "self" none] none fun
      | [.image image] => do
        let (width, height) ← Act.ofExcept image.resolution
        return .tuple [.int width, .int height]
      | v :: _ => throw (.noAttribute v.typeName "_image_bytes")
      | [] => return .none)]

/-- The operations that a script can call whatever device it keeps. -/
def operations (folder : Path) (script : Nat) (canNotify : Bool) : List (String × Operation) :=
  ("select_device", ⟨⟨"InternalMethods.", "select_device", true,
    [.required "name" (some "str")], none⟩, fun
    | [name] => selectFor script canNotify name
    | _ => return .none⟩) ::
  (fileOperations ++
    [("pathSplicing", joiner "pathSplicing" "/" "路径拼接"),
      ("formatString", joiner "formatString" "" "格式化字符串")] ++
    pictureOperations folder ++ Words.operations ++ Templates.operations)

/-- What a script calls by a name. -/
def find (folder : Path) (script : Nat) (canNotify : Bool) (name : Value) : Act Member := do
  match name with
  | .text s =>
    match (operations folder script canNotify).lookup s with
    | some op => return .operation op
    | none =>
      match (← Act.fleet).held script with
      | none => throw .noDevice
      | some id =>
        match ← Act.deviceMember? id s with
        | some member => return member
        | none => throw (.noOperation s)
  | v =>
    match v.unhashable?, (← Act.fleet).held script with
    | some sort, _ => throw (.unhashable sort)
    | none, none => throw .noDevice
    | none, some _ => throw (.attributeName v.typeName)

end DeviceScript.Library
