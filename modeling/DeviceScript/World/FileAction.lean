import DeviceScript.Text.Utf8
import DeviceScript.World.Basic

/-!
# Actions on files

Files are renamed, moved and removed, and directories are made, along the routes that texts spell.
A refused action names the files as they were given. What cannot be moved by a new name alone is
written anew at its target and removed from where it was.
-/

namespace DeviceScript

/-! ## Names of files -/

/-- A file as it was named: the text, and the path that it leads to. -/
structure FileName where
  text : String
  path : Path
  /-- The value was a path and not a text. -/
  isPath : Bool
  deriving DecidableEq, Inhabited

namespace FileName

def ofPath (path : Path) : FileName := ⟨path.render, path, true⟩

def ofText (s : String) : FileName := ⟨s, Path.ofText s, false⟩

def ofValue? : Value → Option FileName
  | .text s => some (ofText s)
  | .path path => some (ofPath path)
  | _ => none

def isBroken (s : String) : Bool := s.toList.contains '\x00'

/-- The failure of an operation on a text that no file can have as its name. -/
def broken : Failure := .raised .badValue "embedded null byte"

/-- The name that a value is for an operation; `role` says what the name is for. -/
def ofValue (role : String) (v : Value) : Except Failure FileName :=
  match ofValue? v with
  | none =>
    .error (.raised .operandType
      (role ++ " should be string, bytes or os.PathLike, not " ++ v.typeName))
  | some name =>
    if isBroken name.text then .error broken else .ok name

def toValue (name : FileName) : Value := if name.isPath then .path name.path else .text name.text

def shown (name : FileName) : String := Text.quoted name.text

def withoutSlashes (s : List Char) : List Char :=
  (s.reverse.dropWhile (· = '/')).reverse

def split (s : String) : String × String :=
  let last := (s.toList.reverse.takeWhile (· ≠ '/')).reverse
  let front := s.toList.take (s.length - last.length)
  let trimmed := withoutSlashes front
  (String.ofList (if trimmed = [] then front else trimmed), String.ofList last)

def lastName (s : String) : String := (split (String.ofList (withoutSlashes s.toList))).2

def below (directory : FileName) (name : String) : FileName :=
  if directory.text = "" ∨ directory.text.endsWith "/" then ofText (directory.text ++ name)
  else ofText (directory.text ++ "/" ++ name)

end FileName

namespace Act

/-! ## Looking -/

def routeOf (s : String) : Act Route := do
  if FileName.isBroken s then throw FileName.broken else return (← get).route s

/-- What stands where a text leads, or why nothing does. -/
def found (s : String) : Act (Except FileFault (Place × FileEntry)) := do
  let w ← get
  return if FileName.isBroken s then .error .missing else w.files.find (w.route s)

def leadsSomewhere (s : String) : Act Bool := do return (← found s).isOk

/-- Something stands where the path leads. A name that is too long is refused. -/
def pathExists (path : Path) : Act Bool := do
  match ← found path.render with
  | .ok _ => return true
  | .error .tooLong => throw (.file .tooLong (Text.quoted path.render))
  | .error _ => return false

def isDirectory (s : String) : Act Bool := do
  match ← found s with
  | .ok (_, .directory) => return true
  | _ => return false

/-- The path from the root on, without steps that go up or stay. -/
def absolute (path : Path) : Act Path := do
  let w ← get
  match (w.route path.render).goal with
  | "/" :: parts => return ⟨"/", parts⟩
  | parts => return { w.home with parts := w.home.parts ++ parts }

/-- The path as seen from the working directory; one that already starts there stays. -/
def fromHome (path : Path) : Act Path := do
  let home := (← get).home
  if home.root = path.root ∧ home.parts.isPrefixOf path.parts then return path
  else return home.append path

/-! ## Reading and writing -/

def keepFiles (subject : String) : Except FileFault FileTree → Act Unit
  | .ok files => modify fun w => { w with files }
  | .error fault => throw (.file fault subject)

def writeFile (s : String) (content : FileContent) : Act Unit := do
  keepFiles (Text.quoted s) ((← get).files.write (← routeOf s) content)

def readFile (s : String) : Act FileContent := do
  match (← get).files.read (← routeOf s) with
  | .ok content => return content
  | .error fault => throw (.file fault (Text.quoted s))

def pictureByte : Nat := 0x89

/-- The text of a file, every line of which ends in the same way. -/
def textOf : FileContent → Except Failure String
  | .text s => .ok (String.ofList (Text.unifyLines s.toList))
  | .bytes bytes =>
    match Text.decodeBytes bytes with
    | .ok s => .ok (String.ofList (Text.unifyLines s.toList))
    | .error fault => .error (.raised .undecodable fault.message)
  | .picture _ =>
    .error (.raised .undecodable
      (Text.DecodeFault.message ⟨0, pictureByte, 1, .invalidStart⟩))

def readText (name : String) : Act String := do ofExcept (textOf (← readFile name))

/-! ## Names and directories -/

def renamed (source target : FileName) : Act (Except FileFault FileTree) := do
  return (← get).files.rename (← routeOf source.text) (← routeOf target.text)

def renameFile (source target : FileName) : Act Unit := do
  keepFiles (source.shown ++ " -> " ++ target.shown) (← renamed source target)

def makeDirectory (name : FileName) : Act Unit := do
  keepFiles name.shown ((← get).files.makeDirectory (← routeOf name.text))

/-- Makes a directory together with those that lead to it; `bound` bounds how many these are. A
directory on the way that turns out to be there is passed over. -/
def makeDirectories : (bound : Nat) → String → Act Unit
  | 0, s => makeDirectory (FileName.ofText s)
  | bound + 1, s => do
    let (front, last) := FileName.split s
    let (front, last) := if last = "" then FileName.split front else (front, last)
    if front ≠ "" && last ≠ "" && !(← leadsSomewhere front) then do
      match ← attempt (makeDirectories bound front) with
      | .error (.file .exists _) | .ok _ => pure ()
      | .error e => throw e
      if last = "." then return ()
    makeDirectory (FileName.ofText s)

/-- Removes a directory with all that is in it. If the directory itself cannot be removed, it is
left empty. -/
def removeTree (s : String) : Act Unit := do
  match ← found s with
  | .ok (place, _) => do
    modify fun w => { w with files := w.files.clear place }
    keepFiles (Text.quoted s) ((← get).files.removeDirectory (← routeOf s))
  | .error fault => throw (.file fault (Text.quoted s))

/-- Removes a file, or a directory with all that is in it. The result says whether all went well;
that there is nothing to remove is well, too. -/
def removePath (path : Path) : Act Bool := do
  match ← found path.render with
  | .ok (_, .directory) => return (← attempt (removeTree path.render)).isOk
  | .ok (place, .file _) => do
    modify fun w => { w with files := w.files.remove place }
    return true
  | .error _ => return true

/-! ## Moving -/

/-- Copies what is in a directory into a directory that is made for it. What the making itself has
put right into the first directory is not copied. -/
def copyTree (source target : FileName) : Act Unit := do
  let before := (← get).files
  makeDirectories target.text.length target.text
  match ← found source.text, ← found target.text with
  | .ok (start, _), .ok (goal, _) =>
    modify fun w =>
      let inner := w.files.entries.filter fun e =>
        e.1.within start && e.1 ≠ start && before.has (e.1.take (start.length + 1))
      let copied := inner.map fun e => (goal ++ e.1.drop start.length, e.2)
      { w with files := copied.foldl (fun files e => files.put e.1 e.2) w.files }
  | _, _ => return ()

def transfer (source target : FileName) : Act Unit := do
  let content ← readFile source.text
  match (← get).files.write (← routeOf target.text) content with
  | .ok files => do
    modify fun w => { w with files }
    match ← found source.text with
    | .ok (place, _) => modify fun w => { w with files := w.files.remove place }
    | .error _ => return ()
  | .error fault =>
    if fault = .isDirectory && !(← leadsSomewhere target.text) then
      throw (.raised .fileMissing ("Directory does not exist: " ++ target.text))
    else throw (.file fault target.shown)

/-- Moves a file or directory to `final`, which `target` was asked for. -/
def moveTo (source target final : FileName) : Act Value := do
  match ← renamed source final with
  | .ok files => modify fun w => { w with files }
  | .error _ =>
    if ← isDirectory source.text then do
      if (← routeOf target.text).goal.within (← routeOf source.text).goal then
        throw (.raised .fileMove ("Cannot move a directory '" ++ source.text ++
          "' into itself '" ++ target.text ++ "'."))
      else do
        copyTree source final
        removeTree source.text
    else transfer source final
  return final.toValue

/-- What stands where a value leads, if it names a file. A whole number names an open file, none of
which is a directory. -/
def foundBy (v : Value) : Act (Option (Place × FileEntry)) := do
  match FileName.ofValue? v, v.whole? with
  | some name, _ => return (← found name.text).toOption
  | none, some n =>
    if Number.twoTo 31 ≤ n then throw (.raised .overflow "fd is greater than maximum")
    else if n < -Number.twoTo 31 then throw (.raised .overflow "fd is less than minimum")
    else return none
  | none, none =>
    throw (.raised .operandType
      ("stat: path should be string, bytes, os.PathLike or integer, not " ++ v.typeName))

/-- Moves a file or directory: into the target if that is a directory, otherwise to the target
itself. The result is where it has gone, or nothing for a directory moved to itself. -/
def moveFile (source target : Value) : Act Value := do
  match FileName.ofValue? target, ← foundBy target with
  | some folder, some (goal, .directory) => do
    let start ← foundBy source
    match FileName.ofValue? source with
    | none =>
      throw (.raised .operandType
        ("expected str, bytes or os.PathLike object, not " ++ source.typeName))
    | some name =>
      if FileName.isBroken name.text then throw FileName.broken
      else if start.map (·.1) = some goal then do
        renameFile name folder
        return .none
      else do
        let final := FileName.below folder (FileName.lastName name.text)
        if ← leadsSomewhere final.text then
          throw (.raised .fileMove ("Destination path '" ++ final.text ++ "' already exists"))
        else moveTo name folder final
  | _, _ => do
    let name ← ofExcept (FileName.ofValue "rename: src" source)
    let final ← ofExcept (FileName.ofValue "rename: dst" target)
    moveTo name final final

end Act

end DeviceScript
