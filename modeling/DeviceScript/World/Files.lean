import DeviceScript.Image.Raster
import DeviceScript.World.Route

/-!
# Files

The files below the working directory, as a list of places with what stands there. The working
directory itself is always there. Files are found, written, renamed and removed along routes: every
step of a route but the last has to lead to a directory, and only a last step that is a name can
give something to be made, renamed or removed.
-/

namespace DeviceScript

inductive FileContent where
  | text (content : String)
  | picture (raster : Raster)
  | bytes (content : List UInt8)
  deriving DecidableEq, Inhabited

inductive FileEntry where
  | directory
  | file (content : FileContent)
  deriving DecidableEq, Inhabited

/-- Places with what stands there. -/
structure FileTree where
  entries : List (Place × FileEntry)
  deriving DecidableEq, Inhabited

namespace FileTree

def empty : FileTree := ⟨[]⟩

def get? (t : FileTree) (place : Place) : Option FileEntry :=
  if place.isFixed then some .directory else t.entries.lookup place

def isDirectory (t : FileTree) (place : Place) : Bool := t.get? place == some .directory

def has (t : FileTree) (place : Place) : Bool := (t.get? place).isSome

def put (t : FileTree) (place : Place) (entry : FileEntry) : FileTree :=
  ⟨t.entries.filter (fun e => e.1 ≠ place) ++ [(place, entry)]⟩

/-- Takes away a place and all that is below it; the working directory stays. -/
def remove (t : FileTree) (place : Place) : FileTree :=
  ⟨t.entries.filter fun e => !e.1.within place⟩

def clear (t : FileTree) (place : Place) : FileTree :=
  ⟨t.entries.filter fun e => e.1 = place || !e.1.within place⟩

def children (t : FileTree) (place : Place) : List (Place × FileEntry) :=
  t.entries.filter fun e => e.1 ≠ [] && e.1.dropLast == place

def withParents (t : FileTree) (place : Place) : FileTree :=
  place.outer.foldl
    (fun soFar outer => if soFar.has outer then soFar else soFar.put outer .directory) t

/-- Sets up a file or a directory together with the directories that lead to it. -/
def install (t : FileTree) (place : Place) (entry : FileEntry) : FileTree :=
  (t.withParents place).put place entry

/-! ## Routes -/

/-- Why no step can start from a place: nothing is there, or it is a file. -/
def folderFault? (t : FileTree) (place : Place) : Option FileFault :=
  match t.get? place with
  | some .directory => none
  | some (.file _) => some .notDirectory
  | none => some .missing

def follow (t : FileTree) (place : Place) : List String → Except FileFault Place
  | [] =>
    match t.folderFault? place with
    | some fault => .error fault
    | none => .ok place
  | name :: names =>
    match t.folderFault? place with
    | some fault => .error fault
    | none => if Route.isLongName name then .error .tooLong else t.follow (place.step name) names

inductive Ending where
  /-- At a name in a directory. -/
  | named (folder : Place) (name : String)
  /-- At a directory that is there anyway; the fault says why it cannot be removed. -/
  | turn (place : Place) (fault : FileFault)

/-- Where a route ends, if all steps before the last one lead to directories. -/
def approach (t : FileTree) (route : Route) : Except FileFault Ending := do
  let start ← route.start
  match route.steps.getLast? with
  | none => return .turn start .busy
  | some last => do
    let folder ← t.follow start route.steps.dropLast
    if last = "." then return .turn folder .invalid
    else if last = ".." then return .turn folder.up .notEmpty
    else return .named folder last

def entryNamed (t : FileTree) (folder : Place) (name : String) : Except FileFault FileEntry :=
  if Route.isLongName name then .error .tooLong
  else
    match t.get? (folder ++ [name]) with
    | some entry => .ok entry
    | none => .error .missing

def find (t : FileTree) (route : Route) : Except FileFault (Place × FileEntry) := do
  match ← t.approach route with
  | .turn place _ => return (place, .directory)
  | .named folder name => do
    let entry ← t.entryNamed folder name
    if route.slash && entry ≠ .directory then .error .notDirectory
    else return (folder ++ [name], entry)

/-! ## What can be done along routes -/

def read (t : FileTree) (route : Route) : Except FileFault FileContent := do
  match ← t.find route with
  | (_, .directory) => .error .isDirectory
  | (_, .file content) => .ok content

def write (t : FileTree) (route : Route) (content : FileContent) :
    Except FileFault FileTree := do
  match ← t.approach route with
  | .turn .. => .error .isDirectory
  | .named folder name =>
    let place := folder ++ [name]
    if route.slash then .error .isDirectory
    else
      match t.entryNamed folder name with
      | .ok .directory => .error .isDirectory
      | .ok (.file _) =>
        .ok ⟨t.entries.map fun e => if e.1 = place then (place, .file content) else e⟩
      | .error .missing => .ok (t.put place (.file content))
      | .error fault => .error fault

def makeDirectory (t : FileTree) (route : Route) : Except FileFault FileTree := do
  match ← t.approach route with
  | .turn .. => .error .exists
  | .named folder name =>
    match t.entryNamed folder name with
    | .ok _ => .error .exists
    | .error .missing => .ok (t.put (folder ++ [name]) .directory)
    | .error fault => .error fault

def removeDirectory (t : FileTree) (route : Route) : Except FileFault FileTree := do
  match ← t.approach route with
  | .turn _ fault => .error fault
  | .named folder name =>
    let place := folder ++ [name]
    match ← t.entryNamed folder name with
    | .file _ => .error .notDirectory
    | .directory => if t.children place = [] then .ok (t.remove place) else .error .notEmpty

def relocate (t : FileTree) (source target : Place) : FileTree :=
  ⟨(t.remove target).entries.map fun e =>
    if e.1.within source then (target ++ e.1.drop source.length, e.2) else e⟩

/-- Puts something to a place. A file may take the place of a file, and a directory that of an empty
directory. -/
def replace (t : FileTree) (source : Place) (entry : FileEntry) (target : Place) :
    Except FileFault FileTree :=
  if source = target then .ok t
  else
    match entry, t.get? target with
    | _, none => .ok (t.relocate source target)
    | .directory, some .directory =>
      if t.children target = [] then .ok (t.relocate source target) else .error .notEmpty
    | .directory, some (.file _) => .error .notDirectory
    | .file _, some .directory => .error .isDirectory
    | .file _, some (.file _) => .ok (t.relocate source target)

/-- Gives a file or a directory another name. Nothing can go below itself, and nothing can take the
place of a directory that it is in. -/
def rename (t : FileTree) (source target : Route) : Except FileFault FileTree := do
  let start ← t.approach source
  let goal ← t.approach target
  match start, goal with
  | .named folder name, .named newFolder newName => do
    let entry ← t.entryNamed folder name
    if Route.isLongName newName then .error .tooLong
    else if entry ≠ .directory && (source.slash || target.slash) then .error .notDirectory
    else if newFolder.within (folder ++ [name]) then .error .invalid
    else if folder.within (newFolder ++ [newName]) then .error .notEmpty
    else t.replace (folder ++ [name]) entry (newFolder ++ [newName])
  | _, _ => .error .busy

/-! ## Listing -/

def listedName (e : Place × FileEntry) : String :=
  Text.join "/" e.1 ++ (if e.2 = .directory then "/" else "")

def isListed (place : Place) : Bool :=
  match place with
  | [] => false
  | first :: _ => first ≠ ".." && first ≠ "/"

/-- All places below the working directory in the order of their listed names. -/
def listing (t : FileTree) : List (String × FileEntry) :=
  ((t.entries.filter fun e => isListed e.1).map fun e => (listedName e, e.2)).mergeSort
    fun a b => !(b.1 < a.1)

end FileTree

end DeviceScript
