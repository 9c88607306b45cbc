import DeviceScript.World.Request

/-!
# Surroundings

What the machine around the program looks like: the phones that answer, the windows of the
desktop, the page a browser shows, the requests that are refused, the outcome of chance. All of it
is given as data, so a run of the program is a function of its surroundings.
-/

namespace DeviceScript

/-- The phones that answer, and the link to them. -/
structure Phones where
  /-- Why the link to the phones cannot be opened, if it cannot. -/
  linkError : Option String
  /-- Where the link is opened. -/
  port : Int
  devices : List String
  /-- Ports in use with the process that holds them; nothing if they cannot be listed. -/
  connections : Option (List (Int × Option Int))
  gone : List Int
  shell : List (String × String)
  screen : Option Raster
  deriving Inhabited

/-- No phones, at the usual port. -/
def Phones.absent : Phones := ⟨none, 5037, [], some [], [], [], none⟩

/-- The screen of the desktop, its windows and its processes. -/
structure Desktop where
  mouse : Value × Value
  screen : Option Raster
  screenError : String
  windows : List (String × Int)
  exitCodes : List (String × Int)
  startError : Option String
  /-- What the started process answers when asked whether it has ended. -/
  polls : List Value
  children : List Int
  noProcess : Bool
  deriving Inhabited

/-- A desktop on which nothing is open. -/
def Desktop.bare : Desktop :=
  ⟨(.int 0, .int 0), none, "no screen", [], [], none, [], [], false⟩

/-- A page, or a frame inside a page. -/
inductive Frame where
  | frame (id : Value) (elements : List (Value × Value × Option String))
      (frames : List Frame)
  deriving Inhabited

def Frame.id : Frame → Value
  | .frame id _ _ => id

/-- The elements of a frame: how they are found, by which text, and why a click on them
fails, if it does. -/
def Frame.elements : Frame → List (Value × Value × Option String)
  | .frame _ elements _ => elements

def Frame.frames : Frame → List Frame
  | .frame _ _ frames => frames

/-- What a browser shows once it is started. -/
structure Web where
  startError : Option String
  title : String
  page : Frame
  scripts : List (String × Value)
  screen : Option Raster
  screenError : String
  deriving Inhabited

/-- An empty page. -/
def Web.blank : Web := ⟨none, "", .frame .none [] [], [], none, ""⟩

/-- Numbers that stand for chance, taken in turn and again from the start. -/
structure Chance where
  numbers : List Int
  taken : Nat
  deriving DecidableEq, Inhabited

/-- The next number and what follows it; zero if there are none. -/
def Chance.next (chance : Chance) : Int × Chance :=
  match chance.numbers[chance.taken % chance.numbers.length]? with
  | some n => (n, { chance with taken := chance.taken + 1 })
  | none => (0, { chance with taken := chance.taken + 1 })

/-- Everything around the program. -/
structure Surroundings where
  system : String
  recognised : Value
  /-- Pictures without colours can be compared as well. -/
  comparesGrey : Bool
  /-- What a request is refused with, if it is. -/
  refusal : Request → Option Failure
  phones : Phones
  desktop : Desktop
  web : Web
  deriving Inhabited

/-- Surroundings with nothing in them, which refuse nothing. -/
def Surroundings.bare : Surroundings :=
  ⟨"Linux", .list [], false, fun _ => none, Phones.absent, Desktop.bare, Web.blank⟩

end DeviceScript
