import DeviceScript.Failure
import DeviceScript.Path

/-!
# Places and the routes to them

A place is named by the directories that lead to it from the working directory. A route is what a
text spells: steps from directory to directory, some of which may go up or stay. Two routes to one
place can differ in what can be done along them, because every step has to start from a directory,
and because a last step that goes up or stays gives nothing a name.
-/

namespace DeviceScript

/-- The names that lead to a place. Steps that leave the working directory stand in front, and a
place that is not seen from the working directory starts with the root. -/
abbrev Place := List String

namespace Place

def root : Place := ["/"]

def isAbove (place : Place) : Bool := place.all (· = "..")

/-- A directory stands at the place whatever the files are. -/
def isFixed (place : Place) : Bool := place.isAbove || place == root

def up (place : Place) : Place :=
  if place == root then root else if place.isAbove then place ++ [".."] else place.dropLast

def step (place : Place) (name : String) : Place :=
  if name = "." then place else if name = ".." then place.up else place ++ [name]

def after (place : Place) (steps : List String) : Place := steps.foldl step place

def rise (place : Place) : Nat := (place.takeWhile (· = "..")).length

/-- The place is below the other, or is it. All places are below the root. -/
def within (place outer : Place) : Bool :=
  if outer == root then true
  else if outer.isAbove then place.head? ≠ some "/" && place.rise ≤ outer.rise
  else outer.isPrefixOf place

/-- The places that lead to this one, from the working directory on. -/
def outer (place : Place) : List Place := (List.range place.length).map place.take

end Place

structure Route where
  /-- Where it starts, or why it leads nowhere. -/
  start : Except FileFault Place
  steps : List String
  /-- It ends in a slash, so only a directory can be meant. -/
  slash : Bool

namespace Route

def nameLimit : Nat := 255

def textLimit : Nat := 4096

def isLongName (name : String) : Bool := nameLimit < name.utf8ByteSize

/-- The part of a text that leads on from the working directory, if it names that first. -/
def fromHome? (home s : String) : Option String :=
  if s = home then some ""
  else if s.startsWith (home ++ "/") then some (String.ofList (s.toList.drop home.length))
  else none

/-- The route that a text spells; `home` is how texts name the working directory. -/
def ofText (home s : String) : Route :=
  let start :=
    if s = "" then .error .missing
    else if textLimit ≤ s.utf8ByteSize then .error .tooLong
    else if (fromHome? home s).isNone && s.startsWith "/" then .ok Place.root
    else .ok []
  let way := (fromHome? home s).getD s
  let steps := ((Text.splitChar '/' way.toList).map String.ofList).filter (· ≠ "")
  ⟨start, steps, way.endsWith "/"⟩

/-- The place that the steps of a route lead to, whatever the files are. -/
def goal (route : Route) : Place := (route.start.toOption.getD []).after route.steps

end Route

end DeviceScript
