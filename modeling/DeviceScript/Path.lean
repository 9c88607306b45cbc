import DeviceScript.Text.Search

/-!
# Paths

A path is a root and the names below it. Empty names and names that stand for the same place
are dropped when a path is read, so two texts that differ only in those give one path.
-/

namespace DeviceScript

/-- A root, which is empty for a relative path, and the names below it. -/
structure Path where
  root : String
  parts : List String
  deriving DecidableEq, Inhabited

namespace Path

def here : Path := ⟨"", []⟩

/-- The root of a text: two slashes are a root of their own, one slash or more than two are
the common root. -/
def rootOf (s : List Char) : String :=
  let slashes := (s.takeWhile (· == '/')).length
  if slashes = 0 then "" else if slashes = 2 then "//" else "/"

def ofText (s : String) : Path :=
  { root := rootOf s.toList
    parts := ((Text.splitChar '/' s.toList).map String.ofList).filter
      fun part => part ≠ "" ∧ part ≠ "." }

def render (path : Path) : String :=
  if path.root = "" ∧ path.parts = [] then "."
  else path.root ++ Text.join "/" path.parts

def parent (path : Path) : Path := { path with parts := path.parts.dropLast }

def name (path : Path) : String := path.parts.getLast?.getD ""

/-- A path below another; an absolute one replaces it. -/
def append (base path : Path) : Path :=
  if path.root = "" then { base with parts := base.parts ++ path.parts } else path

end Path

end DeviceScript
