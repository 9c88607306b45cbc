/-!
# Kinds of screens

The terminal program shows a few kinds of screens, each known by its label.
-/

namespace DeviceScript.Terminal

inductive Kind where
  | program
  | home
  | plain
  | journal
  | code
  | output
  | dialog
  | scripts
  | devices
  deriving DecidableEq, Inhabited

namespace Kind

def all : List Kind :=
  [.program, .home, .plain, .journal, .code, .output, .dialog, .scripts, .devices]

def label : Kind → String
  | .program => "TuiApp"
  | .home => "HomeScreen"
  | .plain => "PageScreen"
  | .journal => "LogPage"
  | .code => "CodeScreen"
  | .output => "LogScreen"
  | .dialog => "InputModal"
  | .scripts => "RunScreen"
  | .devices => "DevicesScreen"

def ofLabel? (label : String) : Option Kind := all.find? fun k => k.label == label

end Kind

end DeviceScript.Terminal
