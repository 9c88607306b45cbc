import DeviceScript.Execution.Script
import DeviceScript.Library

/-!
# The command line

The program is given the name of a file with a script, or a script on the standard input. It runs
the script where no device is at hand and prints what the script writes. What ends the script
early is told in the output, and the program then ends with a number other than zero.
-/

namespace DeviceScript.CommandLine

def bound : Execution.Bound := ⟨Number.twoTo 40, 1000⟩

/-- What a script on the command line is attached to: a place for its output, a clock that does
not wait, and the operations that need nobody to be told anything. -/
def host (folder : Path) : Execution.Host where
  emit := some fun s => do
    modify fun world => { world with written := world.written.push s }
    return false
  tick := return false
  find := Library.find folder 0 false

/-- The world before the script: nothing around it, and the settings as they are at first. -/
def world : World := { World.initial Surroundings.bare with settings := some Settings.initial }

/-- What a script writes, and what its run gives: nothing if it reaches its end. -/
def outcome (script : String) (file : Path) : List String × Value :=
  match Execution.Runner.initial.run (host file.parent) bound script file.name file world with
  | (v, _, after) => (after.written.toList, v)

end DeviceScript.CommandLine

/-- Runs the script in the file that is named first, or the one on the standard input. -/
def main (args : List String) : IO UInt32 := do
  let file := args.headD "script.txt"
  let script ←
    if args.isEmpty then (← IO.getStdin).readToEnd else IO.FS.readFile file
  let (pieces, v) :=
    DeviceScript.CommandLine.outcome script (DeviceScript.Path.ofText file)
  pieces.forM IO.print
  return if v.truthy then 1 else 0
