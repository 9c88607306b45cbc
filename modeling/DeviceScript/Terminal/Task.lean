import DeviceScript.Value.Basic

/-!
# Tasks

A script is started in two steps: a worker, which waits in a queue, starts a thread, and the
thread runs the script. The file of a script counts as running from the moment its worker is in
the queue until its thread has ended.
-/

namespace DeviceScript.Terminal

/-- A script that was started. -/
structure ScriptRun where
  code : String
  name : String
  /-- The file as it was named when the script was started. -/
  file : String
  deriving DecidableEq, Inhabited

/-- What workers and threads do. -/
inductive Job where
  | runLua (run : ScriptRun)
  | runPlain (run : ScriptRun)
  | testDevice (name : Value)
  deriving Inhabited

def Job.label : Job → String
  | .runLua _ => "run_lua_scripts"
  | .runPlain _ => "run_old_scripts"
  | .testDevice _ => "device_test"

/-- A job in the queue, or one that has been there. -/
structure Worker where
  number : Nat
  job : Job
  deriving Inhabited

/-- A thread that runs a script, in the queue. -/
structure Thread where
  number : Nat
  job : Job
  deriving Inhabited

/-- Files of running scripts with the workers that started them, in the order in which the files
were first entered. -/
abbrev Tasks := List (String × Worker)

/-- Enters the worker of a file, in place of an earlier one. -/
def Tasks.enter (file : String) (worker : Worker) : Tasks → Tasks
  | [] => [(file, worker)]
  | task :: tasks =>
    if task.1 = file then (file, worker) :: tasks else task :: Tasks.enter file worker tasks

def Tasks.has (file : String) (tasks : Tasks) : Bool := (tasks.lookup file).isSome

def Tasks.leave (file : String) (tasks : Tasks) : Tasks := tasks.filter fun task => task.1 ≠ file

/-- The languages of scripts. -/
inductive Language where
  | lua
  | plain
  deriving DecidableEq, Inhabited

def Language.job (run : ScriptRun) : Language → Job
  | .lua => .runLua run
  | .plain => .runPlain run

end DeviceScript.Terminal
