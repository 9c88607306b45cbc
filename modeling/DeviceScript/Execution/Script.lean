import DeviceScript.Execution.Visit
import DeviceScript.Script.Grammar

/-!
# Running a script

A script is read and run statement by statement, so what stands before a faulty statement has
been done when the fault is found. The name that the script is given becomes its first
statement. What ends a run early is written to the output and returned as a text; what happens
outside of the run itself is returned as a failure.
-/

namespace DeviceScript.Execution

open Script

/-- How a sequence of statements ends. -/
inductive Ending where
  | finished
  | failed (e : Failure)
  /-- A continue outside of all loops. -/
  | strayContinue
  | endless
  | exhausted
  deriving DecidableEq, Inhabited

/-- A script that is being run: what is left to read, and its state. -/
structure Session where
  reader : Reader
  machine : Machine
  deriving Inhabited

/-- Reads and visits statements up to the end of the text, but at most the given number. -/
def runStatements (host : Host) (bound : Bound) :
    Nat → Session → World → Ending × Session × World
  | 0, session, w => (.endless, session, w)
  | count + 1, session, w =>
    if session.reader.atEnd then (.finished, session, w)
    else
      match (Reading.statement (α := Value)).run.run session.reader with
      | (.error .endless, r) => (.endless, { session with reader := r }, w)
      | (.error (.failure e), r) => (.failed e, { session with reader := r }, w)
      | (.ok t, r) =>
        let m := { session.machine with title := r.title }
        match (visitStatement host bound t).perform m w with
        | ((.ok _, m), w) => runStatements host bound count ⟨r, m⟩ w
        | ((.error .leave, m), w) => (.finished, ⟨r, m⟩, w)
        | ((.error .skip, m), w) => (.strayContinue, ⟨r, m⟩, w)
        | ((.error .exhausted, m), w) => (.exhausted, ⟨r, m⟩, w)
        | ((.error (.failed e), m), w) =>
          (.failed e, ⟨r, m⟩, w)

/-- A script below its name. -/
def titled (name script : String) : String := "name \"" ++ name ++ "\"\n" ++ script

/-- Writes a text, if there is someone to write to. -/
def Host.report (host : Host) (s : String) : Act Unit :=
  match host.emit with
  | some emit => do let _ ← emit s
  | none => throw (.notCallable "NoneType")

/-- What a run gives back, and says, by how it ended. -/
def reportEnding (host : Host) (name : String) (line : Nat) : Ending → Act Value
  | .finished | .endless | .exhausted => do
    Act.log .debug ("脚本 " ++ name ++ " 执行完毕")
    return .none
  | .strayContinue => throw (.indexOut "tuple")
  | .failed e =>
    match e.headline with
    | none => throw (.indexOut "tuple")
    | some words => do
      Act.log .error ("发生错误 " ++ words)
      if e.kind = .script then do
        host.report ("发生错误 " ++ words ++ "\n")
        return .text words
      else do
        Act.log .debug ("错误来源 行数: " ++ toString line)
        host.report ("发生错误 " ++ words ++ "\n")
        host.report ("错误来源 行数: " ++ toString line)
        return .text (words ++ "\n行数: " ++ toString line)

/-- What runs scripts: the name of the last one, and the last one itself. -/
structure Runner where
  name : String
  session : Option Session
  deriving Inhabited

/-- No script has run. -/
def Runner.initial : Runner := ⟨"", none⟩

/-- What an action gives, or its failure as a value. -/
def failureAsResult (act : Act Value) (w : World) : Value × World :=
  match act.perform w with
  | (.ok v, w) => (v, w)
  | (.error e, w) => w.keepFailure e

/-- Runs a script: its title first, and then its statements. -/
def Runner.run (host : Host) (bound : Bound) (script name : String) (file : Path)
    (runner : Runner) (w : World) : Value × Runner × World :=
  match Reader.ofText (titled name script) with
  | .error e =>
    let (result, w) := w.keepFailure e
    (result, runner, w)
  | .ok r =>
    let m := Machine.initial file.parent
    match (Reading.statement (α := Value)).run.run r with
    | (.error (.failure e), r) =>
      let (result, w) := w.keepFailure e
      (result, { runner with session := some ⟨r, m⟩ }, w)
    | (.error .endless, r) => (.none, { runner with session := some ⟨r, m⟩ }, w)
    | (.ok _, r) =>
      let (_, w) := (Act.log .debug ("脚本 " ++ name ++ " 执行开始")).perform w
      let (ending, session, w) :=
        runStatements host bound (r.source.lexemes.length + 1) ⟨r, m⟩ w
      let (result, w) :=
        failureAsResult (reportEnding host name session.reader.source.line ending) w
      (result, ⟨r.title, some session⟩, w)

end DeviceScript.Execution
