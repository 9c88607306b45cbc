import DeviceScript.Value.Compare

/-!
# The log

Records have a level, and a threshold decides which of them are kept. The threshold is the
name of a level or a number; a name that no level has keeps nothing, and neither does a value that
is no number.
-/

namespace DeviceScript

inductive Level where
  | trace
  | debug
  | info
  | success
  | warning
  | error
  | critical
  | numbered (number : Int)
  deriving DecidableEq, Inhabited

namespace Level

def named : List Level := [.trace, .debug, .info, .success, .warning, .error, .critical]

def number : Level → Int
  | .trace => 5
  | .debug => 10
  | .info => 20
  | .success => 25
  | .warning => 30
  | .error => 40
  | .critical => 50
  | .numbered v => v

def label : Level → String
  | .trace => "TRACE"
  | .debug => "DEBUG"
  | .info => "INFO"
  | .success => "SUCCESS"
  | .warning => "WARNING"
  | .error => "ERROR"
  | .critical => "CRITICAL"
  | .numbered v => "Level " ++ toString v

def ofName? (name : String) : Option Level := named.find? fun level => level.label == name

end Level

def Level.unknown (label : String) : Failure :=
  .raised .badValue ("Level '" ++ label ++ "' does not exist")

/-- From which level on records are kept. -/
inductive Threshold where
  | named (label : String)
  | value (least : Value)
  deriving Inhabited

/-- What the number of a record is compared with. -/
def Threshold.least : Threshold → Except Failure Value
  | .named label =>
    match Level.ofName? label with
    | some level => .ok (.int level.number)
    | none => .error (Level.unknown label)
  | .value least => .ok least

/-- A record with this number is kept, if the threshold can decide that. -/
def Threshold.accepts (threshold : Threshold) (number : Value) : Except Failure Bool := do
  number.ordered .atLeast (← threshold.least)

def Threshold.keeps (threshold : Threshold) (level : Level) : Bool :=
  (threshold.accepts (.int level.number)).toOption.getD false

structure LogRecord where
  level : Level
  message : String
  deriving DecidableEq, Inhabited

end DeviceScript
