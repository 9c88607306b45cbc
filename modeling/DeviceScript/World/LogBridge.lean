import DeviceScript.Value.Template
import DeviceScript.World.Basic

/-!
# Records from outside

Libraries write records with a level of their own and a template that values are filled into.
Such a record goes to the log under the level with that name, or under its number if the log
has no such level.
-/

namespace DeviceScript

/-- A template with values filled in; without values it is a text as it stands. -/
def filledTemplate (template : String) (vs : List Value) : Except Failure String :=
  if vs.isEmpty then .ok template else Template.fill template vs

/-- The level with a number, or with a name that is given in its place. -/
def Level.ofValue : Value → Except Failure Level
  | .text label => (ofName? label).elim (.error (unknown label)) .ok
  | v =>
    match v.whole? with
    | some number =>
      if number < 0 then
        .error (.raised .badValue
          ("Invalid level value, it should be a positive integer, not: " ++ toString number))
      else .ok (.numbered number)
    | none =>
      .error (.raised .operandType
        ("Invalid level, it should be an integer or a string, not: '" ++ v.typeName ++ "'"))

def Act.bridge (label number template : Value) (vs : List Value) : Act Unit := do
  match label with
  | .text label => do
    let message ← Act.ofExcept (do filledTemplate (← template.display) vs)
    let level ← Act.ofExcept ((Level.ofName? label).elim (Level.ofValue number) .ok)
    Act.log level message
  | label =>
    throw (.raised .operandType
      ("Invalid level name, it should be a string, not: '" ++ label.typeName ++ "'"))

end DeviceScript
