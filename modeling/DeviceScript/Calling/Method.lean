import DeviceScript.Calling.Operation
import DeviceScript.Value.Arithmetic

/-!
# Methods

A method is an operation on a thing with a state of its own, which keeps what the method has
done to it even if the method fails. Things are also called by a name that is looked up first.
-/

namespace DeviceScript

/-- An action that changes a thing. -/
abbrev ActOn (σ : Type) := ExceptT Failure (StateT σ (StateM World))

namespace ActOn

/-- How it ends, with the thing and the world after it. -/
def perform {σ α : Type} (act : ActOn σ α) (thing : σ) (w : World) :
    Except Failure α × σ × World :=
  match (act.run.run thing).run w with
  | ((outcome, thing), w) => (outcome, thing, w)

/-- An action that leaves the thing alone. -/
def ofAct {σ α : Type} (act : Act α) : ActOn σ α := fun thing w =>
  match act.perform w with
  | (outcome, w) => ((outcome, thing), w)

def ofExcept {σ α : Type} (outcome : Except Failure α) : ActOn σ α := ofAct (Act.ofExcept outcome)

end ActOn

/-- Something that can be done to a thing. -/
structure Method (σ : Type) where
  signature : Signature
  action : List Value → ActOn σ Value

/-- Calls a method with its arguments bound. -/
def Method.call {σ : Type} (method : Method σ) (args : List Value)
    (named : List (String × Value)) : ActOn σ Value := do
  method.action (← ActOn.ofExcept (method.signature.bind args named))

/-! ## Calls by name -/

/-- The name starts with the mark of what is not to be called from outside. -/
def isHidden (name : Value) : Except Failure Bool := do
  return (← name.index (.int 0)).equal (.text "_")

/-- How an operation is described. -/
def Member.describe : Member → Except Failure String
  | .operation callee => callee.signature.describe false
  | .value content => do .error (.notCallableObject (← content.inside))

/-- Calls what a name stands for. What is called gets all arguments, the name included, as one
value. The result says whether the call has worked, and is nothing for an unknown name. -/
def callByName (find : String → Act (Option Member)) (args : List Value) : Act Value := do
  match args with
  | [] | .none :: _ => return .tuple [.bool false, .none]
  | name :: others => do
    if ← Act.ofExcept (isHidden name) then return .tuple [.bool false, .none]
    else
      match name with
      | .text s => do
        match ← find s with
        | none => return .none
        | some member => do
          let given := if others.isEmpty then [] else [Value.tuple args]
          match ← Act.attempt (member.call given []) with
          | .ok v => return .tuple [.bool true, v]
          | .error _ => do
            let details ← Act.ofExcept member.describe
            return .tuple [.bool false, .text ("调用 " ++ s ++ " 错误\n" ++ details)]
      | v => throw (.attributeName v.typeName)

end DeviceScript
