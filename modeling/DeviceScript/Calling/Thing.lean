import DeviceScript.Calling.Method

/-!
# Things and their members

A thing is used through the names of its members: a member is looked at, replaced or called. A
name under which the thing keeps nothing can be given a value, too. Such a label hides a method of
the same name, and the thing itself does not notice it.
-/

namespace DeviceScript

/-- A member of a thing: something that can be done to it, or a value. -/
inductive Part (σ : Type) where
  | method (method : Method σ)
  | value (v : Value)

/-- How things of one sort are used through names. -/
structure Interface (σ : Type) where
  sort : String
  find : String → ActOn σ (Option (Part σ))
  /-- Replaces the value under a name, and says whether the thing keeps one there. -/
  replace : String → Value → ActOn σ Bool

/-- A thing with the values that scripts have put on it. -/
structure Labelled (σ : Type) where
  thing : σ
  labels : List (String × Value)
  deriving Inhabited

def Labelled.plain {σ : Type} (thing : σ) : Labelled σ := ⟨thing, []⟩

def ActOn.onThing {σ α : Type} (act : ActOn σ α) : ActOn (Labelled σ) α := fun labelled w =>
  match act.perform labelled.thing w with
  | (outcome, thing, w) => ((outcome, { labelled with thing }), w)

namespace Interface

variable {σ : Type}

/-- Things that are used through methods, and through values that are read and replaced by the
given functions. -/
def of (sort : String) (methods : List (String × Method σ)) (read : σ → String → Option Value)
    (replaced : String → Value → σ → Option σ) : Interface σ where
  sort := sort
  find name := do
    match methods.lookup name with
    | some method => return some (.method method)
    | none => return (read (← get) name).map .value
  replace name v := do
    match replaced name v (← get) with
    | some thing => do
      set thing
      return true
    | none => return false

/-- A part of a thing, or a failure. -/
def member (interface : Interface σ) (name : String) : ActOn σ (Part σ) := do
  match ← interface.find name with
  | some part => return part
  | none => throw (.noAttribute interface.sort name)

/-- Calls a method of a thing. -/
def invoke (interface : Interface σ) (name : String) (args : List Value)
    (named : List (String × Value)) : ActOn σ Value := do
  match ← interface.member name with
  | .method method => method.call args named
  | .value v => throw (.notCallable v.typeName)

/-- Reads a part, or what was put in its place. -/
def look (interface : Interface σ) (name : String) : ActOn (Labelled σ) Value := do
  match (← get).labels.lookup name with
  | some v => return v
  | none =>
    match ← (interface.member name).onThing with
    | .method _ => return .object "method"
    | .value v => return v

/-- Replaces a part, or puts a new value on the thing. -/
def put (interface : Interface σ) (name : String) (v : Value) : ActOn (Labelled σ) Value := do
  if !(← (interface.replace name v).onThing) then
    modify fun labelled => { labelled with labels := (name, v) :: labelled.labels }
  return .none

/-- Calls a part, unless a value was put in its place. -/
def call (interface : Interface σ) (name : String) (args : List Value)
    (named : List (String × Value)) : ActOn (Labelled σ) Value := do
  match (← get).labels.lookup name with
  | some v => throw (.notCallable v.typeName)
  | none => (interface.invoke name args named).onThing

end Interface

end DeviceScript
