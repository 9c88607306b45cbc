import DeviceScript.Calling.Signature
import DeviceScript.World.Basic

/-!
# Operations

An operation is a signature with an action on the values of its parameters. Scripts call an
operation through `Operation.callLoosely`, which spreads points, tuples and sets into separate
arguments and drops those that are too many.
-/

namespace DeviceScript

/-- Something that scripts and hosts can call. -/
structure Operation where
  signature : Signature
  action : List Value → Act Value

/-- What a device or a library has under a name. -/
inductive Member where
  | operation (op : Operation)
  | value (v : Value)

/-- Whether a member counts as true. -/
def Member.truthy : Member → Bool
  | .operation _ => true
  | .value content => content.truthy

namespace Operation

/-- Calls an operation with its arguments bound. -/
def call (op : Operation) (args : List Value) (named : List (String × Value)) :
    Act Value := do
  op.action (← Act.ofExcept (op.signature.bind args named))

/-- The arguments that one argument of a loose call stands for: a tuple or set is spread, and
so is a point. -/
def spread : Value → List Value
  | .tuple xs => xs
  | .set xs => xs
  | .point _ x y => [x, y]
  | v => [v]

/-- The arguments that a script has given. -/
def spreadAll : Value → List Value
  | .tuple xs => xs.flatMap spread
  | .set xs => xs.flatMap spread
  | v => spread v

/-- The parameters that have no default, however values reach them. -/
def needed (sig : Signature) : List Parameter :=
  sig.parameters.filter fun p => p.default.isNone

/-- Every parameter with the next argument or, when these have run out, its default. -/
def fillNamed : List Parameter → List Value → Except Failure (List (String × Value))
  | [], _ => .ok []
  | p :: params, argument :: args => do
    return (p.name, argument) :: (← fillNamed params args)
  | p :: params, [] =>
    match p.default with
    | some v => do return (p.name, v) :: (← fillNamed params [])
    | none => .error (.unboundParameter p.name)

/-- How a loose call hands its arguments over: positional and named ones. -/
def looseArguments (sig : Signature) (args : Value) :
    Except Failure (List Value × List (String × Value)) :=
  if sig.takesRest then
    match args.items with
    | .ok xs => .ok (xs, [])
    | .error _ => .error (.notSpreadable sig.fullName args.typeName)
  else
    let flat := spreadAll args
    let least := (needed sig).length
    if flat.length = least then .ok (flat, [])
    else if flat.length < least then
      .error (.tooFewArguments sig.name least flat.length)
    else do return ([], ← fillNamed sig.parameters flat)

/-- Calls an operation as scripts do. -/
def callLoosely (op : Operation) (args : Value) : Act Value := do
  let (positional, named) ← Act.ofExcept (looseArguments op.signature args)
  op.call positional named

end Operation

/-- Calls a member as scripts do. -/
def Member.callLoosely (member : Member) (args : Value) : Act Value :=
  match member with
  | .operation callee => callee.callLoosely args
  | .value content => do throw (.notCallableObject (← Act.ofExcept content.inside))

/-- Calls a member, unless it is a value. -/
def Member.call (member : Member) (args : List Value) (named : List (String × Value)) :
    Act Value :=
  match member with
  | .operation callee => callee.call args named
  | .value content => throw (.notCallable content.typeName)

/-- The value is a hint. -/
def Value.isTip : Value → Bool
  | .tip .. => true
  | _ => false

end DeviceScript
