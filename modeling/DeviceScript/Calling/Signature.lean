import DeviceScript.Value.Show

/-!
# Signatures

How an operation takes its arguments: its parameters in order, each with the way in which a
value reaches it, and the binding of positional and named arguments to them.
-/

namespace DeviceScript

/-- The ways in which a value reaches a parameter. -/
inductive ParameterKind where
  | positionalOnly
  | ordinary
  | rest
  | keywordOnly
  | namedRest
  deriving DecidableEq, Inhabited

structure Parameter where
  name : String
  kind : ParameterKind
  /-- The sort of value that the documentation asks for. -/
  sort : Option String
  default : Option Value
  deriving Inhabited

namespace Parameter

def required (name : String) (sort : Option String) : Parameter := ⟨name, .ordinary, sort, none⟩

def optional (name : String) (sort : Option String) (default : Value) : Parameter :=
  ⟨name, .ordinary, sort, some default⟩

def variadic (name : String) (sort : Option String) : Parameter := ⟨name, .rest, sort, none⟩

def isPositional (p : Parameter) : Bool :=
  p.kind = .positionalOnly || p.kind = .ordinary

end Parameter

/-- The outside of an operation. -/
structure Signature where
  /-- What the operation belongs to, with the dot that divides it from the name. -/
  owner : String
  name : String
  /-- The operation is done to a receiver, which counts as an argument. -/
  hasReceiver : Bool
  parameters : List Parameter
  documentation : Option String
  deriving Inhabited

namespace Signature

def fullName (sig : Signature) : String := sig.owner ++ sig.name

def positional (sig : Signature) : List Parameter :=
  sig.parameters.filter Parameter.isPositional

def takesRest (sig : Signature) : Bool :=
  sig.parameters.any fun p => p.kind = .rest

def takesNamedRest (sig : Signature) : Bool :=
  sig.parameters.any fun p => p.kind = .namedRest

def placed (sig : Signature) (args : List Value) : List (String × Value) :=
  (sig.positional.map (·.name)).zip args

def named? (sig : Signature) (name : String) : Option Parameter :=
  sig.parameters.find? fun p =>
    p.name = name && (p.kind = .ordinary || p.kind = .keywordOnly)

/-- Named arguments joined to those that are bound already; what no parameter takes is left
over. -/
def bindNamed (sig : Signature) :
    List (String × Value) → List (String × Value) → List (String × Value) →
      Except Failure (List (String × Value) × List (String × Value))
  | [], bound, extra => .ok (bound, extra)
  | (name, v) :: rest, bound, extra =>
    match sig.named? name with
    | some _ =>
      if (bound.lookup name).isSome then .error (.repeatedArgument sig.fullName name)
      else bindNamed sig rest (bound ++ [(name, v)]) extra
    | none =>
      if sig.takesNamedRest then bindNamed sig rest bound (extra ++ [(name, v)])
      else
        let closed := sig.parameters.filter fun p =>
          p.kind = .positionalOnly &&
            (((name, v) :: rest).lookup p.name).isSome
        if closed.isEmpty then .error (.unexpectedKeyword sig.fullName name)
        else .error (.positionalOnly sig.fullName (closed.map (·.name)))

def unbound (params : List Parameter) (bound : List (String × Value)) : List String :=
  (params.filter fun p =>
    (bound.lookup p.name).isNone && p.default.isNone).map (·.name)

def valueOf (args : List Value) (positionalCount : Nat) (bound extra : List (String × Value))
    (p : Parameter) : Value :=
  match p.kind with
  | .rest => .tuple (args.drop positionalCount)
  | .namedRest => .dict (extra.map fun e => (.text e.1, e.2))
  | _ => (bound.lookup p.name).getD (p.default.getD .none)

def bind (sig : Signature) (args : List Value) (named : List (String × Value)) :
    Except Failure (List Value) := do
  let positional := sig.positional
  let (bound, extra) ← sig.bindNamed named (sig.placed args) []
  let keywordOnly := sig.parameters.filter fun p => p.kind = .keywordOnly
  let receiver := if sig.hasReceiver then 1 else 0
  if positional.length < args.length && !sig.takesRest then
    let defaults := (positional.filter fun p => p.default.isSome).length
    let given := (keywordOnly.filter fun p => (bound.lookup p.name).isSome).length
    .error (.tooManyArguments sig.fullName (positional.length - defaults + receiver)
      (positional.length + receiver) (args.length + receiver) given)
  else
    match unbound positional bound, unbound keywordOnly bound with
    | [], [] =>
      .ok (sig.parameters.map (valueOf args positional.length bound extra))
    | [], names => .error (.missingArguments sig.fullName true names)
    | names, _ => .error (.missingArguments sig.fullName false names)

/-! ## Description -/

def kindText : ParameterKind → String
  | .positionalOnly => "仅限位置参数"
  | .ordinary => "位置或关键字参数"
  | .rest => "可变位置参数"
  | .keywordOnly => "仅限关键字参数"
  | .namedRest => "可变关键字参数"

def describeParameter (p : Parameter) : Except Failure String := do
  let default ←
    match p.default with
    | some v => v.display
    | none => .ok "无默认值"
  return p.name ++ " 类型:" ++ p.sort.getD "任意类型" ++ " 默认值:" ++ default ++ " 如何传递:" ++ kindText p.kind

def receiver (sig : Signature) : Parameter :=
  let closed := sig.parameters.any fun p => p.kind = .positionalOnly
  ⟨"self", if closed then .positionalOnly else .ordinary, none, none⟩

def introduction (sig : Signature) : String :=
  match sig.documentation with
  | some s =>
    if s = "" then ""
    else Text.replaceAll "Returns" "返回值" (Text.replaceAll "Args" "参数" ("函数简介: " ++ s))
  | none => ""

/-- The description of an operation and its parameters; the receiver is listed with the
others if asked for. -/
def describe (sig : Signature) (withReceiver : Bool) : Except Failure String := do
  let params :=
    if withReceiver && sig.hasReceiver then sig.receiver :: sig.parameters
    else sig.parameters
  if params.isEmpty then return "无参数"
  let lines ← params.mapM describeParameter
  return sig.introduction ++ Text.join "\n" lines

end Signature

end DeviceScript
