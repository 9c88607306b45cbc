import DeviceScript.Execution.Machine
import DeviceScript.Execution.Operator

/-!
# Visiting trees

`visit` gives the value of an expression and the effect of a statement. One step says what a
tree does in terms of the visits of its subtrees, and the recursion is bounded by a number of
nested visits and by a number of rounds of a loop with a condition; a visit that ends within a
bound ends in the same way within every larger one.
-/

namespace DeviceScript.Execution

open Script Exec

/-- How far a visit may go. -/
structure Bound where
  rounds : Nat
  depth : Nat
  deriving Inhabited

/-- How a tree at a place of a statement is visited. -/
abbrev Visitor := Site → Tree Value → Exec Value

/-! ## Sequences of statements -/

/-- Visits trees and gives their values. -/
def visitAll (visit : Visitor) (site : Site) (part : Nat) :
    Nat → List (Tree Value) → Exec (List Value)
  | _, [] => return []
  | index, t :: trees => do
    let v ← visit ((part, index) :: site) t
    return v :: (← visitAll visit site part (index + 1) trees)

/-- Visits the statements of a body. -/
def runBody (visit : Visitor) (site : Site) (part : Nat) :
    Nat → List (Tree Value) → Exec Unit
  | _, [] => return ()
  | index, t :: trees => do
    let _ ← visit ((part, index) :: site) t
    runBody visit site part (index + 1) trees

/-- Visits the statements of the body of a loop: a continue ends only the statement that it
stands in. -/
def runRound (visit : Visitor) (site : Site) (part : Nat) :
    Nat → List (Tree Value) → Exec Unit
  | _, [] => return ()
  | index, t :: trees => do
    catchSkip (do let _ ← visit ((part, index) :: site) t)
    runRound visit site part (index + 1) trees

/-! ## Loops -/

/-- So many rounds. -/
def times (round : Exec Unit) : Nat → Exec Unit
  | 0 => return ()
  | count + 1 => do
    round
    times round count

/-- Rounds as long as the condition holds. -/
def rounds (condition : Exec Value) (round : Exec Unit) : Nat → Exec Unit
  | 0 => throw .exhausted
  | bound + 1 => do
    if (← condition).truthy then do
      round
      rounds condition round bound

/-- A round for each item. -/
def forItems (round : Exec Unit) : List Value → Exec Unit
  | [] => return ()
  | item :: xs => do
    modify fun m => m.setItem item
    round
    forItems round xs

/-- A round for each number from the start. -/
def forCount (round : Exec Unit) (start : Nat) : Nat → Exec Unit
  | 0 => return ()
  | count + 1 => do
    modify fun m => m.setItem (.int start)
    round
    forCount round (start + 1) count

/-- A round for each item of a value. -/
def overItems (round : Exec Unit) : Value → Exec Unit
  | .int count => forCount round 0 count.toNat
  | .bool flag => forCount round 0 (if flag then 1 else 0)
  | .list xs => forItems round xs
  | .tuple xs => forItems round xs
  | .set xs => forItems round xs
  | v => do
    let shown ← ofAct (Act.shown v)
    log .warning ("不可迭代的对象 " ++ shown ++ " 循环将不会执行!")

/-- What a loop goes over; a number with a point is cut. -/
def wholeItems : Value → Exec Value
  | .float v => do return .int (← Exec.ofExcept (Value.toWhole (.float v)))
  | .undefined serial => do return .int (← Exec.ofExcept (Value.toWhole (.undefined serial)))
  | v => return v

/-- Waits for a number of hundredths of a second, or until the script is asked to stop. -/
def wait (host : Host) : Nat → Exec Unit
  | 0 => return ()
  | ticks + 1 => do
    if (← get).stopped then return ()
    else do
      Host.obey host.tick
      wait host ticks

/-! ## Calls -/

/-- Renames of operations with names and operations exchanged: from the name in the script to
the name of the operation. -/
def exchange : List (Value × Value) → List (Value × Value) → Except Failure
    (List (Value × Value))
  | [], exchanged => .ok exchanged
  | (key, v) :: entries, exchanged =>
    match v.unhashable? with
    | some sort => .error (.unhashable sort)
    | none => exchange entries (Value.insertEntry v key exchanged)

/-- The names of operations, by those that scripts use. -/
def scriptNames : Act (List (Value × Value)) := do
  let settings ← Act.settings "mapping"
  Act.ofExcept (exchange settings.mapping [])

/-- The operation that a script means. -/
def operationName (names : List (Value × Value)) (name : String) : Value :=
  (Value.lookup? (.text name) names).getD (.text name)

/-- Writes the text of a hint. -/
def writeTip (host : Host) : Value → Exec Unit
  | .tip _ message => host.write (message ++ "\n")
  | _ => return ()

/-- Writes the hints among results. -/
def writeTips (host : Host) : List Value → Exec Unit
  | [] => return ()
  | result :: results => do
    writeTip host result
    writeTips host results

/-- Runs something; a failure is turned into a warning, and the given value is the result. -/
def guarded (exec : Exec Value) (warning : String → String) : Exec Value := fun m w =>
  match exec.perform m w with
  | ((.error (.failed e), m), w) =>
    (log .warning (warning e.message) >>= fun _ => pure .none).perform m w
  | other => other

/-- Calls an operation as a statement. -/
def callOperation (host : Host) (visit : Visitor) (site : Site) (name : String)
    (args : List (Tree Value)) : Exec Value := do
  let op ← ofAct (do host.find (operationName (← scriptNames) name))
  if op.truthy then do
    let vs ← visitAll visit site 1 0 args
    guarded
      (do
        let results ← ofAct (op.callLoosely (.tuple vs))
        writeTips host (← Exec.ofExcept results.items)
        return .none)
      fun message => "函数 " ++ name ++ " 执行错误 " ++ message ++ "!"
  else do
    log .warning ("不存在的函数 " ++ name ++ " !")
    return .none

/-- Keeps the results of an operation under a name: of a tuple, the hints are written and the
rest is kept. -/
def keepResults (host : Host) (name : String) : Value → Exec Value
  | .tuple results => do
    writeTips host results
    let kept := results.filter fun result => !result.isTip
    if kept.isEmpty then return .none
    else do
      modify fun m => m.write name (.tuple kept)
      return .tuple kept
  | result => do
    modify fun m => m.write name result
    return result

/-- The name and the arguments of the call on the right of a `dyn`. -/
def calleeOf : Tree Value → Except Failure (String × List (Tree Value))
  | .call name args => .ok (name, args)
  | .function name _ params => .ok (name, params)
  | t => .error (.noAttribute t.quote.typeName "func_name")

/-- Calls an operation and keeps its results in a list. -/
def callForResults (host : Host) (visit : Visitor) (site : Site) (name : String)
    (source : Tree Value) : Exec Value := do
  let names ← ofAct scriptNames
  let (callee, args) ← Exec.ofExcept (calleeOf source)
  let op ← ofAct (host.find (operationName names callee))
  if op.truthy then do
    let vs ← visitAll visit site 1 0 args
    guarded
      (do keepResults host name (← ofAct (op.callLoosely (.tuple vs))))
      fun message => "函数 " ++ callee ++ " 执行错误: " ++ message
  else do
    log .warning ("不存在的函数 " ++ callee)
    return .none

/-! ## Functions of the script -/

/-- The text of a tree, which only a leaf has. -/
def leafText (t : Tree Value) : Except Failure String :=
  match t.leafText? with
  | some s => .ok s
  | none => .error (.noAttribute t.quote.typeName "token")

/-- The value that an argument of a call has for a function: digits are a whole number, a text
that reads as a real number is that number, a variable is read, and any other text is
itself. -/
def argumentValue (m : Machine) (serial : Nat) (argument : Tree Value) :
    Except Failure Value := do
  let s ← leafText argument
  if Text.isDigits s then return .int (← Value.toWhole (.text s))
  else
    match Number.readFloat? s, argument with
    | some number, _ => return Value.ofReal serial number
    | none, .variable name => return m.read name
    | none, _ => return .text s

/-- The local variables at the start of a function. Each argument has a serial number at hand. -/
def bindArguments (m : Machine) (serial : Nat) :
    List (Tree Value) → List (Tree Value) → Bindings → Except Failure Bindings
  | p :: params, argument :: args, locals => do
    let v ← argumentValue m (serial + args.length) argument
    let name ← leafText p
    bindArguments m serial params args (Bindings.assign name v locals)
  | _, _, locals => .ok locals

/-- Takes away the activation of a function that has come to its end; `height` is the number of
activations below it. -/
def endActivation (name : String) (height : Nat) : Exec Value := do
  modify fun later => later.leaveFrame height
  let depth := (← get).frames.length
  log .debug ("执行函数 " ++ name ++ " 完成, 栈深度 " ++ toString depth)
  return .none

/-- Runs the body of a function in an activation of its own. A continue that leaves the function,
like a failure, leaves its activation behind. -/
def runActivation (visit : Visitor) (routine : Routine) (name : String) (locals : Bindings) :
    Exec Value := do
  let m ← get
  set (m.enterFrame routine.name locals)
  thenAlways (catchLeave (runBody visit [] 1 0 routine.body))
    fun later => { later with memory := m.memory }
  endActivation name m.frames.length

/-- Calls a function of the script. -/
def callFunction (visit : Visitor) (routine : Routine) (name : String)
    (args : List (Tree Value)) : Exec Value := do
  let m ← get
  if routine.parameters.length ≠ args.length then
    fail (.functionArity name routine.parameters.length args.length)
  else do
    let serial ← ofAct (Act.serialsFor args.length)
    let locals ←
      Exec.ofExcept (bindArguments m serial routine.parameters args routine.locals)
    runActivation visit routine name locals

/-! ## Trees -/

/-- The values of a list, with lists inside it. -/
def nestedItems (visit : Visitor) (site : Site) : Nat → List (Tree Value) → Exec (List Value)
  | _, [] => return []
  | index, .list inner :: trees => do
    let vs ← nestedItems visit ((2, index) :: site) 0 inner
    return .list vs :: (← nestedItems visit site (index + 1) trees)
  | index, t :: trees => do
    let v ← visit ((2, index) :: site) t
    return v :: (← nestedItems visit site (index + 1) trees)

/-- Visits the conditions of the further branches until one holds, and gives its body with the
part of the tree in which it stands. -/
def chooseBranch (visit : Visitor) (site : Site) (chosen : Nat × List (Tree Value)) :
    Nat → List (Tree Value × List (Tree Value)) → Exec (Nat × List (Tree Value))
  | _, [] => return chosen
  | index, (condition, body) :: alternatives => do
    if (← visit ((2 * index + 3, 0) :: site) condition).truthy then
      return (2 * index + 4, body)
    else chooseBranch visit site chosen (index + 1) alternatives

/-- The text that a value prints as: the items of a tuple are written one after another. -/
def printed : Value → Exec String
  | .tuple xs => do
    return String.join (← xs.mapM fun item => Exec.ofExcept item.display)
  | v => Exec.ofExcept v.display

/-- There is something on the right side. -/
def isGiven : Tree Value → Bool
  | .list xs => !xs.isEmpty
  | t => t.quote.truthy

/-- What a tree does, given how its subtrees are visited and how many rounds a loop with a
condition may take. -/
def step (host : Host) (visit : Visitor) (most : Nat) (site : Site) : Tree Value → Exec Value
  | .number s =>
    Exec.ofExcept (if s.contains '.' then (Value.toReal (.text s)).map Value.float
      else (Value.toWhole (.text s)).map Value.int)
  | .string s => return .text s
  | .variable name => return (← get).read name
  | .binary left operator right => do
    let left ← visit ((0, 0) :: site) left
    let right ← visit ((0, 1) :: site) right
    ofAct (operate operator.kind left right)
  | .print v => do
    let message ← printed (← visit ((0, 0) :: site) v)
    host.write (message ++ "\n")
    log .debug ("脚本打印: " ++ message)
    return .none
  | .sleep duration => do
    let v ← visit ((0, 0) :: site) duration
    log .debug ("延迟 " ++ (← Exec.ofExcept v.display) ++ "s")
    let ticks ← Exec.ofExcept (do Value.toWhole (← v.multiply (.int 100)))
    wait host ticks.toNat
    return v
  | .branch condition body alternatives otherwise => do
    let holds := (← visit ((0, 0) :: site) condition).truthy
    let first := if holds then (1, body) else (2, otherwise)
    let (part, chosen) ← chooseBranch visit site first 0 alternatives
    runBody visit site part 0 chosen
    return .none
  | .assign name v => do
    let v ← visit ((0, 0) :: site) v
    modify fun m => m.write name v
    return v
  | .gather name elements source =>
    if isGiven elements then do
      let v ←
        match elements with
        | .list xs => do
          let vs ← nestedItems visit site 0 xs
          visit ((0, 0) :: site) (.literal (.list vs))
        | t => visit ((0, 0) :: site) t
      modify fun m => m.write name v
      return v
    else callForResults host visit site name source
  | .each name xs body => do
    let height := (← get).loops.length
    modify fun m => m.enterLoop site name
    let xs ← wholeItems (← visit ((0, 0) :: site) xs)
    catchLeave (overItems (runRound visit site 1 0 body) xs)
    modify fun m => m.leaveLoop site height
    return .none
  | .call name args => do
    match (← get).functions.lookup name with
    | some routine => callFunction visit routine name args
    | none => callOperation host visit site name args
  | .function name body params => do
    modify fun m => m.register ⟨name, body, params, []⟩
    ofAct (Act.quoted (.function name body params))
  | .whileLoop condition body => do
    catchLeave
      (rounds (visit ((0, 0) :: site) condition) (runRound visit site 1 0 body) most)
    return .none
  | .loop count body => do
    catchLeave (do
      let count ← Exec.ofExcept (Value.toWhole (← visit ((0, 0) :: site) count))
      times (runRound visit site 1 0 body) count.toNat)
    return .none
  | .position x y => do
    let x ← Exec.ofExcept (Value.toWhole x.quote)
    let y ← Exec.ofExcept (Value.toWhole y.quote)
    return .tuple [.int x, .int y]
  | .leave => throw .leave
  | .skip => throw .skip
  | .missing => return .none
  | .literal v => return v
  | .list xs => ofAct (Act.quoted (.list xs))
  | .title s => ofAct (Act.quoted (.title s))

/-- Does something unless the script was stopped. -/
def unlessStopped (exec : Exec Value) : Exec Value := do
  let m ← get
  if m.stopped then do
    log .info ("脚本: " ++ m.title ++ " 被强制结束")
    throw .leave
  else exec

/-- Visits a tree, unless the script has been asked to stop; `most` bounds the rounds of a loop, and
`depth` the nested visits. -/
def visitWithin (host : Host) (most : Nat) : (depth : Nat) → Visitor
  | 0, _, _ => throw .exhausted
  | depth + 1, site, t =>
    unlessStopped (step host (visitWithin host most depth) most site t)

/-- Visits a tree within bounds. -/
def visit (host : Host) (bound : Bound) : Visitor := visitWithin host bound.rounds bound.depth

/-- Visits a statement of the script. -/
def visitStatement (host : Host) (bound : Bound) (t : Tree Value) : Exec Value := do
  modify fun m => { m with memory := [] }
  visit host bound [] t

end DeviceScript.Execution
