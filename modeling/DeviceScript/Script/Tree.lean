import DeviceScript.Script.Token

/-!
# Script trees

A script is a sequence of trees. The leaves that a text is read as are numbers, strings and
variables; `literal` is a leaf that holds a ready value of type `α`, and `missing` stands where
a tree may be left out. Lists may be nested, and are only read on the right of a `dyn`.
-/

namespace DeviceScript.Script

/-- A statement or an expression. -/
inductive Tree (α : Type) where
  | missing
  | literal (v : α)
  | list (xs : List (Tree α))
  | number (text : String)
  | string (text : String)
  | variable (name : String)
  | binary (left : Tree α) (operator : Token) (right : Tree α)
  | print (v : Tree α)
  | sleep (duration : Tree α)
  | title (text : String)
  | assign (name : String) (v : Tree α)
  | gather (name : String) (elements : Tree α) (source : Tree α)
  | loop (count : Tree α) (body : List (Tree α))
  | whileLoop (condition : Tree α) (body : List (Tree α))
  | each (item : String) (xs : Tree α) (body : List (Tree α))
  | call (name : String) (args : List (Tree α))
  | function (name : String) (body : List (Tree α)) (params : List (Tree α))
  | branch (condition : Tree α) (body : List (Tree α))
      (alternatives : List (Tree α × List (Tree α))) (otherwise : List (Tree α))
  | leave
  | skip
  | position (x y : Tree α)
  deriving Inhabited

namespace Tree

variable {α : Type}

/-- The text of a leaf that was read from one token. -/
def leafText? : Tree α → Option String
  | .number s => some s
  | .string s => some s
  | .variable name => some name
  | _ => none

def sort : Tree α → String
  | .missing => "NoneType"
  | .literal _ => "object"
  | .list _ => "list"
  | .number _ => "Number"
  | .string _ => "String"
  | .variable _ => "Variable"
  | .binary .. => "BinOp"
  | .print _ => "Print"
  | .sleep _ => "Sleep"
  | .title _ => "Name"
  | .assign .. => "VariableDeclaration"
  | .gather .. => "DynamicDeclaration"
  | .loop .. => "Loop"
  | .whileLoop .. => "While"
  | .each .. => "Foreach"
  | .call .. => "FunctionCall"
  | .function .. => "UserFunction"
  | .branch .. => "IfStatement"
  | .leave => "BreakStatement"
  | .skip => "ContinueStatement"
  | .position .. => "Point"

end Tree

end DeviceScript.Script

namespace DeviceScript

export Script (Tree)

end DeviceScript
