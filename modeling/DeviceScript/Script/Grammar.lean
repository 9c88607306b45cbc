import DeviceScript.Failure
import DeviceScript.Script.Tree

/-!
# Reading trees from tokens

The grammar has one level of binary operators, which group from the left whatever they are.
An operand may be left out, and a comparison stands only in the head of a branch. Statements
are read one at a time, so a script runs up to its first faulty statement.

Reading a list does not end when a token stands in it that begins no operand; the bound on the
number of steps, which every other reading stays below, then runs out and the reading is
`endless`.
-/

namespace DeviceScript.Script

/-- Where reading stands, and the title that the script has given itself so far. -/
structure Reader where
  source : Source
  title : String
  deriving Inhabited

/-- How reading fails. -/
inductive ReadFault where
  | failure (e : Failure)
  | endless
  deriving DecidableEq

/-- A reading changes where reading stands also when it fails. -/
abbrev Reading := ExceptT ReadFault (StateM Reader)

namespace Reading

variable {α : Type}

/-- Reading fails. -/
def fail {β : Type} (e : Failure) : Reading β := throw (.failure e)

/-- The kind of the token that is next. -/
def currentKind : Reading TokenKind := return (← get).source.current.kind

/-- A fault in the line that is read. -/
def fault {β : Type} (cause : GrammarFault) : Reading β := do
  fail (.grammar (← get).source.line cause)

/-- Goes on to the next token; fails where none can be read. -/
def advance : Reading Unit := do
  let r ← get
  let source := r.source.advance
  match source.fault? with
  | none => set { r with source }
  | some cause => do
    set { r with source := source }
    fail (.lexical source.line cause)

/-- Takes a token of the kind. -/
def expect (wanted : TokenKind) : Reading Unit := do
  let found ← currentKind
  if found = wanted then advance else fault (.expected wanted found)

/-- Takes a token and gives its text. -/
def take : Reading String := do
  let token := (← get).source.current
  advance
  return token.text

/-- Reads a name. -/
def identifier : Reading String := do
  let name := (← get).source.current.text
  expect .identifier
  return name

def isOperator (k : TokenKind) : Bool :=
  k = .plus || k = .minus || k = .times || k = .divide

def isComparison (k : TokenKind) : Bool :=
  k = .equal || k = .notEqual || k = .less || k = .greater || k = .atMost ||
    k = .atLeast

/-! ## Expressions -/

mutual

/-- Reads an operand, or nothing where none begins. -/
def operandWithin : Nat → Reading (Tree α)
  | 0 => throw .endless
  | steps + 1 => do
    match ← currentKind with
    | .number => return .number (← take)
    | .identifier => return .variable (← take)
    | .string => return .string (← take)
    | .openBracket => do
      expect .openBracket
      let inner ← expressionWithin steps
      expect .closeBracket
      return inner
    | _ => return .missing

/-- Reads what follows the left operand. -/
def operatorsWithin : Nat → Tree α → Reading (Tree α)
  | 0, _ => throw .endless
  | steps + 1, left => do
    let operator := (← get).source.current
    if isOperator operator.kind then do
      advance
      let right ← operandWithin steps
      operatorsWithin steps (.binary left operator right)
    else return left

/-- Reads an expression within so many steps. -/
def expressionWithin : Nat → Reading (Tree α)
  | 0 => throw .endless
  | steps + 1 => do
    let first ← operandWithin steps
    operatorsWithin steps first

end

/-- A bound that no expression over the given tokens exceeds. -/
def stepBound (source : Source) : Nat := 2 * source.lexemes.length + 3

/-- Reads an operand. -/
def operand : Reading (Tree α) := do operandWithin (stepBound (← get).source)

/-- Reads an expression. -/
def expression : Reading (Tree α) := do expressionWithin (stepBound (← get).source)

/-- Reads the head of a branch: one comparison, or one expression alone, which is then
compared with nothing. -/
def condition : Reading (Tree α) := do
  let left ← expression
  let operator := (← get).source.current
  if isComparison operator.kind then do
    advance
    let right ← expression
    return .binary left operator right
  else if operator.kind = .closeBracket then
    return .binary left ⟨.equal, "=="⟩ .missing
  else fault (.comparison operator.kind)

/-! ## Lists and arguments -/

mutual

/-- Reads the items of a list up to its bracket. -/
def itemsWithin : Nat → Reading (List (Tree α))
  | 0 => throw .endless
  | steps + 1 => do
    match ← currentKind with
    | .closeBracket => return []
    | .openBracket => do
      let inner ← listWithin steps
      return .list inner :: (← itemsWithin steps)
    | .comma => do
      expect .comma
      itemsWithin steps
    | _ => do
      let item ← expression
      return item :: (← itemsWithin steps)

/-- Reads a list within so many steps. -/
def listWithin : Nat → Reading (List (Tree α))
  | 0 => throw .endless
  | steps + 1 => do
    expect .openBracket
    let xs ← itemsWithin steps
    expect .closeBracket
    return xs

end

/-- Reads a list. -/
def list : Reading (List (Tree α)) := do listWithin (stepBound (← get).source)

/-- Reads expressions with commas between them up to the closing bracket. A comma may stand
in front of the bracket. -/
def argumentsWithin : Nat → Reading (List (Tree α))
  | 0 => throw .endless
  | steps + 1 => do
    if (← currentKind) = .closeBracket then return []
    else do
      let argument ← expression
      if (← currentKind) = .closeBracket then return [argument]
      else do
        expect .comma
        return argument :: (← argumentsWithin steps)

/-- Reads arguments and the bracket behind them. -/
def arguments : Reading (List (Tree α)) := do
  let xs ← argumentsWithin (stepBound (← get).source)
  expect .closeBracket
  return xs

/-- Reads a call. -/
def callee : Reading (Tree α) := do
  let name ← identifier
  expect .openBracket
  return .call name (← arguments)

/-- Reads an expression in brackets. -/
def inBrackets : Reading (Tree α) := do
  expect .openBracket
  let v ← expression
  expect .closeBracket
  return v

/-! ## Statements -/

/-- Reads the title of the script. -/
def title : Reading (Tree α) := do
  expect .title
  let v : Tree α ← operand
  match v.leafText? with
  | some s => do
    modify fun r => { r with title := s }
    return .title s
  | none => fail (.noAttribute v.sort "token")

/-- Reads an assignment. -/
def assignment : Reading (Tree α) := do
  expect .assignment
  let name ← identifier
  expect .equals
  return .assign name (← expression)

/-- Reads an assignment of a list, of the outcome of a call, or of an expression that begins
with a name. Any other right side is left unread and gives no statement. -/
def gathering : Reading (Tree α) := do
  expect .gather
  let name ← identifier
  expect .equals
  match ← currentKind with
  | .openBracket => return .gather name (.list (← list)) .missing
  | .call => do
    expect .call
    return .gather name (.list []) (← callee)
  | .identifier => return .gather name (← expression) .missing
  | _ => return .missing

mutual

/-- Reads a statement within so many steps. -/
def statementWithin : Nat → Reading (Tree α)
  | 0 => throw .endless
  | steps + 1 => do
    match ← currentKind with
    | .title => title
    | .assignment => assignment
    | .gather => gathering
    | .condition => do
      expect .condition
      expect .openBracket
      let head ← condition
      expect .closeBracket
      let body ← blockWithin steps
      let (alternatives, otherwise) ← alternativesWithin steps
      return .branch head body alternatives otherwise
    | .print => do
      expect .print
      return .print (← inBrackets)
    | .repeatTimes => do
      expect .repeatTimes
      let count ← expression
      return .loop count (← blockWithin steps)
    | .repeatWhile => do
      expect .repeatWhile
      let head ← expression
      return .whileLoop head (← blockWithin steps)
    | .leave => do
      expect .leave
      return .leave
    | .sleep => do
      expect .sleep
      return .sleep (← inBrackets)
    | .function => do
      expect .function
      let name ← identifier
      let params ←
        if (← currentKind) = .openBracket then do
          advance
          arguments
        else pure []
      let body ← blockWithin steps
      return .function name body params
    | .call => do
      expect .call
      callee
    | .each => do
      expect .each
      expect .openBracket
      let item ← identifier
      expect .comma
      let xs ← expression
      expect .closeBracket
      return .each item xs (← blockWithin steps)
    | .skip => do
      expect .skip
      return .skip
    | found => fault (.statement found)

/-- Reads statements up to a brace or the end. -/
def statementsWithin : Nat → Reading (List (Tree α))
  | 0 => throw .endless
  | steps + 1 => do
    let k ← currentKind
    if k = .closeBrace || k = .endOfText then return []
    else do
      let first ← statementWithin steps
      return first :: (← statementsWithin steps)

/-- Reads statements in braces. -/
def blockWithin : Nat → Reading (List (Tree α))
  | 0 => throw .endless
  | steps + 1 => do
    expect .openBrace
    let body ← statementsWithin steps
    expect .closeBrace
    return body

/-- Reads the alternatives of a branch. Parts without a condition run together into one. -/
def alternativesWithin :
    Nat → Reading (List (Tree α × List (Tree α)) × List (Tree α))
  | 0 => throw .endless
  | steps + 1 => do
    if (← currentKind) = .otherwise then do
      expect .otherwise
      if (← currentKind) = .condition then do
        expect .condition
        expect .openBracket
        let head ← condition
        expect .closeBracket
        let body ← blockWithin steps
        let (alternatives, otherwise) ← alternativesWithin steps
        return ((head, body) :: alternatives, otherwise)
      else do
        let body ← blockWithin steps
        let (alternatives, otherwise) ← alternativesWithin steps
        return (alternatives, body ++ otherwise)
    else return ([], [])

end

/-- Reads a statement. -/
def statement : Reading (Tree α) := do
  statementWithin (3 * (← get).source.lexemes.length + 3)

end Reading

/-- Begins reading; fails where no first token can be read. -/
def Reader.ofText (s : String) : Except Failure Reader :=
  let source := Source.ofText s
  match source.fault? with
  | none => .ok ⟨source, ""⟩
  | some cause => .error (.lexical source.line cause)

/-- The whole text is read. -/
def Reader.atEnd (r : Reader) : Bool := r.source.current.kind = .endOfText

end DeviceScript.Script
