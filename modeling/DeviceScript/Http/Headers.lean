import DeviceScript.Http.Agents
import DeviceScript.Value.Arithmetic
import DeviceScript.World.Basic

/-!
# Headers of a request

A request tells the name of a browser. The name is chosen by chance, unless the headers that go
with the request have one.
-/

namespace DeviceScript.Http

def agentKey : Value := .text "User-Agent"

def chooseBrowser : Act Value := do return .text (browserAt (← Act.choice allChances) chances)

/-- A browser name by chance: of the given browser, or of any. -/
def chooseAgent (browser : Value) : Act (List (Value × Value)) := do
  let wanted ← if browser.truthy then pure browser else chooseBrowser
  match wanted, wanted.unhashable? with
  | _, some sort => throw (.unhashable sort)
  | wanted, none =>
    let names := match wanted with
      | .text s => browsers.lookup s
      | _ => none
    match names with
    | none => do throw (.missingKey (← Act.shown wanted) (← Act.ofExcept wanted.inside))
    | some names => do
      let number ← Act.choice names.length
      return [(agentKey, .text (names.getD number ""))]

/-- The entry that an item of a list of headers stands for; `number` is its place. -/
def entryOf (number : Nat) (item : Value) : Except Failure (Value × Value) :=
  match item.items with
  | .error _ =>
    .error (.raised .operandType ("cannot convert dictionary update sequence element #" ++
      toString number ++ " to a sequence"))
  | .ok [key, v] =>
    match key.unhashable? with
    | some sort => .error (.unhashable sort)
    | none => .ok (key, v)
  | .ok parts =>
    .error (.raised .badValue ("dictionary update sequence element #" ++ toString number ++
      " has length " ++ toString parts.length ++ "; 2 is required"))

/-- The entries that a list of headers stands for, from the given place on. -/
def entriesFrom (number : Nat) : List Value → Except Failure (List (Value × Value))
  | [] => .ok []
  | item :: xs => do return (← entryOf number item) :: (← entriesFrom (number + 1) xs)

/-- The entries of given headers: a mapping, or a list of pairs. -/
def entries : Value → Except Failure (List (Value × Value))
  | .dict entries => .ok entries
  | .list xs => entriesFrom 0 xs
  | .tuple xs => entriesFrom 0 xs
  | .text s => do entriesFrom 0 (← (Value.text s).items)
  | v => .error (.raised .operandType ("'" ++ v.typeName ++ "' object is not a mapping"))

/-- Entries put over others, each at the place where its key first stood. -/
def overlay (base upper : List (Value × Value)) : List (Value × Value) :=
  upper.foldl (fun all e => Value.insertEntry e.1 e.2 all) base

def withAgent (headers : Value) : Act Value := do
  let agent ← chooseAgent .none
  if headers.truthy then return .dict (overlay agent (← Act.ofExcept (entries headers)))
  else return .dict agent

end DeviceScript.Http
