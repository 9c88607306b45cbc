import DeviceScript.Document.Node
import DeviceScript.Value.Compare

/-!
# Reading settings documents

A settings document is a tree of nodes, and `read` gives the value of its root. Values are made
level by level, so of two nodes that stand for no value the one nearer to the root tells what is
wrong. A mapping can take over the entries of other mappings; its own entries count for more.
-/

namespace DeviceScript.Document

namespace Node

/-! ## Scalars -/

mutual

/-- The text of a node that has to be a scalar. A mapping stands for the scalar that it holds under
the word for its value. -/
def textOf : Node → Outcome String
  | .scalar _ s => .ok s
  | .sequence .. => refuse (.wrongShape "scalar")
  | .mapping _ entries => textAmong entries

def textAmong : List (Node × Node) → Outcome String
  | [] => refuse (.wrongShape "scalar")
  | (key, value) :: entries => if key.tag = .value then textOf value else textAmong entries

end

def scalarValue (node : Node) : Outcome Value :=
  match node.tag with
  | .merge | .value | .other _ => refuse (.unknownTag node.tag.name)
  | tag => do readScalar tag (← node.textOf)

/-! ## Mappings that take over entries -/

mutual

/-- The entries of a mapping with those that it takes over in front of its own: first the ones taken
over, then its own. -/
def ownAndTaken : List (Node × Node) → Outcome (List (Node × Node) × List (Node × Node))
  | [] => .ok ([], [])
  | (key, value) :: entries => do
    if key.tag = .merge then do
      let first ← takenFrom value
      let (taken, own) ← ownAndTaken entries
      return (first ++ taken, own)
    else do
      let key := if key.tag = .value then key.withTag .str else key
      let (taken, own) ← ownAndTaken entries
      return (taken, (key, value) :: own)

def takenFrom : Node → Outcome (List (Node × Node))
  | .mapping _ entries => do
    let (taken, own) ← ownAndTaken entries
    return taken ++ own
  | .sequence _ xs => do return (← takenFromAll xs).reverse.flatten
  | .scalar .. => refuse .badMerge

def takenFromAll : List Node → Outcome (List (List (Node × Node)))
  | [] => .ok []
  | item :: xs => do
    match item with
    | .mapping _ entries => do
      let (taken, own) ← ownAndTaken entries
      return (taken ++ own) :: (← takenFromAll xs)
    | _ => refuse .badMerge

end

def entriesOf : Node → Outcome (List (Node × Node))
  | .mapping _ entries => do
    let (taken, own) ← ownAndTaken entries
    return taken ++ own
  | _ => refuse (.wrongShape "mapping")

def itemsOf : Node → Outcome (List Node)
  | .sequence _ xs => .ok xs
  | _ => refuse (.wrongShape "sequence")

def onlyEntry : Node → Outcome (Node × Node)
  | .mapping _ [entry] => .ok entry
  | _ => refuse (.wrongShape "mapping of one entry")

/-! ## Levels -/

/-- Refuses a node that stands for no value before its content is looked at. -/
def glance (node : Node) : Outcome Unit := do
  if !node.tag.isCollection then
    let _ ← node.scalarValue

/-- Looks at an entry of a mapping, whose key has to be no collection. -/
def glanceEntry (entry : Node × Node) : Outcome (List Node) := do
  entry.1.glance
  if entry.1.tag.isCollection then refuse .badKey
  entry.2.glance
  return [entry.2]

def glancePair (node : Node) : Outcome (List Node) := do
  let entry ← node.onlyEntry
  entry.1.glance
  entry.2.glance
  return [entry.1, entry.2]

def explore (node : Node) : Outcome (List Node) := do
  match node.tag with
  | .seq => do
    let xs ← node.itemsOf
    xs.forM glance
    return xs
  | .map | .set => return (← (← node.entriesOf).mapM glanceEntry).flatten
  | .omap | .pairs => return (← (← node.itemsOf).mapM glancePair).flatten
  | _ => return []

def exploreAll : Nat → List Node → Outcome Unit
  | 0, _ => pure ()
  | fuel + 1, nodes => do
    let inner ← nodes.mapM explore
    if !inner.flatten.isEmpty then exploreAll fuel inner.flatten

/-! ## Values -/

/-- The value of a node; `fuel` bounds how deep nodes stand in each other. -/
def valueWithin : Nat → Node → Outcome Value
  | 0, _ => refuse .tooDeep
  | fuel + 1, node => do
    let entryValue := fun (entry : Node × Node) => do
      let key ← valueWithin fuel entry.1
      return (key, ← valueWithin fuel entry.2)
    match node.tag with
    | .seq => do return .list (← (← node.itemsOf).mapM (valueWithin fuel))
    | .map => do
      return Value.ofEntries (← (← node.entriesOf).mapM entryValue)
    | .set => do
      let entries ← (← node.entriesOf).mapM entryValue
      return Value.setOf (entries.map (·.1))
    | .omap | .pairs => do
      let entries ← (← (← node.itemsOf).mapM onlyEntry).mapM entryValue
      return .list (entries.map fun entry => .tuple [entry.1, entry.2])
    | _ => node.scalarValue

def value (fuel : Nat) (root : Node) : Outcome Value := do
  root.glance
  exploreAll fuel [root]
  root.valueWithin fuel

end Node

/-- Reads a settings document. A document that holds nothing stands for nothing. -/
def read (s : String) : Outcome Value := do
  let tokens := tokensOf s.toList
  match ← Node.ofTokens tokens with
  | none => return .none
  | some root => root.value (tokens.length + 1)

end DeviceScript.Document
