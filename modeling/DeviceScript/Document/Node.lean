import DeviceScript.Document.Layout
import DeviceScript.Document.Scalar

/-!
# Nodes of a document

A document is a tree of scalars, sequences and mappings, each with a tag. `Node.ofTokens` reads it
from the tokens of the document; a node that is used again by its name stands in the tree at
every place where it is used.
-/

namespace DeviceScript.Document

inductive Node where
  | scalar (tag : Tag) (text : String)
  | sequence (tag : Tag) (items : List Node)
  | mapping (tag : Tag) (entries : List (Node × Node))
  deriving Inhabited

namespace Node

def tag : Node → Tag
  | .scalar tag _ | .sequence tag _ | .mapping tag _ => tag

def withTag (tag : Tag) : Node → Node
  | .scalar _ s => .scalar tag s
  | .sequence _ items => .sequence tag items
  | .mapping _ entries => .mapping tag entries

def nothing : Node := .scalar .null ""

end Node

structure NodeReader where
  tokens : List Token
  /-- What the handles of tags stand for. -/
  handles : List (String × String)
  /-- The nodes that have names; nothing for those that are not read to their end. -/
  named : List (String × Option Node)

abbrev NodeReading := StateT NodeReader Outcome

namespace NodeReading

/-! ## Tokens -/

def refuse {α : Type} (fault : Fault) : NodeReading α := throw (.refused fault)

def peek : NodeReading Token := do
  match (← get).tokens.head? with
  | some (.broken trouble) => throw trouble
  | some token => return token
  | none => return .finish

def advance : NodeReading Unit :=
  modify fun r => { r with tokens := r.tokens.drop 1 }

def meets (wanted : List Token) : NodeReading Bool := return wanted.contains (← peek)

/-- Goes past a token if it is the next one, and tells whether it was. -/
def passes (wanted : Token) : NodeReading Bool := do
  if ← meets [wanted] then do
    advance
    return true
  else return false

def expect (wanted : Token) (fault : Fault) : NodeReading Unit := do
  if !(← passes wanted) then refuse fault

/-! ## Names and tags -/

def nameOf : NodeReading (Option String) := do
  match ← peek with
  | .anchor name => do
    advance
    return some name
  | _ => return none

def tagOf : NodeReading (Option TagWord) := do
  match ← peek with
  | .tag word => do
    advance
    return some word
  | _ => return none

/-- The name and the tag in front of a node, in either order. -/
def properties : NodeReading (Option String × Option TagWord) := do
  match ← nameOf with
  | some name => return (some name, ← tagOf)
  | none => do
    match ← tagOf with
    | some word => return (← nameOf, some word)
    | none => return (none, none)

/-- The tag as which a tag is written, or nothing if the node says itself what it is. -/
def meaning (word : Option TagWord) : NodeReading (Option Tag) := do
  match word with
  | none => return none
  | some word => do
    let name ←
      match word.handle with
      | none => pure word.rest
      | some handle =>
        match (← get).handles.lookup handle with
        | some start => pure (start ++ word.rest)
        | none => refuse (.unknownHandle handle)
    return if name = "!" then none else some (Tag.ofName name)

def recalled (name : String) : NodeReading Node := do
  match (← get).named.lookup name with
  | some (some node) => return node
  | some none => refuse (.endlessName name)
  | none => refuse (.unknownName name)

def naming (name : Option String) (content : NodeReading Node) : NodeReading Node := do
  match name with
  | none => content
  | some name => do
    if ((← get).named.lookup name).isSome then refuse (.repeatedName name)
    modify fun r => { r with named := (name, none) :: r.named }
    let node ← content
    modify fun r => { r with named := (name, some node) :: r.named }
    return node

/-- A scalar. Without a tag its form decides, unless it stands in quotes; the tag that says
nothing lets the form decide in quotes, too. -/
def scalarOf (plain : Bool) (s : String) (written : Bool) (tag : Option Tag) : Node :=
  match tag with
  | some tag => .scalar tag s
  | none => .scalar (if plain || written then formOf s else .str) s

/-! ## Nodes -/

/-- What can follow a dash that has no node. -/
def afterItem : List Token := [.item, .blockEnd]

/-- What can follow a dash without a node in a sequence that is not indented. -/
def afterLooseItem : List Token := [.item, .key, .value, .blockEnd]

def afterPart : List Token := [.key, .value, .blockEnd]

mutual

/-- A node. Blocks stand only outside of brackets, and a sequence that is not indented only below a
key. -/
def node : Nat → (block loose : Bool) → NodeReading Node
  | 0, _, _ => refuse .tooDeep
  | fuel + 1, block, loose => do
    match ← peek with
    | .alias name => do
      advance
      recalled name
    | _ => do
      let (name, word) ← properties
      let tag ← meaning word
      naming name (content fuel block loose (name.isSome || word.isSome) word.isSome tag)

def content : Nat → (block loose marked written : Bool) → Option Tag → NodeReading Node
  | 0, _, _, _, _, _ => refuse .tooDeep
  | fuel + 1, block, loose, marked, written, tag => do
    match ← peek with
    | .text plain s => do
      advance
      return scalarOf plain s written tag
    | .openSequence => do
      advance
      return .sequence (tag.getD .seq) (← flowItems fuel true)
    | .openMapping => do
      advance
      return .mapping (tag.getD .map) (← flowEntries fuel true)
    | token =>
      if token = .item && loose then do
        return .sequence (tag.getD .seq) (← looseItems fuel)
      else if token = .blockSequence && block then do
        advance
        return .sequence (tag.getD .seq) (← items fuel)
      else if token = .blockMapping && block then do
        advance
        return .mapping (tag.getD .map) (← entries fuel)
      else if marked then return scalarOf true "" written tag
      else refuse .missingContent

def nodeUnless : Nat → (block loose : Bool) → List Token → NodeReading Node
  | 0, _, _, _ => refuse .tooDeep
  | fuel + 1, block, loose, others => do
    if ← meets others then return .nothing else node fuel block loose

def items : Nat → NodeReading (List Node)
  | 0 => refuse .tooDeep
  | fuel + 1 => do
    if ← passes .item then do
      let first ← nodeUnless fuel true false afterItem
      return first :: (← items fuel)
    else do
      expect .blockEnd .missingBlockEnd
      return []

def looseItems : Nat → NodeReading (List Node)
  | 0 => refuse .tooDeep
  | fuel + 1 => do
    if ← passes .item then do
      let first ← nodeUnless fuel true false afterLooseItem
      return first :: (← looseItems fuel)
    else return []

def entries : Nat → NodeReading (List (Node × Node))
  | 0 => refuse .tooDeep
  | fuel + 1 => do
    if ← passes .key then do
      let key ← nodeUnless fuel true true afterPart
      let v ←
        if ← passes .value then nodeUnless fuel true true afterPart else pure .nothing
      return (key, v) :: (← entries fuel)
    else do
      expect .blockEnd .missingBlockEnd
      return []

def flowValue : Nat → List Token → NodeReading Node
  | 0, _ => refuse .tooDeep
  | fuel + 1, others => do
    if ← passes .value then nodeUnless fuel false false others else return .nothing

/-- The items of a sequence in brackets. An item can be a mapping of one entry. -/
def flowItems : Nat → Bool → NodeReading (List Node)
  | 0, _ => refuse .tooDeep
  | fuel + 1, first => do
    if ← passes .closeSequence then return []
    else do
      if !first then expect .comma .missingComma
      if ← passes .key then do
        let key ← nodeUnless fuel false false [.value, .comma, .closeSequence]
        let v ← flowValue fuel [.comma, .closeSequence]
        return .mapping .map [(key, v)] :: (← flowItems fuel false)
      else if ← passes .closeSequence then return []
      else do
        let item ← node fuel false false
        return item :: (← flowItems fuel false)

def flowEntries : Nat → Bool → NodeReading (List (Node × Node))
  | 0, _ => refuse .tooDeep
  | fuel + 1, first => do
    if ← passes .closeMapping then return []
    else do
      if !first then expect .comma .missingComma
      if ← passes .key then do
        let key ← nodeUnless fuel false false [.value, .comma, .closeMapping]
        let v ← flowValue fuel [.comma, .closeMapping]
        return (key, v) :: (← flowEntries fuel false)
      else if ← passes .closeMapping then return []
      else do
        let key ← node fuel false false
        return (key, .nothing) :: (← flowEntries fuel false)

end

/-! ## Documents -/

def knownHandles : List (String × String) := [("!", "!"), ("!!", Tag.knownStart)]

/-- Reads the directives in front of a document: whether a version was given, and the handles. -/
def directives : Nat → (versioned : Bool) → List (String × String) →
    NodeReading (List (String × String))
  | 0, _, handles => return handles
  | fuel + 1, versioned, handles => do
    match ← peek with
    | .directive (.version major) => do
      advance
      if versioned then refuse .repeatedDirective
      else if major ≠ 1 then refuse .badVersion
      else directives fuel true handles
    | .directive (.handle handle start) => do
      advance
      if (handles.lookup handle).isSome then refuse .repeatedDirective
      else directives fuel versioned (handles ++ [(handle, start)])
    | .directive .other => do
      advance
      directives fuel versioned handles
    | _ => return handles

def pastEnds : Nat → NodeReading Unit
  | 0 => pure ()
  | fuel + 1 => do if ← passes .documentEnd then pastEnds fuel

def documentStart (fuel : Nat) : NodeReading Unit := do
  let handles ← directives fuel false []
  modify fun r => { r with handles := handles ++ knownHandles }
  expect .documentStart .missingStart

def document (fuel : Nat) : NodeReading (Option Node) := do
  match ← peek with
  | .finish => return none
  | token => do
    let started :=
      match token with
      | .directive _ | .documentStart => true
      | _ => false
    if started then documentStart fuel
    let root ←
      match started, ← peek with
      | true, .directive _ | true, .documentStart | true, .documentEnd | true, .finish =>
        pure Node.nothing
      | _, _ => node fuel true false
    pastEnds fuel
    if ← meets [.finish] then return some root
    else do
      documentStart fuel
      refuse .secondDocument

end NodeReading

def Node.ofTokens (tokens : List Token) : Outcome (Option Node) :=
  (NodeReading.document (4 * tokens.length + 4)).run' ⟨tokens, NodeReading.knownHandles, []⟩

end DeviceScript.Document
