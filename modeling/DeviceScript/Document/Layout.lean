import DeviceScript.Document.Token

/-!
# The layout of a document

The tokens of a document are read one after another. Outside of brackets, a token that stands
further to the right than the block around it starts a block, and one that stands further to the
left ends blocks. What turns out to be a key only at its colon gets its tokens in front of it
then: until a line has ended, the place of a possible key is remembered for each depth of
brackets.
-/

namespace DeviceScript.Document

/-- A place at which a key may start. -/
structure Candidate where
  place : Nat
  /-- Nothing but a key can stand there. -/
  required : Bool
  index : Nat
  line : Nat
  column : Nat

structure Layout where
  cursor : Cursor
  tokens : List Token
  depth : Nat
  /-- The column of the innermost block; one less than the first column if there is none. -/
  indent : Int
  /-- The columns of the blocks around it. -/
  outer : List Int
  keyAllowed : Bool
  /-- The possible keys, by the number of brackets around them. -/
  candidates : List (Nat × Candidate)

def Layout.start (s : List Char) : Layout := ⟨Cursor.start s, [], 0, -1, [], true, []⟩

/-- Reading a layout keeps the tokens that stand in front of a trouble. -/
abbrev Scan := ExceptT Trouble (StateM Layout)

namespace Scan

/-! ## Tokens, blocks and possible keys -/

def refuse {α : Type} (fault : Fault) : Scan α := throw (.refused fault)

def cursor : Scan Cursor := return (← get).cursor

def goTo (cursor : Cursor) : Scan Unit := modify fun layout => { layout with cursor }

def add (token : Token) : Scan Unit :=
  modify fun layout => { layout with tokens := layout.tokens ++ [token] }

def addSign (token : Token) (length : Nat) : Scan Unit := do
  goTo ((← cursor).skip length)
  add token

def allowKey (keyAllowed : Bool) : Scan Unit := modify fun layout => { layout with keyAllowed }

def inBrackets : Scan Bool := return 0 < (← get).depth

/-- How many blocks end in front of a column, and the block that stays innermost with those
around it. -/
def unwound (column : Int) : Int → List Int → Nat × Int × List Int
  | indent, [] => (0, indent, [])
  | indent, next :: outer =>
    if column < indent then
      match unwound column next outer with
      | (count, indent, outer) => (count + 1, indent, outer)
    else (0, indent, next :: outer)

def unwind (column : Int) : Scan Unit := do
  if !(← inBrackets) then
    modify fun layout =>
      match unwound column layout.indent layout.outer with
      | (count, indent, outer) =>
        { layout with
          indent, outer, tokens := layout.tokens ++ List.replicate count .blockEnd }

/-- Starts a block if a column stands further to the right than the innermost one; its token gets
the given place. -/
def indentTo (column : Nat) (place : Nat) (token : Token) : Scan Unit :=
  modify fun layout =>
    if layout.indent < (column : Int) then
      { layout with
        indent := column
        outer := layout.indent :: layout.outer
        tokens := layout.tokens.insertIdx place token }
    else layout

def dropStale : Scan Unit := do
  let layout ← get
  let isStale := fun (entry : Nat × Candidate) =>
    entry.2.line ≠ layout.cursor.line || 1024 < layout.cursor.index - entry.2.index
  if layout.candidates.any fun entry => isStale entry && entry.2.required then refuse .missingColon
  else
    set { layout with candidates := layout.candidates.filter fun entry => !isStale entry }

def dropCandidate : Scan Unit := do
  let layout ← get
  match layout.candidates.lookup layout.depth with
  | none => pure ()
  | some candidate =>
    if candidate.required then refuse .missingColon
    else
      set { layout with candidates := layout.candidates.filter (·.1 ≠ layout.depth) }

def saveCandidate : Scan Unit := do
  if (← get).keyAllowed then do
    dropCandidate
    modify fun layout =>
      let here := layout.cursor
      let candidate : Candidate :=
        ⟨layout.tokens.length, layout.depth = 0 && layout.indent = here.column, here.index,
          here.line, here.column⟩
      { layout with candidates := (layout.depth, candidate) :: layout.candidates }

/-! ## One token -/

/-- The end of the document, a directive or a mark between documents ends all blocks. -/
def leaveBlocks : Scan Unit := do
  unwind (-1)
  dropCandidate
  allowKey false

def openBracket (token : Token) : Scan Unit := do
  saveCandidate
  modify fun layout => { layout with depth := layout.depth + 1 }
  allowKey true
  addSign token 1

def closeBracket (token : Token) : Scan Unit := do
  dropCandidate
  if !(← inBrackets) then refuse .missingContent
  modify fun layout => { layout with depth := layout.depth - 1 }
  allowKey false
  addSign token 1

/-- A sign outside of brackets starts an item, a key or a value, and may start a block. -/
def openBlock (token : Token) (fault : Fault) : Scan Unit := do
  let layout ← get
  if layout.depth = 0 then do
    if !layout.keyAllowed then refuse fault
    indentTo layout.cursor.column layout.tokens.length token

def item : Scan Unit := do
  openBlock .blockSequence .itemPlace
  allowKey true
  dropCandidate
  addSign .item 1

def key : Scan Unit := do
  openBlock .blockMapping .keyPlace
  allowKey !(← inBrackets)
  dropCandidate
  addSign .key 1

/-- A colon in front of a value, which tells that a key stands in front of it. -/
def value : Scan Unit := do
  let layout ← get
  match layout.candidates.lookup layout.depth with
  | some candidate => do
    set
      { layout with
        candidates := layout.candidates.filter (·.1 ≠ layout.depth)
        tokens := layout.tokens.insertIdx candidate.place .key }
    if layout.depth = 0 then indentTo candidate.column candidate.place .blockMapping
    allowKey false
  | none => do
    openBlock .blockMapping .valuePlace
    allowKey !(← inBrackets)
    dropCandidate
  addSign .value 1

/-- A token that is read by a reader of its own and may start a key. -/
def word {α : Type} (read : Cursor → Outcome (α × Cursor)) (token : α → Token) : Scan Unit := do
  saveCandidate
  allowKey false
  let (word, behind) ← liftM (read (← cursor))
  goTo behind
  add (token word)

def quoted (quote : Char) : Scan Unit :=
  word (quotedText quote) fun s => .text false (String.ofList s)

def block (folded : Bool) : Scan Unit := do
  allowKey true
  dropCandidate
  let (s, behind) ← liftM (blockText folded (← get).indent (← cursor))
  goTo behind
  add (.text false (String.ofList s))

def plain : Scan Unit := do
  saveCandidate
  let read := plainText (← inBrackets) ((← get).indent + 1) (← cursor)
  allowKey read.ended
  goTo read.cursor
  add (.text true (String.ofList read.text))

def startsPlain (flow : Bool) (c : Char) (next : Option Char) : Bool :=
  if c = '-' then !endsWord next
  else if c = '?' || c = ':' then !flow && !endsWord next
  else !isGap c && !isBreak c && !(",[]\x7b\x7d#&*!|>'\"%@`".toList.contains c)

/-- The token that starts with a character; the flag says that it stands inside brackets. -/
def tokenAt (c : Char) (flow : Bool) (here : Cursor) : Scan Unit :=
  let stands := flow || endsWord here.second
  if c = '%' && here.column = 0 then do
    leaveBlocks
    let (value, behind) ← liftM (directive here)
    goTo behind
    add (.directive value)
  else if here.column = 0 && here.hasWord "---" then do
    leaveBlocks
    addSign .documentStart 3
  else if here.column = 0 && here.hasWord "..." then do
    leaveBlocks
    addSign .documentEnd 3
  else if c = '[' then openBracket .openSequence
  else if c = '\x7b' then openBracket .openMapping
  else if c = ']' then closeBracket .closeSequence
  else if c = '\x7d' then closeBracket .closeMapping
  else if c = ',' then do
    allowKey true
    dropCandidate
    addSign .comma 1
  else if c = '-' && endsWord here.second then item
  else if c = '?' && stands then key
  else if c = ':' && stands then value
  else if c = '*' then word nameBehind .alias
  else if c = '&' then word nameBehind .anchor
  else if c = '!' then word tagWord .tag
  else if c = '|' && !flow then block false
  else if c = '>' && !flow then block true
  else if c = '\'' || c = '"' then quoted c
  else if startsPlain flow c here.second then plain
  else refuse .badStart

def next : Scan Bool := do
  let here ← cursor
  let (ended, here) :=
    (if here.index = 0 && here.peek = some orderMark then here.step else here).toContent
  goTo here
  let flow ← inBrackets
  if ended && !flow then allowKey true
  dropStale
  unwind here.column
  match here.peek with
  | none => do
    leaveBlocks
    add .finish
    return false
  | some c => do
    tokenAt c flow here
    return true

def all : Nat → Scan Unit
  | 0 => pure ()
  | fuel + 1 => do if ← next then all fuel

end Scan

/-- The tokens of a document. The last one tells that the document ends, or why it cannot be
read further. -/
def tokensOf (s : List Char) : List Token :=
  if !s.all isAllowed then [.broken (.refused .badCharacter)]
  else
    let start := Layout.start s
    match (Scan.all (start.cursor.bound + 1)).run start with
    | (.ok _, layout) => layout.tokens
    | (.error trouble, layout) => layout.tokens ++ [.broken trouble]

end DeviceScript.Document
