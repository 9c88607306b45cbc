import DeviceScript.Document.Cursor

/-!
# Texts in a document

A text stands in a document without quotes, in quotes of one of two sorts, or as a block of lines
of its own. The end of a line inside a text counts as a space where lines are joined, and an empty
line as the end of a line. Every reader here starts at the first character of its text and gives
the text with the cursor behind it.
-/

namespace DeviceScript.Document

/-- What one end of a line and further ones stand for where lines are joined. -/
def joined (first further : List Char) : List Char :=
  if first ≠ ['\n'] then first ++ further
  else if further.isEmpty then [' ']
  else further

/-! ## Without quotes -/

/-- The longest word without quotes at the start. Inside brackets it ends with the marks of the
bracket, too. -/
def plainWord (flow : Bool) : List Char → List Char
  | [] => []
  | c :: rest =>
    let divides : Bool :=
      match rest.head? with
      | none => true
      | some next => isGap next || isBreak next || (flow && flowMarks.contains next)
    if isGap c || isBreak c || (c = ':' && divides) ||
        (flow && (c = '?' || flowMarks.contains c)) then []
    else c :: plainWord flow rest

/-- What stands between two words without quotes; it is empty if the text ends here. -/
structure WordGap where
  text : List Char
  ended : Bool
  cursor : Cursor

/-- The ends of further lines and the spaces between them; nothing if a mark between documents
stands behind one of them. -/
def furtherBreaks : Nat → List Char → Cursor → Option (List Char) × Cursor
  | 0, breaks, c => (some breaks, c)
  | fuel + 1, breaks, c =>
    match c.pastSpaces.lineBreak with
    | ([], c) => (some breaks, c)
    | (ended, c) =>
      if c.atMark then (none, c) else furtherBreaks fuel (breaks ++ ended) c

def wordGap (c : Cursor) : WordGap :=
  let (spaces, behind) := c.takeWhile (· = ' ')
  match behind.lineBreak with
  | ([], _) => ⟨spaces, false, behind⟩
  | (first, next) =>
    if next.atMark then ⟨[], true, next⟩
    else
      match furtherBreaks next.bound [] next with
      | (none, c) => ⟨[], true, c⟩
      | (some further, c) => ⟨joined first further, true, c⟩

structure PlainText where
  text : List Char
  /-- The text ends with the end of a line. -/
  ended : Bool
  cursor : Cursor

/-- Goes on with a text without quotes, behind a gap. Outside of brackets it ends at a line that
starts in front of the column `indent`. -/
def plainFrom (flow : Bool) (indent : Int) : Nat → PlainText → List Char → PlainText
  | 0, sofar, _ => sofar
  | fuel + 1, sofar, gap =>
    let word := plainWord flow sofar.cursor.rest
    if sofar.cursor.peek = some '#' || word.isEmpty then sofar
    else
      let next := wordGap (sofar.cursor.skip word.length)
      let sofar := ⟨sofar.text ++ gap ++ word, next.ended, next.cursor⟩
      if next.text.isEmpty || next.cursor.peek = some '#' ||
          (!flow && (next.cursor.column : Int) < indent) then sofar
      else plainFrom flow indent fuel sofar next.text

def plainText (flow : Bool) (indent : Int) (c : Cursor) : PlainText :=
  plainFrom flow indent c.bound ⟨[], false, c⟩ []

/-! ## In quotes -/

/-- The ends of further lines in a text in quotes, and the gaps between them. -/
def quotedBreaks : Nat → List Char → Cursor → Outcome (List Char × Cursor)
  | 0, breaks, c => .ok (breaks, c)
  | fuel + 1, breaks, c =>
    if c.atMark then refuse .markInQuote
    else
      match (c.dropWhile isGap).lineBreak with
      | ([], c) => .ok (breaks, c)
      | (ended, c) => quotedBreaks fuel (breaks ++ ended) c

/-- A gap in a text in quotes: it stays as it is, unless a line ends in it. -/
def quotedGap (c : Cursor) : Outcome (List Char × Cursor) :=
  let (gap, behind) := c.takeWhile isGap
  match behind.lineBreak with
  | ([], _) => if behind.rest.isEmpty then refuse .unclosedQuote else .ok (gap, behind)
  | (first, next) => do
    let (further, c) ← quotedBreaks next.bound [] next
    return (joined first further, c)

/-- The characters that one letter behind a backslash stands for. -/
def escapes : List (Char × Nat) :=
  [('0', 0), ('a', 7), ('b', 8), ('t', 9), ('\t', 9), ('n', 10), ('v', 11), ('f', 12), ('r', 13),
    ('e', 27), (' ', 32), ('"', 34), ('\\', 92), ('/', 47), ('N', 0x85), ('_', 0xa0),
    ('L', 0x2028), ('P', 0x2029)]

def escapeLength : Char → Option Nat
  | 'x' => some 2
  | 'u' => some 4
  | 'U' => some 8
  | _ => none

def characterOf (number : Nat) : Outcome Char :=
  if 0x80000000 ≤ number then
    failWith (.raised .overflow "Python int too large to convert to C int")
  else if 0x110000 ≤ number then
    failWith (.raised .badValue "chr() arg not in range(0x110000)")
  else .ok (Char.ofNat number)

/-- What an escape stands for; the cursor stands behind the backslash. -/
def escaped (c : Cursor) : Outcome (List Char × Cursor) :=
  match c.peek with
  | none => refuse .badEscape
  | some mark =>
    match escapes.lookup mark, escapeLength mark with
    | some code, _ => .ok ([Char.ofNat code], c.step)
    | none, some length =>
      let digits := c.step.rest.take length
      match hexadecimal? digits with
      | none => refuse .badEscape
      | some number =>
        if digits.length < length then refuse .badEscape
        else do return ([← characterOf number], c.step.skip length)
    | none, none =>
      if isBreak mark then quotedBreaks c.bound [] c.lineBreak.2
      else refuse .badEscape

def quotedFrom (quote : Char) : Nat → List Char → Cursor → Outcome (List Char × Cursor)
  | 0, _, _ => refuse .unclosedQuote
  | fuel + 1, sofar, cursor =>
    match cursor.peek with
    | none => refuse .unclosedQuote
    | some c =>
      if c = quote then
        if quote = '\'' && cursor.second = some quote then
          quotedFrom quote fuel (sofar ++ [quote]) (cursor.skip 2)
        else .ok (sofar, cursor.step)
      else if c = '\\' && quote = '"' then do
        let (piece, cursor) ← escaped cursor.step
        quotedFrom quote fuel (sofar ++ piece) cursor
      else if isGap c || isBreak c then do
        let (gap, cursor) ← quotedGap cursor
        quotedFrom quote fuel (sofar ++ gap) cursor
      else quotedFrom quote fuel (sofar ++ [c]) cursor.step

/-- A text in quotes; the cursor stands at the first of them. -/
def quotedText (quote : Char) (c : Cursor) : Outcome (List Char × Cursor) :=
  quotedFrom quote c.bound [] c.step

/-! ## Blocks of text -/

/-- What happens to the ends of lines behind a block of text. -/
inductive Ending where
  | one
  | strip
  | keep
  deriving DecidableEq

def ending? : Char → Option Ending
  | '+' => some .keep
  | '-' => some .strip
  | _ => none

/-- What the first line of a block of text says. -/
structure BlockHeader where
  ending : Ending
  increment : Option Nat

def incrementOf (cursor : Cursor) : Outcome (Option Nat × Cursor) :=
  match cursor.peek with
  | none => .ok (none, cursor)
  | some c =>
    if c = '0' then refuse .badHeader
    else if c.isDigit then .ok (some (c.toNat - '0'.toNat), cursor.step)
    else .ok (none, cursor)

def endingOf (c : Cursor) : Option Ending × Cursor :=
  match c.peek.bind ending? with
  | some ending => (some ending, c.step)
  | none => (none, c)

def blockHeader (c : Cursor) : Outcome (BlockHeader × Cursor) := do
  let (first, c) := endingOf c
  let (increment, c) ← incrementOf c
  let (last, c) := if first.isNone && increment.isSome then endingOf c else (none, c)
  if !endsPiece c.peek then refuse .badHeader
  else return (⟨(first.or last).getD .one, increment⟩, c)

/-- The empty lines in front of a block of text, and the largest number of spaces in front of
anything up to its first line. -/
def blockStart : Nat → List Char → Nat → Cursor → List Char × Nat × Cursor
  | 0, breaks, widest, c => (breaks, widest, c)
  | fuel + 1, breaks, widest, c =>
    let behind := c.pastSpaces
    let widest := if behind.index = c.index then widest else max widest behind.column
    match behind.lineBreak with
    | ([], c) => (breaks, widest, c)
    | (ended, c) => blockStart fuel (breaks ++ ended) widest c

def Cursor.toColumn (c : Cursor) (indent : Nat) : Cursor :=
  c.skip (min (indent - c.column) (c.rest.takeWhile (· = ' ')).length)

def blockBreaks (indent : Nat) : Nat → List Char → Cursor → List Char × Cursor
  | 0, breaks, c => (breaks, c)
  | fuel + 1, breaks, c =>
    match (c.toColumn indent).lineBreak with
    | ([], c) => (breaks, c)
    | (ended, c) => blockBreaks indent fuel (breaks ++ ended) c

/-- A block of text as far as it is read: its lines, the end of the last of them, and the empty
lines behind it. -/
structure BlockText where
  text : List Char
  last : List Char
  breaks : List Char
  cursor : Cursor

def BlockText.goesOn (block : BlockText) (indent : Nat) : Bool :=
  block.cursor.column = indent && !block.cursor.rest.isEmpty

/-- What stands for the end of a line between two lines of a block. In a folded block it is a
space, or nothing in front of empty lines, unless one of the lines is indented further. -/
def lineEnd (folded : Bool) (line : List Char) (block : BlockText) : List Char :=
  let flush := fun (c : Option Char) => !(c.any isGap)
  if folded && block.last = ['\n'] && flush line.head? && flush block.cursor.peek then
    if block.breaks.isEmpty then [' '] else []
  else block.last

def blockLines (folded : Bool) (indent : Nat) : Nat → BlockText → BlockText
  | 0, block => block
  | fuel + 1, block =>
    if !block.goesOn indent then block
    else
      let (line, behind) := block.cursor.takeWhile fun c => !isBreak c
      let (last, next) := behind.lineBreak
      let (breaks, cursor) := blockBreaks indent next.bound [] next
      let after : BlockText := ⟨block.text ++ block.breaks ++ line, last, breaks, cursor⟩
      if after.goesOn indent then
        blockLines folded indent fuel
          { after with text := after.text ++ lineEnd folded line after }
      else after

/-- A block of text below an indentation; the cursor stands at its sign. -/
def blockText (folded : Bool) (outer : Int) (c : Cursor) : Outcome (List Char × Cursor) := do
  let (header, c) ← blockHeader c.step
  let c ← c.pastIdleLine .badHeader
  let least := max (outer + 1).toNat 1
  let (indent, breaks, c) :=
    match header.increment with
    | none =>
      let (breaks, widest, c) := blockStart c.bound [] 0 c
      (max least widest, breaks, c)
    | some increment =>
      let indent := least + increment - 1
      (indent, blockBreaks indent c.bound [] c)
  let block := blockLines folded indent c.bound ⟨[], [], breaks, c⟩
  let tail :=
    match header.ending with
    | .strip => []
    | .one => block.last
    | .keep => block.last ++ block.breaks
  return (block.text ++ tail, block.cursor)

end DeviceScript.Document
