import DeviceScript.Document.Fault

/-!
# Places in a document

A cursor is the rest of a document with the line and the column at which it starts. Four
characters end a line; one of them stands for the usual one.
-/

namespace DeviceScript.Document

/-! ## Characters -/

def isBreak (c : Char) : Bool := c = '\n' || c = '\x85' || c = '\u2028' || c = '\u2029'

def isGap (c : Char) : Bool := c = ' ' || c = '\t'

def breakText (c : Char) : Char := if c = '\x85' then '\n' else c

def orderMark : Char := '\ufeff'

def endsLine : Option Char → Bool
  | none => true
  | some c => isBreak c

/-- A space, the end of a line or the end of the document stands here. -/
def endsPiece : Option Char → Bool
  | none => true
  | some c => c = ' ' || isBreak c

/-- A space, a tab, the end of a line or the end of the document stands here. -/
def endsWord : Option Char → Bool
  | none => true
  | some c => isGap c || isBreak c

def flowMarks : List Char := [',', '[', ']', '\x7b', '\x7d']

def isAllowed (c : Char) : Bool :=
  c = '\t' || c = '\n' || c = '\x85' || (' ' ≤ c && c ≤ '~') ||
    (0xa0 ≤ c.toNat && c.toNat ≤ 0xfffd) || 0x10000 ≤ c.toNat

def digitValue? (c : Char) : Option Nat :=
  if '0' ≤ c ∧ c ≤ '9' then some (c.toNat - '0'.toNat)
  else if 'a' ≤ c ∧ c ≤ 'f' then some (c.toNat - 'a'.toNat + 10)
  else if 'A' ≤ c ∧ c ≤ 'F' then some (c.toNat - 'A'.toNat + 10)
  else none

def hexadecimal? (characters : List Char) : Option Nat :=
  characters.foldlM (fun number c => (digitValue? c).map (number * 16 + ·)) 0

/-! ## Cursors -/

/-- Where the reading of a document stands. -/
structure Cursor where
  rest : List Char
  index : Nat
  line : Nat
  column : Nat
  deriving Inhabited

namespace Cursor

def start (s : List Char) : Cursor := ⟨s, 0, 0, 0⟩

def peek (c : Cursor) : Option Char := c.rest.head?

def second (c : Cursor) : Option Char := c.rest[1]?

def step (cursor : Cursor) : Cursor :=
  match cursor.rest with
  | [] => cursor
  | c :: rest =>
    if isBreak c then ⟨rest, cursor.index + 1, cursor.line + 1, 0⟩
    else
      ⟨rest, cursor.index + 1, cursor.line,
        if c = orderMark then cursor.column else cursor.column + 1⟩

def skip (c : Cursor) : Nat → Cursor
  | 0 => c
  | n + 1 => c.step.skip n

/-- The longest piece of characters with a property, and the cursor behind it. -/
def takeWhile (c : Cursor) (test : Char → Bool) : List Char × Cursor :=
  let piece := c.rest.takeWhile test
  (piece, c.skip piece.length)

def dropWhile (c : Cursor) (test : Char → Bool) : Cursor := (c.takeWhile test).2

def pastSpaces (c : Cursor) : Cursor := c.dropWhile (· = ' ')

def pastComment (cursor : Cursor) : Cursor :=
  if cursor.peek = some '#' then cursor.dropWhile fun c => !isBreak c else cursor

/-- The end of a line if it is here, as it stands in a text, and the cursor behind it. -/
def lineBreak (cursor : Cursor) : List Char × Cursor :=
  match cursor.peek with
  | some c => if isBreak c then ([breakText c], cursor.step) else ([], cursor)
  | none => ([], cursor)

def hasWord (c : Cursor) (word : String) : Bool :=
  word.toList.isPrefixOf c.rest && endsWord c.rest[word.length]?

def atMark (c : Cursor) : Bool := c.hasWord "---" || c.hasWord "..."

def bound (c : Cursor) : Nat := c.rest.length + 1

/-- Goes past lines that hold nothing; `ended` tells whether a line has ended before. -/
def pastIdleLines : Nat → Bool → Cursor → Bool × Cursor
  | 0, ended, c => (ended, c)
  | fuel + 1, ended, c =>
    match c.pastSpaces.pastComment.lineBreak with
    | ([], c) => (ended, c)
    | (_, c) => pastIdleLines fuel true c

/-- Goes past spaces, comments and ends of lines up to the next piece of the document, and tells
whether a line has ended. -/
def toContent (c : Cursor) : Bool × Cursor := pastIdleLines c.bound false c

/-- The cursor behind the rest of a line that may hold nothing but spaces and a comment. -/
def pastIdleLine (c : Cursor) (fault : Fault) : Outcome Cursor :=
  let c := c.pastSpaces.pastComment
  if endsLine c.peek then .ok c.lineBreak.2 else refuse fault

end Cursor

end DeviceScript.Document
