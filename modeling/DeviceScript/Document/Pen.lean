import DeviceScript.Document.Passage

/-!
# The pen that writes a document

A document is written piece by piece. The pen knows the column it has reached, whether a space
stands in front of it, and whether nothing but indentation and the signs of blocks stands on its
line. Texts in quotes, and long ones without quotes, are broken into lines at single spaces.
-/

namespace DeviceScript.Document

/-- Where the writing of a document stands. -/
structure Pen where
  /-- What is written, the last piece first. -/
  written : List (List Char)
  column : Nat
  /-- A space or the start of a line stands in front. -/
  spaced : Bool
  /-- Nothing but indentation and the signs of blocks stands on the line. -/
  leading : Bool

namespace Pen

def start : Pen := ⟨[], 0, true, true⟩

def text (pen : Pen) : String := String.ofList pen.written.reverse.flatten

def blockIndent : Nat := 2

def widest : Nat := 80

def put (piece : List Char) (pen : Pen) : Pen :=
  { pen with written := piece :: pen.written, column := pen.column + piece.length }

/-- The pen does not stand behind a space, nor at the start of a line. -/
def settled (pen : Pen) : Pen := { pen with spaced := false, leading := false }

def endLine (pen : Pen) : Pen := ⟨['\n'] :: pen.written, 0, true, true⟩

def endLines (pen : Pen) : Nat → Pen
  | 0 => pen
  | n + 1 => pen.endLine.endLines n

/-- Writes a sign, with a space in front of it if it needs one. A sign of a block keeps the line
at its start. -/
def sign (sign : String) (needsSpace ofBlock : Bool) (pen : Pen) : Pen :=
  let piece := if pen.spaced || !needsSpace then sign.toList else ' ' :: sign.toList
  { pen.put piece with spaced := false, leading := pen.leading && ofBlock }

def goTo (indent : Nat) (pen : Pen) : Pen :=
  let pen :=
    if !pen.leading || indent < pen.column || (pen.column = indent && !pen.spaced) then pen.endLine
    else pen
  if pen.column < indent then
    { pen.put (List.replicate (indent - pen.column) ' ') with spaced := true }
  else pen

/-! ## Texts without quotes -/

/-- The text in words and runs of spaces, from the front. -/
def runsOf (text : List Char) : List (List Char) := text.splitBy fun a b => (a = ' ') = (b = ' ')

def plainRuns (indent : Nat) (split : Bool) : List (List Char) → Pen → Pen
  | [], pen => pen
  | run :: runs, pen =>
    if run = [' '] && widest < pen.column && split then
      plainRuns indent split runs (pen.goTo indent).settled
    else plainRuns indent split runs (pen.put run)

def plain (indent : Nat) (split : Bool) (text : List Char) (pen : Pen) : Pen :=
  if text.isEmpty then pen
  else plainRuns indent split (runsOf text) ((if pen.spaced then pen else pen.put [' ']).settled)

/-! ## Texts in quotes -/

/-- The text in pieces of spaces, of ends of lines, and of other characters. -/
def piecesOf (text : List Char) : List (List Char) :=
  text.splitBy fun a b => (a = ' ') = (b = ' ') && (a = '\n') = (b = '\n')

/-- Writes pieces of a text in single quotes; the flag says that the first one starts the text. -/
def singlePieces (indent : Nat) (split : Bool) : (first : Bool) → List (List Char) → Pen → Pen
  | _, [], pen => pen
  | first, piece :: pieces, pen =>
    let pen :=
      if piece = [' '] && widest < pen.column && split && !first && !pieces.isEmpty then
        pen.goTo indent
      else if piece.head? = some '\n' then (pen.endLines (piece.length + 1)).goTo indent
      else pen.put (piece.flatMap fun c => if c = '\'' then [c, c] else [c])
    singlePieces indent split false pieces pen

def single (indent : Nat) (split : Bool) (text : List Char) (pen : Pen) : Pen :=
  (singlePieces indent split true (piecesOf text) (pen.sign "'" true false)).sign "'" false false

def escapeLetters : List (Char × Nat) :=
  escapes.filter fun entry => !(['\t', ' ', '/'].contains entry.1)

def hexDigits (width n : Nat) : List Char :=
  let digits := (Nat.toDigits 16 n).map Char.toUpper
  List.replicate (width - digits.length) '0' ++ digits

/-- A character that does not stand for itself in double quotes; nothing for one that does. -/
def escape? (c : Char) : Option (List Char) :=
  match escapeLetters.find? fun entry => entry.2 = c.toNat with
  | some (letter, _) => some ['\\', letter]
  | none =>
    if ' ' ≤ c && c ≤ '~' then none
    else if c.toNat < 0x100 then some ('\\' :: 'x' :: hexDigits 2 c.toNat)
    else if c.toNat < 0x10000 then some ('\\' :: 'u' :: hexDigits 4 c.toNat)
    else some ('\\' :: 'U' :: hexDigits 8 c.toNat)

/-- Writes a text in double quotes from a character on: `held` are the characters in front of it
that are not yet written, and `first` says that it starts the text. A line is broken in front of
a space, or where nothing is held, unless the last character comes next. -/
def doubleFrom (indent : Nat) (split : Bool) : (first : Bool) → (held : List Char) → List Char →
    Pen → Pen
  | _, held, [], pen => pen.put held
  | first, held, c :: rest, pen =>
    let breaks := fun (column : Nat) => !first && !rest.isEmpty && split && widest < column
    let turn := fun (next : Option Char) (pen : Pen) =>
      let pen := (pen.goTo indent).settled
      if next = some ' ' then pen.put ['\\'] else pen
    match escape? c with
    | some escape =>
      let pen := (pen.put held).put escape
      let pen :=
        if breaks (pen.column - 1) then turn rest.head? (pen.put ['\\']) else pen
      doubleFrom indent split false [] rest pen
    | none =>
      if (c = ' ' || held.isEmpty) && breaks (pen.column + held.length) then
        doubleFrom indent split false [c] rest (turn (some c) (pen.put (held ++ ['\\'])))
      else doubleFrom indent split false (held ++ [c]) rest pen

def double (indent : Nat) (split : Bool) (text : List Char) (pen : Pen) : Pen :=
  (doubleFrom indent split true [] text (pen.sign "\"" true false)).sign "\"" false false

/-! ## Blocks of text -/

def blockLines (indent : Nat) : List (List Char) → Pen → Pen
  | [], pen => pen
  | line :: lines, pen => blockLines indent lines ((pen.goTo indent).put line).endLine

end Pen

end DeviceScript.Document
