import DeviceScript.Document.Passage
import DeviceScript.Text.Utf8

/-!
# Tokens of a document

Brackets, dashes, colons, names, tags and texts are tokens; so are the starts and ends of blocks,
which stand in a document only as indentation. This module has the tokens and reads those that
are written with a sign and a word.
-/

namespace DeviceScript.Document

/-- What a directive says about the document behind it. -/
inductive Directive where
  | version (major : Nat)
  | handle (handle start : String)
  | other
  deriving DecidableEq

/-- A tag as it is written: a handle that stands for the start of the tag, and the rest. -/
structure TagWord where
  handle : Option String
  rest : String
  deriving DecidableEq

inductive Token where
  | directive (directive : Directive)
  | documentStart
  | documentEnd
  | blockSequence
  | blockMapping
  | blockEnd
  | openSequence
  | closeSequence
  | openMapping
  | closeMapping
  | item
  | comma
  | key
  | value
  | alias (name : String)
  | anchor (name : String)
  | tag (word : TagWord)
  | text (plain : Bool) (text : String)
  | finish
  /-- Nothing can be read from here on. -/
  | broken (trouble : Trouble)
  deriving DecidableEq

/-! ## Names -/

def isNamePart (c : Char) : Bool := c.isAlphanum || c = '-' || c = '_'

def nameBehind (c : Cursor) : Outcome (String × Cursor) :=
  let (name, c) := c.step.takeWhile isNamePart
  let closed := endsWord c.peek || c.peek.any ("?:,]\x7d%@`".toList.contains ·)
  if name.isEmpty || !closed then refuse .badName else .ok (String.ofList name, c)

/-! ## Tags -/

def isTagPart (c : Char) : Bool :=
  c.isAlphanum || "-;/?:@&=+$,_.!~*'()[]".toList.contains c

def percentBytes : Nat → Cursor → Outcome (List UInt8 × Cursor)
  | 0, c => .ok ([], c)
  | fuel + 1, c =>
    if c.peek ≠ some '%' then .ok ([], c)
    else
      let digits := c.step.rest.take 2
      match hexadecimal? digits with
      | none => refuse .badTag
      | some number =>
        if digits.length < 2 then refuse .badTag
        else do
          let (bytes, c) ← percentBytes fuel (c.skip 3)
          return (UInt8.ofNat number :: bytes, c)

/-- The rest of a tag, in which percent signs stand for bytes. -/
def tagRest : Nat → List Char → Cursor → Outcome (List Char × Cursor)
  | 0, sofar, cursor => .ok (sofar, cursor)
  | fuel + 1, sofar, cursor =>
    match cursor.peek with
    | none => .ok (sofar, cursor)
    | some c =>
      if c = '%' then do
        let (bytes, cursor) ← percentBytes cursor.bound cursor
        match Text.decodeBytes bytes with
        | .ok s => tagRest fuel (sofar ++ s.toList) cursor
        | .error _ => refuse .badTag
      else if isTagPart c then tagRest fuel (sofar ++ [c]) cursor.step
      else .ok (sofar, cursor)

def tagPart (c : Cursor) : Outcome (String × Cursor) := do
  let (s, behind) ← tagRest c.bound [] c
  if behind.index = c.index then refuse .badTag else return (String.ofList s, behind)

/-- A handle, which stands between exclamation marks. -/
def tagHandle (c : Cursor) : Outcome (String × Cursor) :=
  if c.peek ≠ some '!' then refuse .badTag
  else if c.second = some ' ' then .ok ("!", c.step)
  else
    let (name, behind) := c.step.takeWhile isNamePart
    if behind.peek = some '!' then .ok ("!" ++ String.ofList name ++ "!", behind.step)
    else refuse .badTag

/-- A tag; the cursor stands at its exclamation mark. -/
def tagWord (cursor : Cursor) : Outcome (TagWord × Cursor) := do
  let (word, behind) ←
    if cursor.second = some '<' then do
      let (rest, behind) ← tagPart (cursor.skip 2)
      if behind.peek = some '>' then pure (⟨none, rest⟩, behind.step) else refuse .badTag
    else if endsWord cursor.second then pure (⟨none, "!"⟩, cursor.step)
    else do
      let word := cursor.step.rest.takeWhile fun c => !(c = ' ' || isBreak c)
      let (handle, behind) ←
        if word.contains '!' then tagHandle cursor else pure ("!", cursor.step)
      let (rest, behind) ← tagPart behind
      pure ((⟨some handle, rest⟩ : TagWord), behind)
  if endsPiece behind.peek then return (word, behind) else refuse .badTag

/-! ## Directives -/

def numberAt (cursor : Cursor) : Outcome (Nat × Cursor) :=
  let (digits, behind) := cursor.takeWhile Char.isDigit
  if digits.isEmpty then refuse .badDirective
  else .ok (digits.foldl (fun number c => number * 10 + (c.toNat - '0'.toNat)) 0, behind)

def directiveValue (name : String) (cursor : Cursor) : Outcome (Directive × Cursor) := do
  if name = "YAML" then do
    let (major, behind) ← numberAt cursor.pastSpaces
    if behind.peek ≠ some '.' then refuse .badDirective
    else do
      let (_, behind) ← numberAt behind.step
      if endsPiece behind.peek then return (.version major, behind) else refuse .badDirective
  else if name = "TAG" then do
    let (handle, behind) ← tagHandle cursor.pastSpaces
    if behind.peek ≠ some ' ' then refuse .badDirective
    else do
      let (start, behind) ← tagPart behind.pastSpaces
      if endsPiece behind.peek then return (.handle handle start, behind)
      else refuse .badDirective
  else return (.other, cursor.dropWhile fun c => !isBreak c)

/-- A directive, which fills a line; the cursor stands at its percent sign. -/
def directive (c : Cursor) : Outcome (Directive × Cursor) := do
  let (name, behind) := c.step.takeWhile isNamePart
  if name.isEmpty || !endsPiece behind.peek then refuse .badDirective
  else do
    let (v, behind) ← directiveValue (String.ofList name) behind
    return (v, ← behind.pastIdleLine .badDirective)

end DeviceScript.Document
