import DeviceScript.Document.Pen
import DeviceScript.Document.Reading
import DeviceScript.Value.Show

/-!
# Writing settings documents

A value is written as the document that is read back as it: lists and tuples become sequences,
and the keys of a mapping are put in order if they can be ordered. Mappings and sequences are
written as blocks. A text stands without quotes where it would be read back as that text. What is
no number, text, truth value, moment, run of bytes, list, set or mapping cannot be written.
-/

namespace DeviceScript.Document

/-! ## The nodes of a value -/

inductive Unwritable where
  | value (v : Value)
  | failure (e : Failure)

def insertSorted (entry : Value × Value) :
    List (Value × Value) → Except Failure (List (Value × Value))
  | [] => .ok [entry]
  | other :: others => do
    if ← Value.ordered .less entry.1 other.1 then return entry :: other :: others
    else return other :: (← insertSorted entry others)

/-- The entries in the order of their keys, or as they are if the keys have no order. -/
def sorted (entries : List (Value × Value)) : List (Value × Value) :=
  match entries.foldrM insertSorted [] with
  | .ok sorted => sorted
  | .error _ => entries

/-- The text of a number with a fraction, which has a point even before an exponent. -/
def realText (x : Float) : String :=
  match Number.floatText x with
  | "inf" => ".inf"
  | "-inf" => "-.inf"
  | "nan" => ".nan"
  | s =>
    if s.contains '.' || !s.contains 'e' then s
    else
      let characters := s.toList
      String.ofList (characters.takeWhile (· ≠ 'e') ++ ".0".toList ++
        characters.dropWhile (· ≠ 'e'))

def sixtyFourDigit (n : Nat) : Char :=
  if n < 26 then Char.ofNat ('A'.toNat + n)
  else if n < 52 then Char.ofNat ('a'.toNat + (n - 26))
  else if n < 62 then Char.ofNat ('0'.toNat + (n - 52))
  else if n = 62 then '+'
  else '/'

def sixtyFourDigits : List UInt8 → List Char
  | a :: b :: c :: rest =>
    let number := (a.toNat * 256 + b.toNat) * 256 + c.toNat
    [sixtyFourDigit (number / 262144), sixtyFourDigit (number / 4096 % 64),
      sixtyFourDigit (number / 64 % 64), sixtyFourDigit (number % 64)] ++ sixtyFourDigits rest
  | [a, b] =>
    let number := (a.toNat * 256 + b.toNat) * 4
    [sixtyFourDigit (number / 4096), sixtyFourDigit (number / 64 % 64),
      sixtyFourDigit (number % 64), '=']
  | [a] => [sixtyFourDigit (a.toNat / 4), sixtyFourDigit (a.toNat % 4 * 16), '=', '=']
  | [] => []

def lineBytes : Nat := 57

def bytesText : Nat → List UInt8 → List Char
  | 0, _ => []
  | fuel + 1, bytes =>
    if bytes.isEmpty then []
    else
      sixtyFourDigits (bytes.take lineBytes) ++ '\n' :: bytesText fuel (bytes.drop lineBytes)

mutual

def nodeOf : Value → Except Unwritable Node
  | .none => .ok (.scalar .null "null")
  | .bool flag => .ok (.scalar .bool (if flag then "true" else "false"))
  | .int n =>
    match wholeText n with
    | .ok s => .ok (.scalar .int s)
    | .error e => .error (.failure e)
  | .float x => .ok (.scalar .float (realText x))
  | .undefined _ => .ok (.scalar .float (realText Number.notANumber))
  | .text s => .ok (.scalar .str s)
  | .moment moment => .ok (.scalar .timestamp moment.render)
  | .bytes (.bytes bytes) => .ok (.scalar .binary (String.ofList (bytesText bytes.length bytes)))
  | .list vs => do return .sequence .seq (← nodesOf vs)
  | .tuple vs => do return .sequence .seq (← nodesOf vs)
  | .set vs => do
    return .mapping .set ((← nodesOf vs).map fun key => (key, .scalar .null "null"))
  | .dict entries => do return .mapping .map (← entryNodes entries)
  | v => .error (.value v)

def nodesOf : List Value → Except Unwritable (List Node)
  | [] => .ok []
  | v :: vs => do
    let first ← nodeOf v
    return first :: (← nodesOf vs)

def entryNodes : List (Value × Value) → Except Unwritable (List (Node × Node))
  | [] => .ok []
  | (key, v) :: entries => do
    let key ← nodeOf key
    let v ← nodeOf v
    return (key, v) :: (← entryNodes entries)

end

/-- The value with the entries of all its mappings, and the items of all its sets, in order. -/
def arranged : Nat → Value → Value
  | 0, v => v
  | fuel + 1, v =>
    match v with
    | .list vs => .list (vs.map (arranged fuel))
    | .tuple vs => .tuple (vs.map (arranged fuel))
    | .set vs => .set ((sorted (vs.map fun v => (v, .none))).map (·.1))
    | .dict entries =>
      .dict ((sorted entries).map fun entry => (arranged fuel entry.1, arranged fuel entry.2))
    | v => v

mutual

def depthOf : Value → Nat
  | .list vs | .tuple vs => depthOfAll vs + 1
  | .dict entries => depthOfEntries entries + 1
  | _ => 1

def depthOfAll : List Value → Nat
  | [] => 0
  | v :: vs => max (depthOf v) (depthOfAll vs)

def depthOfEntries : List (Value × Value) → Nat
  | [] => 0
  | (key, v) :: entries => max (max (depthOf key) (depthOf v)) (depthOfEntries entries)

end

/-! ## Styles -/

/-- How a scalar is written. -/
inductive Style where
  | plain
  | single
  | double
  | block
  deriving DecidableEq

/-- The first character of a text keeps it from standing without quotes. -/
def marksStart : List Char → Bool
  | [] => false
  | c :: rest =>
    "#,[]\x7b\x7d&*!|>'\"%@`".toList.contains c ||
      ((c = '?' || c = ':' || c = '-') && endsWord rest.head?)

/-- A colon at the end of a word, or a number sign at the start of one, keeps a text from standing
without quotes. The flag says that a word starts here. -/
def marksWithin : (wordStart : Bool) → List Char → Bool
  | _, [] => false
  | wordStart, c :: rest =>
    (c = ':' && endsWord rest.head?) || (c = '#' && wordStart) ||
      marksWithin (isGap c || isBreak c) rest

def startsWithMark (s : List Char) : Bool :=
  "---".toList.isPrefixOf s || "...".toList.isPrefixOf s

def standsPlain (s : List Char) : Bool :=
  s.all (fun c => ' ' ≤ c && c ≤ '~') && s.head? ≠ some ' ' && s.getLast? ≠ some ' ' &&
    !startsWithMark s && !marksStart s && !marksWithin false s

def hasLooseSpace : List Char → Bool
  | a :: b :: rest =>
    (a = ' ' && b = '\n') || (a = '\n' && b = ' ') || hasLooseSpace (b :: rest)
  | _ => false

def standsSingle (s : List Char) : Bool :=
  s.all (fun c => c = '\n' || (' ' ≤ c && c ≤ '~')) && !hasLooseSpace s

/-- The style of a scalar; the flag says that it is a key on the line of its value. -/
def styleOf (tag : Tag) (simple : Bool) (s : String) : Style :=
  let characters := s.toList
  if tag = .binary then (if characters.isEmpty then .double else .block)
  else if formOf s = tag && standsPlain characters && !(simple && characters.isEmpty) then .plain
  else if standsSingle characters && !(simple && characters.contains '\n') then .single
  else .double

def tagText (tag : Tag) : String :=
  "!!" ++ String.ofList (tag.name.toList.drop Tag.knownStart.length)

def longestKey : Nat := 127

def isSimpleKey : Node → Bool
  | .scalar tag s =>
    (tagText tag).length + s.length ≤ longestKey && !s.isEmpty && !s.toList.any isBreak
  | .sequence _ xs => xs.isEmpty
  | .mapping _ entries => entries.isEmpty

/-! ## Nodes -/

inductive Role where
  | root
  | item
  | part
  | simpleKey
  deriving DecidableEq

def deeper : Option Nat → Nat
  | none => 0
  | some indent => indent + Pen.blockIndent

def textColumn (indent : Option Nat) : Nat := indent.getD 0 + Pen.blockIndent

def writeScalar (role : Role) (indent : Option Nat) (tag : Tag) (s : String) (pen : Pen) : Pen :=
  let column := textColumn indent
  let split := role ≠ .simpleKey
  match styleOf tag (role = .simpleKey) s with
  | .plain => pen.plain column split s.toList
  | .single => pen.single column split s.toList
  | .double =>
    (if tag = .str then pen else pen.sign (tagText tag) true false).double column split s.toList
  | .block =>
    ((pen.sign (tagText tag) true false).sign "|" true false).endLine.blockLines column
      (Text.splitChar '\n' s.toList).dropLast

def writeTag (tag : Tag) (pen : Pen) : Pen :=
  if tag = .map then pen else pen.sign (tagText tag) true false

mutual

def writeNode (role : Role) (indent : Option Nat) : Node → Pen → Pen
  | .scalar tag s, pen => writeScalar role indent tag s pen
  | .sequence _ [], pen => (pen.sign "[" true false).sign "]" false false
  | .sequence _ (item :: xs), pen =>
    let inner := if role = .part && !pen.leading then indent.getD 0 else deeper indent
    writeItems inner xs
      (writeNode .item (some inner) item ((pen.goTo inner).sign "-" true true))
  | .mapping tag [], pen =>
    ((writeTag tag pen).sign "\x7b" true false).sign "\x7d" false false
  | .mapping tag (entry :: entries), pen =>
    let inner := deeper indent
    writeEntries inner entries (writeEntry inner entry (writeTag tag pen))

def writeItems (column : Nat) : List Node → Pen → Pen
  | [], pen => pen
  | item :: xs, pen =>
    writeItems column xs
      (writeNode .item (some column) item ((pen.goTo column).sign "-" true true))

def writeEntry (column : Nat) : Node × Node → Pen → Pen
  | (key, v), pen =>
    let pen := pen.goTo column
    if isSimpleKey key then
      writeNode .part (some column) v
        ((writeNode .simpleKey (some column) key pen).sign ":" false false)
    else
      let pen := writeNode .part (some column) key (pen.sign "?" true true)
      writeNode .part (some column) v ((pen.goTo column).sign ":" true true)

def writeEntries (column : Nat) : List (Node × Node) → Pen → Pen
  | [], pen => pen
  | entry :: entries, pen => writeEntries column entries (writeEntry column entry pen)

end

/-- The document with a root. A lone scalar without quotes is followed by the mark that ends a
document. -/
def render (root : Node) : String :=
  let pen := (writeNode .root none root Pen.start).goTo 0
  let lone : Bool :=
    match root with
    | .scalar tag s => styleOf tag false s = .plain
    | _ => false
  (if lone then (pen.sign "..." true false).goTo 0 else pen).text

def write (v : Value) : Except Unwritable String := do
  return render (← nodeOf (arranged (depthOf v) v))

end DeviceScript.Document
