import DeviceScript.Pattern.Basic
import DeviceScript.Text.Digit

/-!
# Reading patterns

A pattern is written as a text in which some characters and all characters behind a backslash
have a meaning of their own. A text that is no pattern is refused with the reason and the
position at which it shows.
-/

namespace DeviceScript.Pattern

structure Fault where
  reason : String
  position : Nat
  deriving DecidableEq, Inhabited

/-- A character, or a character behind a backslash, with its position. -/
structure Piece where
  escaped : Bool
  char : Char
  position : Nat
  deriving DecidableEq, Inhabited

def Piece.text (piece : Piece) : String :=
  (if piece.escaped then "\\" else "") ++ String.singleton piece.char

/-- The pieces of a text; a backslash at its very end is told by its position. -/
def pieces (position : Nat) : List Char → List Piece × Option Nat
  | [] => ([], none)
  | ['\\'] => ([], some position)
  | '\\' :: c :: rest =>
    let (more, broken) := pieces (position + 2) rest
    (⟨true, c, position⟩ :: more, broken)
  | c :: rest =>
    let (more, broken) := pieces (position + 1) rest
    (⟨false, c, position⟩ :: more, broken)

structure State where
  rest : List Piece
  /-- The position of a backslash at the very end. -/
  broken : Option Nat
  length : Nat
  flags : PatternFlags
  deriving Inhabited

abbrev Read := ExceptT Fault (StateM State)

def position : Read Nat := do
  let state ← get
  return (state.rest.head?.map (·.position)).getD state.length

def refuse {α : Type} (reason : String) (position : Nat) : Read α := throw ⟨reason, position⟩

/-- Refuses a backslash at the very end once all in front of it has been read. -/
def checkEnd : Read Unit := do
  let state ← get
  match state.rest, state.broken with
  | [], some position => refuse "bad escape (end of pattern)" position
  | _, _ => return ()

def peek : Read (Option Piece) := return (← get).rest.head?

def sees (c : Char) : Read Bool := do
  match ← peek with
  | some piece => return !piece.escaped && piece.char == c
  | none => return false

def skip : Read Unit := do
  modify fun state => { state with rest := state.rest.tail }
  checkEnd

def accept (c : Char) : Read Bool := do
  if ← sees c then do
    skip
    return true
  else return false

def digits : Nat → Read (List Char)
  | 0 => return []
  | bound + 1 => do
    match ← peek with
    | some piece =>
      if !piece.escaped && piece.char.isDigit then do
        skip
        return piece.char :: (← digits bound)
      else return []
    | none => return []

/-! ## Characters behind a backslash -/

def classOf? : Char → Option CharClass
  | 'd' => some (.digit false)
  | 'D' => some (.digit true)
  | 'w' => some (.word false)
  | 'W' => some (.word true)
  | 's' => some (.blank false)
  | 'S' => some (.blank true)
  | _ => none

def controlOf? : Char → Option Char
  | 'a' => some '\x07'
  | 'f' => some '\x0c'
  | 'n' => some '\n'
  | 'r' => some '\r'
  | 't' => some '\t'
  | 'v' => some '\x0b'
  | '0' => some '\x00'
  | _ => none

def hexDigit? (c : Char) : Option Nat :=
  if c.isDigit then some (c.toNat - '0'.toNat)
  else if 'a' ≤ c ∧ c ≤ 'f' then some (c.toNat - 'a'.toNat + 10)
  else if 'A' ≤ c ∧ c ≤ 'F' then some (c.toNat - 'A'.toNat + 10)
  else none

def hexCount? : Char → Option Nat
  | 'x' => some 2
  | 'u' => some 4
  | 'U' => some 8
  | _ => none

def hexadecimal : Nat → Nat → Read (Option Nat)
  | 0, v => return some v
  | count + 1, v => do
    match ← peek with
    | some piece =>
      match if piece.escaped then none else hexDigit? piece.char with
      | some digit => do
        skip
        hexadecimal count (16 * v + digit)
      | none => return none
    | none => return none

/-- Letters of the alphabet and digits, which have no meaning behind a backslash unless they
are given one. -/
def isPlainLetter (c : Char) : Bool := c.isAlpha || c.isDigit

def escapedChar (piece : Piece) : Read Char := do
  match controlOf? piece.char, hexCount? piece.char with
  | some c, _ => return c
  | none, some count => do
    match ← hexadecimal count 0 with
    | some v => return Char.ofNat v
    | none => refuse ("incomplete escape " ++ piece.text) piece.position
  | none, none =>
    if isPlainLetter piece.char then refuse ("bad escape " ++ piece.text) piece.position
    else return piece.char

def escape (piece : Piece) : Read Pattern := do
  match classOf? piece.char with
  | some found => return .one false [found]
  | none =>
    match piece.char with
    | 'b' => return .wordEdge false
    | 'B' => return .wordEdge true
    | 'A' => return .textStart
    | 'Z' => return .textEnd
    | c =>
      if c.isDigit && c != '0' then
        refuse ("invalid group reference " ++ String.singleton c) (piece.position + 1)
      else return .one false [.single (← escapedChar piece)]

/-! ## Sets -/

def setItem (piece : Piece) : Read CharClass := do
  if piece.escaped then
    match classOf? piece.char with
    | some found => return found
    | none =>
      if piece.char = 'b' then return .single '\x08' else return .single (← escapedChar piece)
  else return .single piece.char

/-- Reads the items of a set up to its closing bracket; `start` is where the set begins. -/
def setItems (start : Nat) : Nat → Bool → List CharClass → Read (List CharClass)
  | 0, _, _ => refuse "unterminated character set" start
  | bound + 1, isFirst, done => do
    match ← peek with
    | none => refuse "unterminated character set" start
    | some piece =>
      if !piece.escaped && piece.char == ']' && !isFirst then do
        skip
        return done
      else do
        skip
        let low ← setItem piece
        if ← accept '-' then
          match ← peek with
          | none => refuse "unterminated character set" start
          | some last =>
            if !last.escaped && last.char == ']' then do
              skip
              return done ++ [low, .single '-']
            else do
              skip
              let high ← setItem last
              let shown := "bad character range " ++ piece.text ++ "-" ++ last.text
              match low, high with
              | .single first, .single final =>
                if final < first then refuse shown piece.position
                else setItems start bound false (done ++ [.range first final])
              | _, _ => refuse shown piece.position
        else setItems start bound false (done ++ [low])

def set (start : Nat) : Read Pattern := do
  let negated ← accept '^'
  let bound := (← get).rest.length + 1
  return .one negated (← setItems start bound true [])

/-! ## Repetitions -/

/-- The item can be repeated: positions cannot. -/
def isPosition : Pattern → Bool
  | .lineStart | .lineEnd | .textStart | .textEnd => true
  | .wordEdge _ => true
  | _ => false

/-- Reads the bounds behind an opening brace; nothing if the brace is an ordinary character. -/
def bounds (here : Nat) : Read (Option (Nat × Option Nat)) := do
  let saved ← get
  if ← sees '}' then return none
  else do
    let number := fun (chars : List Char) =>
      chars.foldl (fun n c => 10 * n + (c.toNat - '0'.toNat)) 0
    let low ← digits saved.rest.length
    let high ← (do if ← accept ',' then digits saved.rest.length else return low)
    if ← accept '}' then do
      let least := number low
      let most := if high.isEmpty then none else some (number high)
      if most.any (· < least) then refuse "min repeat greater than max repeat" here
      else return some (least, most)
    else do
      modify fun _ => saved
      return none

def repeatBounds (sign : Char) (here : Nat) : Read (Option (Nat × Option Nat)) :=
  match sign with
  | '?' => return some (0, some 1)
  | '*' => return some (0, none)
  | '+' => return some (1, none)
  | _ => bounds here

def repeatLast (least : Nat) (most : Option Nat) (start : Nat) :
    List Pattern → Read (List Pattern)
  | [] => refuse "nothing to repeat" start
  | .repetition .. :: _ => refuse "multiple repeat" start
  | item :: items => do
    if isPosition item then refuse "nothing to repeat" start
    else do
      let eagerness ← (do
        if ← accept '?' then return Eagerness.reluctant
        else if ← accept '+' then return .possessive
        else return .greedy)
      return .repetition least most eagerness item :: items

/-! ## Groups, sequences and choices -/

def isRepeatSign (c : Char) : Bool := c == '*' || c == '+' || c == '?' || c == '{'

def setFlag (flags : PatternFlags) : Char → Option PatternFlags
  | 'i' => some { flags with ignoreCase := true }
  | 'm' => some { flags with multiline := true }
  | 's' => some { flags with dotAll := true }
  | 'u' => some flags
  | _ => none

/-- Reads groups of flags at the very start of a pattern, as many as stand there, but at most the
given number. -/
def leadingFlags : Nat → Read Unit
  | 0 => return ()
  | bound + 1 => do
    let state ← get
    let plain := state.rest.map fun piece => if piece.escaped then '\\' else piece.char
    match plain with
    | '(' :: '?' :: rest =>
      let letters := rest.takeWhile (· != ')')
      match letters.foldlM setFlag state.flags with
      | some flags =>
        if letters ≠ [] ∧ letters.length < rest.length then do
          modify fun state => { state with rest := state.rest.drop (letters.length + 3), flags }
          checkEnd
          leadingFlags bound
      | none => return ()
    | _ => return ()

/-- What the characters behind an opening bracket make of a group. -/
inductive GroupKind where
  | plain
  | ahead (negated : Bool)
  | atomic
  deriving DecidableEq

def groupName : Nat → Read Unit
  | 0 => return ()
  | bound + 1 => do
    match ← peek with
    | some piece => do
      skip
      if piece.char = '>' then return () else groupName bound
    | none => refuse "missing >, unterminated name" (← position)

/-- Reads what stands behind an opening bracket; `start` is the position of the bracket. -/
def groupKind (start : Nat) : Read GroupKind := do
  if ← accept '?' then
    if ← accept ':' then return .plain
    else if ← accept '=' then return .ahead false
    else if ← accept '!' then return .ahead true
    else if ← accept '>' then return .atomic
    else if ← accept 'P' then do
      if ← accept '<' then do
        groupName (← get).rest.length
        return .plain
      else refuse "unknown extension ?P" (start + 1)
    else
      match ← peek with
      | some piece => refuse ("unknown extension ?" ++ piece.text) (start + 1)
      | none => refuse "unexpected end of pattern" (← position)
  else return .plain

def grouped (k : GroupKind) (body : Pattern) : Pattern :=
  match k with
  | .plain => .group body
  | .ahead negated => .ahead negated body
  | .atomic => .atomic body

mutual

def options : Nat → Read Pattern
  | 0 => refuse "unexpected end of pattern" 0
  | bound + 1 => do
    let first ← items bound []
    if ← accept '|' then
      match ← options bound with
      | .choice others => return .choice (first :: others)
      | other => return .choice [first, other]
    else return .choice [first]

/-- Reads items up to a bar, a closing bracket or the end; `done` holds what has been read, the
last item first. -/
def items : Nat → List Pattern → Read Pattern
  | 0, done => return .sequence done.reverse
  | bound + 1, done => do
    match ← peek with
    | none => return .sequence done.reverse
    | some piece =>
      if piece.escaped then do
        skip
        items bound ((← escape piece) :: done)
      else if piece.char = '|' || piece.char = ')' then return .sequence done.reverse
      else do
        skip
        if isRepeatSign piece.char then
          match ← repeatBounds piece.char (piece.position + 1) with
          | some (least, most) => items bound (← repeatLast least most piece.position done)
          | none => items bound (.one false [.single piece.char] :: done)
        else
          match piece.char with
          | '.' => items bound (.any :: done)
          | '^' => items bound (.lineStart :: done)
          | '$' => items bound (.lineEnd :: done)
          | '[' => items bound ((← set piece.position) :: done)
          | '(' => do
            let k ← groupKind piece.position
            let body ← options bound
            if ← accept ')' then items bound (grouped k body :: done)
            else refuse "missing ), unterminated subpattern" piece.position
          | c => items bound (.one false [.single c] :: done)

end

def whole : Read Pattern := do
  checkEnd
  leadingFlags (← get).rest.length
  let body ← options (2 * (← get).rest.length + 2)
  match ← peek with
  | some piece => refuse "unbalanced parenthesis" piece.position
  | none => return body

def ofText (text : String) : Except Fault (Pattern × PatternFlags) :=
  let (rest, broken) := pieces 0 text.toList
  let state : State := ⟨rest, broken, text.length, PatternFlags.plain⟩
  match whole.run.run state with
  | (.ok pattern, state) => .ok (pattern, state.flags)
  | (.error fault, _) => .error fault

def Fault.message (text : String) (fault : Fault) : String :=
  let plain := fault.reason ++ " at position " ++ toString fault.position
  if text.contains '\n' then
    let before := text.toList.take fault.position
    let line := before.count '\n' + 1
    let column := (before.reverse.takeWhile (· ≠ '\n')).length + 1
    plain ++ " (line " ++ toString line ++ ", column " ++ toString column ++ ")"
  else plain

end DeviceScript.Pattern
