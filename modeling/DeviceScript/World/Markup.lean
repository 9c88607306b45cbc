import DeviceScript.Text.LowerCase
import DeviceScript.Value.Arithmetic
import DeviceScript.World.Basic

/-!
# Coloured texts

Parts of a text are coloured by tags: a tag in angle brackets stands in front of a part, and the
same tag with a slash, or a slash alone, behind it. Tags have to be known and to be closed in the
order opposite to that of their opening. A backslash in front of a tag makes it plain text, and two
of them are one backslash. What is left without the tags is the plain text.
-/

namespace DeviceScript.Markup

/-! ## Tags -/

def colors : List String :=
  ["black", "red", "green", "yellow", "blue", "magenta", "cyan", "white"]

def colorLetters : List String := ["k", "r", "g", "y", "e", "m", "c", "w"]

/-- The names of the colours of letters, of which each colour has a light one. -/
def inks : List String :=
  colorLetters ++ colorLetters.map ("l" ++ ·) ++ colors ++ colors.map ("light-" ++ ·)

/-- A colour of the ground behind letters is written in capitals. -/
def capitals (name : String) : String :=
  String.ofList (name.toList.map fun c => if c = 'ı' then 'I' else c.toUpper)

def grounds : List String := inks.map capitals

def styles : List String :=
  ["b", "d", "n", "h", "i", "l", "s", "u", "v", "bold", "dim", "normal", "hide", "italic", "blink",
    "strike", "underline", "reverse", "lvl", "level"]

def isShade (s : String) : Except Failure Bool := do
  if Text.isDigits s then return (← (Value.text s).toWhole) ≤ 255 else return false

def areShades : List String → Except Failure Bool
  | [] => .ok true
  | s :: texts => do if ← isShade s then areShades texts else return false

def isHexColor (s : String) : Bool :=
  match s.toList with
  | '#' :: digits =>
    (digits.length = 3 || digits.length = 6) &&
      digits.all fun c => (Number.digitIn? 16 c).isSome
  | _ => false

/-- The text is a colour by number: one of a table, or one of red, green and blue. -/
def isNumbered (color : String) : Except Failure Bool := do
  if ← isShade color then return true
  else if isHexColor color then return true
  else
    let parts := (Text.splitChar ',' color.toList).map String.ofList
    if parts.length = 3 then areShades parts else return false

def isKnown (tag : String) : Except Failure Bool :=
  if (styles ++ inks ++ grounds).contains tag then .ok true
  else
    match tag.toList with
    | 'f' :: 'g' :: ' ' :: color =>
      let color := String.ofList color
      if inks.contains (Text.lowerCase color) then .ok true else isNumbered color
    | 'b' :: 'g' :: ' ' :: color =>
      let color := String.ofList color
      if grounds.contains (capitals color) then .ok true else isNumbered color
    | _ => .ok false

inductive Fault where
  | unknown (tag : String)
  | misnested (tag : String)
  | unopened (tag : String)
  | unclosed (tag : String)
  deriving DecidableEq, Inhabited

def Fault.message : Fault → String
  | .unknown tag =>
    "Tag \"<" ++ tag ++ ">\" does not correspond to any known color directive, " ++
      "make sure you did not misspelled it (or prepend '\\' to escape it)"
  | .misnested tag => "Closing tag \"</" ++ tag ++ ">\" violates nesting rules"
  | .unopened tag => "Closing tag \"</" ++ tag ++ ">\" has no corresponding opening tag"
  | .unclosed tag => "Opening tag \"<" ++ tag ++ ">\" has no corresponding closing tag"

/-! ## Pieces -/

inductive Piece where
  | plain (text : List Char)
  | opening (tag : String)
  | closing (tag : String)
  deriving DecidableEq, Inhabited

def Piece.written : Piece → List Char
  | .plain s => s
  | .opening tag => '<' :: tag.toList ++ ['>']
  | .closing tag => '<' :: '/' :: tag.toList ++ ['>']

def isTagChar (c : Char) : Bool := c != '<' && c != '>' && !Text.isBlank c

/-- The number of characters in front of a colour that say what it is for. -/
def leadLength : List Char → Nat
  | purpose :: 'g' :: blank :: _ =>
    if (purpose = 'f' || purpose = 'b') && Text.isBlank blank then 3 else 0
  | _ => 0

def tagLength (s : List Char) : Nat :=
  leadLength s + ((s.drop (leadLength s)).takeWhile isTagChar).length

/-- The tag that is closed by a bracket, with what follows. -/
def tag? (s : List Char) : Option (String × List Char) :=
  match s.drop (tagLength s) with
  | '>' :: rest => some (String.ofList (s.take (tagLength s)), rest)
  | _ => none

/-- The piece that an angle bracket starts, with what follows. -/
def mark? : List Char → Option (Piece × List Char)
  | '/' :: s => (tag? s).map fun (tag, rest) => (.closing tag, rest)
  | s => (tag? s).map fun (tag, rest) => (.opening tag, rest)

theorem length_lt_of_tag? {s rest : List Char} {tag : String}
    (h : tag? s = some (tag, rest)) : rest.length < s.length := by
  unfold tag? at h
  split at h
  · rename_i found
    have length := congrArg List.length found
    simp only [List.length_drop, List.length_cons] at length
    obtain ⟨_, rfl⟩ := h
    omega
  · simp at h

theorem length_lt_of_mark? {s rest : List Char} {piece : Piece}
    (h : mark? s = some (piece, rest)) : rest.length < s.length := by
  unfold mark? at h
  split at h
  all_goals
    obtain ⟨⟨tag, behind⟩, found, same⟩ := Option.map_eq_some_iff.1 h
    have shorter := length_lt_of_tag? found
    obtain ⟨_, rfl⟩ := same
    simp only [List.length_cons] at *
    omega

/-- The pieces of a text; `slashes` backslashes stand in front of it. -/
def pieces (slashes : Nat) (s : List Char) : List Piece :=
  let held := fun (count : Nat) => List.replicate count '\\'
  match s with
  | [] => [.plain (held slashes)]
  | '\\' :: rest => pieces (slashes + 1) rest
  | '<' :: rest =>
    match h : mark? rest with
    | some (piece, behind) =>
      have : behind.length < rest.length := length_lt_of_mark? h
      let mark := if slashes % 2 = 1 then Piece.plain piece.written else piece
      .plain (held (slashes / 2)) :: mark :: pieces 0 behind
    | none => .plain (held slashes ++ ['<']) :: pieces 0 rest
  | c :: rest => .plain (held slashes ++ [c]) :: pieces 0 rest
termination_by s.length

/-- The text of pieces without their tags; `opened` are the tags that are not yet closed, the last
one first. -/
def stripped (opened : List String) : List Piece → Except Failure (List Char)
  | [] =>
    match opened.getLast? with
    | some tag => .error (.raised .badValue (Fault.unclosed tag).message)
    | none => .ok []
  | .plain s :: rest => do return s ++ (← stripped opened rest)
  | .opening tag :: rest => do
    if ← isKnown tag then stripped (tag :: opened) rest
    else .error (.raised .badValue (Fault.unknown tag).message)
  | .closing tag :: rest =>
    match opened with
    | last :: others =>
      if tag = "" || tag = last then stripped others rest
      else if opened.contains tag then .error (.raised .badValue (Fault.misnested tag).message)
      else .error (.raised .badValue (Fault.unopened tag).message)
    | [] => .error (.raised .badValue (Fault.unopened tag).message)

def strip (s : String) : Except Failure String := do
  return String.ofList (← stripped [] (pieces 0 s.toList))

end DeviceScript.Markup

namespace DeviceScript

/-- Writes a coloured text to the log. Its tags are read even if the record is not kept. -/
def Act.logColored (level : Level) (s : String) : Act Unit := do
  Act.log level (← Act.ofExcept (Markup.strip s))

end DeviceScript
