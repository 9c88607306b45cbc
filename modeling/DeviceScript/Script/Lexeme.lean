import DeviceScript.Script.Token
import DeviceScript.Text.Blank
import DeviceScript.Text.Digit

/-!
# Reading tokens from a script

The text of a script becomes a list of lexemes, each a token with the line and the place that
reading had reached after it, and an ending: the text is used up, or a place at which no token
can be read. Blanks and comments stand between tokens. A line break inside a string does not
advance the line count.
-/

namespace DeviceScript.Script

open DeviceScript.Text

inductive LexicalFault where
  | unclosedString
  | illegalCharacter (c : Char)
  deriving DecidableEq

/-- A token with the line and the number of characters read when it was complete. -/
structure Lexeme where
  token : Token
  line : Nat
  stop : Nat
  deriving DecidableEq, Inhabited

/-- How reading ends, and where. After an unclosed string there is no place any more. -/
inductive Ending where
  | finished (line stop : Nat)
  | broken (fault : LexicalFault) (line : Nat) (stop : Option Nat)
  deriving DecidableEq, Inhabited

def Ending.line : Ending → Nat
  | .finished line _ => line
  | .broken _ line _ => line

/-- A script as its lexemes and the way reading ended. -/
structure Source where
  lexemes : List Lexeme
  ending : Ending
  deriving DecidableEq, Inhabited

/-- What stands at the start of a text: something to pass over, a token with the rest of the
text, or a fault. -/
inductive Start where
  | pass (lines : Nat) (rest : List Char)
  | token (token : Token) (rest : List Char)
  | fault (fault : LexicalFault)
  | finish

/-- The text up to the closing quote and what follows the quote. -/
def closeString? (s : List Char) : Option (List Char × List Char) :=
  match s.dropWhile (· ≠ '"') with
  | [] => none
  | _ :: rest => some (s.takeWhile (· ≠ '"'), rest)

def isNumberPart (c : Char) : Bool := isDigit c || c == '.'

def isWordStart (c : Char) : Bool := isLetter c || c == '_'

/-- The sign at the start of a text, two characters long if possible. -/
def readSign? (c : Char) (rest : List Char) : Option (Token × List Char) :=
  let single := (signKind? c).map fun k => (⟨k, String.singleton c⟩, rest)
  match rest with
  | [] => single
  | second :: others =>
    match pairKind? c second with
    | some k => some (⟨k, String.ofList [c, second]⟩, others)
    | none => single

def readStart : List Char → Start
  | [] => .finish
  | c :: rest =>
    if c = '\n' then .pass 1 rest
    else if isBlank c then .pass 0 rest
    else if c = '#' then .pass 0 (rest.dropWhile (· ≠ '\n'))
    else if c = '"' then
      match closeString? rest with
      | some (content, others) => .token ⟨.string, String.ofList content⟩ others
      | none => .fault .unclosedString
    else if isDigit c then
      .token ⟨.number, String.ofList (c :: rest.takeWhile isNumberPart)⟩
        (rest.dropWhile isNumberPart)
    else
      match readSign? c rest with
      | some (token, others) => .token token others
      | none =>
        if isWordStart c then
          let word := String.ofList (c :: rest.takeWhile isWordPart)
          .token ⟨wordKind word, word⟩ (rest.dropWhile isWordPart)
        else .fault (.illegalCharacter c)

def Source.cons (lexeme : Lexeme) (source : Source) : Source :=
  { source with lexemes := lexeme :: source.lexemes }

/-- Reads a text of at most `fuel` characters, of which `line` and `stop` tell what was read
before it. -/
def scan : (fuel line stop : Nat) → List Char → Source
  | 0, line, stop, _ => ⟨[], .finished line stop⟩
  | fuel + 1, line, stop, s =>
    match readStart s with
    | .finish => ⟨[], .finished line stop⟩
    | .pass lines rest => scan fuel (line + lines) (stop + (s.length - rest.length)) rest
    | .token token rest =>
      let reached := stop + (s.length - rest.length)
      Source.cons ⟨token, line, reached⟩ (scan fuel line reached rest)
    | .fault .unclosedString => ⟨[], .broken .unclosedString line none⟩
    | .fault fault => ⟨[], .broken fault line (some stop)⟩

def Source.ofText (s : String) : Source :=
  scan (s.length + 1) 1 0 s.toList

def Source.tokens (source : Source) : List Token := source.lexemes.map (·.token)

def Source.current (source : Source) : Token :=
  match source.lexemes with
  | [] => Token.finish
  | lexeme :: _ => lexeme.token

def Source.line (source : Source) : Nat :=
  match source.lexemes with
  | [] => source.ending.line
  | lexeme :: _ => lexeme.line

/-- The fault that stands where the current token should, if there is one. -/
def Source.fault? (source : Source) : Option LexicalFault :=
  match source.lexemes, source.ending with
  | [], .broken fault _ _ => some fault
  | _, _ => none

/-- Goes on to the next token; the end of the text is never left. -/
def Source.advance (source : Source) : Source := { source with lexemes := source.lexemes.tail }

end DeviceScript.Script
