import DeviceScript.Pattern.Basic
import DeviceScript.Text.Blank
import DeviceScript.Text.Digit
import DeviceScript.Text.LowerCase

/-!
# Where patterns match

`ends` lists the positions at which a match that starts at a given position can end, the
preferred one first. A repetition does not go on after a round that took no character.
-/

namespace DeviceScript.Pattern

open DeviceScript.Text

/-! ## Characters -/

/-- Letters that count as one letter when case is ignored, although neither is the lower case
of the other; the first of each list stands for all. -/
def sameLetters : List (List Nat) :=
  [[0x69, 0x131], [0x73, 0x17f], [0xb5, 0x3bc], [0x345, 0x3b9, 0x1fbe], [0x390, 0x1fd3],
    [0x3b0, 0x1fe3], [0x3b2, 0x3d0], [0x3b5, 0x3f5], [0x3b8, 0x3d1], [0x3ba, 0x3f0],
    [0x3c0, 0x3d6], [0x3c1, 0x3f1], [0x3c2, 0x3c3], [0x3c6, 0x3d5], [0x432, 0x1c80],
    [0x434, 0x1c81], [0x43e, 0x1c82], [0x441, 0x1c83], [0x442, 0x1c84, 0x1c85],
    [0x44a, 0x1c86], [0x463, 0x1c87], [0x1c88, 0xa64b], [0x1e61, 0x1e9b], [0xfb05, 0xfb06]]

/-- The first character of the lower case of a character. -/
def lowered (c : Char) : Char := ((lowerCase (String.singleton c)).toList.head?).getD c

/-- What two characters share exactly if they count as one when case is ignored. -/
def caseKey (c : Char) : Nat :=
  let n := (lowered c).toNat
  match sameLetters.find? fun letters => letters.contains n with
  | some letters => letters.headD n
  | none => n

def rangeHasKey (first last : Nat) (key : Nat) : Bool :=
  (List.range' first (last + 1 - first)).any fun n => caseKey (Char.ofNat n) == key

def inClass (ignoreCase : Bool) (c : Char) : CharClass → Bool
  | .single d => if ignoreCase then caseKey c == caseKey d else c == d
  | .range first last =>
    (first ≤ c && c ≤ last) ||
      (ignoreCase && rangeHasKey first.toNat last.toNat (caseKey c))
  | .digit negated => (decimalValue? c).isSome != negated
  | .word negated => (isAlphanumeric c || c == '_') != negated
  | .blank negated => isBlank c != negated

/-! ## Positions -/

def charAt (s : Array Char) (pos : Nat) : Option Char := s[pos]?

def isWordAt (s : Array Char) (pos : Nat) : Bool :=
  match charAt s pos with
  | some c => isAlphanumeric c || c == '_'
  | none => false

def atWordEdge (s : Array Char) (pos : Nat) : Bool :=
  (0 < pos && isWordAt s (pos - 1)) != isWordAt s pos

def here (condition : Bool) (pos : Nat) : List Nat := if condition then [pos] else []

/-! ## Repetitions -/

/-- The ends of up to `most` rounds, of which `least` must be taken. A round that takes no
character is the last. -/
def rounds (body : Nat → List Nat) (greedy : Bool) :
    Nat → Nat → Option Nat → Nat → List Nat
  | 0, least, _, pos => here (least = 0) pos
  | bound + 1, least, most, pos =>
    let stop := here (least = 0) pos
    let more :=
      if most = some 0 then []
      else
        (body pos).flatMap fun next =>
          if next = pos then [pos]
          else rounds body greedy bound (least - 1) (most.map (· - 1)) next
    (if greedy then more ++ stop else stop ++ more).eraseDups

/-! ## Patterns -/

mutual

/-- The positions at which a match can end, the preferred one first. -/
def ends (flags : PatternFlags) (s : Array Char) : Pattern → Nat → List Nat
  | .one negated classes, pos =>
    match charAt s pos with
    | some c =>
      if (classes.any (inClass flags.ignoreCase c)) != negated then [pos + 1] else []
    | none => []
  | .any, pos =>
    match charAt s pos with
    | some c => if c ≠ '\n' || flags.dotAll then [pos + 1] else []
    | none => []
  | .lineStart, pos =>
    here (pos = 0 || (flags.multiline && charAt s (pos - 1) == some '\n')) pos
  | .lineEnd, pos =>
    here (pos = s.size ||
      (pos + 1 = s.size && charAt s pos == some '\n') ||
      (flags.multiline && charAt s pos == some '\n')) pos
  | .textStart, pos => here (pos = 0) pos
  | .textEnd, pos => here (pos = s.size) pos
  | .wordEdge negated, pos =>
    here (!s.isEmpty && atWordEdge s pos != negated) pos
  | .sequence parts, pos => endsAll flags s parts pos
  | .choice options, pos => endsAny flags s options pos
  | .repetition least most eagerness body, pos =>
    let found := rounds (fun p => ends flags s body p) (eagerness ≠ .reluctant)
      (s.size + least + 1) least most pos
    if eagerness = .possessive then found.take 1 else found
  | .ahead negated body, pos =>
    here ((ends flags s body pos).isEmpty == negated) pos
  | .atomic body, pos => (ends flags s body pos).take 1
  | .group body, pos => ends flags s body pos

def endsAll (flags : PatternFlags) (s : Array Char) : List Pattern → Nat → List Nat
  | [], pos => [pos]
  | part :: parts, pos =>
    ((ends flags s part pos).flatMap fun next => endsAll flags s parts next).eraseDups

def endsAny (flags : PatternFlags) (s : Array Char) : List Pattern → Nat → List Nat
  | [], _ => []
  | option :: options, pos =>
    ends flags s option pos ++ endsAny flags s options pos

end

def occursIn (pattern : Pattern) (flags : PatternFlags) (s : String) : Bool :=
  let chars := s.toList.toArray
  (List.range (chars.size + 1)).any fun start => !(ends flags chars pattern start).isEmpty

end DeviceScript.Pattern
