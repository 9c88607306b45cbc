/-!
# Patterns

A pattern describes pieces of a text: single characters from a set, positions, sequences,
choices and repetitions. How a pattern is written is read in `Pattern.Reading`, and where it
matches is decided in `Pattern.Matching`.
-/

namespace DeviceScript

/-- A part of a set of characters. -/
inductive CharClass where
  | single (c : Char)
  | range (first last : Char)
  | digit (negated : Bool)
  | word (negated : Bool)
  | blank (negated : Bool)
  deriving DecidableEq, Inhabited

/-- How a repetition chooses between more and fewer rounds. -/
inductive Eagerness where
  | greedy
  | reluctant
  /-- Takes as many rounds as it can and never gives one back. -/
  | possessive
  deriving DecidableEq, Inhabited

inductive Pattern where
  /-- One character that is in the set, or is not in it. -/
  | one (negated : Bool) (classes : List CharClass)
  /-- Any character; line breaks only where these are not special. -/
  | any
  | lineStart
  | lineEnd
  | textStart
  | textEnd
  | wordEdge (negated : Bool)
  | sequence (parts : List Pattern)
  | choice (options : List Pattern)
  | repetition (least : Nat) (most : Option Nat) (eagerness : Eagerness) (body : Pattern)
  /-- What follows matches, or does not match. -/
  | ahead (negated : Bool) (body : Pattern)
  /-- The first way in which the body matches, and no other. -/
  | atomic (body : Pattern)
  | group (body : Pattern)
  deriving Inhabited

/-- What is set for a whole pattern. -/
structure PatternFlags where
  ignoreCase : Bool
  multiline : Bool
  dotAll : Bool
  deriving DecidableEq, Inhabited

def PatternFlags.plain : PatternFlags := ⟨false, false, false⟩

end DeviceScript
