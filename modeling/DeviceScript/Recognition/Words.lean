import DeviceScript.Calling.Operation
import DeviceScript.Pattern.Matching
import DeviceScript.Pattern.Reading
import DeviceScript.Text.Similarity
import DeviceScript.Value.Arithmetic

/-!
# Finding words that were read in a picture

The result of reading a picture is a list of groups of words; a word is its corners and its
text. A word is found by its text, and what is found is the middle between its first and its
third corner, rounded down.
-/

namespace DeviceScript.Words

open DeviceScript.Text

def textOf (word : Value) : Except Failure Value := do
  (← word.index (.int 1)).index (.int 0)

def corner (box : Value) (number axis : Int) : Except Failure Value := do
  (← box.index (.int number)).index (.int axis)

def middle (box : Value) (axis : Int) : Except Failure Value := do
  ((← corner box 0 axis).add (← corner box 2 axis)) >>= Value.half

def center (word : Value) : Except Failure (Value × Value) := do
  let box ← word.index (.int 0)
  return (← middle box 0, ← middle box 1)

def firstOf (test : Value → Except Failure Bool) : List Value → Except Failure (Option Value)
  | [] => .ok none
  | word :: words => do
    if ← test (← textOf word) then return some word else firstOf test words

def firstInGroups (test : Value → Except Failure Bool) :
    List Value → Except Failure (Option Value)
  | [] => .ok none
  | group :: groups => do
    match ← firstOf test (← group.items) with
    | some word => return some word
    | none => firstInGroups test groups

/-- The first word in reading order whose text passes a test. -/
def first (test : Value → Except Failure Bool) (result : Value) :
    Except Failure (Option Value) := do
  firstInGroups test (← result.items)

def lowered : Value → Except Failure String
  | .text s => .ok (lowerCase s)
  | v => .error (.noAttribute v.typeName "lower")

def exact (result target : Value) : Except Failure (Option Value) :=
  first (fun s => .ok (s.equal target)) result

/-- The first word that the target is a part of, without regard to case. -/
def containing (result target : Value) : Except Failure (Option Value) :=
  first (fun s => do
    let target ← lowered target
    return hasPiece target (← lowered s)) result

/-- How similar two texts are; zero if they are not similar at all. -/
abbrev Measure := String → String → Nat

/-- The first of the words that are most similar to the target; `best` is the best so far. -/
def mostSimilar (measure : Measure) (target : Value) :
    List Value → Option Value × Nat → Except Failure (Option Value × Nat)
  | [], best => .ok best
  | word :: words, best => do
    let s ← textOf word
    let score := measure (← lowered target) (← lowered s)
    mostSimilar measure target words (if best.2 < score then (some word, score) else best)

def mostSimilarInGroups (measure : Measure) (target : Value) :
    List Value → Option Value × Nat → Except Failure (Option Value × Nat)
  | [], best => .ok best
  | group :: groups, best => do
    mostSimilarInGroups measure target groups
      (← mostSimilar measure target (← group.items) best)

/-- The first of the words that are most similar to the target, if they are similar at all. -/
def similar (measure : Measure) (result target : Value) : Except Failure (Option Value) := do
  let (word, _) ← mostSimilarInGroups measure target (← result.items) (none, 0)
  return word.filter Value.truthy

def matching (result pattern : Value) : Except Failure (Option Value) := do
  match pattern with
  | .text written =>
    match Pattern.ofText written with
    | .error fault => .error (.raised .pattern (fault.message written))
    | .ok (pattern, flags) =>
      first (fun s =>
        match s with
        | .text s => .ok (pattern.occursIn flags s)
        | v =>
          .error (.raised .operandType
            ("expected string or bytes-like object, got '" ++ v.typeName ++ "'"))) result
  | v =>
    match v.unhashable? with
    | some sort => .error (.unhashable sort)
    | none => .error (.raised .operandType "first argument must be string or compiled pattern")

/-- The middle of a word that was found as a new point, or nothing. -/
def point (found : Except Failure (Option Value)) : Act Value := do
  match ← Act.ofExcept found with
  | none => return .none
  | some word => do
    let (x, y) ← Act.ofExcept (center word)
    return .point (← Act.serial) x y

/-! ## Operations -/

def finder (name target : String) (find : Value → Value → Except Failure (Option Value)) :
    Operation where
  signature :=
    ⟨"", name, false, [.required "ocr_result" (some "list"), .required target (some "str")], none⟩
  action
    | [result, target] => point (find result target)
    | _ => return .none

def reader : Operation where
  signature :=
    ⟨"", "image_ocr", false,
      [.required "image" (some "Image"), .optional "lang" (some "str") (.text "ch")], none⟩
  action
    | [.image image, language] => do
      let hasBytes :=
        match image.data with
        | .raster _ => true
        | .bytes content => !content.isEmpty
      Act.request .recogniser "" [] [("use_angle_cls", .bool true), ("lang", language)]
      Act.request .recogniser ".ocr" [.bool hasBytes] [("cls", .bool true)]
      return (← get).surroundings.recognised
    | v :: _ => throw (.noAttribute v.typeName "image_bytes")
    | [] => return .none

def operations : List (String × Operation) :=
  [("ocr", reader), ("exact_match", finder "exact_match" "target" exact),
    ("simple_fuzzy_match", finder "simple_fuzzy_match" "target" containing),
    ("fuzzy_match", finder "fuzzy_match" "target" (similar similarity)),
    ("regex_match", finder "regex_match" "pattern" matching)]

end DeviceScript.Words
