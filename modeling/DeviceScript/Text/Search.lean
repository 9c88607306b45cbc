import DeviceScript.Text.Blank

/-!
# Searching and cutting text

Operations on character lists that the rest of the library shares: the place of the first
occurrence of a piece, replacement of every occurrence, and cutting at a separator.
-/

namespace DeviceScript.Text

/-- The text before the first occurrence of `piece` and the text after it. -/
def cutAt? (piece : List Char) : List Char → Option (List Char × List Char)
  | [] => if piece.isEmpty then some ([], []) else none
  | c :: rest =>
    if piece.isPrefixOf (c :: rest) then some ([], (c :: rest).drop piece.length)
    else (cutAt? piece rest).map fun parts => (c :: parts.1, parts.2)

def hasPiece (piece s : String) : Bool := (cutAt? piece.toList s.toList).isSome

/-- Cuts the text at every separator character; there is one part more than separators. -/
def splitChar (separator : Char) : List Char → List (List Char)
  | [] => [[]]
  | c :: rest =>
    match splitChar separator rest with
    | [] => [[]]
    | part :: parts => if c == separator then [] :: part :: parts else (c :: part) :: parts

/-- Replaces every occurrence of a piece, from left to right, by another text. The first
argument counts the characters of the current occurrence that are still to be skipped. -/
def replaceFrom (piece by_ : List Char) : Nat → List Char → List Char
  | _, [] => []
  | skip + 1, _ :: rest => replaceFrom piece by_ skip rest
  | 0, c :: rest =>
    if !piece.isEmpty && piece.isPrefixOf (c :: rest) then
      by_ ++ replaceFrom piece by_ (piece.length - 1) rest
    else c :: replaceFrom piece by_ 0 rest

def replaceAll (piece by_ s : String) : String :=
  String.ofList (replaceFrom piece.toList by_.toList 0 s.toList)

def join (separator : String) : List String → String
  | [] => ""
  | [last] => last
  | first :: rest => first ++ separator ++ join separator rest

end DeviceScript.Text
