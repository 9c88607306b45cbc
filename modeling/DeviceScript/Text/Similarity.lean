import DeviceScript.Number.Binary64

/-!
# Similarity of texts

Two texts are compared by the longest piece that they share, then by what lies to the left and
to the right of it, and so on. Twice the number of shared characters over the number of all
characters is the similarity. In a long second text, characters that occur very often do not
start a shared piece.
-/

namespace DeviceScript.Text

/-- From this length on, very frequent characters of the second text are passed over. -/
def longLength : Nat := 200

/-- The character occurs too often in the text to start a shared piece. -/
def isFrequent (s : List Char) (c : Char) : Bool :=
  longLength ≤ s.length && s.length / 100 + 1 < s.count c

/-- A piece shared by two texts: where it starts in each, and its length. -/
structure Shared where
  left : Nat
  right : Nat
  size : Nat
  deriving DecidableEq, Inhabited

/-- The lengths of the shared pieces that end at a character of the left text and at each
character of the right one, from the lengths one character earlier. -/
def nextRow (counts : Char → Bool) (c : Char) : List Char → List Nat → List Nat
  | d :: right, before :: row =>
    (if c = d && counts d then before + 1 else 0) :: nextRow counts c right row
  | _, _ => []

/-- The better of a piece and those that end in the given row; the earlier one wins. -/
def bestOfRow (leftEnd : Nat) : Nat → List Nat → Shared → Shared
  | _, [], best => best
  | rightEnd, size :: row, best =>
    bestOfRow leftEnd (rightEnd + 1) row
      (if best.size < size then ⟨leftEnd + 1 - size, rightEnd + 1 - size, size⟩ else best)

def bestOfRows (counts : Char → Bool) (right : List Char) :
    Nat → List Char → List Nat → Shared → Shared
  | _, [], _, best => best
  | leftEnd, c :: left, row, best =>
    let row := nextRow counts c right (0 :: row)
    bestOfRows counts right (leftEnd + 1) left row (bestOfRow leftEnd 0 row best)

def commonStart : List Char → List Char → Nat
  | c :: left, d :: right => if c = d then commonStart left right + 1 else 0
  | _, _ => 0

/-- The longest shared piece that is made of characters that count, extended on both sides by
whatever the texts have in common there. -/
def longestShared (counts : Char → Bool) (left right : List Char) : Shared :=
  let best := bestOfRows counts right 0 left (right.map fun _ => 0) ⟨0, 0, 0⟩
  let back :=
    commonStart (left.take best.left).reverse (right.take best.right).reverse
  let front := commonStart (left.drop (best.left + best.size)) (right.drop (best.right + best.size))
  ⟨best.left - back, best.right - back, best.size + back + front⟩

/-- How many characters two texts share; the bound is on the depth of the division. -/
def sharedCount (counts : Char → Bool) : Nat → List Char → List Char → Nat
  | 0, _, _ => 0
  | bound + 1, left, right =>
    let shared := longestShared counts left right
    if shared.size = 0 then 0
    else
      shared.size + sharedCount counts bound (left.take shared.left) (right.take shared.right) +
        sharedCount counts bound (left.drop (shared.left + shared.size))
          (right.drop (shared.right + shared.size))

def nearest (x : Float) : Nat :=
  let low := ((Number.floor? x).getD 0).toNat
  let rest := x - low.toFloat
  if rest < 0.5 then low
  else if 0.5 < rest then low + 1
  else if low % 2 = 0 then low else low + 1

def similarity (left right : String) : Nat :=
  if left = right then 100
  else if left = "" ∨ right = "" then 0
  else
    let a := left.toList
    let b := right.toList
    let shared := sharedCount (fun c => !isFrequent b c) (a.length + 1) a b
    nearest (100.0 * (2.0 * shared.toFloat / (a.length + b.length).toFloat))

end DeviceScript.Text
