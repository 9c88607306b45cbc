import DeviceScript.Image.Raster
import DeviceScript.Number.Binary64

/-!
# Finding one picture in another

Both pictures are turned to grey, and the places at which one may be found in the other are scored.
The score of a place is the correlation of the smaller picture with the piece of the larger one at
that place, each taken relative to its mean; the search itself takes any other measure as well.
Scores have the 32 bit format, and a threshold is rounded to it before it is compared with them.
Places are kept by their score, row by row: two places of the same score share one entry, whose
position is the first and whose place is the last of them.
-/

namespace DeviceScript

/-- Whole numbers row by row. -/
structure Grid where
  width : Nat
  height : Nat
  cells : Array Nat
  deriving DecidableEq, Inhabited

namespace Grid

def cell (grid : Grid) (x y : Nat) : Nat := (grid.cells[y * grid.width + x]?).getD 0

/-- The grid whose number at each place is given. -/
def tabulate (width height : Nat) (cell : Nat → Nat → Nat) : Grid :=
  ⟨width, height, Array.ofFn fun i : Fin (width * height) => cell (i.val % width) (i.val / width)⟩

def holds (grid other : Grid) : Bool := other.width ≤ grid.width && other.height ≤ grid.height

def places (width height : Nat) : List (Nat × Nat) :=
  (List.range height).flatMap fun y => (List.range width).map fun x => (x, y)

/-! ## Scores -/

/-- Sums over a piece of a grid and a template of the same size: of the piece, of its squares,
and of the products. -/
structure Sums where
  piece : Nat
  squares : Nat
  products : Nat

def sumsAt (grid template : Grid) (x y : Nat) : Sums :=
  Nat.fold template.height (fun row _ sums =>
    Nat.fold template.width (fun column _ sums =>
      let v := grid.cell (x + column) (y + row)
      ⟨sums.piece + v, sums.squares + v * v,
        sums.products + v * template.cell column row⟩) sums) ⟨0, 0, 0⟩

def real (n : Int) : Float := (Number.ofInt? n).getD 0.0

/-- The correlation of a template with the piece at a place, between -1 and 1. A template of
one single number goes with everything. -/
def scoreAt (grid template : Grid) (x y : Nat) : Float32 :=
  let count : Int := template.width * template.height
  let own := sumsAt template template 0 0
  let found := sumsAt grid template x y
  let ownSpread : Int := count * own.squares - own.piece * own.piece
  let spread : Int := count * found.squares - found.piece * found.piece
  let shared : Int := count * found.products - found.piece * own.piece
  if ownSpread = 0 then Number.toSingle 1.0
  else if spread = 0 then Number.toSingle 0.0
  else
    let limit := (real (spread * ownSpread)).sqrt
    let shared := real shared
    Number.toSingle
      (if shared.abs < limit then shared / limit else if 0.0 < shared then 1.0 else -1.0)

/-- The scores of all places, row by row. -/
structure Scores where
  width : Nat
  height : Nat
  score : Nat → Nat → Float32

/-- A way to score the places at which a template may be found in a grid; it gives nothing if there
are none. -/
abbrev Measure := Grid → Grid → Option Scores

/-- The correlation at all places. A grid that is smaller than the template is looked for in
that. -/
def correlation : Measure := fun grid template =>
  let (outer, inner) :=
    if grid.width < template.width ∨ grid.height < template.height then (template, grid)
    else (grid, template)
  if outer.holds inner then
    some ⟨outer.width - inner.width + 1, outer.height - inner.height + 1, scoreAt outer inner⟩
  else none

/-! ## Hits -/

/-- The centres of hits by their scores. -/
abbrev Hits := List (Float32 × (Nat × Nat))

/-- Puts a place under its score, where it replaces an earlier one. -/
def Hits.put (score : Float32) (place : Nat × Nat) : Hits → Hits
  | [] => [(score, place)]
  | hit :: hits =>
    if hit.1 == score then (hit.1, place) :: hits else hit :: Hits.put score place hits

def centre (template : Grid) (place : Nat × Nat) : Nat × Nat :=
  (place.1 + template.width / 2, place.2 + template.height / 2)

def collect (threshold : Float32) (template : Grid) (scores : Scores) (hits : Hits) : Hits :=
  (places scores.width scores.height).foldl
    (fun hits place =>
      let score := scores.score place.1 place.2
      if threshold ≤ score then Hits.put score (template.centre place) hits else hits) hits

def find? (measure : Measure) (threshold : Float32) (grid template : Grid) :
    Option (List (Nat × Nat)) := do
  let scores ← measure grid template
  return (collect threshold template scores []).map (·.2)

/-! ## Templates of other sizes -/

def sizeCount : Nat := 100

/-- The scale of a size: evenly between a fifth and one. -/
def scale (index : Nat) : Float :=
  if index + 1 = sizeCount then 1.0 else index.toFloat * (0.8 / 99.0) + 0.2

/-- Where a row or column of the result comes from: the first of two neighbours, and the share
of the second. -/
def sourceOf (size target index : Nat) : Nat × Float :=
  let place := (index.toFloat + 0.5) * (size.toFloat / target.toFloat) - 0.5
  let first := (Number.floor? place).getD 0
  if first < 0 then (0, 0.0)
  else if (size : Int) ≤ first + 1 then (size - 1, 0.0)
  else (first.toNat, place - real first)

def resize (grid : Grid) (width height : Nat) : Grid :=
  tabulate width height fun x y =>
    let (x0, right) := sourceOf grid.width width x
    let (y0, lower) := sourceOf grid.height height y
    let cell := fun dx dy => (grid.cell (min (x0 + dx) (grid.width - 1))
      (min (y0 + dy) (grid.height - 1))).toFloat
    let upperRow := cell 0 0 * (1.0 - right) + cell 1 0 * right
    let lowerRow := cell 0 1 * (1.0 - right) + cell 1 1 * right
    ((Number.floor? (upperRow * (1.0 - lower) + lowerRow * lower + 0.5)).getD 0).toNat

def scaledLength (length index : Nat) : Nat :=
  ((Number.floor? (length.toFloat * scale index)).getD 0).toNat

/-- The template in one of the sizes, unless nothing is left of it. -/
def scaled? (template : Grid) (index : Nat) : Option Grid :=
  let width := scaledLength template.width index
  let height := scaledLength template.height index
  if width = 0 ∨ height = 0 then none else some (template.resize width height)

def collectScaled (measure : Measure) (threshold : Float32) (grid template : Grid) (hits : Hits)
    (index : Nat) : Option Hits :=
  match template.scaled? index with
  | none => some hits
  | some small => do return collect threshold small (← measure grid small) hits

/-- The centres of the places at which the template is found in some size, the largest
first. -/
def findScaled? (measure : Measure) (threshold : Float32) (grid template : Grid) :
    Option (List (Nat × Nat)) := do
  let hits ← (List.range sizeCount).reverse.foldlM
    (fun hits index => collectScaled measure threshold grid template hits index) []
  return hits.map (·.2)

end Grid

def Raster.brightness (raster : Raster) : Grid :=
  ⟨raster.width, raster.height, raster.pixels.map fun pixel =>
    match pixel with
    | [grey] => (4899 * grey + 9617 * grey + 1868 * grey + 8192) / 16384
    | red :: green :: blue :: _ => (4899 * red + 9617 * green + 1868 * blue + 8192) / 16384
    | _ => 0⟩

end DeviceScript
