import DeviceScript.Image.Color
import DeviceScript.Value.Arithmetic

/-!
# Looking at pictures and changing them

A pixel is looked up with coordinates that may count from the end, a piece is cut out and
filled with black where it lies outside, and a rectangle is filled with a colour inside the
picture. A picture whose bytes cannot be read fails in all of them. Coordinates and channels are
kept in words of 32 or 64 bits, and what does not fit is refused, loses its upper bits or is cut,
each in its place.
-/

namespace DeviceScript

open Number

namespace Raster

def tabulate (mode : ColorMode) (width height : Nat) (pixel : Nat → Nat → List Nat) : Raster :=
  ⟨mode, width, height,
    Array.ofFn fun i : Fin (width * height) => pixel (i.val % width) (i.val / width)⟩

def coordinate? (size : Nat) (n : Int) : Option Nat :=
  let place := if n < 0 then n + size else n
  if 0 ≤ place ∧ place < size then some place.toNat else none

/-- The piece between two corners; what lies outside the picture is black. -/
def crop (raster : Raster) (left upper right lower : Int) : Raster :=
  let blank := List.replicate raster.mode.channels 0
  tabulate raster.mode (right - left).toNat (lower - upper).toNat fun x y =>
    let column := left + x
    let row := upper + y
    if 0 ≤ column ∧ column < raster.width ∧ 0 ≤ row ∧ row < raster.height then
      raster.pixel column.toNat row.toNat
    else blank

def clip (n : Int) : Nat := (min n 255).toNat

/-- Fills a rectangle, borders included, as far as it lies inside the picture. -/
def fill (raster : Raster) (left upper right lower : Int) (pixel : List Nat) : Raster :=
  tabulate raster.mode raster.width raster.height fun x y =>
    if left ≤ x ∧ (x : Int) ≤ right ∧ upper ≤ y ∧ (y : Int) ≤ lower then pixel
    else raster.pixel x y

/-- Draws the borders of a rectangle, as far as they lie inside the picture. The upper and the
lower border are whole; the others run from below the upper border to the lower one, which they
leave out, also if they have to run up for that. -/
def frame (raster : Raster) (left upper right lower : Int) (pixel : List Nat) : Raster :=
  let (top, bottom) := (min upper lower, max upper lower)
  let (first, last) := if top < bottom then (top + 1, bottom - 1) else (top + 1, top + 1)
  [(min left right, top, max left right, top), (min left right, bottom, max left right, bottom),
    (right, first, right, last), (left, first, left, last)].foldl
    (fun raster (x1, y1, x2, y2) => raster.fill x1 y1 x2 y2 pixel) raster

end Raster

namespace Image

def unreadable (subject : String) : Failure :=
  .raised .unreadableImage ("cannot identify image file " ++ subject)

def decode : ImageData → Except Failure Raster
  | .raster raster => .ok raster
  | .bytes _ => .error (unreadable "<bytes>")

def resolution (image : Image) : Except Failure (Nat × Nat) := do
  let raster ← decode image.data
  return (raster.width, raster.height)

def colorOf : Value → Except Failure (List Int)
  | .text s => Color.read s
  | v => do
    let length ← v.length
    if 100 < length then .error (.raised .badValue "color specifier is too long")
    else .error (.noAttribute v.typeName "lower")

/-! ## Words -/

/-- A whole number that has to fit into a word of 64 bits. -/
def longWord (n : Int) : Except Failure Int :=
  if fits 64 n then .ok n
  else .error (.raised .overflow "Python int too large to convert to C long")

/-- A whole number that has to fit into a word of 32 bits. -/
def shortWord (n : Int) : Except Failure Int := do
  let n ← longWord n
  if fits 32 n then return n
  else if n < 0 then .error (.raised .overflow "signed integer is less than minimum")
  else .error (.raised .overflow "signed integer is greater than maximum")

/-! ## Looking -/

/-- A coordinate of a pixel in a word, or nothing if it does not fit into one of 64 bits. -/
def pixelCoordinate (v : Value) : Except Failure (Option Int) :=
  match v.real?, v.whole? with
  | some x, _ => .ok (some (cut 32 x))
  | none, some n => .ok (if fits 64 n then some (wrapped 32 n) else none)
  | none, none => .error (.raised .operandType "an integer is required")

/-- The pixel at a place. A coordinate that does not fit counts as the last place, but what is
found there is refused. -/
def pixelAt (raster : Raster) (x y : Value) : Except Failure (List Nat) := do
  let x ← pixelCoordinate x
  let y ← pixelCoordinate y
  match Raster.coordinate? raster.width (x.getD (-1)),
    Raster.coordinate? raster.height (y.getD (-1)) with
  | some column, some row =>
    if x.isSome && y.isSome then return raster.pixel column row
    else .error (.raised .imageEncoding
      "<method 'getpixel' of 'ImagingCore' objects> returned a result with an exception set")
  | _, _ => .error (.indexOut "image")

def hasColor (image : Image) (x y color : Value) : Except Failure Bool := do
  let raster ← decode image.data
  let pixel ← pixelAt raster x y
  let wanted ← colorOf color
  return raster.mode ≠ .grey && pixel.map Int.ofNat == wanted

/-! ## Painting -/

/-- A whole number as the pixel that it stands for: a grey level, or channels from the lowest
byte on. -/
def inkOfWhole (mode : ColorMode) (n : Int) : Except Failure (List Nat) :=
  if !Number.fits 64 n then .error (.raised .overflow "int too big to convert")
  else
    match mode with
    | .grey => .ok [Raster.clip n]
    | _ => .ok ((List.range mode.channels).map fun i =>
        (n / twoTo (8 * i) % twoTo 8).toNat)

/-- Channels as a pixel; a missing opacity is full. -/
def inkOfChannels (mode : ColorMode) : List Int → Except Failure (List Nat)
  | [] => .ok []
  | first :: others => do
    if !Number.fits 64 first then .error (.raised .overflow "int too big to convert")
    else
      let others ← others.mapM shortWord
      return ((first :: others ++ [255]).take mode.channels).map Raster.clip

def channelOf (v : Value) : Except Failure Int :=
  match v.whole? with
  | some n => .ok n
  | none => .error (.raised .operandType
      ("'" ++ v.typeName ++ "' object cannot be interpreted as an integer"))

def inkOfColor (mode : ColorMode) (color : List Int) : Except Failure (List Nat) :=
  match mode, color with
  | .grey, red :: green :: blue :: _ =>
    inkOfWhole .grey ((red * 19595 + green * 38470 + blue * 7471 + 0x8000) / 65536)
  | mode, color => inkOfChannels mode (color.take mode.channels)

def ink (mode : ColorMode) (color : Value) : Except Failure (List Nat) :=
  let tuple := match color with
    | .tuple xs => some xs
    | _ => none
  let single := match tuple with
    | some [item] => item
    | _ => color
  match color, single.whole?, tuple with
  | .text s, _, _ => do inkOfColor mode (← Color.read s)
  | _, some n, _ => inkOfWhole mode n
  | _, none, some xs =>
    if mode = .grey then
      .error (.raised .operandType "color must be int or single-element tuple")
    else if xs.length = 3 ∨ xs.length = 4 then do
      inkOfChannels mode (← xs.mapM channelOf)
    else .error (.raised .operandType
      "color must be int, or tuple of one, three or four elements")
  | _, none, none =>
    .error (.raised .operandType
      (if mode = .grey then "color must be int or single-element tuple"
        else "color must be int or tuple"))

def pairCoordinate (v : Value) : Except Failure Float :=
  match v.real?, v.whole? with
  | some x, _ => .ok x
  | none, some n => realOfWhole n
  | none, none => .error (.raised .operandType ("must be real number, not " ++ v.typeName))

/-- The coordinates that a value stands for: a number is one, and a pair is two of them. A whole
number is rounded to the 32 bit binary format. -/
def coordinates (v : Value) : Except Failure (List Float) :=
  match v, v.real?, v.whole? with
  | _, some x, _ => .ok [x]
  | _, none, some n => do return [← realOfWhole (single (← longWord n))]
  | .tuple [x, y], none, none => do return [← pairCoordinate x, ← pairCoordinate y]
  | .tuple xs, none, none =>
    .error (.raised .operandType ("function takes exactly 2 arguments (" ++
      toString xs.length ++ " given)"))
  | _, none, none =>
    .error (.raised .imageEncoding "new style getargs format but argument is not a tuple")

def corners (vs : List Value) : Except Failure (Int × Int × Int × Int) := do
  match (← vs.mapM coordinates).flatten with
  | [x1, y1, x2, y2] =>
    if x2 < x1 then .error (.raised .badValue "x1 must be greater than or equal to x0")
    else if y2 < y1 then .error (.raised .badValue "y1 must be greater than or equal to y0")
    else return (cut 32 x1, cut 32 y1, cut 32 x2, cut 32 y2)
  | found =>
    if found.length % 2 = 1 then .error (.raised .badValue "wrong number of coordinates")
    else .error (.raised .operandType "coordinate list must contain exactly 2 coordinates")

/-- The picture with a rectangle filled. Without a colour only its borders are drawn, as bright
as a number of ones in all bits makes them. -/
def filled (image : Image) (x1 y1 x2 y2 color : Value) : Except Failure ImageData := do
  let raster ← decode image.data
  match color with
  | .none => do
    let pixel ← ink raster.mode (.int (-1))
    let (left, upper, right, lower) ← corners [x1, y1, x2, y2]
    return .raster (raster.frame left upper right lower pixel)
  | color => do
    let pixel ← ink raster.mode color
    let (left, upper, right, lower) ← corners [x1, y1, x2, y2]
    return .raster (raster.fill (min left right) (min upper lower) (max left right)
      (max upper lower) pixel)

/-! ## Cutting -/

def rounded : Value → Except Failure Int
  | .undefined _ => .error .notANumberToWhole
  | .float x =>
    match read x with
    | .notANumber => .error .notANumberToWhole
    | .infinite _ => .error .infinityToWhole
    | .finite .. =>
      let low := (floor? x).getD 0
      let rest := x - (ofInt? low).getD 0
      .ok (if rest < 0.5 then low else if 0.5 < rest then low + 1
        else if low % 2 = 0 then low else low + 1)
  | v =>
    match v.whole? with
    | some n => .ok n
    | none =>
      .error (.raised .operandType
        ("type " ++ v.typeName ++ " doesn't define __round__ method"))

def pieceLimit : Nat := 178956970

def checkSize (width height : Nat) : Except Failure Unit :=
  let pixels := max 1 width * max 1 height
  if pixels ≤ pieceLimit then .ok ()
  else .error (.raised (.other "DecompressionBombError")
    ("Image size (" ++ toString pixels ++ " pixels) exceeds limit of " ++ toString pieceLimit ++
      " pixels, could be decompression bomb DOS attack."))

def cropped (data : ImageData) (x1 y1 x2 y2 : Value) : Except Failure ImageData := do
  let raster ← decode data
  if ← Value.ordered .less x2 x1 then
    .error (.raised .badValue "Coordinate 'right' is less than 'left'")
  else if ← Value.ordered .less y2 y1 then
    .error (.raised .badValue "Coordinate 'lower' is less than 'upper'")
  else
    let left ← rounded x1
    let upper ← rounded y1
    let right ← rounded x2
    let lower ← rounded y2
    checkSize (right - left).natAbs (lower - upper).natAbs
    let _ ← [left, upper, right, lower].mapM shortWord
    if right ≤ left ∨ lower ≤ upper then
      .error (.raised .imageEncoding "tile cannot extend outside image")
    else return .raster (raster.crop left upper right lower)

end Image

end DeviceScript
