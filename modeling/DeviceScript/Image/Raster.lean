/-!
# Pictures as arrays of pixels

A raster is a width, a height and one pixel for each place, row by row. A pixel is the list of
its channels: one for grey, three for colour, four for colour with opacity.
-/

namespace DeviceScript

inductive ColorMode where
  | grey
  | color
  | opacity
  deriving DecidableEq, Inhabited

def ColorMode.channels : ColorMode → Nat
  | .grey => 1
  | .color => 3
  | .opacity => 4

/-- A picture whose pixels are known. -/
structure Raster where
  mode : ColorMode
  width : Nat
  height : Nat
  pixels : Array (List Nat)
  deriving DecidableEq, Inhabited

def Raster.pixel (raster : Raster) (x y : Nat) : List Nat :=
  (raster.pixels[y * raster.width + x]?).getD []

/-- What a picture file holds: pixels, or bytes that are no picture. -/
inductive ImageData where
  | raster (raster : Raster)
  | bytes (content : List UInt8)
  deriving DecidableEq, Inhabited

/-- A picture with the name of the file it was opened from. The serial number tells pictures
apart that look alike. -/
structure Image where
  serial : Nat
  name : Option String
  data : ImageData
  deriving DecidableEq, Inhabited

def Image.raster? (image : Image) : Option Raster :=
  match image.data with
  | .raster raster => some raster
  | .bytes _ => none

def Image.render (image : Image) : String :=
  match image.raster? with
  | none => "图片损坏"
  | some raster =>
    let name := match image.name with
      | some name => if name = "" then "未命名" else name
      | none => "未命名"
    "图片 " ++ name ++ " 分辨率 (" ++ toString raster.width ++ ", " ++ toString raster.height ++ ")"

end DeviceScript
