import DeviceScript.Calling.Operation
import DeviceScript.Image.Edit
import DeviceScript.Image.Matching

/-!
# Finding pictures in pictures

Operations that find a template in a picture, in its own size or in many sizes. The result is
the list of the centres.
-/

namespace DeviceScript.Templates

def dataOf : Value → Except Failure ImageData
  | .image image => .ok image.data
  | v => .error (.noAttribute v.typeName "image_bytes")

/-- The least score of a hit. A whole number beyond all scores keeps its side. -/
def thresholdOf (v : Value) : Except Failure Float32 :=
  match v.real?, v.whole? with
  | some x, _ => .ok (Number.toSingle x)
  | none, some n =>
    .ok (Number.toSingle ((Number.ofInt? n).getD (if n < 0 then -2.0 else 2.0)))
  | none, none => .error (.order ">=" "float" v.typeName)

def points : List (Nat × Nat) → Act (List Value)
  | [] => return []
  | (x, y) :: rest => do
    let point := Value.point (← Act.serial) (.int x) (.int y)
    return point :: (← points rest)

/-- The brightness of a picture. One without colours has none, unless the surroundings take it for
one whose colours are equal. -/
def brightnessOf (raster : Raster) : Act Grid := do
  if raster.mode = .grey ∧ !(← get).surroundings.comparesGrey then throw (.raised .vision "")
  else return raster.brightness

/-- The points at which a template is found in a picture. -/
def search (find : Float32 → Grid → Grid → Option (List (Nat × Nat)))
    (image template threshold : Value) : Act Value := do
  let image ← Act.ofExcept (dataOf image)
  let template ← Act.ofExcept (dataOf template)
  let image ← Act.ofExcept (Image.decode image)
  let template ← Act.ofExcept (Image.decode template)
  let image ← brightnessOf image
  let template ← brightnessOf template
  let threshold ← Act.ofExcept (thresholdOf threshold)
  match find threshold image template with
  | some centers => return .list (← points centers)
  | none => throw (.raised .vision "")

/-- An operation that finds a template by the given search. -/
def finder (name : String) (find : Float32 → Grid → Grid → Option (List (Nat × Nat))) :
    Operation where
  signature :=
    ⟨"", name, false,
      [.required "image" (some "Image"), .required "tmpl" (some "Image"),
        .optional "min_confidence" (some "float") (.float 0.93)], none⟩
  action
    | [image, template, threshold] => search find image template threshold
    | _ => return .none

def operations : List (String × Operation) :=
  [("template_matching", finder "template_matching" (Grid.find? Grid.correlation)),
    ("diff_size_template_matching",
      finder "diff_size_template_matching" (Grid.findScaled? Grid.correlation))]

end DeviceScript.Templates
