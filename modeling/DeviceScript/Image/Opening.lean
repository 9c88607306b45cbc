import DeviceScript.Calling.Thing
import DeviceScript.Image.Edit
import DeviceScript.World.FileAction

/-!
# Pictures from files, and what can be done to a picture

A picture is opened from a file, cut, painted on and looked at. Every change gives a new picture
of the same name and changes the old one, too.
-/

namespace DeviceScript.Image

def read (path : Path) : Act ImageData := do
  let full := (← Act.absolute path).render
  match ← Act.readFile full with
  | .picture raster => return .raster raster
  | _ => throw (unreadable (Text.quoted full))

/-- Puts new pixels into a picture and gives them as a new picture of the same name. -/
def renew (data : ImageData) : ActOn Image Value := do
  modify fun image => { image with data }
  ActOn.ofAct (Act.picture (← get).name data)

/-- Opens a file. The picture gets the name of the file even if that cannot be read. -/
def openFile : Value → ActOn Image Value
  | .path path => do
    modify fun image => { image with name := some path.name }
    renew (← ActOn.ofAct (read path))
  | v => throw (.noAttribute v.typeName "name")

def contentOf : Value → Except Failure ImageData
  | .bytes data => .ok data
  | .none => .ok (.bytes [])
  | v =>
    .error (.raised .operandType
      ("a bytes-like object is required, not '" ++ v.typeName ++ "'"))

def size (image : Image) : Except Failure Value := do
  let (width, height) ← image.resolution
  return .tuple [.int width, .int height]

def method (name : String) (params : List Parameter) (documentation : Option String)
    (action : List Value → ActOn Image Value) : String × Method Image :=
  (name, ⟨⟨"Image.", name, true, params, documentation⟩, action⟩)

def openDocumentation : String := "打开图片\n        Args:\n            path (Path): 路径\n        "

def cropDocumentation : String :=
  "裁切图片\n        Args:\n            image_bytes (bytes): 图片原始数据\n" ++
  "            x1 (int): 裁切的坐标 x1\n            y1 (int): 裁切的坐标 y1\n" ++
  "            x2 (int): 裁切的坐标 x2\n            y2 (int): 裁切的坐标 y2\n        "

def fillDocumentation : String :=
  "填充色块\n        Args:\n            x1 (int): 左上角 x 坐标\n" ++
  "            y1 (int): 左上角 y 坐标\n            x2 (int): 右下角 x 坐标\n" ++
  "            y2 (int): 右下角 y 坐标\n" ++
  "            color (str): 16进制颜色代码，如 \"#FF0000\" 表示红色\n        "

def colorDocumentation : String :=
  "判断颜色\n        Args:\n            x (int): 像素点的 x 坐标\n" ++
  "            y (int): 像素点的 y 坐标\n" ++
  "            color (str): 16进制颜色代码，如 \"#FF0000\" 表示红色\n" ++
  "        Returns:\n            bool: 如果该点的颜色与指定颜色匹配，返回 True，否则返回 False\n        "

def sizeDocumentation : String :=
  "获取图像的分辨率（宽度和高度）。\n        Returns:\n" ++
  "            tuple[int, int]: 图片分辨率\n        "

def methods : List (String × Method Image) :=
  let whole := fun (name : String) => Parameter.required name (some "int")
  let corners := [whole "x1", whole "y1", whole "x2", whole "y2"]
  let color := Parameter.required "color" (some "str")
  [method "__init__" [.optional "image_bytes" (some "bytes") (.bytes (.bytes []))] none fun
      | [.bytes data] => do
        modify fun image => { image with name := none, data }
        return .none
      | _ => return .none,
    method "__str__" [] none fun _ => do return .text (← get).render,
    method "open" [.required "path" (some "Path")] (some openDocumentation) fun
      | [path] => openFile path
      | _ => return .none,
    method "crop" (.required "image_bytes" (some "bytes") :: corners) (some cropDocumentation) fun
      | [content, x1, y1, x2, y2] => do
        renew (← ActOn.ofExcept (do cropped (← contentOf content) x1 y1 x2 y2))
      | _ => return .none,
    method "fill_color" (corners ++ [color]) (some fillDocumentation) fun
      | [x1, y1, x2, y2, color] => do
        renew (← ActOn.ofExcept ((← get).filled x1 y1 x2 y2 color))
      | _ => return .none,
    method "check_color" [whole "x", whole "y", color] (some colorDocumentation) fun
      | [x, y, color] => do
        return .bool (← ActOn.ofExcept ((← get).hasColor x y color))
      | _ => return .none,
    method "get_resolution" [] (some sizeDocumentation) fun _ => do
      ActOn.ofExcept (← get).size]

/-- How pictures of a sort are used through names. Their size is found only if it is looked
at. -/
def interface (sort : String) : Interface Image where
  sort := sort
  find name := do
    match methods.lookup name, name with
    | some method, _ => return some (.method method)
    | none, "name" => return some (.value (((← get).name.map Value.text).getD .none))
    | none, "image_bytes" | none, "_image_bytes" => return some (.value (.bytes (← get).data))
    | none, "resolution" => return some (.value (← ActOn.ofExcept (← get).size))
    | none, _ => return none
  replace _ _ := return false

end DeviceScript.Image
