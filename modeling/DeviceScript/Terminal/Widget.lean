import DeviceScript.Value.Show

/-!
# Widgets

A screen shows a tree of widgets. A widget is known by its sort, by what it is made of and by
its name, under which it is found again.
-/

namespace DeviceScript.Terminal

inductive Content where
  | value (v : Value)
  /-- A text in the colours of a language. -/
  | listing (text : Value) (language : String)
  deriving Inhabited

/-- What a button does. -/
inductive Press where
  | runScript (file : String)
  | testDevice (name : Value)
  deriving Inhabited

def Press.text : Press → Except Failure String
  | .runScript file => .ok ("screen.run_script(" ++ Text.quoted file ++ ")")
  | .testDevice name => do return "screen.device_test(" ++ (← name.inside) ++ ")"

/-- A widget with all widgets in it. -/
inductive Widget where
  | node (sort : String) (contents : List Content) (named : List (String × Value))
    (press : Option Press) (title subtitle : Option Value) (entered : String)
    (children : List Widget)
  deriving Inhabited

namespace Widget

def leaf (sort : String) (contents : List Value) (named : List (String × Value)) : Widget :=
  .node sort (contents.map .value) named none none none "" []

def box (sort : String) (named : List (String × Value)) (children : List Widget) : Widget :=
  .node sort [] named none none none "" children

def markdown (text : String) : Widget := leaf "Markdown" [.text text] []

def footer : Widget := leaf "Footer" [] []

def button (label : Value) (named : List (String × Value)) (press : Press) :
    Except Failure Widget := do
  return .node "Button" [.value label] (named ++ [("action", .text (← press.text))]) (some press)
    none none "" []

def children : Widget → List Widget
  | .node _ _ _ _ _ _ _ children => children

def entered : Widget → String
  | .node _ _ _ _ _ _ entered _ => entered

def press? : Widget → Option Press
  | .node _ _ _ press _ _ _ _ => press

def isButton : Widget → Bool
  | .node sort .. => sort == "Button"

def isNamed (name : String) : Widget → Bool
  | .node _ _ named .. =>
    match named.lookup "id" with
    | some (.text id) => id == name
    | _ => false

def withChildren (children : List Widget) : Widget → Widget
  | .node sort contents named press title subtitle entered _ =>
    .node sort contents named press title subtitle entered children

def withTitles (title subtitle : Value) : Widget → Widget
  | .node sort contents named press _ _ entered children =>
    .node sort contents named press (some title) (some subtitle) entered children

/-- The widget after the user has typed something. -/
def withEntered (entered : String) : Widget → Widget
  | .node sort contents named press title subtitle _ children =>
    .node sort contents named press title subtitle entered children

mutual

def find? (name : String) : Widget → Option Widget
  | .node sort contents named press title subtitle entered children =>
    let self := Widget.node sort contents named press title subtitle entered children
    if self.isNamed name then some self else findAmong? name children

def findAmong? (name : String) : List Widget → Option Widget
  | [] => none
  | widget :: widgets =>
    match find? name widget with
    | some found => some found
    | none => findAmong? name widgets

end

mutual

def change (name : String) (by_ : Widget → Widget) : Widget → Widget
  | .node sort contents named press title subtitle entered children =>
    let self := Widget.node sort contents named press title subtitle entered
      (changeAll name by_ children)
    if self.isNamed name then by_ self else self

def changeAll (name : String) (by_ : Widget → Widget) : List Widget → List Widget
  | [] => []
  | widget :: widgets => change name by_ widget :: changeAll name by_ widgets

end

mutual

def buttons : Widget → List Widget
  | .node sort contents named press title subtitle entered children =>
    let self := Widget.node sort contents named press title subtitle entered children
    (if self.isButton then [self] else []) ++ buttonsAmong children

def buttonsAmong : List Widget → List Widget
  | [] => []
  | widget :: widgets => buttons widget ++ buttonsAmong widgets

end

end Widget

end DeviceScript.Terminal
