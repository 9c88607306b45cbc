import DeviceScript.Terminal.Guide
import DeviceScript.Terminal.State

/-!
# Layouts

What each screen shows when it comes up.
-/

namespace DeviceScript.Terminal

def codeName : String := "code"

def listName : String := "file-list"

def listed : String × Value := ("classes", .text "file-btn")

def chapters : List (String × String) → Bool → List Widget
  | [], _ => []
  | (title, s) :: others, first =>
    let open_ := if first then [("collapsed", Value.bool false)] else []
    .box "Collapsible" (("title", .text title) :: open_) [.markdown s] :: chapters others false

def listing (s : Value) (language : String) : Widget :=
  .node "Static" [.listing s language] [("expand", .bool true)] none none none "" []

/-- What scripts have written, in the colours of a log or as a text that can be copied. -/
def outputView (message : Value) (simple : Bool) : Widget :=
  if simple then .leaf "Static" [message] [("expand", .bool true)] else listing message "log"

def scriptButtons (files : List Path) : Except Failure (List Widget) :=
  files.mapM fun file => Widget.button (.text file.name) [listed] (.runScript file.render)

def deviceButtons (names : List Value) : Except Failure (List Widget) :=
  if names.isEmpty then .ok [.leaf "Button" [.text "此项目无设备"] [listed]]
  else names.mapM fun name => Widget.button name [listed] (.testDevice name)

def groupButtons : List (String × List Nat) → Act (List Widget)
  | [] => return []
  | (title, ids) :: groups => do
    let buttons ← Act.ofExcept (deviceButtons (ids.map (← Act.fleet).nameOf))
    return .markdown ("### " ++ title) :: buttons ++ (← groupButtons groups)

def scrolled (children : List Widget) : Widget :=
  .box "ScrollableContainer" [("id", .text listName), ("can_maximize", .bool true)] children

def remark (s : String) : Widget := .leaf "Static" [.text s] [("classes", .text "error")]

def Page.layout : Page → Act (List Widget)
  | .program | .plain => return []
  | .home =>
    return [.box "Content" [] (.markdown Guide.introduction :: chapters Guide.chapters true),
      .footer]
  | .journal _ => return [.footer, .leaf "LogWidget" [] []]
  | .code _ s =>
    return [.box "ScrollableContainer" [("id", .text codeName)] [listing s "lua"]]
  | .output _ message simple _ =>
    return [.box "ScrollableContainer" [("id", .text codeName)] [outputView message simple]]
  | .dialog description prompt =>
    return [.box "Grid" []
      [.leaf "Markdown" [description] [("id", .text "description")],
        .leaf "Input" [] [("placeholder", prompt), ("id", .text "input")],
        .leaf "Button" [.text "确认"] [("variant", .text "primary"), ("id", .text "confirm")],
        .leaf "Button" [.text "取消"] [("variant", .text "error"), ("id", .text "cancel")]]]
  | .scripts files => do
    let head := [.footer, .markdown "# 选择脚本"]
    if files.isEmpty then
      return head ++ [remark "[red]未找到任何脚本文件[/red] 使用 [b]H[/b] 返回主页"]
    else return head ++ [scrolled (← Act.ofExcept (scriptButtons files))]
  | .devices groups => do
    let head := [.footer, .markdown "# 设备列表\n## 单击设备对设备截图 (并非所有设备生效)"]
    if groups.isEmpty then
      return head ++ [remark "[red]未连接任何设备 ![/red] 使用 [b]H[/b] 返回主页"]
    else return head ++ [scrolled (← groupButtons groups)]

def leaveHint : String := "按 [b]escape (Esc)[/b] 退出"

def viewHint : String := leaveHint ++ " | 按 [b]s[/b] 切换模式"

def copyHint : String := viewHint ++ " 按住 Shift 鼠标选择文本按 [b]Ctrl + C[/b] 复制"

def onMount (id : Nat) : Showing Unit := do
  match (← screenAt id).page with
  | .code title _ => changeWidget id codeName (Widget.withTitles title (.text leaveHint))
  | .output title _ _ _ => changeWidget id codeName (Widget.withTitles title (.text viewHint))
  | _ => return ()

def mount (id : Nat) : Showing Unit := do
  modifyScreen id fun screen => { screen with children := [] }
  let page := (← screenAt id).page
  match page with
  | .journal _ => setPage id (.journal true)
  | _ => pure ()
  let children ← ActOn.ofAct page.layout
  modifyScreen id fun screen => { screen with children }
  onMount id

def push (page : Page) : Showing Nat := do
  ask .program "push_screen" [.text page.kind.label] []
  let id ← addScreen page []
  mount id
  modify fun scene => { scene with top := some id }
  return id

def Screen.widget (screen : Screen) : Widget :=
  .node screen.page.kind.label (screen.arguments.map .value) [] none none none "" screen.children

end DeviceScript.Terminal
