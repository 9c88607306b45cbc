import DeviceScript.Device.Access

/-!
# Browsers

A browser is started when its first page is opened. Elements are looked for in the page and
then in its frames, depth first, and the browser stays in the frame that has the element.
-/

namespace DeviceScript

open Act

/-! ## Search through frames -/

namespace Frame

/-- The element that a frame itself has under the text. -/
def element? (frame : Frame) (way s : Value) : Option (Value × Value × Option String) :=
  frame.elements.find? fun element => element.1.equal way && element.2.1.equal s

/-- The frame that is reached by entering frames by their numbers. -/
def follow? (frame : Frame) : List Nat → Option Frame
  | [] => some frame
  | number :: numbers =>
    match frame.frames[number]? with
    | some inner => inner.follow? numbers
    | none => none

/-- An action of a browser that is somewhere in its page: the numbers of the frames that it has
entered, one inside the other. -/
abbrev Roaming := ActOn (List Nat)

/-- The frame that the browser is in. -/
def current (page : Frame) : Roaming Frame := return (page.follow? (← get)).getD page

/-- Goes into an inner frame. -/
def enter (number : Nat) (inner : Frame) : Roaming Unit := do
  ActOn.ofAct (request .browser "frame" [inner.id] [])
  modify fun inside => inside ++ [number]

/-- Goes back to the frame around. -/
def leave : Roaming Unit := do
  ActOn.ofAct (request .browser "parent_frame" [] [])
  modify List.dropLast

mutual

/-- Looks for an element where the browser is, which is in the given frame, and then in the frames
inside it. The browser stays where the element is found. -/
def search (page : Frame) (way s : Value) : Frame → Roaming Bool
  | .frame _ _ frames => do
    if ((← current page).element? way s).isSome then return true
    else do
      ActOn.ofAct (request .browser "find_elements" [.text "tag name", .text "iframe"] [])
      searchAll page way s 0 frames

/-- Looks for an element in one frame after another; each one that does not have it is left
again. -/
def searchAll (page : Frame) (way s : Value) (number : Nat) : List Frame → Roaming Bool
  | [] => return false
  | inner :: frames => do
    enter number inner
    if ← search page way s inner then return true
    else do
      leave
      searchAll page way s (number + 1) frames

end

end Frame

namespace Browser

/-- A browser that is not started yet. -/
def create (name : Value) (driver : Path) : Browser :=
  ⟨name, driver, [], none, none, .bytes []⟩

/-- The browser with the number. -/
def state (id : Nat) : Act Browser := do
  match ← deviceAt? id with
  | some (.browser browser) => return browser
  | _ => return default

/-- Changes the browser with the number. -/
def modify (id : Nat) (change : Browser → Browser) : Act Unit := do
  setDevice id (.browser (change (← state id)))

/-- How the program names the type of browsers. -/
def sort : String := "WebDevice"

/-- The name of the page, which only a script can have set. -/
def pageName (browser : Browser) : Act String :=
  match browser.page with
  | some page => shown page
  | none => throw (.noAttribute sort "page")

/-- Refuses what only a started browser can do. -/
def needStarted (browser : Browser) (member : String) : Act Unit :=
  if browser.running.isSome then return () else throw (.noAttribute "NoneType" member)

/-- Refuses gestures before the start. -/
def needGestures (browser : Browser) : Act Unit :=
  if browser.running.isSome then return () else throw (.noAttribute sort "actions")

/-! ## Start and pages -/

/-- Starts the browser, if its name is known and its driver is there. -/
def launch (id : Nat) (driver : Value) : Act Value := do
  let browser ← state id
  let name ← shown browser.name
  let present ←
    match browser.name, driver with
    | .text "Edge", _ => pure true
    | .text "Chrome", driver | .text "Firefox", driver =>
      match FileName.ofValue? driver with
      | some file => leadsSomewhere file.text
      | none => pure false
    | _, _ => pure false
  if present then
    log .debug ("使用 " ++ name ++ " 浏览器")
    request .driver name [.text (name ++ ":" ++ (← shown driver))] []
    match (← get).surroundings.web.startError with
    | some cause => throw (.raised .runtime cause)
    | none => do
      modify id fun browser => { browser with running := some [] }
      return .none
  else throw (.raised .badValue ("不支持的浏览器名称或无效的驱动路径: " ++ name))

/-- Opens a page, for the first of which the browser is started. -/
def openPage (id : Nat) (url name : Value) : Act Value := do
  let name := if name.truthy then name else url
  let first := (← state id).pages.isEmpty
  if first then
    let _ ← launch id (.path (← state id).driver)
    demand .browser "get" [url] []
  match name.unhashable? with
  | some found => throw (.unhashable found)
  | none => do
    modify id fun browser => { browser with pages := Value.insertEntry name url browser.pages }
    tip ((if first then "打开浏览器并访问 " else "新增标签页 ") ++ (← shown url))

/-- Asks a started browser to end; it still counts as started. -/
def quit (id : Nat) : Act Value := do
  (← state id).needStarted "quit"
  demand .browser "quit" [] []
  return .none

/-- A hint to open a page first. -/
def reminder (id : Nat) : Act Value := do
  if (← state id).running.isSome then return .none else tip "请先打开一个页面 !"

/-! ## Elements -/

/-- Lets the browser with a number, which is somewhere in its page, do something there. -/
def roam {α : Type} (id : Nat) (inside : List Nat) (act : Frame → Frame.Roaming α) : Act α := do
  let page := (← get).surroundings.web.page
  let (outcome, inside) ← (fun w =>
    match (act page).perform inside w with
    | (outcome, inside, w) => (.ok (outcome, inside), w) :
      Act (Except Failure α × List Nat))
  modify id fun browser => { browser with running := some inside }
  Act.ofExcept outcome

/-- Looks for an element from the frame that the browser is in. -/
def seek (way s : Value) (page : Frame) : Frame.Roaming Bool := do
  Frame.search page way s (← Frame.current page)

/-- Clicks an element of the frame that the browser is in. -/
def clickElement (way s : Value) (page : Frame) : Frame.Roaming Unit := do
  match (← Frame.current page).element? way s with
  | none => throw (.raised .runtime "no such element")
  | some element => do
    ActOn.ofAct (request .element "click" [element.1, element.2.1] [])
    match element.2.2 with
    | some cause => throw (.raised .runtime cause)
    | none => return ()

/-- Looks for an element and clicks it; `named` is how hints about a failed click name it. -/
def findAndClick (id : Nat) (way s : Value) (named : String) : Act Value := do
  let browser ← state id
  match browser.running with
  | none => throw (.noAttribute "NoneType" "find_elements")
  | some inside => do
    if ← roam id inside (seek way s) then
      let inside := ((← state id).running).getD []
      match ← attempt (roam id inside (clickElement way s)) with
      | .ok _ => tip ("点击成功: " ++ (← shown s))
      | .error e =>
        tip (named ++ " 定位并点击元素: " ++ e.message)
    else tip ("无法通过 " ++ (← shown s) ++ " 找到元素")

/-- Clicks the link with the text. -/
def clickByText (id : Nat) (s : Value) : Act Value := do
  let page ← (← state id).pageName
  let shown ← shown s
  log .debug (page ++ " 查找并点击显示文本为 '" ++ shown ++ "' 的元素")
  findAndClick id (.text "link text") s ("无法通过文本 '" ++ shown ++ "'")

/-- Clicks the element that is found in the given way. -/
def clickByAny (id : Nat) (way s : Value) : Act Value := do
  let page ← (← state id).pageName
  let shownWay ← shown way
  let shown ← shown s
  log .debug (page ++ " 使用依据 " ++ shownWay ++ " 查找并点击元素 " ++ shown)
  findAndClick id way s ("无法通过 '" ++ shown ++ "'")

/-! ## Pointer and keys -/

/-- The height of what stands above a page. -/
def barHeight : Value := .int 50

/-- A step of a gesture. -/
def gesture (verb : String) (args : List Value) : Act Unit :=
  demand .gesture verb args []

/-- Moves to a place, clicks, and moves back. -/
def click (id : Nat) (x y : Value) : Act Value := do
  let y ← Act.ofExcept (y.subtract barHeight)
  let browser ← state id
  browser.needGestures
  gesture "move_by_offset" [x, y]
  gesture "click" []
  gesture "perform" []
  let back := [← Act.ofExcept x.negate, ← Act.ofExcept y.negate]
  gesture "move_by_offset" back
  gesture "perform" []
  tip ((← browser.pageName) ++ " 点击位置 " ++ (← shown x) ++ ", " ++ (← shown y))

/-- Moves from one place to another with the button held, and back. -/
def swipe (id : Nat) (x1 y1 x2 y2 time : Value) : Act Value := do
  let y1 ← Act.ofExcept (y1.subtract barHeight)
  let y2 ← Act.ofExcept (y2.subtract barHeight)
  let browser ← state id
  browser.needGestures
  gesture "move_by_offset" [x1, y1]
  gesture "click_and_hold" []
  let way := [← Act.ofExcept (x2.subtract x1), ← Act.ofExcept (y2.subtract y1)]
  gesture "move_by_offset" way
  gesture "release" []
  gesture "perform" []
  let back := [← Act.ofExcept x2.negate, ← Act.ofExcept y2.negate]
  gesture "move_by_offset" back
  gesture "perform" []
  tip ((← browser.pageName) ++ " 滑动 " ++ (← shown x1) ++ ", " ++ (← shown y1) ++
    " => " ++ (← shown x2) ++ ", " ++ (← shown y2) ++ " 耗时 " ++ (← shown time))

/-- Types one text. -/
def enterOne (browser : Browser) (s : Value) : Act Unit := do
  log .debug ((← browser.pageName) ++ " 输入文本 " ++ (← shown s))
  browser.needGestures
  gesture "send_keys" [s]
  gesture "perform" []

/-- Types a text, or each text of a list. -/
def enterText (id : Nat) (s : Value) : Act Value := do
  let browser ← state id
  let texts :=
    match s with
    | .text _ => [s]
    | .list texts => texts
    | _ => []
  texts.forM (enterOne browser)
  tip ((← browser.pageName) ++ " 输入文本 " ++ (← shown s))

/-- Runs a script in the page and hands out its answer. -/
def runScript (id : Nat) (script : Value) : Act Value := do
  let browser ← state id
  let page ← browser.pageName
  log .debug (page ++ " 执行命令")
  browser.needStarted "execute_script"
  demand .browser "execute_script" [script] []
  let scripts := (← get).surroundings.web.scripts
  let outcome :=
    match script with
    | .text s => (scripts.lookup s).getD .none
    | _ => .none
  return .tuple [← tip (page ++ " 执行命令"), outcome]

/-! ## Pictures -/

/-- Takes a picture of the page. Only a picture that is saved is handed out. -/
def screenshot (id : Nat) (wanted : Value) : Act Value := do
  let browser ← state id
  let target ← pictureTarget (← shown browser.name) wanted
  let web := (← get).surroundings.web
  let screen :=
    if browser.running.isSome then web.screen.elim (.error (.raised .runtime web.screenError)) .ok
    else .error (.noAttribute "NoneType" "get_screenshot_as_png")
  takePicture id screen target ("对 " ++ web.title ++ " 的截图并保存到了 ") (return .none)
    fun e => do
      let message := "无法截图，请检查设备状态。错误信息: " ++ e.message
      log .warning message
      tip message

/-! ## Operations -/

def launchDocumentation : String :=
  "根据浏览器名称初始化浏览器实例。\n\n        Args:\n            driver_path: 浏览器驱动的路径。\n\n" ++
  "        Returns:\n            初始化的 WebDriver 实例。\n\n        Raises:\n" ++
  "            ValueError: 如果浏览器名称不支持或驱动路径无效。\n        "

/-- The operations of a browser. -/
def operations (id : Nat) : List (String × Member) :=
  let op := deviceOperation sort
  let whole := fun (name : String) => Parameter.required name (some "int")
  let text := fun (name : String) => Parameter.required name (some "str")
  let driver := Parameter.required "driver_path" (some "Path")
  [op "__init__" [text "name", driver] none fun _ => return .none,
    op "_init_browser" [driver] (some launchDocumentation) fun
      | [driver] => launch id driver
      | _ => return .none,
    op "_init_test" [] none fun _ => reminder id,
    op "open_url" [text "url", .optional "name" (some "str") .none] none fun
      | [url, name] => openPage id url name
      | _ => return .none,
    op "close_url" [text "name"] none fun _ => return .none,
    op "clickByText" [text "text"] (some "通过显示文本点击元素") fun
      | [text] => clickByText id text
      | _ => return .none,
    op "clickByAny" [text "by", text "any"] (some "通过任意条件点击元素") fun
      | [way, text] => clickByAny id way text
      | _ => return .none,
    op "click" [whole "x", whole "y"] (some "在指定坐标点击") fun
      | [x, y] => click id x y
      | _ => return .none,
    op "swipe"
      [whole "x1", whole "y1", whole "x2", whole "y2", .required "time" (some "float")]
      (some "模拟滑动") fun
      | [x1, y1, x2, y2, time] => swipe id x1 y1 x2 y2 time
      | _ => return .none,
    op "textInput" [.required "text" (some "Union")]
      (some "输入文本，支持中文及其他字符") fun
      | [text] => enterText id text
      | _ => return .none,
    op "shell" [text "js"] (some "执行 JS 脚本") fun
      | [script] => runScript id script
      | _ => return .none,
    op "get_screenshot" [] none fun _ => lastShot id,
    op "screenshot" [.optional "filePath" (some "Path") .none] (some "保存屏幕截图") fun
      | [wanted] => screenshot id wanted
      | _ => return .none,
    op "start_browser" [] (some "启动浏览器") fun _ =>
      throw (.missingArguments (sort ++ "._init_browser") false ["driver_path"]),
    op "kill_browser" [] (some "关闭浏览器") fun _ => quit id]

/-- The browser with a part replaced by a script. -/
def withPart? (name : String) (v : Value) (browser : Browser) : Option Browser :=
  match name, v with
  | "name", v => some { browser with name := v }
  | "page", v => some { browser with page := some v }
  | "driver_path", .path driver => some { browser with driver }
  | "pages", .dict pages => some { browser with pages }
  | _, _ => none

/-- What a script reads from a browser under the name. -/
def member? (id : Nat) (name : String) : Act (Option Member) := do
  let browser ← state id
  match (operations id).lookup name with
  | some found => return some found
  | none =>
    match name with
    | "name" => return some (.value browser.name)
    | "driver_path" => return some (.value (.path browser.driver))
    | "pages" => return some (.value (.dict browser.pages))
    | "page" => return browser.page.map .value
    | "screenshot_file" => return some (.value (.bytes browser.shot))
    | "browser" =>
      return some (.value (if browser.running.isSome then .object "Browser" else .none))
    | "actions" =>
      return if browser.running.isSome then some (.value (.object "ActionChains")) else none
    | _ => return none

end Browser

end DeviceScript
