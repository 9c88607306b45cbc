import DeviceScript.Terminal.Kind
import DeviceScript.Value.Basic

/-!
# Keys and styles

Every screen has keys of its own and a style sheet. A key is described by its name, the action
that it starts and a label, and some keys by further properties.
-/

namespace DeviceScript.Terminal

inductive Key where
  | plain (parts : List String)
  /-- Key, action and label with further properties. -/
  | full (parts : List String) (properties : List (String × Value))

namespace Style

def hinted (key action label hint : String) (further : List (String × Value) := []) : Key :=
  .full [key, action, label] (("tooltip", .text hint) :: further)

/-- The lines of a rule, with its declarations and the rules inside it. -/
def rule (selector : String) (lines : List String) : List String :=
  (selector ++ " \x7b") :: lines.map ("    " ++ ·) ++ ["\x7d"]

/-- A sheet of rules that stand apart from each other. -/
def sheet (rules : List (List String)) : String :=
  "\n" ++ "\n".intercalate (rules.map fun lines => .join (lines.map ("    " ++ · ++ "\n"))) ++
    "    "

def programSheet : String :=
  sheet [[".column \x7b          ", "    align: center top;",
    "    &>*\x7b max-width: 100; \x7d        ", "\x7d", "Screen .-maximized \x7b",
    "    margin: 1 2;        ", "    max-width: 100%;",
    "    &.column \x7b margin: 1 2; padding: 1 2; \x7d", "    &.column > * \x7b        ",
    "        max-width: 100%;           ", "    \x7d        ", "\x7d"]]

def maximizeKey (further : List (String × Value) := []) : Key :=
  hinted "ctrl+a" "app.maximize" "组件最大化" "组件全屏（如果页面支持）" further

def programKeys : List Key :=
  [hinted "h" "app.switch_mode('home')" "主页" "回到主页",
    hinted "d" "app.switch_mode('devices')" "设备管理" "选择 && 管理设备",
    hinted "l" "app.switch_mode('log')" "日志" "日志页面",
    hinted "r" "app.switch_mode('run')" "运行脚本" "运行脚本", maximizeKey,
    hinted "ctrl+q" "quit" "Quit" "退出程序" [("show", .bool false), ("priority", .bool true)],
    .full ["ctrl+c", "help_quit"] [("show", .bool false), ("system", .bool true)]]

def homeSheet : String :=
  sheet [rule "HomeScreen" ("" :: rule "Content" (
    ["align-horizontal: center;", "& > * \x7b", "    max-width: 100;", "\x7d      ",
      "margin: 0 1;          ", "overflow-y: auto;", "height: 1fr;", "scrollbar-gutter: stable;"] ++
    rule "MarkdownFence" ["height: auto;", "max-height: initial;"] ++
    rule "Collapsible" ["padding-right: 0;               ",
      "&.-collapsed \x7b padding-bottom: 1; \x7d"] ++
    rule "Markdown" ["margin-right: 1;", "padding-right: 1;", "background: transparent;"]))]

/-- The rule for the text on a screen of its own. -/
def codeRule : List String :=
  rule "#code" (["border: heavy $accent;", "margin: 2 4;", "scrollbar-gutter: stable;"] ++
    rule "Static" ["width: auto;"])

def outputSheet : String :=
  sheet [rule "LogScreen" (codeRule ++ rule "#code.simple-view"
    ["border: none;  /* 移除边框 */", "margin: 0 0;   /* 减小边距 */"])]

def outputKeys : List Key :=
  [.plain ["escape", "dismiss", "关闭窗口"], .plain ["s", "toggle_view", "切换复制模式"]]

def dialogSheet : String :=
  sheet [rule "InputModal" ["align: center middle;"],
    rule "InputModal > Grid" ["grid-size: 2;", "grid-gutter: 1;", "width: 60;", "height: 16;",
      "border: thick $accent;", "background: $surface;"],
    rule "InputModal > Grid > Markdown" ["width: 1fr;", "column-span: 2;",
      "background: transparent;"],
    rule "InputModal > Grid > Input" ["column-span: 2;"],
    rule "InputModal > Grid > Button" ["width: 100%;"]]

/-- The rule for a screen as a whole. -/
def screenRule (screen : String) : List String :=
  rule screen ["width: 100%;", "height: 1fr;", "overflow-y: auto;"]

def listSheet (screen : String) : String :=
  sheet [screenRule screen, rule (screen ++ " > #file-list") ["overflow-x: auto;"],
    rule ".file-btn" ["background: #4CAF50;", "margin: 1;        /* 移除默认外边距 */", "width: 100%;"],
    rule ".file-btn:hover" ["background: #45a049;"], rule ".file-btn:focus" ["color: white;"], []]

def scriptsSheet : String := listSheet "RunScreen"

def scriptsKeys : List Key :=
  [hinted "c" "show_log" "显示日志" "显示运行时通过 print 打印的日志",
    hinted "r" "get_script_list" "刷新" "重新获取脚本列表",
    hinted "l" "clear_log" "清空日志" "清空日志",
    hinted "s" "stop_tasks" "停止所有脚本" "停止所有脚本"]

def journalKeys : List Key :=
  [hinted "c" "clear_log" "清空日志" "清空日志", maximizeKey [("show", .bool false)]]

def devicesSheet : String := listSheet "DevicesScreen"

def devicesKeys : List Key := [hinted "r" "get_script_list" "刷新" "刷新设备列表"]

def codeSheet : String := sheet [rule "CodeScreen" codeRule]

def codeKeys : List Key := [.plain ["escape", "dismiss", "Dismiss code"]]

def plainSheet : String := sheet [screenRule "PageScreen"]

def plainKeys : List Key := [hinted "c" "show_code" "展示范例代码" "展示一个 lua 的语法范例"]

end Style

inductive Property where
  | value (v : Value)
  | keys (keys : List Key)
  /-- Names of modes with the screens that they show. -/
  | modes (modes : List (String × Kind))

def Kind.properties : Kind → List (String × Property)
  | .program =>
    [("BINDINGS", .keys Style.programKeys), ("CSS", .value (.text Style.programSheet)),
      ("MODES", .modes [("home", .home), ("devices", .devices), ("run", .scripts),
        ("log", .journal)]),
      ("DEFAULT_MODE", .value (.text "home")), ("title", .value (.text "脚本执行器")),
      ("ENABLE_COMMAND_PALETTE", .value (.bool false)), ("exit_flag", .value (.int 0))]
  | .home => [("DEFAULT_CSS", .value (.text Style.homeSheet))]
  | .plain =>
    [("BINDINGS", .keys Style.plainKeys), ("DEFAULT_CSS", .value (.text Style.plainSheet))]
  | .journal => [("BINDINGS", .keys Style.journalKeys)]
  | .code => [("BINDINGS", .keys Style.codeKeys), ("DEFAULT_CSS", .value (.text Style.codeSheet))]
  | .output =>
    [("BINDINGS", .keys Style.outputKeys), ("DEFAULT_CSS", .value (.text Style.outputSheet))]
  | .dialog => [("DEFAULT_CSS", .value (.text Style.dialogSheet))]
  | .scripts =>
    [("BINDINGS", .keys Style.scriptsKeys), ("DEFAULT_CSS", .value (.text Style.scriptsSheet))]
  | .devices =>
    [("BINDINGS", .keys Style.devicesKeys), ("DEFAULT_CSS", .value (.text Style.devicesSheet))]

end DeviceScript.Terminal
