import DeviceScript.Value.Compare

/-!
# Settings

The settings that the program knows by name, and the further entries that a settings file may
hold.
-/

namespace DeviceScript

structure Settings where
  logLevel : String
  stopKey : String
  startKey : String
  mapping : List (Value × Value)
  saveScreenshot : Bool
  scriptFolders : List Value
  webDrivers : List (Value × Value)
  extra : List (Value × Value)
  deriving Inhabited

namespace Settings

def initial : Settings where
  logLevel := "DEBUG"
  stopKey := "F9"
  startKey := "F10"
  mapping := []
  saveScreenshot := false
  scriptFolders := []
  webDrivers :=
    [(.text "msedgedriver", .text ""), (.text "chromedriver", .text ""),
      (.text "geckodriver", .text "")]
  extra := []

def known : List String :=
  ["log_level", "stop_key", "start_key", "mapping", "save_screenshot", "scripts_path",
    "web_drivers", "extra"]

/-- Sets one entry by its name. A name that is not known goes to the further entries; the
further entries themselves are only ever gathered. -/
def set (settings : Settings) (name : String) (v : Value) : Settings :=
  match name, v with
  | "log_level", .text level => { settings with logLevel := level }
  | "stop_key", .text key => { settings with stopKey := key }
  | "start_key", .text key => { settings with startKey := key }
  | "mapping", .dict entries => { settings with mapping := entries }
  | "save_screenshot", .bool save => { settings with saveScreenshot := save }
  | "scripts_path", .list folders => { settings with scriptFolders := folders }
  | "web_drivers", .dict entries => { settings with webDrivers := entries }
  | name, v =>
    if known.contains name then settings
    else { settings with extra := Value.insertEntry (.text name) v settings.extra }

def ofEntries (entries : List (String × Value)) : Settings :=
  entries.foldl (fun settings e => settings.set e.1 e.2) initial

/-- The entries that a settings file gets: everything under a known name. -/
def declared (settings : Settings) : List (Value × Value) :=
  [(.text "log_level", .text settings.logLevel),
    (.text "stop_key", .text settings.stopKey),
    (.text "start_key", .text settings.startKey),
    (.text "mapping", .dict settings.mapping),
    (.text "save_screenshot", .bool settings.saveScreenshot),
    (.text "scripts_path", .list settings.scriptFolders),
    (.text "web_drivers", .dict settings.webDrivers)]

def entries (settings : Settings) : List (Value × Value) :=
  settings.declared ++ [(.text "extra", .dict settings.extra)]

end Settings

end DeviceScript
