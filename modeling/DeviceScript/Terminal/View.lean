import DeviceScript.Terminal.Layout

/-!
# What scripts have written

The output of scripts is shown on a screen of its own, which follows it while it is open. It has
a view in colours and a plain one that can be copied.
-/

namespace DeviceScript.Terminal

def showMessage (id : Nat) (message : Value) : Showing Unit := do
  match (← screenAt id).page with
  | .output title _ simple ofScripts => do
    setPage id (.output title message simple ofScripts)
    changeWidget id codeName (Widget.withChildren [outputView message simple])
  | _ => return ()

def toggleView (id : Nat) : Showing Unit := do
  match (← screenAt id).page with
  | .output title message wasSimple ofScripts => do
    let simple := !wasSimple
    setPage id (.output title message simple ofScripts)
    let _ ← query id codeName
    ask (.widget "ScrollableContainer") "set_class" [.bool simple, .text "simple-view"] []
    changeWidget id codeName fun widget =>
      let shown := widget.withChildren [outputView message simple]
      if simple then shown.withTitles (.text "") (.text "")
      else shown.withTitles title (.text copyHint)
  | _ => return ()

/-- Closes a screen. Whoever has opened a screen with output is told first. -/
def dismiss (id : Nat) (result : Value) : Showing Unit := do
  let page := (← screenAt id).page
  match page with
  | .output _ _ _ true => modify fun scene => { scene with view := none }
  | .output _ _ _ false => modify fun scene => { scene with closed := scene.closed + 1 }
  | _ => pure ()
  ask (.widget page.kind.label) "dismiss" [result] []

/-- Adds to what scripts have written. The screen that shows it follows. -/
def write (s : String) : Showing Unit := do
  modify fun scene => { scene with written := scene.written ++ s }
  let scene ← get
  match scene.view with
  | some id => showMessage id (.text scene.written)
  | none => return ()

/-- Adds a value to what scripts have written, which must be a text. -/
def writeValue : Value → Showing Unit
  | .text s => write s
  | v => throw (.concatenation "str" v.typeName)

def openView : Showing Unit := do
  let scene ← get
  modify fun scene => { scene with view := some scene.screens.size }
  let _ ← push (.output (.text "日志") (.text scene.written) false true)

def clearWritten : Showing Unit := do
  tell "日志清空 !" []
  modify fun scene => { scene with written := "" }

end DeviceScript.Terminal
