import DeviceScript.Terminal.View

/-!
# Questions to the user

A question is a screen with a field for a text and two buttons. Scripts wait for the answer
while the desk with their requests is served.
-/

namespace DeviceScript.Terminal

def fieldName : String := "input"

def typeText (id : Nat) (s : String) : Showing Unit :=
  changeWidget id fieldName (Widget.withEntered s)

/-- What a question is closed with when a button is pressed: the text in the field, or nothing
if the button does not confirm it. -/
def answerOf (id : Nat) (button : String) : Showing Value := do
  if button = "confirm" then return .text (← query id fieldName).entered else return .none

def pressButton (id : Nat) (button : String) : Showing Value := do
  match (← screenAt id).page with
  | .dialog .. => do
    let answer ← answerOf id button
    dismiss id answer
    return answer
  | page => throw (.noAttribute page.kind.label "on_button_pressed")

/-- What the user does next; a user who does nothing more cancels. -/
def nextAnswer : Showing Answer :=
  modifyGet fun scene =>
    match scene.answers with
    | [] => (⟨"cancel", ""⟩, scene)
    | answer :: answers => (answer, { scene with answers })

def showQuestion (request : InputRequest) : Showing Value := do
  let id ← push (.dialog request.description request.prompt)
  let answer ← nextAnswer
  typeText id answer.text
  pressButton id answer.button

def serveAll : List InputRequest → Showing Unit
  | [] => return ()
  | request :: requests => do
    let v ← showQuestion request
    modify fun scene => { scene with desk := scene.desk.answer request v }
    serveAll requests

def serveDesk : Showing Unit := do serveAll (← get).desk.waiting

/-- How long a script sleeps before it looks at the desk again, in seconds. -/
def pause : Value := .int 1

/-- Waits for the answer to a request, looking at the desk at most the given number of times. -/
def awaitAnswer (request : InputRequest) : Nat → Showing Unit
  | 0 => return ()
  | rounds + 1 => do
    if (← get).desk.waits request then do
      ActOn.ofAct (Act.rest pause)
      serveDesk
      serveDesk
      awaitAnswer request rounds

/-- How often the desk is looked at: the first round serves all requests. -/
def awaitRounds : Nat := 2

def askUser (description prompt : Value) : Showing Value := do
  let request : InputRequest := ⟨description, prompt⟩
  modify fun scene => { scene with desk := scene.desk.enter request }
  awaitAnswer request awaitRounds
  let (answer, desk) := (← get).desk.take request
  modify fun scene => { scene with desk }
  return answer.getD (.bool true)

end DeviceScript.Terminal
